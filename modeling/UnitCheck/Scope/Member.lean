import UnitCheck.Numeral.Integer
import UnitCheck.Options.Basic
import UnitCheck.Type.Basic

/-!
# Member paths

A member path leads from a type through the fields of nested structs. Each
segment names a field or gives its place; on the way the path looks through
qualifiers and through one pointer.
-/

namespace UnitCheck

/-- Why a segment of a member path leads nowhere. -/
inductive FieldErrorReason where
  /-- There is no struct to look into. -/
  | notStruct
  /-- The struct has no field of that name. -/
  | missing
  /-- The struct has no field at that place. -/
  | indexOutOfRange
  /-- A `mut` struct is only reached through a pointer. -/
  | needsPointer
deriving Repr, DecidableEq, Inhabited

/-- A segment that leads nowhere and the type it was applied to. -/
structure FieldError where
  reason : FieldErrorReason
  segment : String
  type : Ty
deriving Inhabited

/-- The wording of each cause. -/
def FieldError.message (error : FieldError) : String :=
  match error.reason with
  | .missing => error.type.render ++ " has no field " ++ error.segment
  | .indexOutOfRange => error.type.render ++ " has no field at index " ++ error.segment
  | .needsPointer =>
    "field " ++ error.segment ++ " of " ++ error.type.render ++ " needs a ptr[" ++
      error.type.unwrap.render ++ "] to be reached"
  | .notStruct =>
    error.type.render ++ " is not a struct, cannot access field " ++ error.segment

/-- One hop of a member path: the struct looked into and the field chosen there. -/
structure MemberStep where
  structName : String
  structId : TypeId
  index : Nat
  field : String
  /-- Whether the hop looked through a pointer or a `mut`. -/
  deref : Bool
deriving Repr, DecidableEq, Inhabited

namespace Member

/-- The struct a segment looks into, its name and identity, and whether the hop
looks through a pointer or a `mut`. -/
def structOf (mode : DerefMode) (type : Ty) (segment : String) :
    Except FieldError (String × TypeId × Bool) :=
  let base := match type with
    | .const inner => inner
    | other => other
  match base with
  | .mutable inner =>
    if inner.struct?.isSome && mode = .pointerOnly then .error ⟨.needsPointer, segment, type⟩
    else match inner.pointeeStruct?, inner.struct? with
      | some (name, id), _ => .ok (name, id, true)
      | none, some (name, id) => .ok (name, id, true)
      | none, none => .error ⟨.notStruct, segment, type⟩
  | base =>
    match base.pointeeStruct?, base.struct? with
    | some (name, id), _ => .ok (name, id, true)
    | none, some (name, id) => .ok (name, id, false)
    | none, none => .error ⟨.notStruct, segment, type⟩

/-- The place of the field that a segment chooses: the field of that name, or else
the field at the place that the segment spells. -/
def fieldIndex (body : StructBody) (segment : String) : Except FieldErrorReason Nat :=
  match body.indexOf? segment with
  | some index => .ok index
  | none =>
    match Numeral.machineInteger? segment with
    | none => .error .missing
    | some place =>
      if place < 0 || (body.fields.length : Int) ≤ place then .error .indexOutOfRange
      else .ok place.toNat

/-- One hop: the step taken and the type of the field it leads to. -/
def hop (definitions : Definitions) (mode : DerefMode) (type : Ty) (segment : String) :
    Except FieldError (MemberStep × Ty) :=
  match structOf mode type segment with
  | .error error => .error error
  | .ok (name, id, deref) =>
    let body := definitions.struct id
    match fieldIndex body segment with
    | .error reason => .error ⟨reason, segment, .struct name id⟩
    | .ok index =>
      match body.fields[index]? with
      | some field => .ok (⟨name, id, index, field.name, deref⟩, field.type)
      | none => .error ⟨.indexOutOfRange, segment, .struct name id⟩

/-- Walks a path from a type. The steps are those taken before the first segment
that leads nowhere, or all of them. -/
def walk (definitions : Definitions) (mode : DerefMode) (type : Ty) :
    (path : List String) -> Except FieldError Ty × List MemberStep
  | [] => (.ok type, [])
  | segment :: rest =>
    match hop definitions mode type segment with
    | .error error => (.error error, [])
    | .ok (step, next) =>
      let (outcome, steps) := walk definitions mode next rest
      (outcome, step :: steps)

end Member
end UnitCheck
