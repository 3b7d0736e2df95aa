import Mathlib.Tactic.SplitIfs
import UnitCheck.Typing.Expr

/-!
# Types that mention visible declarations only

A type mentions structs and enumerations by the identity of their declarations. Taking
types apart and putting them together mentions nothing new, so a walk that starts from
types within a set of declarations stays within it, as long as the fields of these
structs do.
-/

namespace UnitCheck

namespace Ty

mutual

/-- The structs and enumerations that the type mentions are visible. -/
def Within (visible : TypeId -> Prop) : Ty -> Prop
  | .prim _ | .opaquePointer => True
  | .pointer inner | .array inner | .fixedArray inner _ | .const inner | .mutable inner =>
    Within visible inner
  | .struct _ id | .enum _ id => visible id
  | .function params result _ _ => AllWithin visible params ∧ Within visible result

/-- `Within` for several types. -/
def AllWithin (visible : TypeId -> Prop) : List Ty -> Prop
  | [] => True
  | type :: rest => Within visible type ∧ AllWithin visible rest

end

attribute [simp] Within

variable {visible wider : TypeId -> Prop}

@[simp] theorem allWithin_iff {types : List Ty} :
    AllWithin visible types ↔ ∀ type ∈ types, type.Within visible := by
  induction types with
  | nil => simp [AllWithin]
  | cons type rest inductionHypothesis => simp [AllWithin, inductionHypothesis]

mutual

/-- What is within a set of declarations is within a larger one. -/
theorem within_mono (more : ∀ id, visible id → wider id) :
    (type : Ty) -> type.Within visible -> type.Within wider
  | .prim _, _ | .opaquePointer, _ => trivial
  | .pointer inner, within | .array inner, within | .fixedArray inner _, within
  | .const inner, within | .mutable inner, within => within_mono more inner within
  | .struct _ _, within | .enum _ _, within => more _ within
  | .function params result _ _, within =>
    ⟨allWithin_mono more params within.1, within_mono more result within.2⟩

theorem allWithin_mono (more : ∀ id, visible id → wider id) :
    (types : List Ty) -> AllWithin visible types -> AllWithin wider types
  | [], _ => trivial
  | type :: rest, within => ⟨within_mono more type within.1, allWithin_mono more rest within.2⟩

end

theorem Within.unwrap {type : Ty} (within : type.Within visible) :
    type.unwrap.Within visible := by
  fun_induction Ty.unwrap type with
  | case1 inner inductionHypothesis => exact inductionHypothesis within
  | case2 inner inductionHypothesis => exact inductionHypothesis within
  | case3 type _ _ => exact within

/-- What a type is below its qualifiers is within with the type. -/
theorem Within.of_unwrap_eq {type below : Ty} (within : type.Within visible)
    (same : type.unwrap = below) : below.Within visible :=
  same ▸ within.unwrap

theorem Within.wider? {left right type : Ty} (leftWithin : left.Within visible)
    (rightWithin : right.Within visible) (found : left.wider? right = some type) :
    type.Within visible := by
  unfold Ty.wider? at found
  split_ifs at found
  · cases found
    exact rightWithin
  · cases found
    exact leftWithin
  · cases found
    exact leftWithin.unwrap
  · cases found
    exact rightWithin.unwrap
  · cases found
    exact leftWithin.unwrap

theorem Within.toSigned {type : Ty} (within : type.Within visible) :
    type.toSigned.Within visible := by
  unfold Ty.toSigned
  split
  · split
    · trivial
    · exact within
  · exact within

theorem Within.struct? {type : Ty} {name : String} {id : TypeId} (within : type.Within visible)
    (found : type.struct? = some (name, id)) : visible id := by
  unfold Ty.struct? at found
  split at found
  · rename_i isStruct
    cases found
    exact within.of_unwrap_eq isStruct
  · cases found

theorem Within.pointeeStruct? {type : Ty} {name : String} {id : TypeId}
    (within : type.Within visible) (found : type.pointeeStruct? = some (name, id)) :
    visible id := by
  unfold Ty.pointeeStruct? at found
  split at found
  · rename_i element isPointer
    have pointer := within.of_unwrap_eq isPointer
    exact (show element.Within visible from pointer).struct? found
  · cases found

end Ty

/-- The types known of a symbol mention visible declarations only. -/
structure SymbolType.Within (visible : TypeId -> Prop) (known : SymbolType) : Prop where
  type : ∀ type ∈ known.type, type.Within visible
  params : ∀ param ∈ known.params, param.Within visible

/-- The fields of a struct mention visible declarations only. -/
def StructBody.Within (visible : TypeId -> Prop) (body : StructBody) : Prop :=
  ∀ field ∈ body.fields, field.type.Within visible

/-- An enumeration is stored as a type that mentions visible declarations only. -/
def EnumBody.Within (visible : TypeId -> Prop) (body : EnumBody) : Prop :=
  body.base.Within visible

/-! ### Member paths -/

namespace Member

variable {visible : TypeId -> Prop} {mode : DerefMode}

theorem visible_of_structOf {type : Ty} {segment name : String} {id : TypeId} {deref : Bool}
    (within : type.Within visible) (found : structOf mode type segment = .ok (name, id, deref)) :
    visible id := by
  have chosen {base : Ty} (baseWithin : base.Within visible)
      (isStruct : base.pointeeStruct? = some (name, id) ∨ base.struct? = some (name, id)) :
      visible id :=
    isStruct.elim baseWithin.pointeeStruct? baseWithin.struct?
  unfold structOf at found
  split at found
  all_goals
    simp only at found
    repeat' split at found
  all_goals first
    | cases found; exact chosen within (.inl ‹_›)
    | cases found; exact chosen within (.inr ‹_›)
    | cases found

/-- Where two sets of definitions agree about what is visible, and what is visible leads
to nothing else, paths lead to the same types. -/
theorem walk_congr (mode : DerefMode) {one other : Definitions}
    (same : ∀ id, visible id → one.struct id = other.struct id)
    (within : ∀ id, visible id → (one.struct id).Within visible) (path : List String) {type : Ty}
    (typeWithin : type.Within visible) :
    walk one mode type path = walk other mode type path ∧
      ∀ found ∈ (walk one mode type path).1.toOption, found.Within visible := by
  induction path generalizing type with
  | nil =>
    refine ⟨rfl, ?_⟩
    rintro found ⟨⟩
    exact typeWithin
  | cons segment rest inductionHypothesis =>
    have hops : hop one mode type segment = hop other mode type segment ∧
        ∀ step next, hop one mode type segment = .ok (step, next) → next.Within visible := by
      unfold hop
      cases found : structOf mode type segment with
      | error error => exact ⟨rfl, fun _ _ impossible => by cases impossible⟩
      | ok target =>
        obtain ⟨name, id, deref⟩ := target
        have isVisible := visible_of_structOf typeWithin found
        simp only [same id isVisible, true_and]
        intro step next hopped
        split at hopped
        · cases hopped
        · split at hopped
          · rename_i field isField
            cases hopped
            rw [← same id isVisible] at isField
            exact within id isVisible field (List.mem_of_getElem? isField)
          · cases hopped
    unfold walk
    rw [← hops.1]
    cases hopped : hop one mode type segment with
    | error error => exact ⟨rfl, fun _ impossible => by cases impossible⟩
    | ok target =>
      obtain ⟨step, next⟩ := target
      obtain ⟨sameRest, restWithin⟩ := inductionHypothesis (hops.2 step next hopped)
      simp only [← sameRest, true_and]
      exact restWithin

end Member

/-! ### Operations -/

namespace Typing

variable {visible : TypeId -> Prop}

theorem within_literalHint {type : Ty} (within : type.Within visible) :
    ∀ hint ∈ literalHint type, hint.Within visible := by
  intro hint isHint
  unfold literalHint at isHint
  split at isHint
  · cases isHint
  · cases isHint
    exact within.unwrap

theorem within_settleSign {value : Int} {target : Ty} (within : target.Within visible) :
    (settleSign value target).Within visible := by
  unfold settleSign
  split
  · exact within.toSigned
  · exact within

theorem within_literalType (options : Options) (literal : Literal) {expected : Option Ty}
    (wanted : ∀ hint ∈ expected, hint.Within visible) (negated : Bool) :
    (literalType options.integerType literal expected negated).1.Within visible := by
  have unwrapped (choose : Ty -> Bool) (other : Ty) (otherWithin : other.Within visible) :
      (expected.elim other fun type => if choose type then type.unwrap else other).Within
        visible := by
    cases expected with
    | none => exact otherWithin
    | some type =>
      simp only [Option.elim_some]
      split
      · exact (wanted _ rfl).unwrap
      · exact otherWithin
  have target : (integerTarget options.integerType expected).Within visible := by
    have found := unwrapped (fun type => type.isInteger || type.isFloat) options.integerType trivial
    cases expected with
    | none => exact found
    | some type => exact found
  unfold literalType
  cases literal.kind with
  | integer =>
    simp only [integerType]
    split
    · exact target
    · split
      · trivial
      · exact within_settleSign target
  | float =>
    have found := unwrapped (·.isFloat) (.prim .f64) trivial
    cases expected with
    | none => exact found
    | some type => exact found
  | null =>
    have found := unwrapped (·.isPointerLike) .opaquePointer trivial
    cases expected with
    | none => exact found
    | some type => exact found
  | boolean | char | string => trivial

theorem within_widened {op : BinaryOp} {span : Span} {left right : Ty}
    (leftWithin : left.Within visible) (rightWithin : right.Within visible) :
    (widened op span left right).1.Within visible := by
  unfold widened
  split
  · rename_i found
    exact leftWithin.wider? rightWithin found
  · trivial

theorem within_binaryType {op : BinaryOp} {span : Span} {left right : Ty}
    (leftWithin : left.Within visible) (rightWithin : right.Within visible) :
    (binaryType op span left right).1.Within visible := by
  unfold binaryType
  split_ifs
  all_goals first
    | trivial
    | exact leftWithin.unwrap
    | exact within_widened leftWithin rightWithin

theorem within_negateType {span operandSpan : Span} {type : Ty} (within : type.Within visible) :
    (negateType span operandSpan type).1.Within visible := by
  unfold negateType
  split_ifs <;> first | trivial | exact within.unwrap

theorem within_complementType {operandSpan : Span} {type : Ty} (within : type.Within visible) :
    (complementType operandSpan type).1.Within visible := by
  unfold complementType
  split_ifs <;> first | trivial | exact within.unwrap

theorem within_elementType {base : Ty} {span : Span} {constant : Option (Literal × Int)}
    (within : base.Within visible) : (elementType base span constant).1.Within visible := by
  unfold elementType
  split
  · trivial
  · split
    · rename_i isArray
      have element := within.of_unwrap_eq isArray
      split
      · split <;> exact element
      · exact element
    · rename_i isArray
      have element := within.of_unwrap_eq isArray
      exact element
    · rename_i isPointer
      have element := within.of_unwrap_eq isPointer
      exact element
    · trivial

theorem within_expectedElement? {expected : Option Ty}
    (wanted : ∀ hint ∈ expected, hint.Within visible) :
    ∀ element ∈ expectedElement? expected, element.Within visible := by
  intro element isElement
  unfold expectedElement? at isElement
  cases expected with
  | none => cases isElement
  | some type =>
    have within := wanted type rfl
    simp only [Option.map_some] at isElement
    split at isElement
    · rename_i isArray
      cases isElement
      have found := within.of_unwrap_eq (Option.some.inj isArray)
      exact found
    · rename_i isArray
      cases isElement
      have found := within.of_unwrap_eq (Option.some.inj isArray)
      exact found
    · cases isElement

theorem within_better {best : Option Ty} {type : Ty}
    (bestWithin : ∀ current ∈ best, current.Within visible) (within : type.Within visible) :
    ∀ found ∈ better best type, found.Within visible := by
  intro found isFound
  unfold better at isFound
  split at isFound
  · exact bestWithin found isFound
  · split at isFound
    · cases isFound
      exact within.unwrap
    · split at isFound
      · cases isFound
        exact within.unwrap
      · exact bestWithin found isFound

end Typing
end UnitCheck
