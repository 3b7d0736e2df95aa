import UnitCheck.Session.Basic

/-!
# What written types stand for

A written type is turned into a type by looking its names up, and the result is
recorded for it and for every written type inside it. Names without a meaning
give the unknown type and are handed back, so that the caller decides whether
to report them.
-/

namespace UnitCheck.Check

/-- What a name stands for as a type, and whether it has no meaning. A name whose
symbol has no type yet is unknown but not without a meaning. -/
def namedType (name : String) (span : Span) : Check (Ty × List Ident) := do
  match Prim.ofName? name with
  | some builtin => return (.prim builtin, [])
  | none =>
    let session <- get
    match session.table.resolveType? name with
    | none => return (.unknown, [⟨name, span⟩])
    | some symbol =>
      recordRef span.node symbol
      return ((session.knownOf symbol.id).type.getD .unknown, [])

mutual

/-- The type that a written type stands for, and the names in it without a meaning. -/
def resolveForm : TypeForm -> Check (Ty × List Ident)
  | .named name span => do
    let (type, missing) <- namedType name span
    recordForm span.node type
    return (type, missing)
  | .opaquePointer span => do
    recordForm span.node .opaquePointer
    return (.opaquePointer, [])
  | .pointer element span => do
    let (element, missing) <- resolveForm element
    recordForm span.node (.pointer element)
    return (.pointer element, missing)
  | .address span => do
    recordForm span.node (.prim .addr)
    return (.prim .addr, [])
  | .array element span => do
    let (element, missing) <- resolveForm element
    recordForm span.node (.array element)
    return (.array element, missing)
  | .fixedArray element length span => do
    let (element, missing) <- resolveForm element
    recordForm span.node (.fixedArray element length)
    return (.fixedArray element length, missing)
  | .const inner span => do
    let (inner, missing) <- resolveForm inner
    recordForm span.node (.const inner)
    return (.const inner, missing)
  | .mutable inner span => do
    let (inner, missing) <- resolveForm inner
    recordForm span.node (.mutable inner)
    return (.mutable inner, missing)
  | .function params result variadic span => do
    let (params, missing) <- resolveForms params
    let (result, others) <- resolveForm result
    let type := Ty.function params result "" variadic
    recordForm span.node type
    return (type, missing ++ others)

/-- `resolveForm` on several written types in turn. -/
def resolveForms : List TypeForm -> Check (List Ty × List Ident)
  | [] => return ([], [])
  | form :: rest => do
    let (type, missing) <- resolveForm form
    let (types, others) <- resolveForms rest
    return (type :: types, missing ++ others)

end

/-- The type that a written type stands for; names without a meaning are reported. -/
def typeOf (form : TypeForm) : Check Ty := do
  let (type, missing) <- resolveForm form
  missing.forM fun name => report (.unknownType name)
  return type

/-- `typeOf` for a written type that may be missing. -/
def typeOf? : Option TypeForm -> Check (Option Ty)
  | none => return none
  | some form => do return some (<- typeOf form)

/-- The type recorded for a written type, or what it stands for now. -/
def recordedType (form : TypeForm) : Check Ty := do
  match (<- get).facts.forms.find? form.node with
  | some type => return type
  | none => return (<- resolveForm form).1

end UnitCheck.Check
