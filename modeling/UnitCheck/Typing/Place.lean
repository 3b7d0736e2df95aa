import UnitCheck.Session.Basic
import UnitCheck.Tree.Expr

/-!
# Places

A place is an expression that denotes a memory location. Whether a place may be
assigned depends on its type and on the binding that the path to it starts from;
a path through a pointer only needs the place itself to be writable.
-/

namespace UnitCheck.Typing

/-- Kinds of symbols that denote memory. -/
def isMemoryKind : SymbolKind -> Bool
  | .localVar | .parameter | .static | .lowLevel | .constant => true
  | _ => false

/-- Whether an expression denotes a memory location. What failed to resolve counts as
one, so that nothing more is said about it. -/
def isAddressable (facts : Facts) : Expr -> Bool
  | .name name =>
    match facts.refs.find? name.span.node with
    | none => true
    | some symbol => isMemoryKind symbol.kind
  | .field _ _ span =>
    (facts.members.find? span.node).isSome ||
      ((facts.exprs.find? span.node).map (·.isUnknown)).getD true
  | .index _ _ _ => true
  | .bad _ => true
  | _ => false

/-- The binding that the path to a place starts from, and whether the path goes
through a pointer. -/
def assignRoot (facts : Facts) : Expr -> Option Symbol × Bool
  | .name name => (facts.refs.find? name.span.node, false)
  | .field base _ span =>
    let (root, through) := assignRoot facts base
    let steps := (facts.members.find? span.node).getD []
    (root, through || steps.any (·.deref))
  | .index base _ _ =>
    let (root, through) := assignRoot facts base
    let pointed := ((facts.exprs.find? base.node).map (·.isPointer)).getD false
    (root, through || pointed)
  | _ => (none, false)

/-- Whether an assignment to a place is allowed, and what stands in the way. -/
inductive Mutability where
  | allowed
  | notPlace
  | constType
  | constant (symbol : Symbol)
  | immutable (symbol : Symbol)
deriving Repr, DecidableEq

/-- Kinds of bindings that only a `mut` makes assignable. -/
def needsMut : SymbolKind -> Bool
  | .localVar | .parameter | .static | .lowLevel => true
  | _ => false

/-- Whether the binding that a path starts from permits the assignment. -/
def rootMutability (root : Option Symbol) (throughPointer : Bool) : Mutability :=
  match root with
  | none => .allowed
  | some symbol =>
    if symbol.kind = .constant then .constant symbol
    else if throughPointer then .allowed
    else if needsMut symbol.kind && !symbol.isMutable then .immutable symbol
    else .allowed

/-- Whether a target of some type may be assigned. -/
def mutability (facts : Facts) (target : Expr) (type : Ty) : Mutability :=
  if !isAddressable facts target then .notPlace
  else match type with
    | .const _ => .constType
    | _ =>
      let (root, throughPointer) := assignRoot facts target
      rootMutability root throughPointer

end UnitCheck.Typing
