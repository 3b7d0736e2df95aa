import Mathlib.Data.List.Nodup
import UnitCheck.Proofs.Tree.Sites
import UnitCheck.Proofs.Typing.Expressions

/-!
# The literals of a unit

Typing goes through an expression part by part, except that a number right behind a minus is
typed together with the minus. So each literal is typed in one place, by itself or negated.
-/

namespace UnitCheck

/-- The number that an operation on one operand is typed together with. -/
def Typing.joined? : UnaryOp -> Expr -> Option Literal
  | .negate, operand => negatedLiteral? operand
  | _, _ => none

theorem Typing.eq_of_joined {op : UnaryOp} {operand : Expr} {literal : Literal}
    (isJoined : joined? op operand = some literal) :
    op = .negate ∧ operand = .literal literal := by
  cases op with
  | negate => exact ⟨rfl, Stage.eq_of_negatedLiteral isJoined⟩
  | _ => cases isJoined

namespace Expr

mutual

/-- The expressions that are typed one after the other when an expression is. -/
def visits : Expr -> List Expr
  | .literal value => [.literal value]
  | .name ident => [.name ident]
  | .binary op left right span => .binary op left right span :: (visits left ++ visits right)
  | .unary op operand span =>
    .unary op operand span ::
      (if (Typing.joined? op operand).isSome then [] else visits operand)
  | .call callee args span => .call callee args span :: visitsAll args
  | .callValue function args span =>
    .callValue function args span :: (visits function ++ visitsAll args)
  | .field base path span => .field base path span :: visits base
  | .index base position span => .index base position span :: (visits base ++ visits position)
  | .cast type operand span => .cast type operand span :: visits operand
  | .array element items span => .array element items span :: visitsAll items
  | .addressOf operand span => .addressOf operand span :: visits operand
  | .load type operand span => .load type operand span :: visits operand
  | .alloc type span => [.alloc type span]
  | .bad span => [.bad span]

/-- The expressions that are typed when several are. -/
def visitsAll : List Expr -> List Expr
  | [] => []
  | expr :: rest => visits expr ++ visitsAll rest

end

/-- The literal that is typed when the expression by itself is, and whether it is negated. -/
def ownLiterals : Expr -> List (Literal × Bool)
  | .literal value => [(value, false)]
  | .unary op operand _ => (Typing.joined? op operand).toList.map (·, true)
  | _ => []

/-- The literals in an expression, each with whether it is the operand of a minus. -/
def literals (expr : Expr) : List (Literal × Bool) := expr.visits.flatMap ownLiterals

/-- The nodes that get a type when the expression by itself is typed. -/
def ownVisited : Expr -> List NodeId
  | .unary op operand span =>
    span.node :: (Typing.joined? op operand).toList.map (·.span.node)
  | other => other.ownNodes

/-- Whether the expression is a literal. -/
def isLiteral : Expr -> Bool
  | .literal _ => true
  | _ => false

mutual

/-- What is typed are parts. -/
theorem visits_sublist_parts : (expr : Expr) -> List.Sublist expr.visits expr.parts
  | .literal _ | .name _ | .alloc _ _ | .bad _ => List.Sublist.refl _
  | .binary _ left right _ | .index left right _ =>
    .cons_cons _ ((visits_sublist_parts left).append (visits_sublist_parts right))
  | .unary op operand _ => by
    unfold visits parts
    refine .cons_cons _ ?_
    split
    · exact List.nil_sublist _
    · exact visits_sublist_parts operand
  | .field operand _ _ | .cast _ operand _ | .addressOf operand _ | .load _ operand _ =>
    .cons_cons _ (visits_sublist_parts operand)
  | .call _ args _ | .array _ args _ => .cons_cons _ (visitsAll_sublist_partsAll args)
  | .callValue function args _ =>
    .cons_cons _ ((visits_sublist_parts function).append (visitsAll_sublist_partsAll args))

theorem visitsAll_sublist_partsAll : (exprs : List Expr) ->
    List.Sublist (visitsAll exprs) (partsAll exprs)
  | [] => List.nil_sublist _
  | expr :: rest => (visits_sublist_parts expr).append (visitsAll_sublist_partsAll rest)

end

mutual

/-- Going through what is typed meets each node of the expression once. -/
theorem flatMap_visits : (expr : Expr) -> expr.visits.flatMap ownVisited = expr.nodes
  | .literal _ | .name _ | .alloc _ _ | .bad _ => rfl
  | .binary _ left right _ => by
    simp [visits, ownVisited, ownNodes, node, span, flatMap_visits left, flatMap_visits right]
  | .index left right _ => by
    simp [visits, ownVisited, ownNodes, node, span, flatMap_visits left, flatMap_visits right]
  | .unary op operand _ => by
    rw [visits, nodes_unary, List.flatMap_cons, ownVisited]
    cases isJoined : Typing.joined? op operand with
    | some literal =>
      obtain ⟨-, rfl⟩ := Typing.eq_of_joined isJoined
      rfl
    | none => simp [flatMap_visits operand]
  | .field operand _ _ | .cast _ operand _ | .addressOf operand _ | .load _ operand _ => by
    simp [visits, ownVisited, ownNodes, node, span, flatMap_visits operand]
  | .call _ args _ | .array _ args _ => by
    simp [visits, ownVisited, ownNodes, node, span, flatMap_visitsAll args]
  | .callValue function args _ => by
    simp [visits, ownVisited, ownNodes, node, span, flatMap_visits function,
      flatMap_visitsAll args]

theorem flatMap_visitsAll : (exprs : List Expr) ->
    (visitsAll exprs).flatMap ownVisited = nodesAll exprs
  | [] => rfl
  | expr :: rest => by
    rw [visitsAll, List.flatMap_append, flatMap_visits expr, flatMap_visitsAll rest,
      nodesAll_cons]

end

section Own

variable {expr : Expr}

/-- The node of a literal that is typed with the expression. -/
theorem node_mem_ownVisited {entry : Literal × Bool} (isOwn : entry ∈ expr.ownLiterals) :
    entry.1.span.node ∈ expr.ownVisited := by
  cases expr with
  | literal value =>
    obtain rfl := List.mem_singleton.mp isOwn
    exact List.mem_cons_self
  | unary op operand span =>
    obtain ⟨literal, isJoined, rfl⟩ := List.mem_map.mp isOwn
    exact List.mem_cons_of_mem _ (List.mem_map_of_mem isJoined)
  | _ => cases isOwn

/-- At most one literal is typed with the expression. -/
theorem ownLiterals_unique {one other : Literal × Bool} (isOne : one ∈ expr.ownLiterals)
    (isOther : other ∈ expr.ownLiterals) : one = other := by
  cases expr with
  | literal value => exact (List.mem_singleton.mp isOne).trans (List.mem_singleton.mp isOther).symm
  | unary op operand span =>
    obtain ⟨literal, isJoined, rfl⟩ := List.mem_map.mp isOne
    obtain ⟨same, isSame, rfl⟩ := List.mem_map.mp isOther
    rw [Option.mem_toList] at isJoined isSame
    rw [Option.some.inj (isJoined.symm.trans isSame)]
  | _ => cases isOne

theorem name_mem_ownVisited {name : Ident} (isName : name ∈ expr.ownNames) :
    name.span.node ∈ expr.ownVisited := by
  cases expr with
  | name ident | call ident args span =>
    obtain rfl := List.mem_singleton.mp isName
    exact List.mem_cons_self
  | _ => cases isName

/-- A literal that is typed with the expression is a part of it. -/
theorem literal_mem_parts {entry : Literal × Bool} (isOwn : entry ∈ expr.ownLiterals) :
    .literal entry.1 ∈ expr.parts := by
  cases expr with
  | literal value =>
    obtain rfl := List.mem_singleton.mp isOwn
    exact self_mem_parts _
  | unary op operand span =>
    obtain ⟨literal, isJoined, rfl⟩ := List.mem_map.mp isOwn
    obtain ⟨-, rfl⟩ := Typing.eq_of_joined (Option.mem_toList.mp isJoined)
    exact List.mem_cons_of_mem _ (self_mem_parts _)
  | _ => cases isOwn

end Own
end Expr

namespace Item

/-- The expressions of an item that are typed one after the other. -/
def visits (item : Item) : List Expr := item.tops.flatMap Expr.visits

/-- The literals in an item, each with whether it is the operand of a minus. -/
def literals (item : Item) : List (Literal × Bool) := item.visits.flatMap Expr.ownLiterals

variable {items : List Item} {item : Item}

/-- A literal of an item is one of its expressions. -/
theorem literal_mem_exprs {entry : Literal × Bool} (isLiteral : entry ∈ item.literals) :
    .literal entry.1 ∈ item.exprs := by
  obtain ⟨visited, isVisited, isOwn⟩ := List.mem_flatMap.mp isLiteral
  obtain ⟨top, isTop, isVisited⟩ := List.mem_flatMap.mp isVisited
  refine List.mem_flatMap.mpr ⟨top, isTop, ?_⟩
  exact Expr.parts_subset_of_part top visited ((Expr.visits_sublist_parts top).subset isVisited)
    (Expr.literal_mem_parts isOwn)

/-- Where no two nodes of a unit coincide, no two nodes of what is typed do. -/
theorem nodup_visits (distinct : (items.flatMap sites).Nodup) :
    ((items.flatMap visits).flatMap Expr.ownVisited).Nodup := by
  have kinds := nodup_kinds distinct
  rw [← List.append_assoc] at kinds
  refine (List.Perm.nodup_iff ?_).mpr kinds.of_append_left
  have flat {α : Type} {within : Expr -> List α} :
      items.flatMap (fun item => item.tops.flatMap within) =
        (items.flatMap tops).flatMap within := List.flatMap_assoc.symm
  have own (part : Expr) :
      part.ownNodes.Perm (part.ownNames.map (·.span.node) ++ part.ownPlain) := by
    cases part <;> rfl
  have named (expr : Expr) : expr.nodes.Perm (expr.nameNodes ++ expr.plainNodes) :=
    (List.Perm.flatMap_left expr.parts fun part _ => own part).trans
      (List.flatMap_append_perm _ _ _).symm
  have visited : (items.flatMap visits).flatMap Expr.ownVisited =
      (items.flatMap tops).flatMap Expr.nodes := by
    unfold visits
    rw [flat, List.flatMap_assoc]
    exact List.flatMap_congr fun expr _ => expr.flatMap_visits
  rw [visited]
  unfold nameNodes plainNodes
  rw [flat, flat]
  exact (List.Perm.flatMap_left _ fun expr _ => named expr).trans
    (List.flatMap_append_perm _ _ _).symm

end Item

/-! ### What is not said about literals -/

/-- The finding is about the value of an integer literal. -/
def Finding.isOverflow : Finding -> Bool
  | .literalOverflow _ _ _ | .notNumber _ _ => true
  | _ => false

namespace Typing

/-- Nothing is said about the value of a literal. -/
def Spared (said : Option Finding) : Prop := ∀ finding ∈ said, finding.isOverflow = false

@[simp] theorem spared_none : Spared none := by
  simp [Spared]

@[simp] theorem spared_some {finding : Finding} :
    Spared (some finding) ↔ finding.isOverflow = false := by
  simp [Spared]

section
variable {op : BinaryOp} {span : Span} {left right type : Ty}

theorem spared_logicalOperand {text : String} : Spared (logicalOperand? text span type) := by
  unfold logicalOperand?
  split <;> simp [Finding.isOverflow]

theorem spared_mismatch : Spared (mismatch? span left right) := by
  unfold mismatch?
  split <;> simp [Finding.isOverflow]

theorem spared_comparison : Spared (comparison? op span left right) := by
  unfold comparison?
  split_ifs <;> simp [Finding.isOverflow]

theorem spared_widened : Spared (widened op span left right).2 := by
  unfold widened
  split <;> simp [Finding.isOverflow]

theorem spared_binaryType : Spared (binaryType op span left right).2 := by
  unfold binaryType
  split_ifs <;> simp [Finding.isOverflow, spared_comparison, spared_widened]

theorem spared_negateType {operandSpan : Span} : Spared (negateType span operandSpan type).2 := by
  unfold negateType
  split_ifs <;> simp [Finding.isOverflow]

theorem spared_complementType : Spared (complementType span type).2 := by
  unfold complementType
  split_ifs <;> simp [Finding.isOverflow]

theorem spared_elementType {constant : Option (Literal × Int)} :
    Spared (elementType type span constant).2 := by
  unfold elementType
  split
  · exact spared_none
  · split
    · split
      · split <;> simp [Finding.isOverflow]
      · exact spared_none
    · exact spared_none
    · exact spared_none
    · simp [Finding.isOverflow]

theorem spared_assignProblem {mutability : Mutability} :
    Spared (assignProblem? span mutability) := by
  cases mutability <;> simp [assignProblem?, Finding.isOverflow]

end
end Typing
end UnitCheck
