import UnitCheck.Tree.Item

/-!
# The parts of a unit

The expressions inside an expression, the statements inside a statement, and what
each of them holds by itself: its operands, the written types and the names in
it, and the node it declares. Statements about all of a unit range over these
lists.
-/

namespace UnitCheck
namespace Expr

mutual

/-- The expression and all expressions inside it. -/
def parts : Expr -> List Expr
  | .literal value => [.literal value]
  | .name ident => [.name ident]
  | .binary op left right span => .binary op left right span :: (parts left ++ parts right)
  | .unary op operand span => .unary op operand span :: parts operand
  | .call callee args span => .call callee args span :: partsAll args
  | .callValue function args span =>
    .callValue function args span :: (parts function ++ partsAll args)
  | .field base path span => .field base path span :: parts base
  | .index base position span => .index base position span :: (parts base ++ parts position)
  | .cast type operand span => .cast type operand span :: parts operand
  | .array element items span => .array element items span :: partsAll items
  | .addressOf operand span => .addressOf operand span :: parts operand
  | .load type operand span => .load type operand span :: parts operand
  | .alloc type span => [.alloc type span]
  | .bad span => [.bad span]

/-- All expressions inside several. -/
def partsAll : List Expr -> List Expr
  | [] => []
  | expr :: rest => parts expr ++ partsAll rest

end

/-- The nodes that get a type together with the expression itself. -/
def ownNodes : Expr -> List NodeId
  | .call callee _ span => [callee.span.node, span.node]
  | other => [other.node]

/-- The written types that the expression holds by itself. -/
def ownForms : Expr -> List TypeForm
  | .cast type _ _ => [type]
  | .array element _ _ => element.toList
  | .load type _ _ => [type]
  | .alloc type _ => [type]
  | _ => []

/-- The name that the expression looks up by itself. -/
def ownNames : Expr -> List Ident
  | .name ident => [ident]
  | .call callee _ _ => [callee]
  | _ => []

/-- The nodes that get a type in an expression. -/
def nodes (expr : Expr) : List NodeId := expr.parts.flatMap ownNodes

/-- The nodes that get a type in several expressions. -/
def nodesAll (exprs : List Expr) : List NodeId := (partsAll exprs).flatMap ownNodes

/-- The written types in an expression. -/
def forms (expr : Expr) : List TypeForm := expr.parts.flatMap ownForms

/-- The names looked up in an expression. -/
def names (expr : Expr) : List Ident := expr.parts.flatMap ownNames

/-- An expression is a part of itself. -/
theorem self_mem_parts (expr : Expr) : expr ∈ expr.parts := by
  cases expr <;> simp [parts]

section Nodes

attribute [local simp] parts partsAll ownNodes node Expr.span nodes nodesAll

variable (left right : Expr) (args : List Expr) (span : Span)

@[simp] theorem nodes_literal (value : Literal) :
    (literal value).nodes = [value.span.node] := rfl

@[simp] theorem nodes_name (ident : Ident) : (name ident).nodes = [ident.span.node] := rfl

@[simp] theorem nodes_binary (op : BinaryOp) :
    (binary op left right span).nodes = span.node :: (left.nodes ++ right.nodes) := by
  simp

@[simp] theorem nodes_unary (op : UnaryOp) :
    (unary op left span).nodes = span.node :: left.nodes := by
  simp

@[simp] theorem nodes_call (callee : Ident) :
    (call callee args span).nodes = callee.span.node :: span.node :: nodesAll args := by
  simp

@[simp] theorem nodes_callValue :
    (callValue left args span).nodes = span.node :: (left.nodes ++ nodesAll args) := by
  simp

@[simp] theorem nodes_field (path : List String) :
    (field left path span).nodes = span.node :: left.nodes := by
  simp

@[simp] theorem nodes_index :
    (index left right span).nodes = span.node :: (left.nodes ++ right.nodes) := by
  simp

@[simp] theorem nodes_cast (type : TypeForm) :
    (cast type left span).nodes = span.node :: left.nodes := by
  simp

@[simp] theorem nodes_array (element : Option TypeForm) :
    (array element args span).nodes = span.node :: nodesAll args := by
  simp

@[simp] theorem nodes_addressOf : (addressOf left span).nodes = span.node :: left.nodes := by
  simp

@[simp] theorem nodes_load (type : TypeForm) :
    (load type left span).nodes = span.node :: left.nodes := by
  simp

@[simp] theorem nodes_alloc (type : TypeForm) : (alloc type span).nodes = [span.node] := rfl

@[simp] theorem nodes_bad : (bad span).nodes = [span.node] := rfl

@[simp] theorem nodesAll_nil : nodesAll [] = [] := rfl

@[simp] theorem nodesAll_cons : nodesAll (left :: args) = left.nodes ++ nodesAll args := by
  simp

end Nodes

/-- The parts of several expressions are the parts of each. -/
theorem partsAll_eq (exprs : List Expr) : partsAll exprs = exprs.flatMap parts := by
  induction exprs with
  | nil => rfl
  | cons expr rest inductionHypothesis =>
    rw [partsAll, inductionHypothesis, List.flatMap_cons]

mutual

/-- What is inside a part is inside the whole. -/
theorem parts_subset_of_part : (expr : Expr) -> ∀ part ∈ expr.parts, part.parts ⊆ expr.parts
  | .literal _ | .name _ | .alloc _ _ | .bad _ => by
    simp [parts]
  | .binary op left right span | .index left right span => by
    simp only [parts, List.forall_mem_cons, List.forall_mem_append]
    exact ⟨List.Subset.refl _, fun part isPart => List.subset_cons_of_subset _
      (List.subset_append_of_subset_left _ (parts_subset_of_part left part isPart)),
      fun part isPart => List.subset_cons_of_subset _
        (List.subset_append_of_subset_right _ (parts_subset_of_part right part isPart))⟩
  | .unary _ operand _ | .field operand _ _ | .cast _ operand _ | .addressOf operand _
  | .load _ operand _ => by
    simp only [parts, List.forall_mem_cons]
    exact ⟨List.Subset.refl _, fun part isPart =>
      List.subset_cons_of_subset _ (parts_subset_of_part operand part isPart)⟩
  | .call _ args _ | .array _ args _ => by
    simp only [parts, List.forall_mem_cons]
    exact ⟨List.Subset.refl _, fun part isPart =>
      List.subset_cons_of_subset _ (partsAll_subset_of_part args part isPart)⟩
  | .callValue function args _ => by
    simp only [parts, List.forall_mem_cons, List.forall_mem_append]
    exact ⟨List.Subset.refl _, fun part isPart => List.subset_cons_of_subset _
      (List.subset_append_of_subset_left _ (parts_subset_of_part function part isPart)),
      fun part isPart => List.subset_cons_of_subset _
        (List.subset_append_of_subset_right _ (partsAll_subset_of_part args part isPart))⟩

theorem partsAll_subset_of_part : (exprs : List Expr) ->
    ∀ part ∈ partsAll exprs, part.parts ⊆ partsAll exprs
  | [] => by
    simp [partsAll]
  | expr :: rest => by
    simp only [partsAll, List.forall_mem_append]
    exact ⟨fun part isPart =>
      List.subset_append_of_subset_left _ (parts_subset_of_part expr part isPart),
      fun part isPart =>
        List.subset_append_of_subset_right _ (partsAll_subset_of_part rest part isPart)⟩

end

end Expr

namespace Stmt

mutual

/-- The statement and all statements inside it. -/
def parts : Stmt -> List Stmt
  | .block body span => .block body span :: partsAll body
  | .cond test body bodySpan otherwise span =>
    .cond test body bodySpan otherwise span :: (partsAll body ++ parts? otherwise)
  | .whileLoop test body bodySpan span => .whileLoop test body bodySpan span :: partsAll body
  | .loop body bodySpan span => .loop body bodySpan span :: partsAll body
  | .forLoop first test after body bodySpan span =>
    .forLoop first test after body bodySpan span ::
      (parts? first ++ parts? after ++ partsAll body)
  | other => [other]

/-- The statements inside a statement that may be missing. -/
def parts? : Option Stmt -> List Stmt
  | none => []
  | some stmt => parts stmt

/-- All statements inside several. -/
def partsAll : List Stmt -> List Stmt
  | [] => []
  | stmt :: rest => parts stmt ++ partsAll rest

end

/-- Whether no statement can stand inside the statement. -/
def isLeaf : Stmt -> Bool
  | .block _ _ | .cond _ _ _ _ _ | .whileLoop _ _ _ _ | .loop _ _ _ | .forLoop _ _ _ _ _ _ => false
  | _ => true

/-- Such a statement is its only part. -/
theorem parts_of_isLeaf {stmt : Stmt} (leaf : stmt.isLeaf = true) : stmt.parts = [stmt] := by
  cases stmt <;> first | rfl | cases leaf

/-- The expressions that the statement holds by itself. -/
def ownExprs : Stmt -> List Expr
  | .expr value => [value]
  | .letIn binding | .instr binding => binding.value.toList
  | .const decl => decl.value.toList
  | .assign target value _ | .write target value _ => [target, value]
  | .cond test _ _ _ _ => [test]
  | .whileLoop test _ _ _ => [test]
  | .forLoop _ test _ _ _ _ => test.toList
  | .ret value _ => value.toList
  | _ => []

/-- The written types of values that the statement declares. -/
def ownForms : Stmt -> List TypeForm
  | .letIn binding | .instr binding => binding.type.toList
  | .const decl => decl.type.toList
  | _ => []

/-- The node of the value that the statement declares. -/
def ownValues : Stmt -> List NodeId
  | .letIn binding | .instr binding => [binding.span.node]
  | .const decl => [decl.span.node]
  | _ => []

/-- The node that the statement declares. -/
def ownDecls : Stmt -> List NodeId
  | .struct decl => [decl.span.node]
  | other => other.ownValues

/-- The nodes that the statement by itself declares or gives a type. -/
def ownSlots (stmt : Stmt) : List NodeId :=
  stmt.ownDecls ++ stmt.ownExprs.flatMap Expr.nodes

/-- The nodes declared or typed in a statement. -/
def slots (stmt : Stmt) : List NodeId := stmt.parts.flatMap ownSlots

/-- The nodes declared or typed in several statements. -/
def slotsAll (body : List Stmt) : List NodeId := (partsAll body).flatMap ownSlots

/-- The nodes that statements declare. -/
def declared (body : List Stmt) : List NodeId := (partsAll body).flatMap ownDecls

/-- The expressions that statements hold, without the expressions inside these. -/
def exprs (body : List Stmt) : List Expr := (partsAll body).flatMap ownExprs

section Slots

attribute [local simp] parts parts? partsAll ownSlots ownDecls ownValues ownExprs slots slotsAll

variable (body : List Stmt) (test : Expr) (bodySpan span : Span)

@[simp] theorem slots_block : (block body span).slots = slotsAll body := by
  simp

@[simp] theorem slots_cond (otherwise : Option Stmt) :
    (cond test body bodySpan otherwise span).slots =
      test.nodes ++ slotsAll body ++ otherwise.toList.flatMap slots := by
  cases otherwise <;>
    simp

@[simp] theorem slots_whileLoop :
    (whileLoop test body bodySpan span).slots = test.nodes ++ slotsAll body := by
  simp

@[simp] theorem slots_loop : (loop body bodySpan span).slots = slotsAll body := by
  simp

@[simp] theorem slots_forLoop (first : Option Stmt) (test : Option Expr) (after : Option Stmt) :
    (forLoop first test after body bodySpan span).slots =
      test.toList.flatMap Expr.nodes ++ first.toList.flatMap slots ++
        after.toList.flatMap slots ++ slotsAll body := by
  cases first <;> cases after <;>
    simp

@[simp] theorem slotsAll_nil : slotsAll [] = [] := rfl

@[simp] theorem slotsAll_cons (stmt : Stmt) :
    slotsAll (stmt :: body) = stmt.slots ++ slotsAll body := by
  simp

end Slots

/-- The values that have been declared behind statements with these parts. -/
def behind (values : List NodeId) (parts : List Stmt) : List NodeId :=
  values ++ parts.flatMap ownValues

mutual

/-- Something holds of a statement and of all statements inside it, given the values that
have been declared in front of each. -/
def Along (own : List NodeId -> Stmt -> Prop) (values : List NodeId) : Stmt -> Prop
  | .block body span => own values (.block body span) ∧ AlongAll own values body
  | .cond test body bodySpan otherwise span =>
    own values (.cond test body bodySpan otherwise span) ∧ AlongAll own values body ∧
      Along? own (behind values (partsAll body)) otherwise
  | .whileLoop test body bodySpan span =>
    own values (.whileLoop test body bodySpan span) ∧ AlongAll own values body
  | .loop body bodySpan span => own values (.loop body bodySpan span) ∧ AlongAll own values body
  | .forLoop first test after body bodySpan span =>
    Along? own values first ∧
      own (behind values (parts? first)) (.forLoop first test after body bodySpan span) ∧
      Along? own (behind values (parts? first)) after ∧
      AlongAll own (behind (behind values (parts? first)) (parts? after)) body
  | other => own values other

/-- `Along` for a statement that may be missing. -/
def Along? (own : List NodeId -> Stmt -> Prop) (values : List NodeId) : Option Stmt -> Prop
  | none => True
  | some stmt => Along own values stmt

/-- `Along` for several statements in turn. -/
def AlongAll (own : List NodeId -> Stmt -> Prop) (values : List NodeId) : List Stmt -> Prop
  | [] => True
  | stmt :: rest => Along own values stmt ∧ AlongAll own (behind values stmt.parts) rest

end

mutual

/-- What holds of all parts, whatever has been declared, holds along the statement. -/
theorem along_of_parts {own : List NodeId -> Stmt -> Prop} :
    (stmt : Stmt) -> (∀ part ∈ stmt.parts, ∀ values, own values part) ->
    (values : List NodeId) -> Along own values stmt
  | .block body span, holds, values | .loop body bodySpan span, holds, values
  | .whileLoop test body bodySpan span, holds, values => by
    simp only [parts, List.forall_mem_cons] at holds
    unfold Along
    exact ⟨holds.1 values, alongAll_of_parts body holds.2 values⟩
  | .cond test body bodySpan otherwise span, holds, values => by
    simp only [parts, List.forall_mem_cons, List.forall_mem_append] at holds
    unfold Along
    exact ⟨holds.1 values, alongAll_of_parts body holds.2.1 values,
      along?_of_parts otherwise holds.2.2 _⟩
  | .forLoop first test after body bodySpan span, holds, values => by
    simp only [parts, List.forall_mem_cons, List.forall_mem_append] at holds
    unfold Along
    exact ⟨along?_of_parts first holds.2.1.1 values, holds.1 _, along?_of_parts after holds.2.1.2 _,
      alongAll_of_parts body holds.2.2 _⟩
  | .expr _, holds, values | .letIn _, holds, values | .instr _, holds, values
  | .const _, holds, values | .struct _, holds, values | .assign _ _ _, holds, values
  | .write _ _ _, holds, values | .ret _ _, holds, values | .brk _, holds, values
  | .cont _, holds, values | .bad _, holds, values => by
    simp only [parts, List.forall_mem_singleton] at holds
    simp only [Along]
    exact holds values

theorem along?_of_parts {own : List NodeId -> Stmt -> Prop} :
    (stmt : Option Stmt) -> (∀ part ∈ parts? stmt, ∀ values, own values part) ->
    (values : List NodeId) -> Along? own values stmt
  | none, _, _ => trivial
  | some stmt, holds, values => by
    simp only [parts?] at holds
    unfold Along?
    exact along_of_parts stmt holds values

theorem alongAll_of_parts {own : List NodeId -> Stmt -> Prop} :
    (body : List Stmt) -> (∀ part ∈ partsAll body, ∀ values, own values part) ->
    (values : List NodeId) -> AlongAll own values body
  | [], _, _ => trivial
  | stmt :: rest, holds, values => by
    simp only [partsAll, List.forall_mem_append] at holds
    unfold AlongAll
    exact ⟨along_of_parts stmt holds.1 values, alongAll_of_parts rest holds.2 _⟩

end

/-- The parts of several statements are the parts of each. -/
theorem partsAll_eq (body : List Stmt) : partsAll body = body.flatMap parts := by
  induction body with
  | nil => rfl
  | cons stmt rest inductionHypothesis =>
    rw [partsAll, inductionHypothesis, List.flatMap_cons]

end Stmt

namespace Item

/-- The statements of the body of a function or an entrypoint. -/
def body : Item -> List Stmt
  | .function decl =>
    match decl.body with
    | some body => body.stmts
    | none => []
  | .entry decl => decl.body.stmts
  | _ => []

/-- The parameters of a function. -/
def params : Item -> List Param
  | .function decl => decl.params
  | .asm decl => decl.params
  | _ => []

/-- The statements of an item, in a body or astray. -/
def stmts : Item -> List Stmt
  | .stray stmt => [stmt]
  | other => other.body

/-- The nodes that are declared inside an item. -/
def locals (item : Item) : List NodeId :=
  item.params.map (·.span.node) ++ Stmt.declared item.stmts

/-- The initializers and the values of variants that an item holds. -/
def values : Item -> List Expr
  | .const decl => decl.value.toList
  | .static decl => decl.value.toList
  | .enum decl => decl.variants.filterMap (·.value)
  | _ => []

/-- The node of a declaration; a stray statement is none. -/
def ownNode : Item -> List NodeId
  | .stray _ => []
  | other => [other.span.node]

/-- The nodes that an item declares or gives a type. -/
def slots (item : Item) : List NodeId :=
  item.ownNode ++ item.params.map (·.span.node) ++ Stmt.slotsAll item.stmts ++
    item.values.flatMap Expr.nodes

/-- The expressions of an item that get types: those of its body and its values, with
all expressions inside these. -/
def exprs (item : Item) : List Expr :=
  (Stmt.exprs item.body ++ item.values).flatMap Expr.parts

end Item
end UnitCheck
