import UnitCheck.Proofs.Session.Passes
import UnitCheck.Proofs.Tree.Distinct

/-!
# Lexical scoping

`Scope` is what is visible at a place of a unit: its globals and, for every block
around the place, the locals declared in front of it. `unitUses` goes through the
bodies handing scopes on and lists the names in them, each with the scope it stands
in, and `Use.meaning` says what a name means there. No two names stand at one node.
-/

namespace UnitCheck.Lexical

/-! ### Scopes -/

/-- What is visible at a place. -/
structure Scope where
  globals : List Symbol
  /-- The locals of each block around the place, the innermost block first. -/
  frames : List (List Symbol)

namespace Scope

/-- The scope inside a block. -/
def enter (scope : Scope) : Scope := { scope with frames := [] :: scope.frames }

/-- The scope around the innermost block. -/
def leave (scope : Scope) : Scope := { scope with frames := scope.frames.tail }

/-- The scope behind a declaration. Outside of blocks there are no locals, and a name
that the block has declared already keeps its meaning. -/
def declare (scope : Scope) (symbol : Symbol) : Scope :=
  match scope.frames with
  | [] => scope
  | frame :: outer =>
    if frame.any (·.name = symbol.name) then scope
    else { scope with frames := (symbol :: frame) :: outer }

/-- The global called `name` in one namespace. -/
def global? (scope : Scope) (space : Namespace) (name : String) : Option Symbol :=
  scope.globals.find? fun symbol => symbol.kind.space = space && symbol.name = name

/-- What a name means as a value: the local of the innermost block that declares it, or
else a global value, function or type. -/
def value? (scope : Scope) (name : String) : Option Symbol :=
  scope.frames.findSome? (·.find? (·.name = name)) <|> scope.global? .value name <|>
    scope.global? .function name <|> scope.global? .type name

/-- What a name means as a type: the type of the innermost block that declares it as one,
or else a global type. -/
def type? (scope : Scope) (name : String) : Option Symbol :=
  scope.frames.findSome? (·.find? fun symbol => symbol.name = name && symbol.isType) <|>
    scope.global? .type name

/-- What a name means in front of arguments: a global function, whatever is called so
inside, or else a type, or else a value. -/
def callee? (scope : Scope) (name : String) : Option Symbol :=
  scope.global? .function name <|> scope.type? name <|> scope.value? name

end Scope

/-! ### Uses of names -/

/-- How a name is used. -/
inductive Role where
  | value | callee | type
deriving DecidableEq

/-- A name in the scope it stands in. -/
structure Use where
  scope : Scope
  role : Role
  name : Ident

namespace Use

/-- The node of the name. -/
def node (use : Use) : NodeId := use.name.span.node

/-- The symbol that the name means. -/
def meaning (use : Use) : Option Symbol :=
  match use.role with
  | .value => use.scope.value? use.name.name
  | .callee => use.scope.callee? use.name.name
  | .type => use.scope.type? use.name.name

/-- What is said about a value or callee that means nothing. -/
def complaint (use : Use) : Option Finding :=
  if use.role ≠ .type ∧ use.meaning = none then some (.undeclared use.name) else none

/-- What is recorded about a name that means something. -/
def reference (use : Use) : Option (NodeId × Symbol) := use.meaning.map (use.node, ·)

end Use

/-- The names in a written type that are not built in. -/
def formUses (scope : Scope) (form : TypeForm) : List Use :=
  (form.mentions.filter fun name => (Prim.ofName? name.name).isNone).map (⟨scope, .type, ·⟩)

/-- `formUses` for several written types. -/
def formsUses (scope : Scope) (forms : List TypeForm) : List Use :=
  forms.flatMap (formUses scope)

mutual

/-- The names used in an expression. -/
def exprUses (scope : Scope) : Expr -> List Use
  | .literal _ | .bad _ => []
  | .name name => [⟨scope, .value, name⟩]
  | .binary _ left right _ => exprUses scope left ++ exprUses scope right
  | .unary _ operand _ => exprUses scope operand
  | .call callee args _ => ⟨scope, .callee, callee⟩ :: exprsUses scope args
  | .callValue function args _ => exprUses scope function ++ exprsUses scope args
  | .field base _ _ => exprUses scope base
  | .index base position _ => exprUses scope base ++ exprUses scope position
  | .cast type operand _ => exprUses scope operand ++ formUses scope type
  | .array element items _ => formsUses scope element.toList ++ exprsUses scope items
  | .addressOf operand _ => exprUses scope operand
  | .load type operand _ => formUses scope type ++ exprUses scope operand
  | .alloc type _ => formUses scope type

/-- The names used in several expressions. -/
def exprsUses (scope : Scope) : List Expr -> List Use
  | [] => []
  | expr :: rest => exprUses scope expr ++ exprsUses scope rest

end

/-- The symbol of a binding inside a body. -/
def bindingSymbol (kind : SymbolKind) (binding : BindingDecl) : Symbol :=
  { Symbol.plain (.node binding.span.node) binding.name.name kind (some binding.name.span) with
    isMutable := binding.isMutable }

/-- The symbol of a parameter. -/
def paramSymbol (param : Param) : Symbol :=
  { Symbol.plain (.node param.span.node) param.name.name .parameter (some param.name.span) with
    isMutable := param.isMutable }

/-- The symbol of a constant or a struct inside a body. -/
def namedSymbol (kind : SymbolKind) (span : Span) (attributes : List Attribute) (name : Ident) :
    Symbol :=
  { Symbol.plain (.node span.node) name.name kind (some name.span) with attributes := attributes }

mutual

/-- The local that a statement declares in the block it stands in. -/
def declaredBy : Stmt -> Option Symbol
  | .letIn binding => some (bindingSymbol .localVar binding)
  | .instr binding => some (bindingSymbol .lowLevel binding)
  | .const decl => decl.name.map (namedSymbol .constant decl.span decl.attributes)
  | .struct decl => decl.name.map (namedSymbol .struct decl.span decl.attributes)
  -- units have a block or another condition there, and these declare nothing outside
  | .cond _ _ _ otherwise _ => declaredBy? otherwise
  | _ => none

/-- `declaredBy` for a statement that may be missing. -/
def declaredBy? : Option Stmt -> Option Symbol
  | none => none
  | some stmt => declaredBy stmt

end

/-- The scope behind declarations. -/
def Scope.declareAll (scope : Scope) (symbols : List Symbol) : Scope :=
  symbols.foldl declare scope

/-- The scope behind a statement. -/
def Scope.behind (scope : Scope) (stmt : Stmt) : Scope :=
  scope.declareAll (declaredBy stmt).toList

/-- The scope behind a statement that may be missing. -/
def Scope.behind? (scope : Scope) (stmt : Option Stmt) : Scope :=
  scope.declareAll (declaredBy? stmt).toList

mutual

/-- The names used in a statement. A value or a written type does not see what its own
statement declares; the fields of a struct do. -/
def stmtUses (scope : Scope) : Stmt -> List Use
  | .block body _ => bodyUses scope.enter body
  | .expr value => exprUses scope value
  | .letIn binding | .instr binding =>
    exprsUses scope binding.value.toList ++ formsUses scope binding.type.toList
  | .const decl => exprsUses scope decl.value.toList ++ formsUses scope decl.type.toList
  | .struct decl =>
    match decl.name with
    | none => []
    | some _ => formsUses (scope.behind (.struct decl)) (decl.fields.map (·.type))
  | .assign target value _ | .write target value _ =>
    exprUses scope target ++ exprUses scope value
  | .cond test body _ otherwise _ =>
    exprUses scope test ++ bodyUses scope.enter body ++ stmtUses? scope otherwise
  | .whileLoop test body _ _ => exprUses scope test ++ bodyUses scope.enter body
  | .loop body _ _ => bodyUses scope.enter body
  | .forLoop first test after body _ _ =>
    -- the clauses of a loop stand in a block of their own, around that of the body
    let opened := scope.enter.behind? first
    stmtUses? scope.enter first ++ exprsUses opened test.toList ++ stmtUses? opened after ++
      bodyUses (opened.behind? after).enter body
  | .ret value _ => exprsUses scope value.toList
  | .brk _ | .cont _ | .bad _ => []

/-- The names used in a statement that may be missing. -/
def stmtUses? (scope : Scope) : Option Stmt -> List Use
  | none => []
  | some stmt => stmtUses scope stmt

/-- The names used in statements, each behind the ones in front of it. -/
def bodyUses (scope : Scope) : List Stmt -> List Use
  | [] => []
  | stmt :: rest => stmtUses scope stmt ++ bodyUses (scope.behind stmt) rest

end

/-- The names used in the body or the values of an item. The parameters of a function and
the statements of its body share one block. -/
def itemUses (globals : List Symbol) : Item -> List Use
  | .function decl =>
    let inside := Scope.declareAll ⟨globals, [[]]⟩ (decl.params.map paramSymbol)
    match decl.body with
    | some body => bodyUses inside body.stmts
    | none => []
  | .entry decl => bodyUses ⟨globals, [[]]⟩ decl.body.stmts
  | .const decl => exprsUses ⟨globals, []⟩ decl.value.toList
  | .static decl => exprsUses ⟨globals, []⟩ decl.value.toList
  | .enum decl => exprsUses ⟨globals, []⟩ (decl.variants.filterMap (·.value))
  | .stray stmt => stmtUses ⟨globals, []⟩ stmt
  | .asm _ | .struct _ | .typeAlias _ => []

/-- The names used in the bodies and the values of a unit. -/
def unitUses (globals : List Symbol) (unit : Module) : List Use :=
  unit.items.flatMap (itemUses globals)

/-! ### The nodes of uses -/

mutual

theorem count_mentions (node : NodeId) : (form : TypeForm) ->
    (form.mentions.map (·.span.node)).count node ≤ form.nodes.count node
  | .named _ _ | .opaquePointer _ | .address _ => by simp [TypeForm.mentions, TypeForm.nodes]
  | .pointer inner _ | .array inner _ | .fixedArray inner _ _ | .const inner _
  | .mutable inner _ => by
    have counted := count_mentions node inner
    simp only [TypeForm.mentions, TypeForm.nodes, List.count_cons]
    omega
  | .function params result _ _ => by
    have countedParams := count_mentionsAll node params
    have countedResult := count_mentions node result
    simp only [TypeForm.mentions, TypeForm.nodes, List.map_append, List.count_cons,
      List.count_append]
    omega

theorem count_mentionsAll (node : NodeId) : (forms : List TypeForm) ->
    ((TypeForm.mentionsAll forms).map (·.span.node)).count node ≤
      (TypeForm.nodesAll forms).count node
  | [] => by simp [TypeForm.mentionsAll]
  | form :: rest => by
    have counted := count_mentions node form
    have countedRest := count_mentionsAll node rest
    simp only [TypeForm.mentionsAll, TypeForm.nodesAll, List.map_append, List.count_append]
    omega

end

variable {scope : Scope} {node : NodeId}

theorem count_formUses (scope : Scope) (node : NodeId) (form : TypeForm) :
    ((formUses scope form).map Use.node).count node ≤ form.nodes.count node := by
  have kept : ((formUses scope form).map Use.node).Sublist (form.mentions.map (·.span.node)) := by
    rw [formUses, List.map_map]
    exact List.filter_sublist.map _
  exact (kept.count_le node).trans (count_mentions node form)

theorem count_formsUses (scope : Scope) (node : NodeId) (forms : List TypeForm) :
    ((formsUses scope forms).map Use.node).count node ≤
      (forms.flatMap TypeForm.nodes).count node := by
  induction forms with
  | nil => exact Nat.le_refl _
  | cons form rest inductionHypothesis =>
    have counted := count_formUses scope node form
    rw [formsUses] at inductionHypothesis ⊢
    simp only [List.flatMap_cons, List.map_append, List.count_append]
    omega

mutual

theorem count_exprUses (scope : Scope) (node : NodeId) : (expr : Expr) ->
    ((exprUses scope expr).map Use.node).count node ≤ expr.sites.count node
  | .literal _ | .bad _ => by simp [exprUses]
  | .name name => by simp [exprUses, Use.node]
  | .binary _ left right _ | .index left right _ => by
    have countedLeft := count_exprUses scope node left
    have countedRight := count_exprUses scope node right
    simp only [exprUses, Expr.sites_binary, Expr.sites_index, List.map_append, List.count_append,
      List.count_cons]
    omega
  | .unary _ operand _ | .addressOf operand _ | .field operand _ _ => by
    have counted := count_exprUses scope node operand
    simp only [exprUses, Expr.sites_unary, Expr.sites_addressOf, Expr.sites_field,
      List.count_cons]
    omega
  | .call callee args _ => by
    have counted := count_exprsUses scope node args
    simp only [exprUses, Expr.sites_call, List.map_cons, List.count_cons, Use.node]
    omega
  | .callValue function args _ => by
    have countedFunction := count_exprUses scope node function
    have countedArgs := count_exprsUses scope node args
    simp only [exprUses, Expr.sites_callValue, List.map_append, List.count_append,
      List.count_cons]
    omega
  | .cast type operand _ | .load type operand _ => by
    have countedType := count_formUses scope node type
    have countedOperand := count_exprUses scope node operand
    simp only [exprUses, Expr.sites_cast, Expr.sites_load, List.map_append, List.count_append,
      List.count_cons]
    omega
  | .array element items _ => by
    have countedElement := count_formsUses scope node element.toList
    have countedItems := count_exprsUses scope node items
    simp only [exprUses, Expr.sites_array, List.map_append, List.count_append, List.count_cons]
    omega
  | .alloc type _ => by
    have counted := count_formUses scope node type
    simp only [exprUses, Expr.sites_alloc, List.count_cons]
    omega

theorem count_exprsUses (scope : Scope) (node : NodeId) : (exprs : List Expr) ->
    ((exprsUses scope exprs).map Use.node).count node ≤ (Expr.sitesAll exprs).count node
  | [] => by simp [exprsUses]
  | expr :: rest => by
    have counted := count_exprUses scope node expr
    have countedRest := count_exprsUses scope node rest
    simp only [exprsUses, Expr.sitesAll_cons, List.map_append, List.count_append]
    omega

end

theorem count_leafUses {stmt : Stmt} (leaf : stmt.isLeaf = true)
    (uses : stmtUses scope stmt =
      exprsUses scope stmt.ownExprs ++ formsUses scope stmt.ownForms)
    (forms : stmt.allForms = stmt.ownForms) :
    ((stmtUses scope stmt).map Use.node).count node ≤ stmt.sites.count node := by
  have countedExprs := count_exprsUses scope node stmt.ownExprs
  have countedForms := count_formsUses scope node stmt.ownForms
  rw [Expr.sitesAll_eq] at countedExprs
  rw [Stmt.sites_of_isLeaf leaf, Stmt.ownSites, forms, uses]
  simp only [List.map_append, List.count_append]
  omega

mutual

theorem count_stmtUses (node : NodeId) : (stmt : Stmt) -> (scope : Scope) ->
    ((stmtUses scope stmt).map Use.node).count node ≤ stmt.sites.count node
  | .block body _, scope | .loop body _ _, scope => by
    simpa only [stmtUses, Stmt.sites_block, Stmt.sites_loop] using count_bodyUses node body _
  | .letIn _, _ | .instr _, _ | .const _, _ =>
    count_leafUses rfl (by simp only [stmtUses, Stmt.ownExprs, Stmt.ownForms]) rfl
  | .expr _, _ | .ret _ _, _ | .assign _ _ _, _ | .write _ _ _, _ =>
    count_leafUses rfl (by simp [stmtUses, Stmt.ownExprs, Stmt.ownForms, exprsUses, formsUses]) rfl
  | .brk _, _ | .cont _, _ | .bad _, _ => by simp [stmtUses]
  | .struct decl, scope => by
    have counted := count_formsUses (scope.behind (.struct decl)) node (decl.fields.map (·.type))
    have sites : Stmt.sites (.struct decl) = Stmt.ownSites (.struct decl) :=
      Stmt.sites_of_isLeaf rfl
    rw [sites, Stmt.ownSites, stmtUses]
    cases decl.name with
    | none => simp
    | some name =>
      simp only [Stmt.allForms, List.count_append]
      omega
  | .cond test body _ otherwise _, scope => by
    have countedTest := count_exprUses scope node test
    have countedBody := count_bodyUses node body scope.enter
    have countedOther := count_stmtUses? node otherwise scope
    simp only [stmtUses, Stmt.sites_cond, List.map_append, List.count_append]
    omega
  | .whileLoop test body _ _, scope => by
    have countedTest := count_exprUses scope node test
    have countedBody := count_bodyUses node body scope.enter
    simp only [stmtUses, Stmt.sites_whileLoop, List.map_append, List.count_append]
    omega
  | .forLoop first test after body _ _, scope => by
    have countedFirst := count_stmtUses? node first scope.enter
    have countedTest := count_exprsUses (scope.enter.behind? first) node test.toList
    have countedAfter := count_stmtUses? node after (scope.enter.behind? first)
    have countedBody := count_bodyUses node body ((scope.enter.behind? first).behind? after).enter
    rw [Expr.sitesAll_eq] at countedTest
    simp only [stmtUses, Stmt.sites_forLoop, List.map_append, List.count_append]
    omega

theorem count_stmtUses? (node : NodeId) : (stmt : Option Stmt) -> (scope : Scope) ->
    ((stmtUses? scope stmt).map Use.node).count node ≤
      (stmt.toList.flatMap Stmt.sites).count node
  | none, _ => by simp [stmtUses?]
  | some stmt, scope => by
    simpa only [stmtUses?, Option.toList_some, List.flatMap_singleton] using
      count_stmtUses node stmt scope

theorem count_bodyUses (node : NodeId) : (body : List Stmt) -> (scope : Scope) ->
    ((bodyUses scope body).map Use.node).count node ≤ (Stmt.sitesAll body).count node
  | [], _ => by simp [bodyUses]
  | stmt :: rest, scope => by
    have counted := count_stmtUses node stmt scope
    have countedRest := count_bodyUses node rest (scope.behind stmt)
    simp only [bodyUses, Stmt.sitesAll_cons, List.map_append, List.count_append]
    omega

end

theorem count_itemUses (globals : List Symbol) (node : NodeId) (item : Item) :
    ((itemUses globals item).map Use.node).count node ≤
      (Stmt.sitesAll item.stmts).count node + (item.values.flatMap Expr.sites).count node := by
  have stmts (scope : Scope) := count_bodyUses node item.stmts scope
  have values := count_exprsUses ⟨globals, []⟩ node item.values
  rw [Expr.sitesAll_eq] at values
  cases item with
  | function decl =>
    rw [itemUses]
    cases written : decl.body with
    | none => simp
    | some body =>
      simp only [Item.stmts, Item.body, written] at stmts ⊢
      exact (stmts _).trans (Nat.le_add_right _ _)
  | entry decl => exact (stmts _).trans (Nat.le_add_right _ _)
  | const decl => exact values.trans (Nat.le_add_left _ _)
  | static decl => exact values.trans (Nat.le_add_left _ _)
  | enum decl => exact values.trans (Nat.le_add_left _ _)
  | stray stmt =>
    have counted := stmts ⟨globals, []⟩
    simp only [Item.stmts, bodyUses, List.append_nil] at counted ⊢
    exact counted.trans (Nat.le_add_right _ _)
  | asm _ | struct _ | typeAlias _ => simp [itemUses]

/-- The nodes of the written types in the signatures of items. -/
def signatureNodes (items : List Item) : List NodeId :=
  items.flatMap fun item => item.forms.flatMap TypeForm.nodes

/-- No two names of a decoded unit stand at one node, and none at a node of a signature. -/
theorem nodup_unitUses {file text : String} {unit : Module}
    (read : Module.decode file text = .ok unit) (globals : List Symbol) :
    ((unitUses globals unit).map Use.node).Nodup ∧
      ∀ use ∈ unitUses globals unit, use.node ∉ signatureNodes unit.items := by
  have counted (node : NodeId) : ((unitUses globals unit).map Use.node).count node +
      (signatureNodes unit.items).count node ≤ (unit.items.flatMap Item.sites).count node := by
    rw [unitUses, signatureNodes]
    induction unit.items with
    | nil => simp
    | cons item rest inductionHypothesis =>
      have counted := count_itemUses globals node item
      simp only [List.flatMap_cons, List.map_append, List.count_append, Item.sites] at *
      omega
  have atMostOne (node : NodeId) := List.nodup_iff_count_le_one.mp (Module.nodup_sites read) node
  refine ⟨List.nodup_iff_count_le_one.mpr fun node => ?_, fun use isUse isForm => ?_⟩
  · have bound := counted node
    have one := atMostOne node
    omega
  · have bound := counted use.node
    have one := atMostOne use.node
    have isNode : 0 < ((unitUses globals unit).map Use.node).count use.node :=
      List.count_pos_iff.mpr (List.mem_map_of_mem isUse)
    have isSignature := List.count_pos_iff.mpr isForm
    omega

end UnitCheck.Lexical
