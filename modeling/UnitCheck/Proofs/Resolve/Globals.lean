import UnitCheck.Proofs.Declare.Enrolled
import UnitCheck.Proofs.Resolve.Binding
import UnitCheck.Proofs.Session.Itemwise

/-!
# Names of constants and statics

A name in a body or a value means a global or a local of its own item. So one that refers to
a symbol at the node of a constant or static refers to the one that the first pass has
declared there. The second pass says nothing about globals itself.
-/

namespace UnitCheck

namespace Lexical

variable {globals : List Symbol} {inside : NodeId -> Prop} {scope : Scope}

/-! ### Locals stand inside -/

/-- The symbol is that of a node inside. -/
def Local (inside : NodeId -> Prop) (symbol : Symbol) : Prop :=
  ∃ node, inside node ∧ symbol.id = .node node

/-- The scope shows these globals and has its locals inside. -/
structure Scope.Within (globals : List Symbol) (inside : NodeId -> Prop) (scope : Scope) :
    Prop where
  globals : scope.globals = globals
  locals : ∀ frame ∈ scope.frames, ∀ symbol ∈ frame, Local inside symbol

namespace Scope.Within

theorem outside : Within globals inside ⟨globals, []⟩ :=
  ⟨rfl, List.forall_mem_nil _⟩

theorem enter (within : scope.Within globals inside) : scope.enter.Within globals inside :=
  ⟨within.globals, List.forall_mem_cons.mpr ⟨List.forall_mem_nil _, within.locals⟩⟩

theorem declare (within : scope.Within globals inside) {symbol : Symbol}
    (isLocal : Local inside symbol) : (scope.declare symbol).Within globals inside := by
  obtain ⟨all, frames⟩ := scope
  cases frames with
  | nil => exact within
  | cons frame outer =>
    obtain ⟨inFrame, inOuter⟩ := List.forall_mem_cons.mp within.locals
    unfold Scope.declare
    simp only
    split
    · exact within
    · exact ⟨within.globals,
        List.forall_mem_cons.mpr ⟨List.forall_mem_cons.mpr ⟨isLocal, inFrame⟩, inOuter⟩⟩

theorem declareAll (within : scope.Within globals inside) {symbols : List Symbol}
    (areLocal : ∀ symbol ∈ symbols, Local inside symbol) :
    (scope.declareAll symbols).Within globals inside := by
  induction symbols generalizing scope with
  | nil => exact within
  | cons symbol rest inductionHypothesis =>
    obtain ⟨isLocal, restLocal⟩ := List.forall_mem_cons.mp areLocal
    exact inductionHypothesis (within.declare isLocal) restLocal

end Scope.Within

/-- A name means a global or a local of its scope. -/
theorem Use.mem_of_meaning {use : Use} {symbol : Symbol} (means : use.meaning = some symbol) :
    symbol ∈ use.scope.globals ∨ ∃ frame ∈ use.scope.frames, symbol ∈ frame := by
  have global {space : Namespace} {name : String}
      (found : use.scope.global? space name = some symbol) :
      symbol ∈ use.scope.globals ∨ ∃ frame ∈ use.scope.frames, symbol ∈ frame :=
    .inl (List.mem_of_find?_eq_some found)
  have inFrames {wanted : Symbol -> Bool}
      (found : use.scope.frames.findSome? (·.find? wanted) = some symbol) :
      symbol ∈ use.scope.globals ∨ ∃ frame ∈ use.scope.frames, symbol ∈ frame := by
    obtain ⟨frame, isFrame, isFound⟩ := List.exists_of_findSome?_eq_some found
    exact .inr ⟨frame, isFrame, List.mem_of_find?_eq_some isFound⟩
  have value {name : String} (found : use.scope.value? name = some symbol) :
      symbol ∈ use.scope.globals ∨ ∃ frame ∈ use.scope.frames, symbol ∈ frame := by
    simp only [Scope.value?, Option.orElse_eq_orElse, Option.orElse_eq_or,
      Option.or_eq_some_iff] at found
    obtain found | ⟨_, found | ⟨_, found | ⟨_, found⟩⟩⟩ := found
    · exact inFrames found
    · exact global found
    · exact global found
    · exact global found
  have type {name : String} (found : use.scope.type? name = some symbol) :
      symbol ∈ use.scope.globals ∨ ∃ frame ∈ use.scope.frames, symbol ∈ frame := by
    simp only [Scope.type?, Option.orElse_eq_orElse, Option.orElse_eq_or,
      Option.or_eq_some_iff] at found
    obtain found | ⟨_, found⟩ := found
    · exact inFrames found
    · exact global found
  unfold Use.meaning at means
  cases isRole : use.role with
  | value =>
    rw [isRole] at means
    exact value means
  | type =>
    rw [isRole] at means
    exact type means
  | callee =>
    rw [isRole] at means
    simp only [Scope.callee?, Option.orElse_eq_orElse, Option.orElse_eq_or,
      Option.or_eq_some_iff] at means
    obtain found | ⟨_, found | ⟨_, found⟩⟩ := means
    · exact global found
    · exact type found
    · exact value found

/-! ### The scopes of uses -/

/-- All uses stand in scopes that show these globals and have their locals inside. -/
def UsesWithin (globals : List Symbol) (inside : NodeId -> Prop) (uses : List Use) : Prop :=
  ∀ use ∈ uses, use.scope.Within globals inside

@[simp] theorem usesWithin_nil : UsesWithin globals inside [] := by
  simp [UsesWithin]

@[simp] theorem usesWithin_cons {use : Use} {rest : List Use} :
    UsesWithin globals inside (use :: rest) ↔
      use.scope.Within globals inside ∧ UsesWithin globals inside rest := by
  simp [UsesWithin]

@[simp] theorem usesWithin_append {first second : List Use} :
    UsesWithin globals inside (first ++ second) ↔
      UsesWithin globals inside first ∧ UsesWithin globals inside second := by
  simp [UsesWithin, or_imp, forall_and]

theorem usesWithin_form (within : scope.Within globals inside) (form : TypeForm) :
    UsesWithin globals inside (formUses scope form) := by
  intro use isUse
  obtain ⟨name, _, rfl⟩ := List.mem_map.mp isUse
  exact within

theorem usesWithin_forms (within : scope.Within globals inside) (forms : List TypeForm) :
    UsesWithin globals inside (formsUses scope forms) := by
  intro use isUse
  obtain ⟨form, _, isUse⟩ := List.mem_flatMap.mp isUse
  exact usesWithin_form within form use isUse

mutual

theorem usesWithin_expr (within : scope.Within globals inside) : (expr : Expr) ->
    UsesWithin globals inside (exprUses scope expr)
  | .literal _ | .bad _ => by simp [exprUses]
  | .name _ => by simpa [exprUses] using within
  | .binary _ left right _ | .index left right _ => by
    simpa [exprUses] using ⟨usesWithin_expr within left, usesWithin_expr within right⟩
  | .unary _ operand _ | .field operand _ _ | .addressOf operand _ => by
    simpa [exprUses] using usesWithin_expr within operand
  | .call _ args _ => by
    simpa [exprUses] using ⟨within, usesWithin_exprs within args⟩
  | .callValue function args _ => by
    simpa [exprUses] using ⟨usesWithin_expr within function, usesWithin_exprs within args⟩
  | .cast type operand _ => by
    simpa [exprUses] using ⟨usesWithin_expr within operand, usesWithin_form within type⟩
  | .load type operand _ => by
    simpa [exprUses] using ⟨usesWithin_form within type, usesWithin_expr within operand⟩
  | .array element items _ => by
    simpa [exprUses] using
      ⟨usesWithin_forms within element.toList, usesWithin_exprs within items⟩
  | .alloc type _ => by
    simpa [exprUses] using usesWithin_form within type

theorem usesWithin_exprs (within : scope.Within globals inside) : (exprs : List Expr) ->
    UsesWithin globals inside (exprsUses scope exprs)
  | [] => by simp [exprsUses]
  | expr :: rest => by
    simpa [exprsUses] using ⟨usesWithin_expr within expr, usesWithin_exprs within rest⟩

end

/-- The declarations of the statements are inside. -/
def DeclaresInside (inside : NodeId -> Prop) (stmts : List Stmt) : Prop :=
  ∀ stmt ∈ stmts, ∀ node ∈ stmt.ownDecls, inside node

@[simp] theorem declaresInside_nil : DeclaresInside inside [] := by
  simp [DeclaresInside]

@[simp] theorem declaresInside_cons {stmt : Stmt} {rest : List Stmt} :
    DeclaresInside inside (stmt :: rest) ↔
      (∀ node ∈ stmt.ownDecls, inside node) ∧ DeclaresInside inside rest := by
  simp [DeclaresInside]

@[simp] theorem declaresInside_append {first second : List Stmt} :
    DeclaresInside inside (first ++ second) ↔
      DeclaresInside inside first ∧ DeclaresInside inside second := by
  simp [DeclaresInside, or_imp, forall_and]

mutual

/-- What a statement declares stands at a node that it declares. -/
theorem local_declaredBy : (stmt : Stmt) -> DeclaresInside inside stmt.parts ->
    ∀ symbol ∈ declaredBy stmt, Local inside symbol
  | .letIn binding, declares | .instr binding, declares => by
    simp only [Stmt.parts, declaresInside_cons] at declares
    rintro _ ⟨⟩
    exact ⟨_, declares.1 _ List.mem_cons_self, rfl⟩
  | .const decl, declares | .struct decl, declares => by
    simp only [Stmt.parts, declaresInside_cons] at declares
    intro symbol isSymbol
    obtain ⟨name, _, rfl⟩ := Option.map_eq_some_iff.mp isSymbol
    exact ⟨_, declares.1 _ List.mem_cons_self, rfl⟩
  | .cond _ _ _ otherwise _, declares => by
    simp only [Stmt.parts, declaresInside_cons, declaresInside_append] at declares
    exact local_declaredBy? otherwise declares.2.2
  | .block _ _, _ | .expr _, _ | .assign _ _ _, _ | .write _ _ _, _ | .whileLoop _ _ _ _, _
  | .loop _ _ _, _ | .forLoop _ _ _ _ _ _, _ | .ret _ _, _ | .brk _, _ | .cont _, _
  | .bad _, _ => by
    intro symbol isSymbol
    cases isSymbol

theorem local_declaredBy? : (stmt : Option Stmt) -> DeclaresInside inside (Stmt.parts? stmt) ->
    ∀ symbol ∈ declaredBy? stmt, Local inside symbol
  | none, _ => by
    intro symbol isSymbol
    cases isSymbol
  | some stmt, declares => local_declaredBy stmt declares

end

theorem Scope.Within.behind (within : scope.Within globals inside) {stmt : Stmt}
    (declares : DeclaresInside inside stmt.parts) :
    (scope.behind stmt).Within globals inside :=
  within.declareAll fun symbol isSymbol =>
    local_declaredBy stmt declares symbol (Option.mem_toList.mp isSymbol)

theorem Scope.Within.behind? (within : scope.Within globals inside) {stmt : Option Stmt}
    (declares : DeclaresInside inside (Stmt.parts? stmt)) :
    (scope.behind? stmt).Within globals inside :=
  within.declareAll fun symbol isSymbol =>
    local_declaredBy? stmt declares symbol (Option.mem_toList.mp isSymbol)

mutual

/-- The uses in a statement stand in scopes whose locals are those of their item. -/
theorem usesWithin_stmt : (stmt : Stmt) -> DeclaresInside inside stmt.parts ->
    (scope : Scope) -> scope.Within globals inside ->
    UsesWithin globals inside (stmtUses scope stmt)
  | .block body _, declares, scope, within | .loop body _ _, declares, scope, within => by
    simp only [Stmt.parts, declaresInside_cons] at declares
    simpa only [stmtUses] using usesWithin_body body declares.2 _ within.enter
  | .expr value, _, scope, within => by
    simpa only [stmtUses] using usesWithin_expr within value
  | .letIn binding, _, scope, within | .instr binding, _, scope, within => by
    simpa only [stmtUses, usesWithin_append] using
      ⟨usesWithin_exprs within _, usesWithin_forms within _⟩
  | .const decl, _, scope, within => by
    simpa only [stmtUses, usesWithin_append] using
      ⟨usesWithin_exprs within _, usesWithin_forms within _⟩
  | .struct decl, declares, scope, within => by
    unfold stmtUses
    cases decl.name with
    | none => exact usesWithin_nil
    | some name => exact usesWithin_forms (within.behind declares) _
  | .assign target value _, _, scope, within | .write target value _, _, scope, within => by
    simpa only [stmtUses, usesWithin_append] using
      ⟨usesWithin_expr within target, usesWithin_expr within value⟩
  | .cond test body _ otherwise _, declares, scope, within => by
    simp only [Stmt.parts, declaresInside_cons, declaresInside_append] at declares
    simp only [stmtUses, usesWithin_append]
    exact ⟨⟨usesWithin_expr within test, usesWithin_body body declares.2.1 _ within.enter⟩,
      usesWithin_stmt? otherwise declares.2.2 scope within⟩
  | .whileLoop test body _ _, declares, scope, within => by
    simp only [Stmt.parts, declaresInside_cons] at declares
    simp only [stmtUses, usesWithin_append]
    exact ⟨usesWithin_expr within test, usesWithin_body body declares.2 _ within.enter⟩
  | .forLoop first test after body _ _, declares, scope, within => by
    simp only [Stmt.parts, declaresInside_cons, declaresInside_append] at declares
    obtain ⟨_, ⟨inFirst, inAfter⟩, inBody⟩ := declares
    have opened := within.enter.behind? inFirst
    simp only [stmtUses, usesWithin_append]
    exact ⟨⟨⟨usesWithin_stmt? first inFirst _ within.enter, usesWithin_exprs opened _⟩,
      usesWithin_stmt? after inAfter _ opened⟩,
      usesWithin_body body inBody _ (opened.behind? inAfter).enter⟩
  | .ret value _, _, scope, within => by
    simpa only [stmtUses] using usesWithin_exprs within value.toList
  | .brk _, _, _, _ | .cont _, _, _, _ | .bad _, _, _, _ => by simp [stmtUses]

theorem usesWithin_stmt? : (stmt : Option Stmt) -> DeclaresInside inside (Stmt.parts? stmt) ->
    (scope : Scope) -> scope.Within globals inside ->
    UsesWithin globals inside (stmtUses? scope stmt)
  | none, _, _, _ => by simp [stmtUses?]
  | some stmt, declares, scope, within => by
    simpa only [stmtUses?] using usesWithin_stmt stmt declares scope within

theorem usesWithin_body : (body : List Stmt) -> DeclaresInside inside (Stmt.partsAll body) ->
    (scope : Scope) -> scope.Within globals inside ->
    UsesWithin globals inside (bodyUses scope body)
  | [], _, _, _ => by simp [bodyUses]
  | stmt :: rest, declares, scope, within => by
    simp only [Stmt.partsAll, declaresInside_append] at declares
    simp only [bodyUses, usesWithin_append]
    exact ⟨usesWithin_stmt stmt declares.1 scope within,
      usesWithin_body rest declares.2 _ (within.behind declares.1)⟩

end

/-- The locals that an item sees are its own. -/
theorem usesWithin_item (globals : List Symbol) (item : Item) :
    UsesWithin globals (· ∈ item.locals) (itemUses globals item) := by
  have declares : DeclaresInside (· ∈ item.locals) (Stmt.partsAll item.stmts) :=
    fun stmt isStmt node isNode =>
      List.mem_append_right _ (List.mem_flatMap.mpr ⟨stmt, isStmt, isNode⟩)
  have outside (inside : NodeId -> Prop) : Scope.Within globals inside ⟨globals, []⟩ := .outside
  cases item with
  | function decl =>
    unfold itemUses
    simp only
    cases written : decl.body with
    | none => exact usesWithin_nil
    | some body =>
      simp only [Item.stmts, Item.body, written] at declares
      refine usesWithin_body body.stmts declares _ (Scope.Within.declareAll (outside _).enter ?_)
      intro symbol isSymbol
      obtain ⟨param, isParam, rfl⟩ := List.mem_map.mp isSymbol
      exact ⟨_, List.mem_append_left _ (List.mem_map_of_mem isParam), rfl⟩
  | entry decl => exact usesWithin_body decl.body.stmts declares _ (outside _).enter
  | const _ | static _ | enum _ => exact usesWithin_exprs (outside _) _
  | stray stmt =>
    simp only [Item.stmts, Stmt.partsAll, List.append_nil] at declares
    exact usesWithin_stmt stmt declares _ (outside _)
  | asm _ | struct _ | typeAlias _ => exact usesWithin_nil

/-- Behind the second pass a name outside of signatures refers to what it means. -/
theorem use_of_ref {items : List Item} {session : Session} (outside : Outside items session)
    {node : NodeId} (isShown : node ∉ signatureNodes items) {symbol : Symbol}
    (refers : (session.after Resolve.walk).facts.refs.find? node = some symbol) :
    ∃ item ∈ items, ∃ use ∈ itemUses session.table.globals item,
      use.node = node ∧ use.meaning = some symbol := by
  have met := met_walk outside.table
  rw [outside.unit] at met
  rw [← find?_entries, met.refs node isShown, outside.refs node isShown, List.append_nil] at refers
  obtain ⟨isEntry, -⟩ := List.mem_filter.mp (List.mem_reverse.mp (mem_of_lookup refers))
  obtain ⟨use, isUse, records⟩ := List.mem_filterMap.mp isEntry
  obtain ⟨item, isItem, isUse⟩ := List.mem_flatMap.mp isUse
  obtain ⟨meaning, means, same⟩ := Option.map_eq_some_iff.mp records
  cases same
  exact ⟨item, isItem, use, isUse, rfl, means⟩

/-! ### Names in values -/

/-- What a name means as a type is one. -/
theorem Use.isType_of_meaning {use : Use} {symbol : Symbol} (isName : use.role = .type)
    (means : use.meaning = some symbol) : symbol.isType = true := by
  unfold Use.meaning Scope.type? at means
  rw [isName] at means
  simp only [Option.orElse_eq_orElse, Option.orElse_eq_or, Option.or_eq_some_iff] at means
  obtain inFrames | ⟨_, isGlobal⟩ := means
  · obtain ⟨frame, _, found⟩ := List.exists_of_findSome?_eq_some inFrames
    have holds := List.find?_some found
    simp only [Bool.and_eq_true] at holds
    exact holds.2
  · have holds := List.find?_some isGlobal
    simp only [Bool.and_eq_true, decide_eq_true_eq] at holds
    unfold Symbol.isType
    cases kind : symbol.kind <;> simp_all [SymbolKind.space, SymbolKind.isType]

/-- The uses are of types or stand at some nodes. -/
def NamedAt (nodes : List NodeId) (uses : List Use) : Prop :=
  ∀ use ∈ uses, use.role = .type ∨ use.node ∈ nodes

section NamedAt

variable {nodes : List NodeId}

@[simp] theorem namedAt_nil : NamedAt nodes [] := by
  simp [NamedAt]

@[simp] theorem namedAt_cons {use : Use} {rest : List Use} :
    NamedAt nodes (use :: rest) ↔ (use.role = .type ∨ use.node ∈ nodes) ∧ NamedAt nodes rest := by
  simp [NamedAt]

@[simp] theorem namedAt_append {first second : List Use} :
    NamedAt nodes (first ++ second) ↔ NamedAt nodes first ∧ NamedAt nodes second := by
  simp [NamedAt, or_imp, forall_and]

@[simp] theorem namedAt_form (form : TypeForm) : NamedAt nodes (formUses scope form) := by
  intro use isUse
  obtain ⟨name, _, rfl⟩ := List.mem_map.mp isUse
  exact .inl rfl

@[simp] theorem namedAt_forms (forms : List TypeForm) : NamedAt nodes (formsUses scope forms) := by
  intro use isUse
  obtain ⟨form, _, isUse⟩ := List.mem_flatMap.mp isUse
  exact namedAt_form form use isUse

/-- The nodes of the names that are looked up in some parts of expressions. -/
def nameNodesOf (parts : List Expr) : List NodeId :=
  parts.flatMap fun part => part.ownNames.map (·.span.node)

mutual

/-- A name in an expression that is not looked up as a type is a name of the expression. -/
theorem namedAt_expr : (expr : Expr) -> nameNodesOf expr.parts ⊆ nodes ->
    NamedAt nodes (exprUses scope expr)
  | .literal _, _ | .bad _, _ => by simp [exprUses]
  | .alloc _ _, _ => by simp [exprUses]
  | .name name, inside => by
    simp only [nameNodesOf, Expr.parts, Expr.ownNames, List.flatMap_cons, List.flatMap_nil,
      List.append_nil, List.map_cons, List.map_nil, List.cons_subset] at inside
    simpa [exprUses, Use.node] using inside.1
  | .binary _ left right _, inside | .index left right _, inside => by
    simp only [nameNodesOf, Expr.parts, Expr.ownNames, List.flatMap_cons, List.flatMap_append,
      List.map_nil, List.nil_append, List.append_subset] at inside
    simpa [exprUses] using ⟨namedAt_expr left inside.1, namedAt_expr right inside.2⟩
  | .unary _ operand _, inside | .field operand _ _, inside | .addressOf operand _, inside
  | .cast _ operand _, inside | .load _ operand _, inside => by
    simp only [nameNodesOf, Expr.parts, Expr.ownNames, List.flatMap_cons, List.map_nil,
      List.nil_append] at inside
    simpa [exprUses] using namedAt_expr operand inside
  | .call callee args _, inside => by
    simp only [nameNodesOf, Expr.parts, Expr.ownNames, List.flatMap_cons, List.map_cons,
      List.map_nil, List.append_subset, List.cons_subset] at inside
    simpa [exprUses, Use.node] using ⟨inside.1.1, namedAt_exprs args inside.2⟩
  | .callValue function args _, inside => by
    simp only [nameNodesOf, Expr.parts, Expr.ownNames, List.flatMap_cons, List.flatMap_append,
      List.map_nil, List.nil_append, List.append_subset] at inside
    simpa [exprUses] using ⟨namedAt_expr function inside.1, namedAt_exprs args inside.2⟩
  | .array _ items _, inside => by
    simp only [nameNodesOf, Expr.parts, Expr.ownNames, List.flatMap_cons, List.map_nil,
      List.nil_append] at inside
    simpa [exprUses] using namedAt_exprs items inside

theorem namedAt_exprs : (exprs : List Expr) -> nameNodesOf (Expr.partsAll exprs) ⊆ nodes ->
    NamedAt nodes (exprsUses scope exprs)
  | [], _ => by simp [exprsUses]
  | expr :: rest, inside => by
    simp only [nameNodesOf, Expr.partsAll, List.flatMap_append, List.append_subset] at inside
    simpa [exprsUses] using ⟨namedAt_expr expr inside.1, namedAt_exprs rest inside.2⟩

end

/-- A name in an item with values that is not looked up as a type is a name of the values. -/
theorem namedAt_values (globals : List Symbol) {item : Item} (valued : item.values ≠ []) :
    NamedAt (item.values.flatMap Expr.nameNodes) (itemUses globals item) := by
  have named : nameNodesOf (Expr.partsAll item.values) ⊆ item.values.flatMap Expr.nameNodes := by
    induction item.values with
    | nil => exact List.nil_subset _
    | cons value rest inductionHypothesis =>
      simp only [nameNodesOf, Expr.partsAll, List.flatMap_append, List.flatMap_cons]
      exact List.append_subset.mpr ⟨List.subset_append_left _ _,
        List.subset_append_of_subset_right _ inductionHypothesis⟩
  have uses : NamedAt _ (exprsUses ⟨globals, []⟩ item.values) := namedAt_exprs item.values named
  cases item <;> first | exact uses | exact (valued rfl).elim

end NamedAt

end Lexical

namespace Resolve

/-! ### What stays of globals -/

/-- Binding declarations at some nodes, in one unit. -/
def bindingAt (items : List Item) (binds : NodeId -> Prop) : Regime where
  holds session := session.items = items
  permits
    | .declares node _ => binds node
    | .knows id _ => ∃ node, binds node ∧ id = .node node
    | .settles _ _ | .global _ => False
    | _ => True
  stable act session _ isUnit := by
    cases act <;> exact isUnit

variable {items : List Item} {binds : NodeId -> Prop} {session after : Session}

theorem mayBind_bindingAt : MayBind (bindingAt items binds) binds fun _ => True where
  report _ := trivial
  written _ _ _ := trivial
  refers _ _ _ := trivial
  declares _ _ bound _ := bound
  knows node _ bound := ⟨node, bound, rfl⟩
  locals _ _ := trivial
  struct _ _ _ := trivial

/-- Where nothing is bound, declarations and what is known of them stay. -/
theorem kept_of_bindingAt (trace : Trace (bindingAt items binds).permits session after)
    {node : NodeId} (isFree : ¬binds node) :
    after.facts.decls.find? node = session.facts.decls.find? node ∧
      after.knownOf (.node node) = session.knownOf (.node node) := by
  let view (session : Session) : Option Symbol × SymbolType :=
    (session.facts.decls.find? node, session.knownOf (.node node))
  have kept (act : Act) (session : Session) (permitted : (bindingAt items binds).permits act) :
      view (act.apply session) = view session := by
    refine Prod.ext ?_ ?_
    · cases act with
      | declares other symbol =>
        have apart : node ≠ other := by
          rintro rfl
          exact isFree permitted
        change List.lookup node ((other, symbol) :: session.facts.decls) = _
        rw [List.lookup_cons, beq_false_of_ne apart]
        rfl
      | _ => rfl
    · change (act.apply session).knownOf _ = _
      rw [Act.knownOf_apply]
      cases act with
      | knows id known =>
        obtain ⟨bound, isBound, rfl⟩ := permitted
        refine if_neg fun same => isFree ?_
        cases same
        exact isBound
      | settles _ _ => exact permitted.elim
      | _ => rfl
  have same : view after = view session := trace.keeps kept
  exact ⟨congrArg Prod.fst same, congrArg Prod.snd same⟩

/-- What typing finds out ahead of it about constants and statics. -/
structure Presented (items : List Item) (session : Session) : Prop where
  names : ∀ node ∉ Lexical.signatureNodes items, ∀ symbol,
    session.facts.refs.find? node = some symbol → ∀ global ∈ Typing.globals items,
    symbol.id = .node global.node → symbol.isType = false ∧ Declared global.node session
  untyped : ∀ global ∈ Typing.globals items, global.form = none →
    (session.knownOf (.node global.node)).type = none
  typed : ∀ global ∈ Typing.globals items, global.form.isSome → Declared global.node session →
    (session.knownOf (.node global.node)).type.isSome

theorem Presented.alike (presented : Presented items session) (alike : session.Alike after) :
    Presented items after :=
  alike.carries presented fun _ _ holds => ⟨holds.names, holds.untyped, holds.typed⟩

/-- The node of a global declares nothing inside an item. -/
theorem not_local_of_global (spread : Spread (· ∈ items.flatMap Item.ownNode) items)
    {global : Typing.Global} (isGlobal : global ∈ Typing.globals items) :
    ¬∃ item ∈ items, global.node ∈ item.locals := by
  rintro ⟨item, isItem, isLocal⟩
  obtain ⟨other, isOther, declares⟩ := List.mem_filterMap.mp isGlobal
  refine spread.apart item isItem _ (item.locals_subset_inner isLocal)
    (List.mem_flatMap.mpr ⟨other, isOther, ?_⟩)
  rw [ownNode_of_global declares]
  exact List.mem_singleton_self _

/-- Resolving names leaves constants and statics as they are, and a name that refers to a
symbol at the node of one refers to the declared one. -/
theorem presented_walk (spread : Spread (· ∈ items.flatMap Item.ownNode) items)
    (outside : Lexical.Outside items session) (enrolled : Declare.Enrolled items session) :
    Presented items (session.after walk) := by
  have trace : Trace (bindingAt items fun node => ∃ item ∈ items, node ∈ item.locals).permits
      session (session.after walk) := by
    refine obeys_walk mayBind_bindingAt (fun started holds item isItem node isLocal => ?_)
      (fun _ _ _ _ _ _ => trivial) session outside.unit
    rw [show started.items = items from holds] at isItem
    exact ⟨item, isItem, isLocal⟩
  have kept {global : Typing.Global} (isGlobal : global ∈ Typing.globals items) :=
    kept_of_bindingAt trace (not_local_of_global spread isGlobal)
  refine ⟨fun node isShown symbol refers global isGlobal same => ?_,
    fun global isGlobal isNone => ?_, fun global isGlobal typed declared => ?_⟩
  · obtain ⟨item, isItem, use, isUse, -, means⟩ := Lexical.use_of_ref outside isShown refers
    have within := Lexical.usesWithin_item session.table.globals item use isUse
    obtain isTop | ⟨frame, isFrame, inFrame⟩ := Lexical.Use.mem_of_meaning means
    · rw [within.globals] at isTop
      obtain ⟨isValue, declared⟩ := enrolled.values symbol isTop global isGlobal same
      refine ⟨isValue, ?_⟩
      unfold Declared at declared ⊢
      rwa [(kept isGlobal).1]
    · obtain ⟨place, isLocal, isAt⟩ := within.locals frame isFrame symbol inFrame
      cases isAt.symm.trans same
      exact absurd ⟨item, isItem, isLocal⟩ (not_local_of_global spread isGlobal)
  · rw [(kept isGlobal).2]
    exact enrolled.untyped global isGlobal isNone
  · unfold Declared at declared
    rw [(kept isGlobal).1] at declared
    rw [(kept isGlobal).2]
    exact enrolled.typed global isGlobal typed declared

end Resolve
end UnitCheck
