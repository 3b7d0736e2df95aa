import UnitCheck.Proofs.Session.Trace
import UnitCheck.Proofs.Tree.Parts
import UnitCheck.Resolve

/-!
# What resolving does to a session

The second pass binds the declarations inside bodies. It types no expression and
leaves the globals alone; what it learns about symbols is about the ones that the
walked statements declare, and it records meanings and references only where it
walks.
-/

namespace UnitCheck.Resolve

/-- The regime lets names inside be resolved and declarations of some nodes be bound. -/
structure MayBind (regime : Regime) (binds inside : NodeId -> Prop) : Prop
    extends Check.MayResolve regime inside where
  declares : ∀ node symbol, binds node → symbol.id = .node node →
    regime.permits (.declares node symbol)
  knows : ∀ node known, binds node → regime.permits (.knows (.node node) known)
  locals : ∀ arena frames, regime.permits (.locals arena frames)
  struct : ∀ node body, binds node → regime.permits (.struct node body)

variable {regime : Regime} {binds inside : NodeId -> Prop}

/-! ### Nodes of statements and items -/

/-- What the statements declare may be bound, and all their nodes are inside. -/
def Binds (binds inside : NodeId -> Prop) (stmts : List Stmt) : Prop :=
  ∀ stmt ∈ stmts, (∀ node ∈ stmt.ownDecls, binds node) ∧ ∀ node ∈ stmt.ownSites, inside node

@[simp] theorem binds_nil : Binds binds inside [] := by
  simp [Binds]

@[simp] theorem binds_cons {stmt : Stmt} {rest : List Stmt} :
    Binds binds inside (stmt :: rest) ↔
      ((∀ node ∈ stmt.ownDecls, binds node) ∧ ∀ node ∈ stmt.ownSites, inside node) ∧
        Binds binds inside rest := by
  simp [Binds]

@[simp] theorem binds_append {first second : List Stmt} :
    Binds binds inside (first ++ second) ↔
      Binds binds inside first ∧ Binds binds inside second :=
  List.forall_mem_append

/-- The nodes of what a statement declares, of its values and of its written types. -/
theorem forall_ownSites {stmt : Stmt} :
    (∀ node ∈ stmt.ownSites, inside node) ↔
      (∀ node ∈ stmt.ownDecls, inside node) ∧
        (∀ node ∈ stmt.ownExprs.flatMap Expr.sites, inside node) ∧
        ∀ node ∈ stmt.allForms.flatMap TypeForm.nodes, inside node := by
  simp only [Stmt.ownSites, List.forall_mem_append, and_assoc]

/-- The statements of an item may be walked when its nodes may be bound and lie inside. -/
theorem binds_of_item {item : Item} (bound : ∀ node ∈ item.locals, binds node)
    (within : ∀ node ∈ item.inner, inside node) :
    Binds binds inside (Stmt.partsAll item.stmts) := by
  intro stmt isPart
  refine ⟨fun node isOwn => bound node ?_, fun node isOwn => within node ?_⟩
  · exact List.mem_append_right _ (List.mem_flatMap.mpr ⟨stmt, isPart, isOwn⟩)
  · have isSite : node ∈ Stmt.sitesAll item.stmts := List.mem_flatMap.mpr ⟨stmt, isPart, isOwn⟩
    simp [Item.inner, isSite]

/-- The values of an item lie inside with the item. -/
theorem within_of_value? {item : Item} (within : ∀ node ∈ item.inner, inside node)
    {value : Option Expr} (isValue : ∀ expr ∈ value, expr ∈ item.values) :
    ∀ node ∈ value.toList.flatMap Expr.sites, inside node := by
  intro node isNode
  obtain ⟨expr, isExpr, isNode⟩ := List.mem_flatMap.mp isNode
  have isSite : node ∈ item.values.flatMap Expr.sites :=
    List.mem_flatMap.mpr ⟨expr, isValue expr (Option.mem_toList.mp isExpr), isNode⟩
  exact within node (by simp [Item.inner, isSite])

/-- The written types of an item lie inside with the item. -/
theorem within_of_forms {item : Item} (within : ∀ node ∈ item.inner, inside node) :
    ∀ form ∈ item.forms, ∀ node ∈ form.nodes, inside node := by
  intro form isForm node isNode
  have isSite : node ∈ item.forms.flatMap TypeForm.nodes :=
    List.mem_flatMap.mpr ⟨form, isForm, isNode⟩
  exact within node (List.mem_append_right _ isSite)

/-! ### Parameters -/

/-- Declares a parameter whose type is known. -/
def declareParam (param : Param) (type : Ty) : Check Unit := do
  let symbol : Symbol :=
    { Symbol.plain (.node param.span.node) param.name.name .parameter (some param.name.span) with
      isMutable := param.isMutable }
  match <- bindLocal param.span.node symbol (.ofType (some type)) with
  | none => return
  | some (.duplicate _ previous) => Check.report (.duplicateParameter param.name previous.site)
  | some _ => Check.report (.localOutsideScope param.name)

/-- The type of a parameter comes from the signature, or from what is written when the
function has none. -/
theorem resolveParams_cons (types : List Ty) (param : Param) (rest : List Param) :
    resolveParams types (param :: rest) = (do
      declareParam param (<- types.head?.elim (Check.typeOf param.type) pure)
      resolveParams types.tail rest) := by
  cases types
  all_goals
    refine bind_congr fun type => (bind_congr fun outcome => ?_).trans (bind_assoc _ _ _).symm
    obtain _ | _ | _ := outcome <;> rfl

/-- A function without a body is resolved like one that does nothing. -/
theorem resolveFunction_eq (span : Span) (params : List Param) (body : Option Body) :
    resolveFunction span params body = (do
      let session <- get
      beginScope
      resolveParams ((session.facts.decls.find? span.node).elim [] fun symbol =>
        (session.knownOf symbol.id).params) params
      resolveStmts (body.elim [] Body.stmts)
      endScope span) := by
  refine bind_congr fun session => bind_congr fun _ => ?_
  cases session.facts.decls.find? span.node <;> cases body <;> rfl

-- the walks need their hypothesis only through each other
set_option linter.unusedSectionVars false

section Walks

variable (may : MayBind regime binds inside)

include may

/-! ### Frames and locals -/

theorem obeys_beginScope : regime.Obeys beginScope :=
  fun _ _ => .single (may.locals _ _)

theorem obeys_endScope (span : Span) : regime.Obeys (endScope span) := by
  refine .readAt fun session holds => ?_
  cases closed : session.table.endScope with
  | error _ => exact Check.obeys_report (may.report _) session holds
  | ok table =>
    unfold Table.endScope at closed
    split at closed
    · cases closed
    · cases closed
      exact .single (may.locals _ _)

theorem obeys_bindLocal {node : NodeId} {symbol : Symbol}
    (bound : binds node) (own : symbol.id = .node node) (known : SymbolType) :
    regime.Obeys (bindLocal node symbol known) := by
  refine .readAt fun session holds => ?_
  cases declared : session.table.declareLocal symbol with
  | error _ => exact .refl
  | ok table =>
    have placed : Trace regime.permits session ((Check.setTable table).run session).2 := by
      unfold Table.declareLocal at declared
      split at declared
      · cases declared
      · split at declared
        · cases declared
        · cases declared
          exact .single (may.locals _ _)
    refine placed.bind holds fun _ => .bind (Check.obeys_setKnown ?_) fun _ =>
      .bind (Check.obeys_recordDecl (may.declares _ _ bound own)) fun _ => .pure _
    rw [own]
    exact may.knows _ _ bound

theorem obeys_declareLocal {node : NodeId} {symbol : Symbol}
    (bound : binds node) (own : symbol.id = .node node) (name : Ident) (known : SymbolType) :
    regime.Obeys (declareLocal node name symbol known) := by
  refine .bind (obeys_bindLocal may bound own known) fun outcome => ?_
  split
  · exact .pure _
  · exact Check.obeys_report (may.report _)
  · exact Check.obeys_report (may.report _)

/-! ### Expressions -/

theorem obeys_resolveName {name : Ident}
    (isInside : inside name.span.node) : regime.Obeys (resolveName name) := by
  refine .read fun session => ?_
  cases session.table.resolve? name.name with
  | some symbol => exact .bind (Check.obeys_recordRef (may.refers _ _ isInside)) fun _ => .pure _
  | none => exact .bind (Check.obeys_report (may.report _)) fun _ => .pure _

theorem obeys_resolveValue {name : Ident}
    (isInside : inside name.span.node) : regime.Obeys (resolveValue name) := by
  refine .bind (obeys_resolveName may isInside) fun found => ?_
  cases found with
  | none => exact .pure _
  | some symbol =>
    simp only
    split
    · exact Check.obeys_report (may.report _)
    · exact .pure _

theorem obeys_resolveCallee {name : Ident}
    (isInside : inside name.span.node) : regime.Obeys (resolveCallee name) := by
  refine .read fun session => ?_
  simp only
  split
  · exact Check.obeys_recordRef (may.refers _ _ isInside)
  · exact .bind (obeys_resolveName may isInside) fun _ => .pure _

theorem obeys_resolveType (form : TypeForm)
    (within : ∀ node ∈ form.nodes, inside node) : regime.Obeys (resolveType form) :=
  .bind (Check.obeys_typeOf may.mayRead form within) fun _ => .pure _

mutual

theorem obeys_resolveExpr :
    (expr : Expr) -> (∀ node ∈ expr.sites, inside node) -> regime.Obeys (resolveExpr expr)
  | .literal _, _ | .bad _, _ => by
    unfold resolveExpr
    exact .pure _
  | .name name, within => by
    unfold resolveExpr
    exact obeys_resolveValue may (by simpa using within)
  | .binary _ left right _, within | .index left right _, within => by
    simp only [Expr.sites_binary, Expr.sites_index, List.forall_mem_cons,
      List.forall_mem_append] at within
    unfold resolveExpr
    exact .bind (obeys_resolveExpr left within.2.1) fun _ =>
      obeys_resolveExpr right within.2.2
  | .unary _ operand _, within | .addressOf operand _, within => by
    simp only [Expr.sites_unary, Expr.sites_addressOf, List.forall_mem_cons] at within
    unfold resolveExpr
    exact obeys_resolveExpr operand within.2
  | .call callee args _, within => by
    simp only [Expr.sites_call, List.forall_mem_cons] at within
    unfold resolveExpr
    exact .bind (obeys_resolveCallee may within.1) fun _ => obeys_resolveExprs args within.2.2
  | .callValue function args _, within => by
    simp only [Expr.sites_callValue, List.forall_mem_cons, List.forall_mem_append] at within
    unfold resolveExpr
    exact .bind (obeys_resolveExpr function within.2.1) fun _ =>
      obeys_resolveExprs args within.2.2
  | .field base path span, within => by
    simp only [Expr.sites_field, List.forall_mem_cons] at within
    unfold resolveExpr
    split
    · rename_i name
      have isInside : inside name.span.node := by simpa using within.2
      refine .bind (.read fun session => ?_) fun found => ?_
      · split <;> exact .pure _
      · cases found with
        | some symbol => exact Check.obeys_recordRef (may.refers _ _ isInside)
        | none => exact obeys_resolveValue may isInside
    · exact obeys_resolveExpr base within.2
  | .cast type operand _, within => by
    simp only [Expr.sites_cast, List.forall_mem_cons, List.forall_mem_append] at within
    unfold resolveExpr
    exact .bind (obeys_resolveExpr operand within.2.2) fun _ =>
      obeys_resolveType may type within.2.1
  | .array element items _, within => by
    simp only [Expr.sites_array, List.forall_mem_cons, List.forall_mem_append] at within
    unfold resolveExpr
    cases element with
    | some type =>
      exact .bind (obeys_resolveType may type (by simpa using within.2.1)) fun _ =>
        obeys_resolveExprs items within.2.2
    | none => exact obeys_resolveExprs items within.2.2
  | .load type operand _, within => by
    simp only [Expr.sites_load, List.forall_mem_cons, List.forall_mem_append] at within
    unfold resolveExpr
    exact .bind (obeys_resolveType may type within.2.1) fun _ =>
      obeys_resolveExpr operand within.2.2
  | .alloc type _, within => by
    simp only [Expr.sites_alloc, List.forall_mem_cons] at within
    unfold resolveExpr
    exact obeys_resolveType may type within.2

theorem obeys_resolveExprs : (exprs : List Expr) -> (∀ node ∈ Expr.sitesAll exprs, inside node) ->
    regime.Obeys (resolveExprs exprs)
  | [], _ => by
    unfold resolveExprs
    exact .pure _
  | expr :: rest, within => by
    simp only [Expr.sitesAll_cons, List.forall_mem_append] at within
    unfold resolveExprs
    exact .bind (obeys_resolveExpr expr within.1) fun _ => obeys_resolveExprs rest within.2

end

theorem obeys_resolveExpr? :
    (expr : Option Expr) -> (∀ node ∈ expr.toList.flatMap Expr.sites, inside node) ->
    regime.Obeys (resolveExpr? expr)
  | none, _ => .pure _
  | some expr, within => obeys_resolveExpr may expr (by simpa using within)

/-! ### Declarations inside bodies -/

theorem obeys_resolveBinding (kind : SymbolKind)
    (binding : BindingDecl) (bound : binds binding.span.node)
    (valueWithin : ∀ node ∈ binding.value.toList.flatMap Expr.sites, inside node)
    (typeWithin : ∀ node ∈ binding.type.toList.flatMap TypeForm.nodes, inside node) :
    regime.Obeys (resolveBinding kind binding) :=
  .bind (obeys_resolveExpr? may _ valueWithin) fun _ =>
    .bind (Check.obeys_typeOf? may.mayRead _ typeWithin) fun _ =>
    obeys_declareLocal may bound rfl _ _

theorem obeys_resolveConst (decl : ConstDecl) (bound : binds decl.span.node)
    (valueWithin : ∀ node ∈ decl.value.toList.flatMap Expr.sites, inside node)
    (typeWithin : ∀ node ∈ decl.type.toList.flatMap TypeForm.nodes, inside node) :
    regime.Obeys (resolveConst decl) := by
  refine .bind (obeys_resolveExpr? may _ valueWithin) fun _ =>
    .bind (Check.obeys_typeOf? may.mayRead _ typeWithin) fun _ => ?_
  cases decl.name with
  | none => exact .pure _
  | some name => exact obeys_declareLocal may bound rfl _ _

theorem obeys_localFields (fields : List FieldDecl)
    (within : ∀ field ∈ fields, ∀ node ∈ field.type.nodes, inside node) (index : Nat) :
    regime.Obeys (localFields index fields) := by
  induction fields generalizing index with
  | nil => exact .pure _
  | cons field rest inductionHypothesis =>
    obtain ⟨fieldWithin, restWithin⟩ := List.forall_mem_cons.mp within
    exact .bind (Check.obeys_typeOf may.mayRead _ fieldWithin) fun _ =>
      .bind (inductionHypothesis restWithin _) fun _ => .pure _

theorem obeys_resolveStruct (decl : StructDecl) (bound : binds decl.span.node)
    (within : ∀ field ∈ decl.fields, ∀ node ∈ field.type.nodes, inside node) :
    regime.Obeys (resolveStruct decl) := by
  unfold resolveStruct
  cases decl.name with
  | none => exact .pure _
  | some name =>
    refine .bind (obeys_declareLocal may bound rfl _ _) fun _ =>
      .bind (obeys_localFields may _ within _) fun _ => ?_
    exact fun _ _ => .single (may.struct _ _ bound)

/-! ### Statements -/

mutual

theorem obeys_resolveStmt :
    (stmt : Stmt) -> Binds binds inside stmt.parts -> regime.Obeys (resolveStmt stmt)
  | .block body span, bound => by
    simp only [Stmt.parts, binds_cons] at bound
    unfold resolveStmt
    exact .bind (obeys_beginScope may) fun _ => .bind (obeys_resolveStmts body bound.2) fun _ =>
      obeys_endScope may span
  | .expr value, bound => by
    simp only [Stmt.parts, binds_cons, forall_ownSites] at bound
    unfold resolveStmt
    exact obeys_resolveExpr may value (by simpa [Stmt.ownExprs] using bound.1.2.2.1)
  | .letIn binding, bound | .instr binding, bound => by
    simp only [Stmt.parts, binds_cons, forall_ownSites] at bound
    unfold resolveStmt
    exact obeys_resolveBinding may _ binding
      (by simpa [Stmt.ownDecls, Stmt.ownValues] using bound.1.1)
      bound.1.2.2.1 bound.1.2.2.2
  | .const decl, bound => by
    simp only [Stmt.parts, binds_cons, forall_ownSites] at bound
    unfold resolveStmt
    exact obeys_resolveConst may decl (by simpa [Stmt.ownDecls, Stmt.ownValues] using bound.1.1)
      bound.1.2.2.1 bound.1.2.2.2
  | .struct decl, bound => by
    simp only [Stmt.parts, binds_cons, forall_ownSites] at bound
    unfold resolveStmt
    refine obeys_resolveStruct may decl (by simpa [Stmt.ownDecls] using bound.1.1) ?_
    intro field isField node isNode
    refine bound.1.2.2.2 node (List.mem_flatMap.mpr ⟨field.type, ?_, isNode⟩)
    exact List.mem_map.mpr ⟨field, isField, rfl⟩
  | .assign target value _, bound | .write target value _, bound => by
    simp only [Stmt.parts, binds_cons, forall_ownSites, Stmt.ownExprs, List.flatMap_cons,
      List.flatMap_nil, List.append_nil, List.forall_mem_append] at bound
    unfold resolveStmt
    exact .bind (obeys_resolveExpr may target bound.1.2.2.1.1) fun _ =>
      obeys_resolveExpr may value bound.1.2.2.1.2
  | .cond test body bodySpan otherwise _, bound => by
    simp only [Stmt.parts, binds_cons, binds_append, forall_ownSites] at bound
    unfold resolveStmt
    exact .bind (obeys_resolveExpr may test (by simpa [Stmt.ownExprs] using bound.1.2.2.1))
      fun _ => .bind (obeys_beginScope may) fun _ =>
      .bind (obeys_resolveStmts body bound.2.1) fun _ =>
      .bind (obeys_endScope may bodySpan) fun _ => obeys_resolveStmt? otherwise bound.2.2
  | .whileLoop test body bodySpan _, bound => by
    simp only [Stmt.parts, binds_cons, forall_ownSites] at bound
    unfold resolveStmt
    exact .bind (obeys_resolveExpr may test (by simpa [Stmt.ownExprs] using bound.1.2.2.1))
      fun _ => .bind (obeys_beginScope may) fun _ =>
      .bind (obeys_resolveStmts body bound.2) fun _ => obeys_endScope may bodySpan
  | .loop body bodySpan _, bound => by
    simp only [Stmt.parts, binds_cons] at bound
    unfold resolveStmt
    exact .bind (obeys_beginScope may) fun _ => .bind (obeys_resolveStmts body bound.2) fun _ =>
      obeys_endScope may bodySpan
  | .forLoop first test after body bodySpan span, bound => by
    simp only [Stmt.parts, binds_cons, binds_append, forall_ownSites] at bound
    unfold resolveStmt
    exact .bind (obeys_beginScope may) fun _ =>
      .bind (obeys_resolveStmt? first bound.2.1.1) fun _ =>
      .bind (obeys_resolveExpr? may test bound.1.2.2.1) fun _ =>
      .bind (obeys_resolveStmt? after bound.2.1.2) fun _ =>
      .bind (obeys_beginScope may) fun _ => .bind (obeys_resolveStmts body bound.2.2) fun _ =>
      .bind (obeys_endScope may bodySpan) fun _ => obeys_endScope may span
  | .ret value _, bound => by
    simp only [Stmt.parts, binds_cons, forall_ownSites] at bound
    unfold resolveStmt
    exact obeys_resolveExpr? may value bound.1.2.2.1
  | .brk _, _ | .cont _, _ | .bad _, _ => by
    unfold resolveStmt
    exact .pure _

theorem obeys_resolveStmt? : (stmt : Option Stmt) -> Binds binds inside (Stmt.parts? stmt) ->
    regime.Obeys (resolveStmt? stmt)
  | none, _ => by
    unfold resolveStmt?
    exact .pure _
  | some stmt, bound => by
    unfold resolveStmt?
    exact obeys_resolveStmt stmt (by simpa [Stmt.parts?] using bound)

theorem obeys_resolveStmts : (body : List Stmt) -> Binds binds inside (Stmt.partsAll body) ->
    regime.Obeys (resolveStmts body)
  | [], _ => by
    unfold resolveStmts
    exact .pure _
  | stmt :: rest, bound => by
    simp only [Stmt.partsAll, binds_append] at bound
    unfold resolveStmts
    exact .bind (obeys_resolveStmt stmt bound.1) fun _ => obeys_resolveStmts rest bound.2

end

/-! ### Items -/

theorem obeys_declareParam {param : Param}
    (bound : binds param.span.node) (type : Ty) : regime.Obeys (declareParam param type) := by
  refine .bind (obeys_bindLocal may bound rfl _) fun outcome => ?_
  split
  · exact .pure _
  · exact Check.obeys_report (may.report _)
  · exact Check.obeys_report (may.report _)

theorem obeys_resolveParams (params : List Param) (bound : ∀ param ∈ params, binds param.span.node)
    (within : ∀ param ∈ params, ∀ node ∈ param.type.nodes, inside node) (types : List Ty) :
    regime.Obeys (resolveParams types params) := by
  induction params generalizing types with
  | nil => exact .pure _
  | cons param rest inductionHypothesis =>
    have later := inductionHypothesis
      (fun other isLater => bound other (List.mem_cons_of_mem _ isLater))
      (fun other isLater => within other (List.mem_cons_of_mem _ isLater)) types.tail
    rw [resolveParams_cons]
    refine .bind ?_ fun type =>
      .bind (obeys_declareParam may (bound param List.mem_cons_self) type) fun _ => later
    cases types with
    | cons type others => exact .pure type
    | nil => exact Check.obeys_typeOf may.mayRead _ (within param List.mem_cons_self)

theorem obeys_resolveFunction (span : Span)
    (params : List Param) (body : Option Body) (boundParams : ∀ param ∈ params, binds param.span.node)
    (within : ∀ param ∈ params, ∀ node ∈ param.type.nodes, inside node)
    (boundBody : ∀ stmts ∈ body.map Body.stmts, Binds binds inside (Stmt.partsAll stmts)) :
    regime.Obeys (resolveFunction span params body) := by
  have walked : regime.Obeys (resolveStmts (body.elim [] Body.stmts)) := by
    cases body with
    | none => exact .pure _
    | some body => exact obeys_resolveStmts may body.stmts (boundBody _ rfl)
  rw [resolveFunction_eq]
  exact .read fun session => .bind (obeys_beginScope may) fun _ =>
    .bind (obeys_resolveParams may params boundParams within _) fun _ =>
      .bind walked fun _ => obeys_endScope may span

theorem obeys_resolveItem (item : Item)
    (bound : ∀ node ∈ item.locals, binds node) (within : ∀ node ∈ item.sites, inside node) :
    regime.Obeys (resolveItem item) := by
  have boundParams : ∀ param ∈ item.params, binds param.span.node := by
    intro param isParam
    exact bound _ (List.mem_append_left _ (List.mem_map_of_mem isParam))
  have within : ∀ node ∈ item.inner, inside node := by
    intro node isInner
    refine within node ?_
    rw [Item.sites_eq]
    exact List.mem_append_right _ isInner
  have boundStmts := binds_of_item bound within
  have valueWithin (value : Option Expr) (isValue : ∀ expr ∈ value, expr ∈ item.values) :
      ∀ node ∈ value.toList.flatMap Expr.sites, inside node :=
    within_of_value? within isValue
  have paramWithin (params : List Param) (isForm : ∀ param ∈ params, param.type ∈ item.forms) :
      ∀ param ∈ params, ∀ node ∈ param.type.nodes, inside node :=
    fun param isParam => within_of_forms within _ (isForm param isParam)
  cases item with
  | function decl =>
    refine obeys_resolveFunction may _ _ _ boundParams (paramWithin _ fun param isParam => ?_) ?_
    · exact List.mem_append_left _ (List.mem_map.mpr ⟨param, isParam, rfl⟩)
    · intro stmts isBody
      cases written : decl.body with
      | none => simp [written] at isBody
      | some body =>
        simp only [written, Option.map_some, Option.mem_some_iff] at isBody
        simpa [Item.stmts, Item.body, written, isBody] using boundStmts
  | asm decl =>
    refine obeys_resolveFunction may _ _ _ boundParams (paramWithin _ fun param isParam => ?_) ?_
    · exact List.mem_append_left _ (List.mem_map.mpr ⟨param, isParam, rfl⟩)
    · intro _ impossible
      cases impossible
  | entry decl =>
    refine obeys_resolveStmt may _ (binds_cons.mpr ⟨⟨?_, ?_⟩, boundStmts⟩)
    · simp [Stmt.ownDecls, Stmt.ownValues]
    · simp [Stmt.ownSites, Stmt.ownDecls, Stmt.ownValues, Stmt.ownExprs, Stmt.allForms,
        Stmt.ownForms]
  | const decl =>
    exact obeys_resolveExpr? may _ (valueWithin _ fun _ isExpr => Option.mem_toList.mpr isExpr)
  | static decl =>
    exact obeys_resolveExpr? may _ (valueWithin _ fun _ isExpr => Option.mem_toList.mpr isExpr)
  | enum decl =>
    refine .forM _ fun variant isVariant => obeys_resolveExpr? may _ (valueWithin _ fun expr isExpr => ?_)
    exact List.mem_filterMap.mpr ⟨variant, isVariant, isExpr⟩
  | struct _ => exact .pure _
  | typeAlias _ => exact .pure _
  | stray stmt =>
    refine obeys_resolveStmt may stmt ?_
    simpa [Item.stmts, Stmt.partsAll] using boundStmts

end Walks

/-- The second pass resolves names and binds what the items declare inside. -/
theorem obeys_walk (may : MayBind regime binds inside)
    (bound : ∀ session, regime.holds session → ∀ item ∈ session.items, ∀ node ∈ item.locals,
      binds node)
    (within : ∀ session, regime.holds session → ∀ item ∈ session.items, ∀ node ∈ item.sites,
      inside node) : regime.Obeys walk := by
  refine .readAt fun session holds => ?_
  have obeys : regime.Obeys (session.items.forM resolveItem) :=
    .forM _ fun item isItem => obeys_resolveItem may item (bound session holds item isItem)
      (within session holds item isItem)
  refine (obeys session holds).bind holds fun _ => .read fun after => ?_
  simp only
  split
  · exact Check.obeys_report (may.report _)
  · exact .pure _

end UnitCheck.Resolve
