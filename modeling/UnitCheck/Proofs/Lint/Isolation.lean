import UnitCheck.Proofs.Session.Itemwise

/-!
# Control flow is looked at item by item

What is to be said about the control flow of an item depends on the item, on the strictness
that is asked for, on the types found inside the item and on the type of the item's own
symbol. Sessions that look the same from an item say the same about it.
-/

namespace UnitCheck.Lint

variable {one other : View}

/-! ### Expressions -/

mutual

theorem exprFindings_congr (site : Site) :
    (expr : Expr) -> (∀ node ∈ expr.sites, one.types.find? node = other.types.find? node) ->
    exprFindings one site expr = exprFindings other site expr
  | .addressOf operand span, same => by
    simp only [Expr.sites_addressOf, List.forall_mem_cons] at same
    simp only [exprFindings, addressFindings, same.2 _ operand.node_mem_sites,
      exprFindings_congr site operand same.2]
  | .load type operand span, same => by
    simp only [Expr.sites_load, List.forall_mem_cons, List.forall_mem_append] at same
    simp only [exprFindings, exprFindings_congr site operand same.2.2]
  | .binary _ left right _, same => by
    simp only [Expr.sites_binary, List.forall_mem_cons, List.forall_mem_append] at same
    simp only [exprFindings, exprFindings_congr site left same.2.1,
      exprFindings_congr site right same.2.2]
  | .unary _ operand _, same => by
    simp only [Expr.sites_unary, List.forall_mem_cons] at same
    simp only [exprFindings, exprFindings_congr site operand same.2]
  | .call _ args _, same => by
    simp only [Expr.sites_call, List.forall_mem_cons] at same
    simp only [exprFindings, exprsFindings_congr site args same.2.2]
  | .callValue function args _, same => by
    simp only [Expr.sites_callValue, List.forall_mem_cons, List.forall_mem_append] at same
    simp only [exprFindings, exprFindings_congr site function same.2.1,
      exprsFindings_congr site args same.2.2]
  | .field base _ _, same => by
    simp only [Expr.sites_field, List.forall_mem_cons] at same
    simp only [exprFindings, exprFindings_congr site base same.2]
  | .index base position _, same => by
    simp only [Expr.sites_index, List.forall_mem_cons, List.forall_mem_append] at same
    simp only [exprFindings, exprFindings_congr site base same.2.1,
      exprFindings_congr site position same.2.2]
  | .cast _ operand _, same => by
    simp only [Expr.sites_cast, List.forall_mem_cons, List.forall_mem_append] at same
    simp only [exprFindings, exprFindings_congr site operand same.2.2]
  | .array _ items _, same => by
    simp only [Expr.sites_array, List.forall_mem_cons, List.forall_mem_append] at same
    simp only [exprFindings, exprsFindings_congr site items same.2.2]
  | .alloc _ _, _ | .literal _, _ | .name _, _ | .bad _, _ => rfl

theorem exprsFindings_congr (site : Site) :
    (exprs : List Expr) ->
    (∀ node ∈ Expr.sitesAll exprs, one.types.find? node = other.types.find? node) ->
    exprsFindings one site exprs = exprsFindings other site exprs
  | [], _ => rfl
  | expr :: rest, same => by
    simp only [Expr.sitesAll_cons, List.forall_mem_append] at same
    simp only [exprsFindings, exprFindings_congr site expr same.1,
      exprsFindings_congr site rest same.2]

end

theorem exprFindings?_congr (site : Site) (expr : Option Expr)
    (same : ∀ node ∈ expr.toList.flatMap Expr.sites,
      one.types.find? node = other.types.find? node) :
    exprFindings? one site expr = exprFindings? other site expr := by
  cases expr with
  | none => rfl
  | some expr => exact exprFindings_congr site expr (by simpa using same)

/-! ### Statements -/

/-- Where the types of the expressions of a leaf statement are the same, so is what is to
be said about it. -/
theorem leafFindings_congr (site : Site) {stmt : Stmt} (leaf : stmt.isLeaf = true)
    (same : ∀ node ∈ stmt.sites, one.types.find? node = other.types.find? node) :
    stmtFindings one site stmt = stmtFindings other site stmt := by
  have inside : ∀ node ∈ stmt.ownExprs.flatMap Expr.sites,
      one.types.find? node = other.types.find? node := by
    rw [Stmt.sites_of_isLeaf leaf] at same
    simp only [Stmt.ownSites, List.forall_mem_append] at same
    exact same.1.2
  have optional (site : Site) {expr : Option Expr} (own : stmt.ownExprs = expr.toList) :
      exprFindings? one site expr = exprFindings? other site expr :=
    exprFindings?_congr site expr (own ▸ inside)
  cases stmt with
  | ret value span => simp only [stmtFindings, optional site rfl]
  | letIn binding => simp only [stmtFindings, optional site rfl]
  | const decl => simp only [stmtFindings, optional .outside rfl]
  | instr binding => simp only [stmtFindings, optional site rfl]
  | expr value => exact exprFindings_congr site value (by simpa [Stmt.ownExprs] using inside)
  | assign target value span | write target value span =>
    simp only [Stmt.ownExprs, List.flatMap_cons, List.flatMap_nil, List.append_nil,
      List.forall_mem_append] at inside
    simp only [stmtFindings, exprFindings_congr site target inside.1,
      exprFindings_congr site value inside.2]
  | brk | cont | struct | bad => rfl
  | block | cond | whileLoop | loop | forLoop => cases leaf

mutual

theorem stmtFindings_congr (strict : one.strict = other.strict) (site : Site) :
    (stmt : Stmt) -> (∀ node ∈ stmt.sites, one.types.find? node = other.types.find? node) ->
    stmtFindings one site stmt = stmtFindings other site stmt
  | .block body span, same => stmtsFindings_congr strict site body (by simpa using same)
  | .cond test body bodySpan otherwise span, same => by
    simp only [Stmt.sites_cond, List.forall_mem_append] at same
    simp only [stmtFindings, exprFindings_congr site test same.1.1,
      stmtsFindings_congr strict site body same.1.2,
      stmtFindings?_congr strict site otherwise same.2]
  | .whileLoop test body bodySpan span, same => by
    simp only [Stmt.sites_whileLoop, List.forall_mem_append] at same
    simp only [stmtFindings, exprFindings_congr site test same.1,
      stmtsFindings_congr strict site.loop body same.2]
  | .loop body bodySpan span, same =>
    stmtsFindings_congr strict site.loop body (by simpa using same)
  | .forLoop start test after body bodySpan span, same => by
    simp only [Stmt.sites_forLoop, List.forall_mem_append] at same
    simp only [stmtFindings, exprFindings?_congr site test same.1.1.1,
      stmtFindings?_congr strict site start same.1.1.2,
      stmtFindings?_congr strict site.loop after same.1.2,
      stmtsFindings_congr strict site.loop body same.2]
  | .ret _ _, same | .letIn _, same | .const _, same | .instr _, same | .expr _, same
  | .assign _ _ _, same | .write _ _ _, same | .brk _, same | .cont _, same | .struct _, same
  | .bad _, same => leafFindings_congr site rfl same

theorem stmtFindings?_congr (strict : one.strict = other.strict) (site : Site) :
    (stmt : Option Stmt) ->
    (∀ node ∈ stmt.toList.flatMap Stmt.sites, one.types.find? node = other.types.find? node) ->
    stmtFindings? one site stmt = stmtFindings? other site stmt
  | none, _ => rfl
  | some stmt, same => stmtFindings_congr strict site stmt (by simpa using same)

theorem stmtsFindings_congr (strict : one.strict = other.strict) (site : Site) :
    (body : List Stmt) ->
    (∀ node ∈ Stmt.sitesAll body, one.types.find? node = other.types.find? node) ->
    stmtsFindings one site body = stmtsFindings other site body
  | [], _ => rfl
  | stmt :: rest, same => by
    simp only [Stmt.sitesAll_cons, List.forall_mem_append] at same
    simp only [stmtsFindings, stmtFindings_congr strict site stmt same.1,
      stmtsFindings_congr strict site rest same.2, strict]

end

/-! ### Items -/

/-- What the last pass looks at in a session. -/
def viewOf (session : Session) : View := ⟨session.facts.exprs, session.options.strict⟩

theorem findings_eq (session : Session) : findings session =
    session.items.flatMap (itemFindings session (viewOf session)) ++
      stmtsFindings (viewOf session) .outside (strays session.items) := rfl

section Items

variable {outlook : Outlook} {first second : Session} (agree : Agree outlook first second)

include agree

theorem strict_viewOf : (viewOf first).strict = (viewOf second).strict := by
  unfold viewOf
  rw [agree.options]

theorem types_viewOf {nodes : List NodeId} (inside : ∀ node ∈ nodes, outlook.inside node) :
    ∀ node ∈ nodes, (viewOf first).types.find? node = (viewOf second).types.find? node :=
  fun node isNode => congrArg Entry.expr (agree.entries node (inside node isNode))

theorem owedResult?_congr (enclosed : Enclosed outlook first) (decl : FunctionDecl)
    (inside : outlook.inside decl.span.node) (steady : outlook.steady (.node decl.span.node)) :
    owedResult? first decl = owedResult? second decl := by
  have same : first.facts.decls.find? decl.span.node = second.facts.decls.find? decl.span.node :=
    congrArg Entry.decl (agree.entries _ inside)
  unfold owedResult?
  rw [← same]
  cases found : first.facts.decls.find? decl.span.node with
  | none => rfl
  | some symbol =>
    have own := ((enclosed.entries _ inside).decl symbol found).2
    simp only [agree.known symbol.id (own ▸ steady)]

/-- Sessions that look the same from an item say the same about it. -/
theorem itemFindings_congr (enclosed : Enclosed outlook first) (item : Item)
    (own : outlook.Anchors item) (inside : ∀ node ∈ item.inner, outlook.inside node) :
    itemFindings first (viewOf first) item = itemFindings second (viewOf second) item := by
  have types := types_viewOf agree inside
  have stmts : ∀ node ∈ Stmt.sitesAll item.stmts,
      (viewOf first).types.find? node = (viewOf second).types.find? node := by
    intro node isNode
    refine types node ?_
    simp only [Item.inner, List.mem_append, isNode, or_true, true_or]
  have values : ∀ node ∈ item.values.flatMap Expr.sites,
      (viewOf first).types.find? node = (viewOf second).types.find? node := by
    intro node isNode
    refine types node ?_
    simp only [Item.inner, List.mem_append, isNode, or_true, true_or]
  have strict := strict_viewOf agree
  cases item with
  | function decl =>
    have self := own decl.span.node List.mem_cons_self
    simp only [itemFindings]
    cases written : decl.body with
    | none => rfl
    | some body =>
      simp only [Item.stmts, Item.body, written] at stmts
      simp only [missingReturn?, owedResult?_congr agree enclosed decl self.1 self.2,
        stmtsFindings_congr strict .body body.stmts stmts]
  | entry decl => exact stmtsFindings_congr strict .body decl.body.stmts stmts
  | const decl | static decl => exact exprFindings?_congr .outside decl.value values
  | enum decl =>
    simp only [itemFindings]
    refine List.flatMap_congr fun variant isVariant => exprFindings?_congr .outside _ ?_
    intro node isNode
    obtain ⟨value, isValue, isSite⟩ := List.mem_flatMap.mp isNode
    refine values node (List.mem_flatMap.mpr ⟨value, ?_, isSite⟩)
    exact List.mem_filterMap.mpr ⟨variant, isVariant, Option.mem_toList.mp isValue⟩
  | asm | struct | typeAlias | stray => rfl

end Items

/-- Sessions that keep the same for all stray statements say the same about these. -/
theorem strayFindings_congr {first second : Session} (options : first.options = second.options)
    (items : List Item)
    (same : ∀ stmt, .stray stmt ∈ items → ∀ node ∈ stmt.sites,
      first.entry node = second.entry node) :
    stmtsFindings (viewOf first) .outside (strays items) =
      stmtsFindings (viewOf second) .outside (strays items) := by
  have strict : (viewOf first).strict = (viewOf second).strict := by
    unfold viewOf
    rw [options]
  have found : ∀ body : List Stmt, (∀ stmt ∈ body, .stray stmt ∈ items) →
      ∀ node ∈ Stmt.sitesAll body,
        (viewOf first).types.find? node = (viewOf second).types.find? node := by
    intro body isStray
    induction body with
    | nil => exact List.forall_mem_nil _
    | cons stmt rest inductionHypothesis =>
      obtain ⟨isFirst, isLater⟩ := List.forall_mem_cons.mp isStray
      rw [Stmt.sitesAll_cons]
      refine List.forall_mem_append.mpr ⟨fun node isSite => ?_, inductionHypothesis isLater⟩
      exact congrArg Entry.expr (same stmt isFirst node isSite)
  refine stmtsFindings_congr strict .outside _ (found _ fun stmt isStray => ?_)
  obtain ⟨item, isItem, strays⟩ := List.mem_filterMap.mp isStray
  cases item <;> cases strays
  exact isItem

end UnitCheck.Lint
