import Mathlib.Data.List.Flatten
import UnitCheck.Proofs.Declare.Refused

/-!
# What is reported where the name of a function is taken

The declaration of such a function is refused, and the passes behind the first one go on
without a symbol for it: they read its parameters anew and check its body as that of a
function that returns nothing. With another name, and without a result, the function is
declared. The checks of the two units are walked abreast, pass by pass: apart from the
refusal they report the same in the end (`codes_of_refused`).

What a refused function returns is lost on the way. So a function that may return a number
under another name is called to account for it where its name is taken
(`result_lost_when_refused`).
-/

namespace UnitCheck

variable {name : Ident} {before after : List Item} {item stand : Item} {symbol : Option Symbol}
  {known : SymbolType} {refusals owed : List String} {base one other : Session}

/-! ### Names behind other items -/

section Names

variable {declared : NodeId -> Prop} {items : List Item} {last : Session}

theorem Spread.of_sublist {fewer : List Item} (spread : Spread declared items)
    (sublist : List.Sublist fewer items) : Spread declared fewer where
  own item isItem := spread.own item (sublist.subset isItem)
  distinct := spread.distinct.sublist (sublist.flatMap Item.inner)
  apart item isItem := spread.apart item (sublist.subset isItem)

theorem Housed.of_subset {fewer : List Item} (housed : Housed declared items base)
    (subset : fewer ⊆ items) : Housed declared fewer base where
  locals := housed.locals
  frames := housed.frames
  globals := housed.globals
  items item isItem := housed.items item (subset isItem)

/-- Outside of all blocks names stand for global declarations. -/
theorem Housed.declared_of_resolveType? (housed : Housed declared items base) {called : String}
    {symbol : Symbol} (found : base.table.resolveType? called = some symbol) {node : NodeId}
    (own : symbol.id = .node node) : declared node := by
  have met := (housed.globals.resolveType? found).met
  rw [own] at met
  exact met.resolve_right List.not_mem_nil

/-- Visits that keep within their items leave what names stand for. -/
theorem Visited.namesAs {visit : Item -> Check Unit}
    (visited : Visited base visit Item.inner items last) (spread : Spread declared items)
    (housed : Housed declared items base) : NamesAs base last where
  types name := by rw [visited.table]
  known name symbol found := by
    cases own : symbol.id with
    | builtin number => rw [visited.builtin]
    | node node => rw [(visited.outside spread (housed.declared_of_resolveType? found own)).2]

end Names

/-! ### Parameters -/

namespace Resolve

/-- A new frame leaves what names stand for. -/
theorem namesAs_beginScope (session : Session) : NamesAs session (session.after beginScope) :=
  ⟨fun _ => rfl, fun _ _ _ => rfl⟩

/-- A local that is no type leaves what names stand for. -/
theorem namesAs_bindLocal {node : NodeId} {symbol : Symbol} (isValue : symbol.isType = false)
    (apart : ∀ called other, base.table.resolveType? called = some other → other.id ≠ symbol.id)
    (known : SymbolType) : NamesAs base ((bindLocal node symbol known).run base).2 := by
  unfold bindLocal
  rw [StateT.run_bind, StateT.run_get, pure_bind]
  cases declared : base.table.declareLocal symbol with
  | error error => exact .of_same rfl rfl
  | ok table =>
    have pushed : table = { base.table with locals := symbol :: base.table.locals } := by
      unfold Table.declareLocal at declared
      split at declared
      · cases declared
      · split at declared <;> cases declared
        rfl
    subst pushed
    refine ⟨fun called => ?_, fun called other found => ?_⟩
    · change Table.resolveType? { base.table with locals := symbol :: base.table.locals } called = _
      simp [Table.resolveType?, Table.global?, isValue]
    · change (((symbol.id, known) :: base.known).lookup other.id |>.getD _).type = _
      rw [List.lookup_cons, beq_false_of_ne (apart called other found)]
      rfl

/-- A parameter is no type, so names stand for what they do without it. -/
theorem namesAs_declareParam {param : Param}
    (apart : ∀ called symbol, base.table.resolveType? called = some symbol →
      symbol.id ≠ .node param.span.node) (type : Ty) :
    NamesAs base (base.after (declareParam param type)) := by
  refine NamesAs.bind (namesAs_bindLocal rfl apart _) fun refused session => ?_
  split
  · exact .of_same rfl rfl
  · exact .of_same rfl rfl
  · exact .of_same rfl rfl

/-- Where the function is refused its parameter types are read as they are declared, which is
no longer owed then. -/
theorem beside_resolveParams (params : List Param)
    (apart : ∀ called symbol, base.table.resolveType? called = some symbol →
      ∀ param ∈ params, symbol.id ≠ .node param.span.node)
    (within : ∀ param ∈ params, ∀ node ∈ param.type.nodes, node ∈ item.face)
    (outside : ∀ param ∈ params, param.span.node ∉ item.face) (names : NamesAs base one)
    (beside : Beside item name.name
      ⟨symbol, known, refusals, params.flatMap (base.misses ·.type) ++ owed⟩ one other) :
    Beside item name.name ⟨symbol, known, refusals, owed⟩ (one.after (resolveParams [] params))
      (other.after (resolveParams (params.map (·.type.meaning base.named)) params)) := by
  induction params generalizing one other with
  | nil => exact beside
  | cons param rest inductionHypothesis =>
    obtain ⟨isWithin, restWithin⟩ := List.forall_mem_cons.mp within
    obtain ⟨isOutside, restOutside⟩ := List.forall_mem_cons.mp outside
    have type := Check.typeOf_yields param.type one
    have codes := codes_typeOf param.type one
    have reads := NamesAs.of_reads (Check.reads_typeOf param.type one)
    rw [names.named] at type
    rw [names.misses] at codes
    rw [List.flatMap_cons, List.append_assoc] at beside
    have holds : (param.type.meaning base.named).Within
        (Outlook.apart item.face name.name).visible :=
      TypeForm.within_meaning (fun called => names.named ▸ beside.enclosed.within_named called)
        param.type
    have paid := beside.repay (glosses_typeOf isWithin one) codes
    have declared := paid.inStep (steps_declareParam trivial isOutside isOutside holds)
    have kept := namesAs_declareParam (fun called symbol found => apart called symbol
      (((names.trans reads).types called).symm.trans found) param List.mem_cons_self)
      (param.type.meaning base.named)
    have later := inductionHypothesis (fun called symbol found other isLater =>
      apart called symbol found other (List.mem_cons_of_mem _ isLater)) restWithin restOutside
      ((names.trans reads).trans kept) declared
    have outcome : one.after (resolveParams [] (param :: rest)) =
        (((Check.typeOf param.type).run one).2.after
          (declareParam param ((Check.typeOf param.type).run one).1)).after
            (resolveParams [] rest) := by
      unfold Session.after
      rw [resolveParams_cons]
      rfl
    rw [outcome, type, List.map_cons, resolveParams_cons]
    exact later

end Resolve

/-- A function and what stands in for it are resolved alike. -/
theorem StandsIn.resolveItem (stands : StandsIn name item stand) : ∃ body : Option Body,
    Resolve.resolveItem item = Resolve.resolveFunction item.span item.params body ∧
      Resolve.resolveItem stand = Resolve.resolveFunction item.span item.params body ∧
      body.elim [] Body.stmts = item.stmts := by
  cases stands with
  | @function decl =>
    refine ⟨decl.body, rfl, rfl, ?_⟩
    cases written : decl.body <;> simp [Item.stmts, Item.body, written]
  | asm => exact ⟨none, rfl, rfl, rfl⟩

/-- Either has no body to be typed, or both have the same one. -/
theorem StandsIn.checkBodyItem (stands : StandsIn name item stand) (all : List Typing.Global) :
    Typing.checkBodyItem all stand = Typing.checkBodyItem all item ∧
      (Typing.checkBodyItem all item = pure () ∨ Typing.checkBodyItem all item = (do
        Typing.checkStmts (Typing.demandGlobal all) (<- Typing.resultType item.span.node)
          item.stmts)) := by
  cases stands with
  | @function decl =>
    refine ⟨rfl, ?_⟩
    cases written : decl.body with
    | none => exact .inl (by simp [Typing.checkBodyItem, written])
    | some body =>
      exact .inr (by simp [Typing.checkBodyItem, Item.stmts, Item.body, Item.span, written])
  | asm => exact ⟨rfl, .inl rfl⟩

/-- Only the name of a function that is misplaced outside of all attributes is told. -/
theorem StandsIn.attributes (stands : StandsIn name item stand) :
    (Attributes.itemFindings item).map Finding.code =
      (Attributes.itemFindings stand).map Finding.code := by
  cases stands with
  | @function decl result =>
    have body (seen : List Attribute) :
        (Attributes.bodyProblem? seen decl).map Finding.code = (Attributes.bodyProblem? seen
          { decl with name := some name, result := result }).map Finding.code := by
      unfold Attributes.bodyProblem?
      cases seen.find? (·.name = "extern") <;> cases decl.body <;> rfl
    have toList (problem : Option Finding) :
        problem.toList.map Finding.code = (problem.map Finding.code).toList := by
      cases problem <;> rfl
    simp only [Attributes.itemFindings, Attributes.declFindings, List.map_append, Option.bind_some,
      toList, body]
  | asm => rfl

/-- Where nothing is owed as a result, the same is said of either body. -/
theorem StandsIn.itemFindings (stands : StandsIn name item stand)
    (owes : ∀ decl : FunctionDecl, decl.span.node = item.span.node →
      Lint.owedResult? one decl = none ∧ Lint.owedResult? other decl = none)
    (strict : (Lint.viewOf one).strict = (Lint.viewOf other).strict)
    (types : ∀ node ∈ Stmt.sitesAll item.stmts,
      (Lint.viewOf one).types.find? node = (Lint.viewOf other).types.find? node) :
    Lint.itemFindings one (Lint.viewOf one) item =
      Lint.itemFindings other (Lint.viewOf other) stand := by
  cases stands with
  | @function decl result =>
    simp only [Lint.itemFindings]
    cases written : decl.body with
    | none => rfl
    | some body =>
      simp only [Item.stmts, Item.body, written] at types
      have nothing := (owes decl rfl).1
      have nothingOther := (owes ⟨decl.attributes, some name, decl.params, result, some body,
        decl.span⟩ rfl).2
      simp only [Lint.missingReturn?, nothing, nothingOther,
        Lint.stmtsFindings_congr strict .body body.stmts types]
  | asm => rfl

namespace Refused

open Resolve

variable (refused : Refused name before after item stand)

include refused

/-- Behind its face the function has other nodes. -/
theorem outside : ∀ node ∈ item.params.map (·.span.node) ++ Stmt.sitesAll item.stmts,
    node ∉ item.face := by
  intro node isSite isFace
  have own : item.ownNode = [item.span.node] := by
    cases refused.stands <;> rfl
  have distinct := Item.nodup_sites_of_mem refused.distinct
    (List.mem_append_right before List.mem_cons_self)
  have inFace : node ∈ item.ownNode ∨ node ∈ item.forms.flatMap TypeForm.nodes := by
    rw [own, List.mem_singleton]
    exact List.mem_cons.mp isFace
  simp only [Item.sites, List.nodup_append, List.mem_append] at distinct isSite
  obtain ⟨⟨⟨⟨-, -, apartParams⟩, -, apartStmts⟩, -⟩, -, apartForms⟩ := distinct
  obtain isOwn | isForm := inFace
  · obtain isParam | isStmt := isSite
    · exact apartParams node isOwn node isParam rfl
    · exact apartStmts node (.inl isOwn) node isStmt rfl
  · refine apartForms node ?_ node isForm rfl
    tauto

/-- No name in an item is that of the function. -/
theorem calls_of_mem {other : Item} (isMember : other ∈ before ++ item :: after) :
    ∀ expr ∈ Stmt.exprs other.stmts ++ other.values,
      Calls (.apart item.face name.name) expr.parts :=
  fun expr isExpr part isPart called isName =>
    ⟨refused.unused.mentioned other isMember expr isExpr part isPart called isName, fun _ => trivial⟩

/-- Where the function is refused, resolving it finds what was owed. -/
theorem beside_resolveItem {symbol : Symbol}
    (apart : ∀ called other, base.table.resolveType? called = some other →
      ∀ param ∈ item.params, other.id ≠ .node param.span.node)
    (own : symbol.id = .node item.span.node)
    (params : known.params = item.params.map (·.type.meaning base.named))
    (names : NamesAs base one)
    (beside : Beside item name.name
      ⟨some symbol, known, refusals, item.params.flatMap (base.misses ·.type)⟩ one other) :
    Beside item name.name ⟨some symbol, known, refusals, []⟩ (one.after (resolveItem item))
      (other.after (resolveItem stand)) := by
  obtain ⟨body, resolves, resolvesOther, stmts⟩ := refused.stands.resolveItem
  have outside := refused.outside
  have undeclared : one.facts.decls.find? item.span.node = none := beside.undeclared
  have declared : other.facts.decls.find? item.span.node = some symbol := beside.declared
  have isKnown : (other.knownOf symbol.id).params =
      item.params.map (·.type.meaning base.named) := by
    rw [own, beside.known, params]
  have run (session : Session) : session.after (resolveFunction item.span item.params body) =
      (session.after beginScope).after (do
        resolveParams ((session.facts.decls.find? item.span.node).elim [] fun symbol =>
          (session.knownOf symbol.id).params) item.params
        resolveStmts (body.elim [] Body.stmts)
        endScope item.span) := by
    rw [resolveFunction_eq]
    rfl
  rw [resolves, resolvesOther, run, run, undeclared, declared, stmts]
  simp only [Option.elim_none, Option.elim_some, isKnown]
  have bound : Binds (· ∉ item.face) (· ∉ item.face) (Stmt.partsAll item.stmts) := by
    intro stmt isPart
    have inside : ∀ node ∈ stmt.ownSites, node ∉ item.face := fun node isSite =>
      outside node (List.mem_append_right _ (List.mem_flatMap.mpr ⟨stmt, isPart, isSite⟩))
    exact ⟨fun node isDecl => inside node (by simp [Stmt.ownSites, isDecl]), inside⟩
  have called : StmtsCall (.apart item.face name.name) (Stmt.partsAll item.stmts) :=
    fun stmt isPart expr isOwn => refused.calls_of_mem
      (List.mem_append_right before List.mem_cons_self) expr
      (List.mem_append_left _ (List.mem_flatMap.mpr ⟨stmt, isPart, isOwn⟩))
  have inner (ledger : Ledger) : (Pairing.beside item name.name ledger).Steps (do
      resolveStmts item.stmts
      endScope item.span) fun _ => True :=
    .bind (steps_resolveStmts trivial item.stmts bound called) fun _ _ => steps_endScope trivial _
  have opened := beside.inStep (steps_beginScope trivial)
  rw [← List.append_nil (item.params.flatMap _)] at opened
  have bindings := beside_resolveParams item.params apart refused.stands.face_of_param
    (fun param isParam => outside _ (List.mem_append_left _ (List.mem_map_of_mem isParam)))
    (names.trans (namesAs_beginScope one)) opened
  exact bindings.inStep (inner _)

/-- What the other items declare is looked at. -/
theorem own_of_other {other : Item} (isOther : other ∈ before ++ after) :
    ∀ node ∈ other.ownNode, (Outlook.apart item.face name.name).inside node ∧
      (Outlook.apart item.face name.name).steady (.node node) := by
  intro node isOwn
  have outside := refused.apart isOther node (by simp [Item.sites_eq, isOwn])
  exact ⟨outside, (Outlook.apart item.face name.name).steady_of_owns node outside⟩

omit refused in
/-- But for the function all items are other ones. -/
theorem other_of_ne {other : Item} (isMember : other ∈ before ++ item :: after)
    (differs : other ≠ item) : other ∈ before ++ after := by
  simpa [differs] using isMember

theorem inner_of_other {other : Item} (isOther : other ∈ before ++ after) :
    ∀ node ∈ other.inner, node ∉ item.face :=
  fun node isInner => refused.apart isOther node (by simp [Item.sites_eq, isInner])

/-- The other items are resolved in step. -/
theorem steps_others {others : List Item} (isOther : others ⊆ before ++ after)
    (ledger : Ledger) : (Pairing.beside item name.name ledger).Steps
      (others.forM resolveItem) fun _ => True := by
  refine .forM _ fun other isMember => ?_
  have inner := refused.inner_of_other (isOther isMember)
  exact steps_resolveItem trivial other (refused.own_of_other (isOther isMember))
    (fun node isLocal => inner node (other.locals_subset_inner isLocal)) inner
    (refused.calls_of_mem (subset_insert _ _ _ (isOther isMember)))

/-- Behind the second pass nothing is owed any more. -/
theorem beside_resolve {declared : NodeId -> Prop} {symbol : Symbol}
    (spread : Spread declared (before ++ item :: after))
    (housed : Housed declared (before ++ item :: after) one)
    (isUnit : one.items = before ++ item :: after)
    (isUnitOther : other.items = before ++ stand :: after)
    (own : symbol.id = .node item.span.node)
    (params : known.params = item.params.map (·.type.meaning one.named))
    (beside : Beside item name.name
      ⟨some symbol, known, refusals, item.params.flatMap (one.misses ·.type)⟩ one other) :
    Beside item name.name ⟨some symbol, known, refusals, []⟩ (one.after Resolve.walk)
      (other.after Resolve.walk) := by
  have isFirst : List.Sublist before (before ++ item :: after) := List.sublist_append_left _ _
  have spreadBefore := spread.of_sublist isFirst
  have housedBefore := housed.of_subset isFirst.subset
  have names := (visited_round spreadBefore housedBefore).1.namesAs spreadBefore housedBefore
  have apart : ∀ called other, one.table.resolveType? called = some other →
      ∀ param ∈ item.params, other.id ≠ .node param.span.node := by
    intro called other found param isParam same
    refine spread.apart item (List.mem_append_right before List.mem_cons_self) _ ?_
      (housed.declared_of_resolveType? found same)
    have isSite : param.span.node ∈ item.params.map (·.span.node) := List.mem_map_of_mem isParam
    simp [Item.inner, isSite]
  have walks (session : Session) : session.after Resolve.walk = session.after (do
      session.items.forM resolveItem
      let depth := (<- get).table.depth
      if depth ≠ 0 then Check.report (.scopesLeftOpen depth)) := rfl
  have first := beside.inStep (refused.steps_others (List.subset_append_left before after) _)
  have own := refused.beside_resolveItem apart own params names first
  have last := own.inStep (refused.steps_others (List.subset_append_right before after) _)
  have closed := last.inStep steps_closing
  rw [walks, walks, isUnit, isUnitOther, Check.forM_append, Check.forM_append]
  exact closed

/-! ### Typing -/

theorem globals_eq : Typing.globals (before ++ stand :: after) =
    Typing.globals (before ++ item :: after) := by
  unfold Typing.globals
  rw [List.filterMap_append, List.filterMap_append, List.filterMap_cons, List.filterMap_cons]
  cases refused.stands <;> rfl

theorem ownedGlobals : ∀ global ∈ Typing.globals (before ++ item :: after),
    Typing.OwnedGlobal (.apart item.face name.name) global := by
  intro global isGlobal
  obtain ⟨other, isMember, declares⟩ := List.mem_filterMap.mp isGlobal
  have isOther := other_of_ne isMember fun same => by
    subst same
    cases refused.stands <;> cases declares
  exact .of_item declares (refused.apart isOther)

omit refused in
theorem steady_of_proper (symbol : Symbol)
    (proper : (Outlook.apart item.face name.name).Proper symbol) :
    (Outlook.apart item.face name.name).steady symbol.id := by
  rintro node isHidden same
  have met := proper.met
  rw [same] at met
  exact met isHidden

omit refused in
/-- What is done at all items is done in step when it is at the function. -/
theorem inStep_items {outlook : Outlook} {pairing : Pairing outlook} {visit : Item -> Check Unit}
    (each : ∀ other ∈ before ++ after, pairing.Steps (visit other) fun _ => True)
    (own : pairing.InStep (visit item) (visit stand) fun _ => True) :
    pairing.InStep ((before ++ item :: after).forM visit) ((before ++ stand :: after).forM visit)
      fun _ => True := by
  obtain ⟨eachBefore, eachAfter⟩ := List.forall_mem_append.mp each
  rw [Check.forM_append, Check.forM_append]
  exact .bind (.forM _ eachBefore) fun _ _ => .bind own fun _ _ => .forM _ eachAfter

omit refused in
/-- One check knows of no function, and the other one of a function that returns nothing. -/
theorem declared_of_beside {symbol : Symbol} (own : symbol.id = .node item.span.node)
    (nothing : known.ReturnsNothing)
    (beside : Beside item name.name ⟨some symbol, known, refusals, owed⟩ one other) :
    one.facts.decls.find? item.span.node = none ∧
      other.facts.decls.find? item.span.node = some symbol ∧
      ∃ params convention variadic, (other.knownOf symbol.id).type =
        some (.function params .void convention variadic) := by
  obtain ⟨params, convention, variadic, isFunction⟩ := nothing
  refine ⟨beside.undeclared, beside.declared, params, convention, variadic, ?_⟩
  rw [own, beside.known, isFunction]

omit refused in
/-- The function returns nothing, as it does where it has no symbol. -/
theorem inStep_resultType {symbol : Symbol} (own : symbol.id = .node item.span.node)
    (nothing : known.ReturnsNothing) :
    (Pairing.beside item name.name ⟨some symbol, known, refusals, owed⟩).Steps
      (Typing.resultType item.span.node) (· = .void) := by
  refine .read fun one other beside => ?_
  obtain ⟨undeclared, declared, params, convention, variadic, isFunction⟩ :=
    declared_of_beside own nothing beside
  simp only [undeclared, declared, isFunction]
  exact Pairing.InStep.pure rfl one other beside

/-- Behind the third pass the checks are as far as they were. -/
theorem beside_typeCheck {symbol : Symbol} (own : symbol.id = .node item.span.node)
    (nothing : known.ReturnsNothing)
    (isUnit : one.items = before ++ item :: after)
    (isUnitOther : other.items = before ++ stand :: after)
    (beside : Beside item name.name ⟨some symbol, known, refusals, owed⟩ one other) :
    Beside item name.name ⟨some symbol, known, refusals, owed⟩ (one.after Typing.walk)
      (other.after Typing.walk) := by
  have fresh : Beside item name.name ⟨some symbol, known, refusals, owed⟩ (Typing.fresh one)
      (Typing.fresh other) :=
    ⟨beside.agree.showsAs ⟨rfl⟩ ⟨rfl⟩, beside.enclosed.showsAs ⟨rfl⟩, rfl, beside.undeclared,
      beside.declared, beside.known, beside.codes⟩
  have owned := refused.ownedGlobals
  have globals : (Pairing.beside item name.name ⟨some symbol, known, refusals, owed⟩).InStep
      (Typing.typeGlobals (before ++ item :: after)) (Typing.typeGlobals (before ++ stand :: after))
      fun _ => True := by
    unfold Typing.typeGlobals
    rw [refused.globals_eq]
    refine inStep_items (fun other isOther => ?_) ?_
    · have isGlobal : ∀ global ∈ Typing.global? other,
          global ∈ Typing.globals (before ++ item :: after) := fun global declares =>
        List.mem_filterMap.mpr ⟨other, subset_insert _ _ _ isOther, declares⟩
      exact Typing.steps_checkGlobalItem counts_beside owned steady_of_proper other isGlobal
        (refused.own_of_other isOther) fun node isFound =>
          refused.apart isOther node (Item.of_mem_founds isFound).1
    · cases refused.stands <;> exact .pure trivial
  have bodies : (Pairing.beside item name.name ⟨some symbol, known, refusals, owed⟩).InStep
      (Typing.typeBodies (before ++ item :: after)) (Typing.typeBodies (before ++ stand :: after))
      fun _ => True := by
    unfold Typing.typeBodies
    rw [refused.globals_eq]
    refine inStep_items (fun other isOther => ?_) ?_
    · exact Typing.steps_checkBodyItem counts_beside owned steady_of_proper other
        (refused.own_of_other isOther) (refused.inner_of_other isOther)
    · obtain ⟨same, idle | body⟩ :=
        refused.stands.checkBodyItem (Typing.globals (before ++ item :: after))
      · rw [same, idle]
        exact .pure trivial
      · rw [same, body]
        refine .bind (inStep_resultType own nothing) fun result isVoid => ?_
        subst isVoid
        exact Typing.steps_checkStmts counts_beside owned steady_of_proper (Typing.holds_prim _)
          item.stmts fun node isSite => refused.outside node (List.mem_append_right _ isSite)
  rw [Typing.after_walk, Typing.after_walk, isUnit, isUnitOther]
  exact (fresh.inStep globals).inStep bodies

/-! ### Attributes and control flow -/

omit refused in
/-- What is found at all items bears the same codes when it does at the function. -/
theorem codes_items {found foundOther : Item -> List Finding}
    (each : ∀ other ∈ before ++ after, found other = foundOther other)
    (own : (found item).map Finding.code = (foundOther stand).map Finding.code) :
    ((before ++ item :: after).flatMap found).map Finding.code =
      ((before ++ stand :: after).flatMap foundOther).map Finding.code := by
  obtain ⟨eachBefore, eachAfter⟩ := List.forall_mem_append.mp each
  simp only [List.flatMap_append, List.flatMap_cons, List.map_append, own,
    List.flatMap_congr eachBefore, List.flatMap_congr eachAfter]

theorem beside_attributes {ledger : Ledger} (isUnit : one.items = before ++ item :: after)
    (isUnitOther : other.items = before ++ stand :: after)
    (beside : Beside item name.name ledger one other) :
    Beside item name.name ledger (one.after Pass.attributes.walk)
      (other.after Pass.attributes.walk) := by
  rw [after_attributes, after_attributes, isUnit, isUnitOther]
  exact beside.report (codes_items (fun _ _ => rfl) refused.stands.attributes)

theorem beside_lint {symbol : Symbol} (own : symbol.id = .node item.span.node)
    (nothing : known.ReturnsNothing)
    (isUnit : one.items = before ++ item :: after)
    (isUnitOther : other.items = before ++ stand :: after)
    (beside : Beside item name.name ⟨some symbol, known, refusals, owed⟩ one other) :
    Beside item name.name ⟨some symbol, known, refusals, owed⟩ (one.after Pass.lint.walk)
      (other.after Pass.lint.walk) := by
  have owes (decl : FunctionDecl) (same : decl.span.node = item.span.node) :
      Lint.owedResult? one decl = none ∧ Lint.owedResult? other decl = none := by
    obtain ⟨undeclared, declared, params, convention, variadic, isFunction⟩ :=
      declared_of_beside own nothing beside
    unfold Lint.owedResult?
    rw [same, undeclared, declared]
    refine ⟨rfl, ?_⟩
    simp only [isFunction]
    rfl
  have strays : Lint.strays (before ++ stand :: after) = Lint.strays (before ++ item :: after) := by
    unfold Lint.strays
    rw [List.filterMap_append, List.filterMap_append, List.filterMap_cons, List.filterMap_cons]
    cases refused.stands <;> rfl
  have astray : Lint.stmtsFindings (Lint.viewOf one) .outside
        (Lint.strays (before ++ item :: after)) =
      Lint.stmtsFindings (Lint.viewOf other) .outside
        (Lint.strays (before ++ item :: after)) := by
    refine Lint.strayFindings_congr beside.agree.options _ fun stmt isStray node isSite =>
      beside.agree.entries node ?_
    have isOther := other_of_ne isStray fun same => by
      cases same ▸ refused.stands
    refine refused.inner_of_other isOther node ?_
    have inStmts : node ∈ Stmt.sitesAll (Item.stray stmt).stmts := by
      simpa [Item.stmts] using isSite
    simp only [Item.inner, List.mem_append, inStmts, or_true, true_or]
  rw [after_lint, after_lint]
  refine beside.report ?_
  rw [Lint.findings_eq, Lint.findings_eq, isUnit, isUnitOther, strays, List.map_append,
    List.map_append, astray]
  congr 1
  refine codes_items (fun other isOther => ?_) (congrArg (List.map Finding.code) ?_)
  · exact Lint.itemFindings_congr beside.agree beside.enclosed other (refused.own_of_other isOther)
      (refused.inner_of_other isOther)
  · exact refused.stands.itemFindings owes (Lint.strict_viewOf beside.agree)
      (Lint.types_viewOf beside.agree fun node isSite =>
        refused.outside node (List.mem_append_right _ isSite))

/-! ### The whole check -/

/-- Behind all passes the checks have found the same but for the refusal. -/
theorem codes_check {unit unitOther : Module} (isUnit : unit.items = before ++ item :: after)
    (isUnitOther : unitOther.items = before ++ stand :: after)
    (sameFile : unit.file = unitOther.file) (options : Options) :
    (Session.check (some unit) options).codes.Perm
      (["R0002"] ++ (Session.check (some unitOther) options).codes) := by
  obtain ⟨start, scope, typeCheck, attributes, lint, last, -⟩ := check_walks (some unit) options
  obtain ⟨startOther, scopeOther, typeCheckOther, attributesOther, lintOther, lastOther, -⟩ :=
    check_walks (some unitOther) options
  have items (pass : Pass) : (Session.ahead (some unit) options pass).items =
      before ++ item :: after := (items_ahead (some unit) options pass).trans isUnit
  have itemsOther (pass : Pass) : (Session.ahead (some unitOther) options pass).items =
      before ++ stand :: after := (items_ahead (some unitOther) options pass).trans isUnitOther
  obtain ⟨symbol, known, own, nothing, params, declared⟩ :=
    refused.beside_walk isUnit isUnitOther sameFile start startOther
  have names := (NamesAs.of_same scope.table scope.known).symm.trans
    (declared.agree.namesAs declared.enclosed)
  rw [names.misses] at declared
  rw [names.named] at params
  have housed := (Declare.housed_walk (isUnit ▸ refused.distinct) start).showsAs scope.showsAs
  rw [isUnit] at housed
  have resolved := refused.beside_resolve (spread_of_nodup refused.distinct) housed (items .scope)
    (itemsOther .scope) own params (declared.alike scope scopeOther)
  have typed := refused.beside_typeCheck own nothing (items .typeCheck) (itemsOther .typeCheck)
    (resolved.alike typeCheck typeCheckOther)
  have attributed := refused.beside_attributes (items .attributes) (itemsOther .attributes)
    (typed.alike attributes attributesOther)
  have linted := refused.beside_lint own nothing (items .lint) (itemsOther .lint)
    (attributed.alike lint lintOther)
  exact (linted.alike last lastOther).settled

end Refused

/-! ### Renaming a refused function -/

section Renaming

variable {ident : Ident}

/-- A function that returns nothing stands in for itself under another name. -/
theorem StandsIn.rename (isNamed : item.functionName? = some ident) (nothing : item.ReturnsNothing)
    (name : String) : StandsIn ⟨name, ident.span⟩ item (item.rename name) := by
  have quiet : item.result? = none ∨
      item.result? = item.result? ∧ ∃ span, item.result? = some (.named "void" span) :=
    nothing.imp_right fun written => ⟨rfl, written⟩
  cases item with
  | function decl =>
    have named : decl.name = some ident := isNamed
    rw [Item.rename, named]
    exact .function quiet
  | asm decl =>
    have named : decl.name = some ident := isNamed
    rw [Item.rename, named]
    exact .asm quiet
  | _ => cases isNamed

/-- Under another name and without its result a function stands in for itself. -/
theorem StandsIn.withoutResult (isNamed : item.functionName? = some ident) (name : String) :
    StandsIn ⟨name, ident.span⟩ item (item.rename name).withoutResult := by
  cases item with
  | function decl =>
    have named : decl.name = some ident := isNamed
    rw [Item.rename, named]
    exact .function (.inl rfl)
  | asm decl =>
    have named : decl.name = some ident := isNamed
    rw [Item.rename, named]
    exact .asm (.inl rfl)
  | _ => cases isNamed

/-- The name of a function that is refused is taken. -/
theorem Declare.taken_of_refusal? (isNamed : item.functionName? = some ident)
    (isRefused : (refusal? before item).isSome) :
    (globalNamed? before .function ident.name).isSome := by
  obtain ⟨header, isHeader, named, space⟩ : ∃ header, header? item = some header ∧
      header.name = some ident ∧ (symbolKind header.kind).space = .function := by
    cases item with
    | function decl => exact ⟨_, rfl, isNamed, rfl⟩
    | asm decl => exact ⟨_, rfl, isNamed, rfl⟩
    | _ => cases isNamed
  obtain ⟨sameName, sameKind⟩ := symbolOf_fields item header ident
  have offers : offered? item = some (symbolOf item header ident) := by
    rw [offered?_of_header isHeader named, isType_of_function space]
    rfl
  rw [refusal?_of_header isHeader, named] at isRefused
  simp only [offers, sameName, sameKind, space, Option.isSome_map] at isRefused
  exact isRefused

end Renaming

/-- With the function that stands in, the findings are the same but for the refusal. -/
theorem Refused.codes_bag {ident : Ident} {stand : Item}
    (refused : Refused ident before after item stand) {unit : Module}
    (isUnit : unit.items = before ++ item :: after) (options : Options) :
    (Session.check (some unit) options).bag.codes.Perm
      ("R0002" :: (Session.check (some { unit with items := before ++ stand :: after })
        options).bag.codes) := by
  have isOther : { unit with items := before ++ stand :: after }.items = before ++ stand :: after :=
    rfl
  have same := refused.codes_check isUnit isOther rfl options
  rw [List.singleton_append] at same
  rwa [Session.codes_bag, Session.codes_bag]

/-- Where a function of a decoded unit is refused because its name is taken, it is checked as
one that returns nothing: under a name that is used nowhere else and without its result it is
declared, and the same is found but for the refusal. If it returns nothing anyway, the new
name is enough. -/
theorem codes_of_refused {file text name : String} {unit : Module} {ident : Ident}
    (read : Module.decode file text = .ok unit) (isUnit : unit.items = before ++ item :: after)
    (isNamed : item.functionName? = some ident) (isRefused : (Declare.refusal? before item).isSome)
    (unused : UnusedName name unit.items) (options : Options) :
    (Session.check (some unit) options).bag.codes.Perm
        ("R0002" :: (Session.check
          (some { unit with items := before ++ (item.rename name).withoutResult :: after })
          options).bag.codes) ∧
      (item.ReturnsNothing →
        (Session.check (some unit) options).bag.codes.Perm
          ("R0002" :: (Session.check
            (some { unit with items := before ++ item.rename name :: after })
            options).bag.codes)) := by
  have taken := Declare.taken_of_refusal? isNamed isRefused
  have refused {stand : Item} (stands : StandsIn ⟨name, ident.span⟩ item stand) :
      Refused ⟨name, ident.span⟩ before after item stand :=
    ⟨isUnit ▸ Module.nodup_sites read, stands, ⟨ident, isNamed, taken⟩, isUnit ▸ unused⟩
  constructor
  · have stands := StandsIn.withoutResult isNamed name
    exact (refused stands).codes_bag isUnit options
  · intro nothing
    have stands := StandsIn.rename isNamed nothing name
    exact (refused stands).codes_bag isUnit options

/-- A function that is called `f` and returns nothing. -/
def earlierDecl : FunctionDecl :=
  ⟨[], some ⟨"f", .ofLine 4 5⟩, [], some (.named "void" (.ofLine 9 13)), some ⟨[], .ofLine 14 21⟩,
    .ofLine 0 22⟩

/-- A function behind the other one that returns a number, whatever result is written for it
up to a place. -/
def laterDecl (name result : String) (place : Nat) : FunctionDecl :=
  ⟨[], some ⟨name, .ofLine 27 28⟩, [], some (.named result (.ofLine 32 place)),
    some ⟨[.ret (some (.literal ⟨.integer, "1", .ofLine (place + 16) (place + 17)⟩))
      (.ofLine (place + 8) (place + 18))], .ofLine (place + 1) (place + 19)⟩,
    .ofLine 23 (place + 20)⟩

/-- A unit that consists of the two functions. -/
def twoFunctions (name result : String) (place : Nat) : Module :=
  ⟨"unit", [.function earlierDecl, .function (laterDecl name result place)],
    some (.ofLine 0 (place + 20))⟩

/-- A function without a result may be called `g` as well: what it returns is reported either
way. -/
theorem codes_of_refused_void :
    Module.decode "unit" "(fn f () void (block)) (fn f () void (block (return 1)))" =
        .ok (twoFunctions "f" "void" 36) ∧
      Module.decode "unit" "(fn f () void (block)) (fn g () void (block (return 1)))" =
        .ok (twoFunctions "g" "void" 36) ∧
      (Session.check (some (twoFunctions "g" "void" 36)) .standard).bag.codes = ["T0011"] ∧
      (Session.check (some (twoFunctions "f" "void" 36)) .standard).bag.codes.Perm
        ["R0002", "T0011"] := by
  have read : Module.decode "unit" "(fn f () void (block)) (fn f () void (block (return 1)))" =
      .ok (twoFunctions "f" "void" 36) := Module.decode_chars (by cbv)
  have codes : (Session.check (some (twoFunctions "g" "void" 36)) .standard).bag.codes =
      ["T0011"] := by decide +kernel
  have isUnit : (twoFunctions "f" "void" 36).items =
    [.function earlierDecl] ++ .function (laterDecl "f" "void" 36) :: [] := rfl
  have unused : UnusedName "g" (twoFunctions "f" "void" 36).items := by
    refine ⟨by decide, by decide, ?_⟩
    decide
  obtain ⟨-, renamed⟩ := codes_of_refused read isUnit rfl rfl unused .standard
  have same := renamed (.inr ⟨_, rfl⟩)
  exact ⟨read, Module.decode_chars (by cbv), codes, codes ▸ same⟩

/-- A function that is refused loses its result: it is called to account for returning a
value, which it may do under another name. -/
theorem result_lost_when_refused :
    Module.decode "unit" "(fn f () void (block)) (fn f () s32 (block (return 1)))" =
        .ok (twoFunctions "f" "s32" 35) ∧
      Module.decode "unit" "(fn f () void (block)) (fn g () s32 (block (return 1)))" =
        .ok (twoFunctions "g" "s32" 35) ∧
      (Session.check (some (twoFunctions "f" "s32" 35)) .standard).bag.codes =
        ["R0002", "T0011"] ∧
      (Session.check (some (twoFunctions "g" "s32" 35)) .standard).bag.codes = [] ∧
      ¬(Session.check (some (twoFunctions "f" "s32" 35)) .standard).bag.codes.Perm
        ("R0002" :: (Session.check (some (twoFunctions "g" "s32" 35)) .standard).bag.codes) := by
  have refused : (Session.check (some (twoFunctions "f" "s32" 35)) .standard).bag.codes =
      ["R0002", "T0011"] := by decide +kernel
  have renamed : (Session.check (some (twoFunctions "g" "s32" 35)) .standard).bag.codes = [] := by
    decide +kernel
  refine ⟨Module.decode_chars (by cbv), Module.decode_chars (by cbv), refused, renamed, ?_⟩
  rw [refused, renamed]
  decide

end UnitCheck
