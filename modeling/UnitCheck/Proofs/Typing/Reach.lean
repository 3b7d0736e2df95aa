import UnitCheck.Proofs.Declare.Isolation
import UnitCheck.Proofs.Resolve.Lockstep
import UnitCheck.Proofs.Typing.Isolation

/-!
# Where an assignment is typed

Behind the globals every part of a body is typed within its own nodes. So an assignment
inside a body is typed from a session in which nothing has been done at its nodes yet, and
what is left there stays until the end. `Confined` says of a walk that it changes no more
than the nodes it is given, and `Reaches` that a walk comes to an inner one this way.
-/

namespace UnitCheck

/-!
### What bodies are typed from

Whatever is found in a decoded unit, its bodies are typed from a session in which every
item sees global declarations and its own ones only, all globals have been gone through,
and nothing inside a statement has been typed. What the check has found out in the end
about types is what typing the bodies leaves behind.
-/

/-- No expression has a type and no field access its hops. -/
def pristine : Regime where
  holds session := session.facts.exprs = [] ∧ session.facts.members = []
  permits
    | .typed _ _ | .hops _ _ => False
    | _ => True
  stable act session permitted holds := by
    cases act <;> first | exact holds | exact permitted.elim

theorem pristine_of_facts {before after : Session} (same : after.facts = before.facts)
    (holds : pristine.holds before) : pristine.holds after := by
  change after.facts.exprs = [] ∧ after.facts.members = []
  rw [same]
  exact holds

theorem mayDeclare_pristine : Declare.MayDeclare pristine fun _ => True where
  report _ := trivial
  written _ _ _ := trivial
  refers _ _ _ := trivial
  say _ := trivial
  declares _ _ _ := trivial
  knows _ _ := trivial
  settles _ _ := trivial
  global _ := trivial
  struct _ _ := trivial
  enum _ _ := trivial

theorem mayBind_pristine : Resolve.MayBind pristine (fun _ => True) fun _ => True where
  report _ := trivial
  written _ _ _ := trivial
  refers _ _ _ := trivial
  declares _ _ _ _ := trivial
  knows _ _ _ := trivial
  locals _ _ := trivial
  struct _ _ _ := trivial

/-- Nothing has been found out about the type of a node. -/
structure Session.Untouched (session : Session) (node : NodeId) : Prop where
  expr : (session.entry node).expr = none
  members : (session.entry node).members = none

theorem untouched_of_pristine {session : Session} (holds : pristine.holds session)
    (node : NodeId) : session.Untouched node := by
  obtain ⟨exprs, members⟩ := holds
  refine ⟨?_, ?_⟩
  · change session.facts.exprs.find? node = none
    rw [exprs]
    rfl
  · change session.facts.members.find? node = none
    rw [members]
    rfl

namespace Typing

/-- The session is one from which the bodies of the items are typed. -/
structure Ready (declared : NodeId -> Prop) (items : List Item) (session : Session) : Prop where
  housed : Housed declared items session
  checked : ∀ global ∈ globals items, global.node ∈ session.checked
  untouched : ∀ item ∈ items, ∀ node ∈ Stmt.sitesAll item.stmts, session.Untouched node

/-- An item with statements has no nodes that are typed ahead of bodies. -/
theorem not_founds_of_stmts {declared : NodeId -> Prop} {items : List Item}
    (spread : Spread declared items) {item : Item} (isItem : item ∈ items) {node : NodeId}
    (isSite : node ∈ Stmt.sitesAll item.stmts) : node ∉ items.flatMap Item.founds := by
  intro isFound
  obtain ⟨other, isOther, isFound⟩ := List.mem_flatMap.mp isFound
  have isInner : node ∈ item.inner := by
    simp only [Item.inner, List.mem_append, isSite, or_true, true_or]
  have inOther := (Item.of_mem_founds isFound).1
  rw [Item.sites_eq] at inOther
  obtain isOwn | isOtherInner := List.mem_append.mp inOther
  · exact spread.apart item isItem node isInner (spread.own other isOther node isOwn)
  · obtain rfl := Item.eq_of_mem_nodes spread.distinct isItem isOther isInner isOtherInner
    cases item <;> first | cases isSite | cases isFound

/-- Behind the globals the bodies can be typed. -/
theorem ready_typeGlobals {declared : NodeId -> Prop} {items : List Item} {base : Session}
    (spread : Spread declared items) (housed : Housed declared items base)
    (holds : pristine.holds base) : Ready declared items (base.after (typeGlobals items)) := by
  refine ⟨housed_typeGlobals spread housed, mem_checked_typeGlobals base,
    fun item isItem node isSite => ?_⟩
  have agree : Agree (.founded declared items) base base :=
    ⟨rfl, rfl, fun _ _ _ => rfl, rfl, rfl, fun _ _ => rfl, fun _ _ => rfl⟩
  have spared := (since_typeGlobals spread agree (.founded spread housed) rfl).spared
  have same := (spared node (not_founds_of_stmts spread isItem isSite)).1
  have untouched := untouched_of_pristine holds node
  refine ⟨?_, ?_⟩
  · rw [same, untouched.expr]
  · rw [same, untouched.members]

/-- The facts of a check of a decoded unit are those that typing the bodies leaves behind. -/
theorem check_ready {file text : String} {unit : Module}
    (read : Module.decode file text = .ok unit) (options : Options) :
    ∃ base, Ready (· ∈ unit.items.flatMap Item.ownNode) unit.items base ∧
      ∃ findings passes progress, Session.check (some unit) options =
        (base.after (typeBodies unit.items)).retold
          ((base.after (typeBodies unit.items)).findings ++ findings) passes progress := by
  obtain ⟨declare, scope, typeCheck, first, second, third, findings, passes, progress, last⟩ :=
    check_typed (some unit) options
  have spread := spread_of_decode read
  have itemsScope : scope.items = unit.items := by
    rw [second.items]
    exact (items_after_walk .declare declare).trans first.items
  have itemsTyped : typeCheck.items = unit.items := by
    rw [third.items]
    exact (items_after_walk .scope scope).trans itemsScope
  have declaring : Trace pristine.permits declare (declare.after Declare.walk) :=
    Declare.obeys_walk mayDeclare_pristine (fun _ _ _ _ _ _ => trivial) declare
      (pristine_of_facts first.facts ⟨rfl, rfl⟩)
  have resolving : pristine.holds scope :=
    pristine_of_facts second.facts (declaring.holds (pristine_of_facts first.facts ⟨rfl, rfl⟩))
  have resolved : Trace pristine.permits scope (scope.after Resolve.walk) :=
    Resolve.obeys_walk mayBind_pristine (fun _ _ _ _ _ _ => trivial) (fun _ _ _ _ _ _ => trivial)
      scope resolving
  have housedScope := (Declare.housed_walk (Module.nodup_sites read) first).showsAs second.showsAs
  have housed : Housed _ unit.items (fresh typeCheck) :=
    ((Resolve.housed_walk spread housedScope itemsScope).showsAs third.showsAs).showsAs ⟨rfl⟩
  have holds : pristine.holds (fresh typeCheck) :=
    pristine_of_facts third.facts (resolved.holds resolving)
  refine ⟨_, ready_typeGlobals spread housed holds, findings, passes, progress, ?_⟩
  rw [last, after_walk, itemsTyped]

end Typing

/-! ### Where an assignment is typed -/

namespace Outlook

/-- The outlook with fewer nodes that may be written to. -/
def narrow (outlook : Outlook) (nodes : List NodeId) (owned : ∀ node ∈ nodes, outlook.owns node) :
    Outlook where
  inside := outlook.inside
  visible := outlook.visible
  owns node := node ∈ nodes
  steady := outlook.steady
  calls := outlook.calls
  asks := outlook.asks
  asks_of_isType := outlook.asks_of_isType
  opens := outlook.opens
  inside_of_visible := outlook.inside_of_visible
  inside_of_owns node isNode := outlook.inside_of_owns node (owned node isNode)
  steady_of_owns node isNode := outlook.steady_of_owns node (owned node isNode)

variable {outlook : Outlook} {nodes : List NodeId} {owned : ∀ node ∈ nodes, outlook.owns node}
  {session : Session}

theorem proper_narrow {symbol : Symbol} :
    (outlook.narrow nodes owned).Proper symbol ↔ outlook.Proper symbol :=
  ⟨fun proper => ⟨proper.met, proper.steady⟩, fun proper => ⟨proper.met, proper.steady⟩⟩

theorem fits_narrow {node : NodeId} {entry : Entry} :
    (outlook.narrow nodes owned).Fits node entry ↔ outlook.Fits node entry := by
  constructor
  · exact fun fits => ⟨fits.expr, fits.form,
      fun symbol found => (fits.ref symbol found).imp_left proper_narrow.mp,
      fun symbol found => (fits.decl symbol found).imp_left proper_narrow.mp, fits.struct, fits.enum⟩
  · exact fun fits => ⟨fits.expr, fits.form,
      fun symbol found => (fits.ref symbol found).imp_left proper_narrow.mpr,
      fun symbol found => (fits.decl symbol found).imp_left proper_narrow.mpr, fits.struct,
      fits.enum⟩

/-- What may be met does not depend on what may be written to. -/
theorem enclosed_narrow :
    Enclosed (outlook.narrow nodes owned) session ↔ Enclosed outlook session := by
  constructor
  · exact fun enclosed => ⟨fun symbol isGlobal => proper_narrow.mp (enclosed.globals symbol isGlobal),
      fun symbol isLocal => proper_narrow.mp (enclosed.locals symbol isLocal), enclosed.known,
      fun node inside => fits_narrow.mp (enclosed.entries node inside)⟩
  · exact fun enclosed => ⟨fun symbol isGlobal => proper_narrow.mpr (enclosed.globals symbol isGlobal),
      fun symbol isLocal => proper_narrow.mpr (enclosed.locals symbol isLocal), enclosed.known,
      fun node inside => fits_narrow.mpr (enclosed.entries node inside)⟩

end Outlook

namespace Typing

/-! ### Definitions stay -/

/-- A walk that leaves the definitions of named types alone. -/
def defining : Regime where
  holds _ := True
  permits act := ∀ session, (Act.apply session act).definitions = session.definitions
  stable _ _ _ _ := trivial

theorem mayType_defining : MayType defining :=
  ⟨fun _ _ => rfl, fun _ _ _ => rfl, fun _ _ _ => rfl, fun _ _ => rfl⟩

theorem mayAsk_defining (form : TypeForm) : MayAsk defining form :=
  .inr ⟨fun _ _ => rfl, fun _ _ _ _ => rfl, fun _ _ _ _ => rfl⟩

theorem covers_defining (exprs : List Expr) : Covers defining exprs :=
  fun _ _ form _ => mayAsk_defining form

theorem mayCheck_defining (stmt : Stmt) : MayCheck defining stmt where
  settle _ _ _ _ _ _ _ _ := rfl
  ask form _ := mayAsk_defining form
  covered expr _ := covers_defining expr.parts

theorem obeys_demand_defining (all : List Global) (symbol : Symbol) :
    defining.Obeys (demandGlobal all symbol) :=
  obeys_demandGlobal mayType_defining all
    (fun _ _ => ⟨fun _ _ _ _ _ => fun _ => rfl, fun form _ => mayAsk_defining form,
      fun expr _ => covers_defining expr.parts⟩) symbol

/-- Types a condition that may be missing. -/
def checkCondition? (demand : Demand) : Option Expr -> Check Unit
  | none => return
  | some test => checkCondition demand test

theorem checkStmt_forLoop (demand : Demand) (result : Ty) (first : Option Stmt)
    (test : Option Expr) (after : Option Stmt) (body : List Stmt) (bodySpan span : Span) :
    checkStmt demand result (.forLoop first test after body bodySpan span) = (do
      checkStmt? demand result first
      checkCondition? demand test
      checkStmt? demand result after
      checkStmts demand result body) := by
  rw [checkStmt]
  cases test <;> rfl

/-! ### Confined walks -/

/-- From an outlook the types of all globals can be read in sessions in which they have been
gone through, as they have been in `base`. -/
structure Overlooks (outlook : Outlook) (all : List Global) (base : Session) : Prop where
  steady : ∀ symbol, outlook.Proper symbol → outlook.steady symbol.id
  inside : ∀ global ∈ all, outlook.inside global.node ∧ outlook.steady (.node global.node)
  checked : ∀ global ∈ all, global.node ∈ base.checked

/-- A session on the way through a body that is typed from `base`. -/
structure Within (outlook : Outlook) (base session : Session) : Prop where
  enclosed : Enclosed outlook session
  checked : session.checked = base.checked
  options : session.options = base.options
  definitions : session.definitions = base.definitions

/-- On the way through a body the walk changes no more than some nodes and takes no finding
back, and something holds of its result. -/
def Confined (outlook : Outlook) (base : Session) (nodes : List NodeId) {α : Type}
    (walk : Check α) (post : α -> Prop) : Prop :=
  ∀ session, Within outlook base session →
    Within outlook base (walk.run session).2 ∧ Kept (· ∈ nodes) session (walk.run session).2 ∧
      session.findings <+: (walk.run session).2.findings ∧ post (walk.run session).1

variable {outlook : Outlook} {all : List Global} {base : Session} {nodes : List NodeId}

/-- A walk that stays in step where it may write to some nodes only is confined to them. -/
theorem confined_of {α : Type} {walk : Check α} {post : α -> Prop}
    (overlooks : Overlooks outlook all base) (owned : ∀ node ∈ nodes, outlook.owns node)
    (obeys : defining.Obeys walk)
    (steps : ∀ pairing : Pairing (outlook.narrow nodes owned),
      AnswerAlike pairing (demandGlobal all) (demandGlobal all) → pairing.Steps walk post) :
    Confined outlook base nodes walk post := by
  intro session within
  have checked : ∀ global ∈ all, global.node ∈ session.checked := by
    rw [within.checked]
    exact overlooks.checked
  have inside : ∀ global ∈ all, (outlook.narrow nodes owned).inside global.node ∧
      (outlook.narrow nodes owned).steady (.node global.node) := overlooks.inside
  have answers : AnswerAlike (Pairing.tracked (outlook.narrow nodes owned) session session)
      (demandGlobal all) (demandGlobal all) :=
    answerAlike_of (fun symbol proper => overlooks.steady symbol (Outlook.proper_narrow.mp proper))
      fun symbol _ => steps_demand inside checked checked symbol
  have agree : Agree (outlook.narrow nodes owned) session session :=
    ⟨rfl, rfl, fun _ _ _ => rfl, rfl, rfl, fun _ _ => rfl, fun _ _ => rfl⟩
  obtain ⟨-, holds, tracked⟩ := steps _ answers session session
    (.start agree (Outlook.enclosed_narrow.mpr within.enclosed))
  have kept : Kept (· ∈ nodes) session (walk.run session).2 := tracked.kept
  have trace := obeys session trivial
  refine ⟨⟨Outlook.enclosed_narrow.mp tracked.enclosed, kept.checked.trans within.checked,
    kept.options.trans within.options, ?_⟩, kept, trace.findings, holds⟩
  exact (trace.keeps fun _ _ permitted => permitted _).trans within.definitions

namespace Confined

variable {later : List NodeId} {α β : Type} {walk : Check α} {rest : α -> Check β}
  {post : α -> Prop} {goal : β -> Prop}

theorem pure {value : α} (holds : post value) : Confined outlook base nodes (pure value) post :=
  fun _ within => ⟨within, .refl, List.prefix_refl _, holds⟩

theorem bind (confined : Confined outlook base nodes walk post)
    (behind : ∀ value, post value → Confined outlook base later (rest value) goal) :
    Confined outlook base (nodes ++ later) (walk >>= rest) goal := by
  intro session within
  obtain ⟨withinRest, kept, findings, holds⟩ := confined session within
  obtain ⟨withinEnd, keptRest, findingsRest, holdsRest⟩ := behind _ holds _ withinRest
  refine ⟨withinEnd, .trans (kept.mono fun _ => List.mem_append_left _)
    (keptRest.mono fun _ => List.mem_append_right _), findings.trans findingsRest, holdsRest⟩

end Confined

section Confined

variable (overlooks : Overlooks outlook all base)

include overlooks

theorem confined_checkExpr {expr : Expr} (owned : ∀ node ∈ expr.sites, outlook.owns node)
    {expected : Option Ty} (wanted : ∀ hint ∈ expected, outlook.Holds hint) :
    Confined outlook base expr.sites (checkExpr (demandGlobal all) expr expected) outlook.Holds :=
  confined_of overlooks owned
    (obeys_checkExpr mayType_defining (obeys_demand_defining all) expr (covers_defining _) expected)
    fun _ answers => inStep_checkExpr answers expr (fun _ => id) expected wanted

theorem confined_checkCondition {test : Expr} (owned : ∀ node ∈ test.sites, outlook.owns node) :
    Confined outlook base test.sites (checkCondition (demandGlobal all) test) fun _ => True :=
  confined_of overlooks owned
    (obeys_checkCondition mayType_defining (obeys_demand_defining all) test (covers_defining _))
    fun _ answers => inStep_checkCondition answers fun _ => id

theorem confined_checkCondition? {test : Option Expr}
    (owned : ∀ node ∈ test.toList.flatMap Expr.sites, outlook.owns node) :
    Confined outlook base (test.toList.flatMap Expr.sites)
      (checkCondition? (demandGlobal all) test) fun _ => True := by
  cases test with
  | none => exact .pure trivial
  | some test =>
    rw [Option.toList_some, List.flatMap_singleton] at owned ⊢
    exact confined_checkCondition overlooks owned

theorem confined_checkStmt? {result : Ty} (holds : outlook.Holds result) {stmt : Option Stmt}
    (owned : ∀ node ∈ stmt.toList.flatMap Stmt.sites, outlook.owns node) :
    Confined outlook base (stmt.toList.flatMap Stmt.sites)
      (checkStmt? (demandGlobal all) result stmt) fun _ => True :=
  confined_of overlooks owned
    (obeys_checkStmt? mayType_defining (obeys_demand_defining all) result stmt
      fun part _ => mayCheck_defining part)
    fun _ answers => inStep_checkStmt? answers holds stmt fun _ => id

theorem confined_checkStmt {result : Ty} (holds : outlook.Holds result) {stmt : Stmt}
    (owned : ∀ node ∈ stmt.sites, outlook.owns node) :
    Confined outlook base stmt.sites (checkStmt (demandGlobal all) result stmt) fun _ => True :=
  confined_of overlooks owned
    (obeys_checkStmt mayType_defining (obeys_demand_defining all) result stmt
      fun part _ => mayCheck_defining part)
    fun _ answers => inStep_checkStmt answers holds stmt fun _ => id

theorem confined_checkStmts {result : Ty} (holds : outlook.Holds result) {body : List Stmt}
    (owned : ∀ node ∈ Stmt.sitesAll body, outlook.owns node) :
    Confined outlook base (Stmt.sitesAll body) (checkStmts (demandGlobal all) result body)
      fun _ => True :=
  confined_of overlooks owned
    (obeys_checkStmts mayType_defining (obeys_demand_defining all) result body
      fun part _ => mayCheck_defining part)
    fun _ answers => inStep_checkStmts answers holds body fun _ => id

end Confined

/-! ### Walks inside walks -/

/-- On the way through a body the walk comes to an inner one: it starts where nothing has
been done at its territory, and what it leaves there and what it finds stay. -/
def Reaches (outlook : Outlook) (base : Session) (territory : List NodeId)
    (inner walk : Check Unit) : Prop :=
  ∀ session, Within outlook base session → ∃ start, Within outlook base start ∧
    (∀ node ∈ territory, start.entry node = session.entry node) ∧
    (start.after inner).findings <+: (session.after walk).findings ∧
    ∀ node ∈ territory, (session.after walk).entry node = (start.after inner).entry node

namespace Reaches

variable {territory : List NodeId} {inner : Check Unit}

theorem self : Reaches outlook base territory inner inner :=
  fun session within => ⟨session, within, fun _ _ => rfl, List.prefix_refl _, fun _ _ => rfl⟩

/-- What comes behind stays out of the territory. -/
theorem ahead {walk : Check Unit} {rest : Unit -> Check Unit} {post : Unit -> Prop}
    (reaches : Reaches outlook base territory inner walk)
    (first : Confined outlook base nodes walk fun _ => True) {later : List NodeId}
    (confined : ∀ value, Confined outlook base later (rest value) post)
    (apart : ∀ node ∈ territory, node ∉ later) :
    Reaches outlook base territory inner (walk >>= rest) := by
  intro session within
  obtain ⟨start, withinStart, before, found, left⟩ := reaches session within
  obtain ⟨-, kept, findings, -⟩ := confined () _ (first session within).1
  refine ⟨start, withinStart, before, found.trans findings, fun node inside => ?_⟩
  exact (kept.entries node (apart node inside)).trans (left node inside)

/-- What comes ahead stays out of the territory. -/
theorem behind {α : Type} {walk : Check α} {rest : α -> Check Unit} {post : α -> Prop}
    (confined : Confined outlook base nodes walk post)
    (reaches : ∀ value, post value → Reaches outlook base territory inner (rest value))
    (apart : ∀ node ∈ territory, node ∉ nodes) :
    Reaches outlook base territory inner (walk >>= rest) := by
  intro session within
  obtain ⟨withinRest, kept, -, holds⟩ := confined session within
  obtain ⟨start, withinStart, before, found, left⟩ := reaches _ holds _ withinRest
  refine ⟨start, withinStart, fun node inside => ?_, found, left⟩
  exact (before node inside).trans (kept.entries node (apart node inside))

end Reaches

/-! ### Assignments -/

/-- The nodes of an assignment's target and value. -/
def assignSites (target value : Expr) : List NodeId := target.sites ++ value.sites

/-- The nodes of an assignment are among those of statements that hold it. -/
theorem assignSites_subset {target value : Expr} {span : Span} {parts : List Stmt}
    (isPart : .assign target value span ∈ parts) :
    assignSites target value ⊆ parts.flatMap Stmt.ownSites := by
  intro node isSite
  refine List.mem_flatMap.mpr ⟨_, isPart, ?_⟩
  simpa [Stmt.ownSites, Stmt.ownDecls, Stmt.ownValues, Stmt.ownExprs, Stmt.allForms,
    Stmt.ownForms, assignSites] using isSite

theorem assignSites_subset? {target value : Expr} {span : Span} {stmt : Option Stmt}
    (isPart : .assign target value span ∈ Stmt.parts? stmt) :
    assignSites target value ⊆ stmt.toList.flatMap Stmt.sites := by
  cases stmt with
  | none => cases isPart
  | some stmt =>
    rw [Option.toList_some, List.flatMap_singleton]
    exact assignSites_subset isPart

section Assignments

variable {target value : Expr} {span : Span} {result : Ty}

mutual

/-- Typing a statement comes to every assignment in it. -/
theorem reaches_checkStmt (overlooks : Overlooks outlook all base) (holds : outlook.Holds result) :
    (stmt : Stmt) -> (∀ node ∈ stmt.sites, outlook.owns node) -> stmt.sites.Nodup ->
    .assign target value span ∈ stmt.parts ->
    Reaches outlook base (assignSites target value) (checkAssign (demandGlobal all) target value)
      (checkStmt (demandGlobal all) result stmt)
  | .block body span, owned, distinct, isPart => by
    rw [Stmt.sites_block] at owned distinct
    obtain impossible | inBody := List.mem_cons.mp isPart
    · cases impossible
    · unfold checkStmt
      exact reaches_checkStmts overlooks holds body owned distinct inBody
  | .loop body bodySpan span, owned, distinct, isPart => by
    rw [Stmt.sites_loop] at owned distinct
    obtain impossible | inBody := List.mem_cons.mp isPart
    · cases impossible
    · unfold checkStmt
      exact reaches_checkStmts overlooks holds body owned distinct inBody
  | .whileLoop test body bodySpan span, owned, distinct, isPart => by
    rw [Stmt.sites_whileLoop] at owned distinct
    obtain ⟨-, ofBody, apart⟩ := List.nodup_append.mp distinct
    obtain ⟨testOwned, bodyOwned⟩ := List.forall_mem_append.mp owned
    obtain impossible | inBody := List.mem_cons.mp isPart
    · cases impossible
    · unfold checkStmt
      exact .behind (confined_checkCondition overlooks testOwned)
        (fun _ _ => reaches_checkStmts overlooks holds body bodyOwned ofBody inBody)
        fun node inside isTest => apart node isTest node (assignSites_subset inBody inside) rfl
  | .cond test body bodySpan otherwise span, owned, distinct, isPart => by
    rw [Stmt.sites_cond] at owned distinct
    obtain ⟨distinctFront, ofOtherwise, apart⟩ := List.nodup_append.mp distinct
    obtain ⟨-, ofBody, apartBody⟩ := List.nodup_append.mp distinctFront
    obtain ⟨frontOwned, otherwiseOwned⟩ := List.forall_mem_append.mp owned
    obtain ⟨testOwned, bodyOwned⟩ := List.forall_mem_append.mp frontOwned
    have first := confined_checkCondition overlooks testOwned
    have second := confined_checkStmts overlooks holds bodyOwned
    have third := confined_checkStmt? overlooks holds otherwiseOwned
    unfold checkStmt
    obtain impossible | inside := List.mem_cons.mp isPart
    · cases impossible
    obtain inBody | inOtherwise := List.mem_append.mp inside
    · refine .behind first (fun _ _ => .ahead (reaches_checkStmts overlooks holds body bodyOwned
        ofBody inBody) second (fun _ => third) fun node isSite isLater => ?_)
        fun node isSite isTest => ?_
      · exact apart node (List.mem_append_right _ (assignSites_subset inBody isSite)) node isLater rfl
      · exact apartBody node isTest node (assignSites_subset inBody isSite) rfl
    · refine .behind first (fun _ _ => .behind second (fun _ _ => reaches_checkStmt? overlooks holds
        otherwise otherwiseOwned ofOtherwise inOtherwise) fun node isSite isEarlier => ?_)
        fun node isSite isTest => ?_
      · exact apart node (List.mem_append_right _ isEarlier) node
          (assignSites_subset? inOtherwise isSite) rfl
      · exact apart node (List.mem_append_left _ isTest) node
          (assignSites_subset? inOtherwise isSite) rfl
  | .forLoop first test after body bodySpan span, owned, distinct, isPart => by
    rw [Stmt.sites_forLoop] at owned distinct
    obtain ⟨distinctClauses, ofBody, apartBody⟩ := List.nodup_append.mp distinct
    obtain ⟨distinctFront, ofAfter, apartAfter⟩ := List.nodup_append.mp distinctClauses
    obtain ⟨-, ofFirst, apartFirst⟩ := List.nodup_append.mp distinctFront
    obtain ⟨clausesOwned, bodyOwned⟩ := List.forall_mem_append.mp owned
    obtain ⟨frontOwned, afterOwned⟩ := List.forall_mem_append.mp clausesOwned
    obtain ⟨testOwned, firstOwned⟩ := List.forall_mem_append.mp frontOwned
    have entry := confined_checkStmt? overlooks holds firstOwned
    have clause := confined_checkCondition? overlooks testOwned
    have step := confined_checkStmt? overlooks holds afterOwned
    have inner := confined_checkStmts overlooks holds bodyOwned
    rw [checkStmt_forLoop]
    obtain impossible | inside := List.mem_cons.mp isPart
    · cases impossible
    obtain inClauses | inBody := List.mem_append.mp inside
    · obtain inFirst | inAfter := List.mem_append.mp inClauses
      · have subset := assignSites_subset? inFirst
        refine .ahead (reaches_checkStmt? overlooks holds first firstOwned ofFirst inFirst) entry
          (fun _ => clause.bind fun _ _ => step.bind fun _ _ => inner) fun node isSite isLater => ?_
        obtain isTest | isLater := List.mem_append.mp isLater
        · exact apartFirst node isTest node (subset isSite) rfl
        · obtain isAfter | isBody := List.mem_append.mp isLater
          · exact apartAfter node (List.mem_append_right _ (subset isSite)) node isAfter rfl
          · exact apartBody node (List.mem_append_left _ (List.mem_append_right _ (subset isSite)))
              node isBody rfl
      · have subset := assignSites_subset? inAfter
        refine .behind entry (fun _ _ => .behind clause (fun _ _ => .ahead (reaches_checkStmt?
          overlooks holds after afterOwned ofAfter inAfter) step (fun _ => inner)
          fun node isSite isBody => ?_) fun node isSite isTest => ?_) fun node isSite isFirst => ?_
        · exact apartBody node (List.mem_append_right _ (subset isSite)) node isBody rfl
        · exact apartAfter node (List.mem_append_left _ isTest) node (subset isSite) rfl
        · exact apartAfter node (List.mem_append_right _ isFirst) node (subset isSite) rfl
    · have subset := assignSites_subset inBody
      have apart (node : NodeId) (isSite : node ∈ assignSites target value) :
          node ∉ test.toList.flatMap Expr.sites ++ first.toList.flatMap Stmt.sites ++
            after.toList.flatMap Stmt.sites :=
        fun isEarlier => apartBody node isEarlier node (subset isSite) rfl
      refine .behind entry (fun _ _ => .behind clause (fun _ _ => .behind step (fun _ _ =>
        reaches_checkStmts overlooks holds body bodyOwned ofBody inBody) fun node isSite isAfter => ?_)
        fun node isSite isTest => ?_) fun node isSite isFirst => ?_
      · exact apart node isSite (List.mem_append_right _ isAfter)
      · exact apart node isSite (List.mem_append_left _ (List.mem_append_left _ isTest))
      · exact apart node isSite (List.mem_append_left _ (List.mem_append_right _ isFirst))
  | .assign _ _ _, _, _, isPart => by
    cases List.mem_singleton.mp isPart
    unfold checkStmt
    exact .self
  | .expr _, _, _, isPart | .letIn _, _, _, isPart | .instr _, _, _, isPart
  | .const _, _, _, isPart | .struct _, _, _, isPart | .write _ _ _, _, _, isPart
  | .ret _ _, _, _, isPart | .brk _, _, _, isPart | .cont _, _, _, isPart
  | .bad _, _, _, isPart => by
    cases List.mem_singleton.mp isPart

theorem reaches_checkStmt? (overlooks : Overlooks outlook all base)
    (holds : outlook.Holds result) :
    (stmt : Option Stmt) -> (∀ node ∈ stmt.toList.flatMap Stmt.sites, outlook.owns node) ->
    (stmt.toList.flatMap Stmt.sites).Nodup -> .assign target value span ∈ Stmt.parts? stmt ->
    Reaches outlook base (assignSites target value) (checkAssign (demandGlobal all) target value)
      (checkStmt? (demandGlobal all) result stmt)
  | none, _, _, isPart => by cases isPart
  | some stmt, owned, distinct, isPart => by
    unfold checkStmt?
    exact reaches_checkStmt overlooks holds stmt (by simpa using owned) (by simpa using distinct)
      isPart

theorem reaches_checkStmts (overlooks : Overlooks outlook all base)
    (holds : outlook.Holds result) :
    (body : List Stmt) -> (∀ node ∈ Stmt.sitesAll body, outlook.owns node) ->
    (Stmt.sitesAll body).Nodup -> .assign target value span ∈ Stmt.partsAll body ->
    Reaches outlook base (assignSites target value) (checkAssign (demandGlobal all) target value)
      (checkStmts (demandGlobal all) result body)
  | [], _, _, isPart => by cases isPart
  | stmt :: rest, owned, distinct, isPart => by
    rw [Stmt.sitesAll_cons] at owned distinct
    obtain ⟨ofStmt, ofRest, apart⟩ := List.nodup_append.mp distinct
    obtain ⟨stmtOwned, restOwned⟩ := List.forall_mem_append.mp owned
    have first := confined_checkStmt overlooks holds stmtOwned
    unfold checkStmts
    obtain inStmt | inRest := List.mem_append.mp isPart
    · exact (reaches_checkStmt overlooks holds stmt stmtOwned ofStmt inStmt).ahead first
        (fun _ => confined_checkStmts overlooks holds restOwned)
        fun node inside isLater => apart node (assignSites_subset inStmt inside) node isLater rfl
    · exact .behind first
        (fun _ _ => reaches_checkStmts overlooks holds rest restOwned ofRest inRest)
        fun node inside isEarlier => apart node isEarlier node (assignSites_subset inRest inside) rfl

end

end Assignments

end Typing
end UnitCheck
