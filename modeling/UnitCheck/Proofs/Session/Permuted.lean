import UnitCheck.Proofs.Declare.Order
import UnitCheck.Proofs.Lint.Isolation
import UnitCheck.Proofs.Session.Options
import UnitCheck.Proofs.Typing.Foreseen

/-!
# The items of a unit may come in any order

Every pass goes over the items in the order in which they are written. As long as nothing
fatal is found that order makes no difference: the first pass declares what it would declare
in any order, the globals are typed as if all their types were known, and what is done at an
item in another round is done behind its own node. So an accepted unit is accepted in any
order, and a rejected one is rejected in any.
-/

namespace UnitCheck

variable {declared : NodeId -> Prop} {items others : List Item} {base other after last : Session}

/-! ### Visits -/

theorem Spread.perm (spread : Spread declared items) (perm : items.Perm others) :
    Spread declared others where
  own item isItem := spread.own item (perm.mem_iff.mpr isItem)
  distinct := (perm.flatMap_right _).nodup_iff.mp spread.distinct
  apart item isItem := spread.apart item (perm.mem_iff.mpr isItem)

/-- A session that matches a housed one is housed. -/
theorem Session.Matches.housed (matched : base.Matches other) (perm : items.Perm others)
    (housed : Housed declared items base) : Housed declared others other where
  locals := matched.locals.symm.trans housed.locals
  frames := matched.frames.symm.trans housed.frames
  globals := matched.enclosed housed.globals
  items item isItem := matched.enclosed (housed.items item (perm.mem_iff.mpr isItem))

/-- Visits that stay in step lead from sessions that match to sessions that match, whatever
order the items come in. -/
theorem Session.Matches.visits {visit visitOther : Item -> Check Unit}
    (matched : base.Matches other) (perm : items.Perm others)
    (visited : Visited base visit Item.inner items after)
    (visitedOther : Visited other visitOther Item.inner others last)
    (housed : Housed declared items base)
    (inStep : ∀ item ∈ items, (Pairing.tracked (item.outlook declared) base other).InStep
      (visit item) (visitOther item) fun _ => True) : after.Matches last := by
  have tracked (item : Item) (isItem : item ∈ items) : Tracked (item.outlook declared) base other
      (base.after (visit item)) (other.after (visitOther item)) :=
    (inStep item isItem base other (.start (matched.agree _) (housed.items item isItem))).2.2
  have nodes (node : NodeId) : after.entry node = last.entry node ∧
      after.knownOf (.node node) = last.knownOf (.node node) := by
    by_cases isInner : ∃ item ∈ items, node ∈ item.inner
    · obtain ⟨item, isItem, isInner⟩ := isInner
      obtain ⟨entry, known⟩ := visited.own item isItem node isInner
      obtain ⟨entryOther, knownOther⟩ :=
        visitedOther.own item (perm.mem_iff.mp isItem) node isInner
      have agree := (tracked item isItem).agree
      rw [entry, entryOther, known, knownOther]
      refine ⟨agree.entries node (.inr isInner), agree.known _ ?_⟩
      rintro _ ⟨⟩
      exact .inr isInner
    · have apart : ¬∃ item ∈ others, node ∈ item.inner := fun ⟨item, isItem, inItem⟩ =>
        isInner ⟨item, perm.mem_iff.mpr isItem, inItem⟩
      rw [visited.kept.entries node isInner, visitedOther.kept.entries node apart,
        visited.kept.knownOf_node isInner, visitedOther.kept.knownOf_node apart]
      exact ⟨matched.entries node, matched.known _⟩
  refine ⟨?_, ?_, ?_, fun space name => ?_, ?_, ?_, fun id => ?_, fun node => (nodes node).1, ?_⟩
  · unfold Session.file
    rw [visited.kept.unit, visitedOther.kept.unit]
    exact matched.file
  · rw [visited.kept.options, visitedOther.kept.options, matched.options]
  · rw [visited.table, visitedOther.table]
    exact matched.globals
  · rw [visited.table, visitedOther.table]
    exact matched.names space name
  · rw [visited.table, visitedOther.table, matched.locals]
  · rw [visited.table, visitedOther.table, matched.frames]
  · cases id with
    | builtin number => rw [visited.builtin, visitedOther.builtin, matched.known]
    | node node => exact (nodes node).2
  · rw [visited.findings, visitedOther.findings]
    refine matched.findings.append ?_
    have same : (items.flatMap fun item => base.finds (visit item)) =
        items.flatMap fun item => other.finds (visitOther item) :=
      List.flatMap_congr fun item isItem => (tracked item isItem).found.finds_eq.1
    rw [same]
    exact perm.flatMap_right _

/-- Sessions that match do when the same is found on both sides in some order. -/
theorem Session.Matches.found (matched : base.Matches other) {found foundOther : List Finding}
    (perm : found.Perm foundOther) :
    Session.Matches { base with findings := base.findings ++ found }
      { other with findings := other.findings ++ foundOther } :=
  ⟨matched.file, matched.options, matched.globals, matched.names, matched.locals, matched.frames,
    matched.known, matched.entries, matched.findings.append perm⟩

/-! ### The second pass -/

/-- The second pass may resolve the items in any order. -/
theorem Resolve.matches_walk (matched : base.Matches other) (perm : items.Perm others)
    (spread : Spread declared items) (housed : Housed declared items base)
    (isUnit : base.items = items) (isUnitOther : other.items = others) :
    (base.after walk).Matches (other.after walk) :=
  matched.visits perm (visited_walk spread housed isUnit)
    (visited_walk (spread.perm perm) (matched.housed perm housed) isUnitOther) housed
    fun _ isItem => inStep_item spread isItem _

/-! ### The third pass -/

namespace Typing

/-- Globals are looked for by their nodes only. -/
theorem checkGlobal_congr {all allOther : List Global}
    (same : ∀ symbol : Symbol, all.find? (fun global => symbol.id = .node global.node) =
      allOther.find? fun global => symbol.id = .node global.node)
    (fuel : Nat) (path : List NodeId) (global : Global) :
    checkGlobal all fuel path global = checkGlobal allOther fuel path global := by
  induction fuel generalizing path global with
  | zero => rfl
  | succ fuel inductionHypothesis =>
    unfold checkGlobal
    simp only [same, inductionHypothesis]

section Globals

variable (perm : items.Perm others) (distinct : (items.flatMap Item.sites).Nodup)

include perm distinct

theorem find?_globals (symbol : Symbol) :
    (globals items).find? (fun global => symbol.id = .node global.node) =
      (globals others).find? fun global => symbol.id = .node global.node := by
  refine Declare.find?_perm (perm.filterMap _) fun one isOne another isAnother looked lookedOther =>
    global_eq_of_node distinct isOne isAnother ?_
  rw [decide_eq_true_eq] at looked lookedOther
  exact SymbolId.node.inj (looked.symm.trans lookedOther)

theorem checkGlobal_perm (path : List NodeId) (global : Global) :
    checkGlobal (globals others) ((globals others).length + 1) path global =
      checkGlobal (globals items) ((globals items).length + 1) path global := by
  have length : (globals items).length = (globals others).length :=
    (perm.filterMap global?).length_eq
  rw [length, checkGlobal_congr (find?_globals perm distinct)]

theorem demandGlobal_perm : demandGlobal (globals others) = demandGlobal (globals items) := by
  funext symbol
  unfold demandGlobal
  simp only [find?_globals perm distinct, checkGlobal_perm perm distinct]

/-- The globals of a unit in another order are typed alike. -/
theorem checkGlobalItem_perm :
    checkGlobalItem (globals others) = checkGlobalItem (globals items) := by
  funext item
  unfold checkGlobalItem
  simp only [demandGlobal_perm perm distinct, checkGlobal_perm perm distinct]

theorem checkBodyItem_perm : checkBodyItem (globals others) = checkBodyItem (globals items) := by
  funext item
  rw [checkBodyItem_eq, checkBodyItem_eq, demandGlobal_perm perm distinct]

end Globals

/-- The first round leads from sessions that match to sessions that match. -/
theorem matches_typeGlobals (matched : base.Matches other) (spread : Spread declared items)
    (housed : Housed declared items base) (checked : base.checked = other.checked) :
    (base.after (typeGlobals items)).Matches (other.after (typeGlobals items)) := by
  obtain ⟨founded, -, -, spared, sparedOther, added, found, foundOther⟩ :=
    since_typeGlobals spread (matched.agree _) (.founded spread housed) checked
  have table (session : Session) : (session.after (typeGlobals items)).table = session.table :=
    table_of_still (obeys_globals mayType_still mayCheckItem_still items) session
  have behind (node : NodeId) :
      Agree (.around declared [node] [] (List.nil_subset _)) (base.after (typeGlobals items))
        (other.after (typeGlobals items)) :=
    (matched.agree _).behindFounded founded spared sparedOther
  refine ⟨founded.file, founded.options, ?_, fun space name => ?_, ?_, ?_, fun id => ?_,
    fun node => (behind node).entries node (.inr (List.mem_singleton_self _)), ?_⟩
  · rw [table, table]
    exact matched.globals
  · rw [table, table]
    exact matched.names space name
  · rw [table, table, matched.locals]
  · rw [table, table, matched.frames]
  · cases id with
    | builtin number => exact founded.known _ fun _ impossible => by cases impossible
    | node node =>
      refine (behind node).known _ ?_
      rintro _ ⟨⟩
      exact .inr (List.mem_singleton_self _)
  · rw [found, foundOther]
    exact matched.findings.append_right added

theorem quiet_typeGlobals
    (quiet : (base.after (do typeGlobals items; typeBodies items)).Quiet) :
    (base.after (typeGlobals items)).Quiet := by
  have bodies : Regime.free.Obeys (typeBodies items) :=
    .forM _ fun item isItem =>
      obeys_checkBodyItem mayType_free (fun other _ => mayCheckItem_free other) item isItem
  exact quiet.of_prefix (bodies _ trivial).findings

/-- Where there is a plan for the globals the third pass may type the items in any order. -/
theorem matches_walk (matched : base.Matches other) (perm : items.Perm others)
    (spread : Spread declared items) (housed : Housed declared items base)
    (isUnit : base.items = items) (isUnitOther : other.items = others) (plan : Plan)
    (planned : plan.items = items) (start : plan.base = fresh base)
    (quiet : (base.after walk).Quiet) : (base.after walk).Matches (other.after walk) := by
  have distinct := plan.distinct
  rw [planned] at distinct
  have freshMatched : (fresh base).Matches (fresh other) :=
    ⟨matched.file, matched.options, matched.globals, matched.names, matched.locals,
      matched.frames, matched.known, matched.entries, matched.findings⟩
  have freshHoused : Housed declared items (fresh base) := housed.showsAs ⟨rfl⟩
  rw [after_walk, isUnit] at quiet ⊢
  rw [after_walk, isUnitOther]
  have reordered := plan.matches_visits (planned ▸ perm.symm)
    (by rw [planned, start]; exact quiet_typeGlobals quiet)
  rw [planned, start, ← checkGlobalItem_perm perm distinct] at reordered
  have rounds := reordered.trans (matches_typeGlobals freshMatched (spread.perm perm)
    ((Session.Matches.refl _).housed perm freshHoused) rfl)
  have housedRound := housed_typeGlobals spread freshHoused
  have checked : ∀ global ∈ globals items, _ := mem_checked_typeGlobals (fresh base)
  have checkedOther : ∀ global ∈ globals others, _ := mem_checked_typeGlobals (fresh other)
  refine rounds.visits perm (visited_typeBodies spread housedRound checked).1
    (visited_typeBodies (spread.perm perm) (rounds.housed perm housedRound) checkedOther).1
    housedRound fun item isItem => ?_
  rw [checkBodyItem_perm perm distinct]
  exact inStep_bodyItem spread isItem checked fun global isGlobal =>
    checkedOther global ((perm.filterMap _).mem_iff.mp isGlobal)

end Typing

/-! ### What is told behind typing -/

/-- The walk over attributes may go over the items in any order. -/
theorem matches_attributes (matched : base.Matches other) (perm : items.Perm others)
    (isUnit : base.items = items) (isUnitOther : other.items = others) :
    (base.after Pass.attributes.walk).Matches (other.after Pass.attributes.walk) := by
  rw [after_attributes, after_attributes, isUnit, isUnitOther]
  exact matched.found (perm.flatMap_right _)

namespace Lint

/-- Outside of all bodies nothing closes a list of statements. -/
theorem stmtsFindings_outside (view : View) (stmts : List Stmt) :
    stmtsFindings view .outside stmts = stmts.flatMap (stmtFindings view .outside) := by
  induction stmts with
  | nil => rfl
  | cons stmt rest inductionHypothesis =>
    have closes : closes? .outside stmt = none := by
      cases stmt <;> rfl
    rw [stmtsFindings, closes, List.flatMap_cons, ← inductionHypothesis]

/-- The last walk says the same about the items in any order. -/
theorem findings_perm (matched : base.Matches other) (perm : items.Perm others)
    (spread : Spread declared items) (housed : Housed declared items base)
    (isUnit : base.items = items) (isUnitOther : other.items = others) :
    (findings base).Perm (findings other) := by
  have each : ∀ item ∈ items,
      itemFindings base (viewOf base) item = itemFindings other (viewOf other) item := by
    intro item isItem
    refine itemFindings_congr (matched.agree _) (housed.items item isItem) item
      (fun node isOwn => ?_) fun _ => .inr
    have isDeclared := spread.own item isItem node isOwn
    refine ⟨.inl isDeclared, ?_⟩
    rintro _ ⟨⟩
    exact .inl isDeclared
  have strayed := strayFindings_congr matched.options items fun _ _ node _ => matched.entries node
  rw [findings_eq, findings_eq, isUnit, isUnitOther, List.flatMap_congr each, strayed,
    stmtsFindings_outside, stmtsFindings_outside]
  exact (perm.flatMap_right _).append ((perm.filterMap _).flatMap_right _)

end Lint

/-! ### Checks -/

section Checks

variable {unit unitOther : Module} {options : Options}
  (distinct : (unit.items.flatMap Item.sites).Nodup) (sameFile : unit.file = unitOther.file)
  (perm : unit.items.Perm unitOther.items)

include distinct sameFile perm

/-- Where a check ends quiet the items may come in any order: in the end the same is known and
the same has been found. -/
theorem matches_check (quiet : (Session.check (some unit) options).Quiet) :
    (Session.check (some unit) options).Matches (.check (some unitOther) options) := by
  have spread := spread_of_nodup distinct
  obtain ⟨plan, planned, start⟩ := Typing.exists_plan_ahead distinct quiet
  obtain ⟨housedScope, housedTyping⟩ := housed_ahead distinct options
  obtain ⟨first, second, third, fourth, fifth, sixth, -⟩ := check_walks (some unit) options
  obtain ⟨firstOther, secondOther, thirdOther, fourthOther, fifthOther, sixthOther, -⟩ :=
    check_walks (some unitOther) options
  have items (pass : Pass) : (Session.ahead (some unit) options pass).items = unit.items :=
    items_ahead (some unit) options pass
  have itemsOther (pass : Pass) :
      (Session.ahead (some unitOther) options pass).items = unitOther.items :=
    items_ahead (some unitOther) options pass
  have quietLint := quiet_before_walk .lint (sixth.quiet quiet)
  have quietAttributes := quiet_before_walk .attributes (fifth.quiet quietLint)
  have quietTyping := quiet_before_walk .typeCheck (fourth.quiet quietAttributes)
  have quietScope := quiet_before_walk .scope (third.quiet quietTyping)
  have declares :=
    (Declare.matches_walk first firstOther sameFile perm distinct (second.quiet quietScope)).of_alike
      second secondOther
  have scopes := (Resolve.matches_walk declares perm spread housedScope (items .scope)
    (itemsOther .scope)).of_alike third thirdOther
  have typed := (Typing.matches_walk scopes perm spread housedTyping (items .typeCheck)
    (itemsOther .typeCheck) plan planned start (fourth.quiet quietAttributes)).of_alike fourth fourthOther
  have attributes := (matches_attributes typed perm (items .attributes)
    (itemsOther .attributes)).of_alike fifth fifthOther
  have housedLint := ((Typing.housed_walk spread housedTyping (items .typeCheck)).showsAs
    fourth.showsAs).reports.1.showsAs fifth.showsAs
  have found := Lint.findings_perm attributes perm spread housedLint (items .lint) (itemsOther .lint)
  rw [after_lint] at sixth sixthOther
  exact (attributes.found found).of_alike sixth sixthOther

/-- A check that ends quiet ends quiet with the items in any order. -/
theorem quiet_check_perm (quiet : (Session.check (some unit) options).Quiet) :
    (Session.check (some unitOther) options).Quiet :=
  (matches_check distinct sameFile perm quiet).quiet quiet

end Checks

/-- The verdict on a decoded unit does not depend on the order of its items. Where the unit is
accepted, neither does what is recorded for any node or known of any symbol, and the
diagnostics are the same but for their order. -/
theorem check_permuted {file text : String} {unit : Module}
    (read : Module.decode file text = .ok unit) {items : List Item} (perm : items.Perm unit.items)
    (options : Options) :
    let session := Session.check (some unit) options
    let permuted := Session.check (some { unit with items }) options
    permuted.canGenerate = session.canGenerate ∧
      (session.canGenerate = true → (∀ node, permuted.entry node = session.entry node) ∧
        (∀ id, permuted.knownOf id = session.knownOf id) ∧
        permuted.bag.diagnostics.Perm session.bag.diagnostics) := by
  have distinct := Module.nodup_sites read
  have distinctOther : (items.flatMap Item.sites).Nodup :=
    (perm.flatMap_right _).nodup_iff.mpr distinct
  have verdict : (Session.check (some { unit with items }) options).Quiet ↔
      (Session.check (some unit) options).Quiet :=
    ⟨quiet_check_perm distinctOther rfl perm, quiet_check_perm distinct rfl perm.symm⟩
  have outcome (quiet : (Session.check (some unit) options).Quiet) :
      (Session.check (some { unit with items }) options).Matches (.check (some unit) options) :=
    .symm (matches_check distinct rfl perm.symm quiet)
  rw [← canGenerate_check, ← canGenerate_check] at verdict
  rw [← canGenerate_check] at outcome
  generalize Session.check (some unit) options = session at *
  generalize Session.check (some { unit with items }) options = permuted at *
  refine ⟨Bool.eq_iff_iff.mpr verdict, fun accepted => ?_⟩
  have matched := outcome accepted
  refine ⟨matched.entries, matched.known, ?_⟩
  unfold Session.bag
  rw [matched.file]
  exact matched.findings.map _

/-- Constants may be declared ahead of those that they read or behind them. -/
theorem check_permuted_reversed :
    let session := Session.check (some Typing.readTwiceUnit) .standard
    let items := Typing.readTwiceUnit.items.reverse
    let permuted := Session.check (some { Typing.readTwiceUnit with items }) .standard
    Module.decode "unit"
        "(const a _ (- b)) (const b _ 2) (fn f () void (block (let x _ (arr 1 b))))" =
      .ok Typing.readTwiceUnit ∧ items.Perm Typing.readTwiceUnit.items ∧
      session.canGenerate = true ∧ permuted.canGenerate = session.canGenerate ∧
      (∀ node, permuted.entry node = session.entry node) ∧
      (∀ id, permuted.knownOf id = session.knownOf id) ∧
      permuted.bag.diagnostics.Perm session.bag.diagnostics := by
  intro session items permuted
  have read := Typing.decode_readTwice
  have accepted : session.canGenerate = true := by decide +kernel
  have perm : items.Perm Typing.readTwiceUnit.items := List.reverse_perm _
  obtain ⟨verdict, same⟩ := check_permuted read perm .standard
  exact ⟨read, perm, accepted, verdict, same accepted⟩

end UnitCheck
