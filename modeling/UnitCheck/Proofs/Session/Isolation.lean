import UnitCheck.Proofs.Lint.Isolation
import UnitCheck.Proofs.Resolve.Lockstep
import UnitCheck.Proofs.Typing.Isolation

/-!
# Every body is checked on its own

All passes but the first go over the items of a unit in rounds, the third in two. A
`PassReport` keeps apart what a pass finds in each round at each item, and
`findings_report` says that it is all the pass finds, in order.

Two units that differ in the body of one function are checked abreast: at every other item
each pass finds the same in both, and it leaves the same behind there, whatever it finds in
the two bodies.
-/

namespace UnitCheck

/-! ### Rounds over items -/

/-- The session after some rounds over items. -/
def Session.afterRounds (session : Session) (items : List Item) :
    List (Item -> Check Unit) -> Session
  | [] => session
  | visit :: rest => (session.after (items.forM visit)).afterRounds items rest

/-- What some rounds find at each item. -/
def Session.findsByRound (session : Session) (items : List Item) :
    List (Item -> Check Unit) -> List (List (List Finding))
  | [] => []
  | visit :: rest =>
    session.findsEach visit items :: (session.after (items.forM visit)).findsByRound items rest

/-- A walk that goes by acts finds what its session holds behind it and not ahead of it. -/
theorem findings_after {walk : Check Unit} (obeys : Regime.free.Obeys walk) (session : Session) :
    (session.after walk).findings = session.findings ++ session.finds walk := by
  obtain ⟨found, added⟩ : session.findings <+: (session.after walk).findings :=
    (obeys session trivial).findings
  rw [Session.finds_eq added.symm, added]

/-- A round finds what it finds at each item. -/
theorem findings_forM {items : List Item} {visit : Item -> Check Unit}
    (obeys : ∀ item ∈ items, Regime.free.Obeys (visit item)) (session : Session) :
    (session.after (items.forM visit)).findings =
      session.findings ++ (session.findsEach visit items).flatten := by
  induction items generalizing session with
  | nil => exact (List.append_nil _).symm
  | cons item rest inductionHypothesis =>
    obtain ⟨first, later⟩ := List.forall_mem_cons.mp obeys
    have behind := inductionHypothesis later (session.after (visit item))
    rw [findings_after first, List.append_assoc] at behind
    exact behind

theorem findings_afterRounds {items : List Item} {rounds : List (Item -> Check Unit)}
    (obeys : ∀ visit ∈ rounds, ∀ item ∈ items, Regime.free.Obeys (visit item))
    (session : Session) : (session.afterRounds items rounds).findings =
      session.findings ++ (session.findsByRound items rounds).flatten.flatten := by
  induction rounds generalizing session with
  | nil => exact (List.append_nil _).symm
  | cons visit rest inductionHypothesis =>
    obtain ⟨first, later⟩ := List.forall_mem_cons.mp obeys
    unfold Session.afterRounds Session.findsByRound
    rw [inductionHypothesis later, findings_forM first, List.flatten_cons, List.flatten_append,
      List.append_assoc]

/-- A round that reports does nothing else. -/
theorem after_reportEach (items : List Item) (found : Item -> List Finding) (session : Session) :
    session.after (items.forM fun item => (found item).forM Check.report) =
      { session with findings := session.findings ++ items.flatMap found } := by
  induction items generalizing session with
  | nil =>
    rw [List.flatMap_nil, List.append_nil]
    rfl
  | cons item rest inductionHypothesis =>
    have first : session.after ((item :: rest).forM fun item => (found item).forM Check.report) =
        (session.after ((found item).forM Check.report)).after
          (rest.forM fun item => (found item).forM Check.report) := rfl
    rw [first, inductionHypothesis, after_reports, List.flatMap_cons, List.append_assoc]

/-! ### The rounds of a pass -/

namespace Pass

/-- What a pass does ahead of its rounds. The first pass has no rounds. -/
def opening : Pass -> Check Unit
  | .declare => Declare.walk
  | .typeCheck => modify Typing.fresh
  | .scope | .attributes | .lint => return

/-- The rounds of a pass that starts from a session: what it does at each item. -/
def rounds (session : Session) : Pass -> List (Item -> Check Unit)
  | .declare => []
  | .scope => [Resolve.resolveItem]
  | .typeCheck =>
    [Typing.checkGlobalItem (Typing.globals session.items),
      Typing.checkBodyItem (Typing.globals session.items)]
  | .attributes => [fun item => (Attributes.itemFindings item).forM Check.report]
  | .lint =>
    [fun item => (Lint.itemFindings session (Lint.viewOf session) item).forM Check.report]

/-- What a pass that starts from a session does behind its rounds. -/
def closing (session : Session) : Pass -> Check Unit
  | .scope => do
    let depth := (<- get).table.depth
    if depth ≠ 0 then Check.report (.scopesLeftOpen depth)
  | .lint =>
    (Lint.stmtsFindings (Lint.viewOf session) .outside (Lint.strays session.items)).forM
      Check.report
  | .declare | .typeCheck | .attributes => return

/-- The walk of a pass is what it does ahead of its rounds, in them and behind them. -/
theorem after_walk (pass : Pass) (session : Session) : session.after pass.walk =
    ((session.after pass.opening).afterRounds session.items (pass.rounds session)).after
      (pass.closing session) := by
  cases pass with
  | declare => rfl
  | scope => rfl
  | typeCheck => exact Typing.after_walk session
  | attributes =>
    rw [after_attributes, ← after_reportEach]
    rfl
  | lint =>
    rw [after_lint, Lint.findings_eq, ← List.append_assoc]
    have behind : session.after Pass.lint.opening = session := rfl
    rw [behind]
    unfold rounds Session.afterRounds Session.afterRounds closing
    rw [after_reportEach, after_reports]

end Pass

/-- What a pass finds ahead of its rounds, in each round at each item, and behind them. -/
structure PassReport where
  opening : List Finding
  rounds : List (List (List Finding))
  closing : List Finding

namespace PassReport

/-- Everything that is found, in order. -/
def all (report : PassReport) : List Finding :=
  report.opening ++ report.rounds.flatten.flatten ++ report.closing

/-- The report without what is found at one of the items. -/
def without (report : PassReport) (place : Nat) : PassReport :=
  { report with rounds := report.rounds.map (·.eraseIdx place) }

end PassReport

/-- What a pass that starts from a session finds where. -/
def Pass.report (pass : Pass) (session : Session) : PassReport :=
  let opened := session.after pass.opening
  let walked := opened.afterRounds session.items (pass.rounds session)
  ⟨session.finds pass.opening, opened.findsByRound session.items (pass.rounds session),
    walked.finds (pass.closing session)⟩

namespace Pass

theorem findings_opening (pass : Pass) (session : Session) :
    (session.after pass.opening).findings = session.findings ++ session.finds pass.opening := by
  have silent (same : (session.after pass.opening).findings = session.findings) :
      (session.after pass.opening).findings = session.findings ++ session.finds pass.opening := by
    have nothing : (session.after pass.opening).findings = session.findings ++ [] := by
      rw [same, List.append_nil]
    rw [Session.finds_eq nothing, nothing]
  cases pass with
  | declare =>
    exact findings_after (Declare.obeys_walk mayDeclare_free fun _ _ _ _ _ _ => trivial) session
  | typeCheck | scope | attributes | lint => exact silent rfl

/-- What a pass does at an item it does in acts. -/
theorem obeys_rounds (pass : Pass) (session : Session) : ∀ visit ∈ pass.rounds session,
    ∀ item ∈ session.items, Regime.free.Obeys (visit item) := by
  have reports (found : Item -> List Finding) : ∀ item ∈ session.items,
      Regime.free.Obeys ((found item).forM Check.report) :=
    fun item _ => obeys_reports (fun _ => trivial) (found item)
  cases pass with
  | declare => exact List.forall_mem_nil _
  | scope =>
    refine List.forall_mem_singleton.mpr fun item _ => ?_
    exact Resolve.obeys_resolveItem mayBind_free item (fun _ _ => trivial) fun _ _ => trivial
  | typeCheck =>
    refine List.forall_mem_cons.mpr ⟨fun item isItem => ?_,
      List.forall_mem_singleton.mpr fun item isItem => ?_⟩
    · exact Typing.obeys_checkGlobalItem mayType_free (fun other _ => mayCheckItem_free other) item
        isItem
    · exact Typing.obeys_checkBodyItem mayType_free (fun other _ => mayCheckItem_free other) item
        isItem
  | attributes => exact List.forall_mem_singleton.mpr (reports _)
  | lint => exact List.forall_mem_singleton.mpr (reports _)

theorem obeys_closing (pass : Pass) (session : Session) :
    Regime.free.Obeys (pass.closing session) := by
  cases pass with
  | scope =>
    refine .read fun after => ?_
    simp only
    split
    · exact Check.obeys_report trivial
    · exact .pure _
  | lint => exact obeys_reports (fun _ => trivial) _
  | declare | typeCheck | attributes => exact .pure _

/-- A report holds all that its pass finds. -/
theorem findings_report (pass : Pass) (session : Session) :
    (session.after pass.walk).findings = session.findings ++ (pass.report session).all := by
  rw [after_walk, findings_after (obeys_closing pass session),
    findings_afterRounds (obeys_rounds pass session), findings_opening]
  simp only [PassReport.all, report, List.append_assoc]

end Pass

/-! ### Units that differ in a body -/

variable {declared : NodeId -> Prop} {before after : List Item} {decl declOther : FunctionDecl}
  {one other : Session}

/-- Two lists of items that differ in the body of one function, each spread behind the
same declarations. -/
structure Siblings (declared : NodeId -> Prop) (before after : List Item)
    (decl declOther : FunctionDecl) : Prop where
  spread : Spread declared (before ++ .function decl :: after)
  spreadOther : Spread declared (before ++ .function declOther :: after)
  bare : (Item.function decl).bare = (Item.function declOther).bare

/-- But for bodies the items are the same. -/
theorem Siblings.same_bare (siblings : Siblings declared before after decl declOther) :
    (before ++ .function decl :: after).map Item.bare =
      (before ++ .function declOther :: after).map Item.bare := by
  rw [List.map_append, List.map_append, List.map_cons, List.map_cons, siblings.bare]

/-- Sessions of two such units that look alike from all items but the function. -/
structure Abreast (declared : NodeId -> Prop) (before after : List Item)
    (decl declOther : FunctionDecl) (one other : Session) : Prop where
  isUnit : one.items = before ++ .function decl :: after
  isUnitOther : other.items = before ++ .function declOther :: after
  housed : Housed declared (before ++ .function decl :: after) one
  housedOther : Housed declared (before ++ .function declOther :: after) other
  alike : LookAlike declared (before ++ after) one other

theorem subset_insert (before after : List Item) (item : Item) :
    before ++ after ⊆ before ++ item :: after := by
  intro other isOther
  simp only [List.mem_append, List.mem_cons] at isOther ⊢
  tauto

/-- What is found at all items is, but for one, what is found at the others. -/
theorem eraseIdx_map (item : Item) (found : Item -> List Finding) :
    ((before ++ item :: after).map found).eraseIdx before.length = (before ++ after).map found := by
  rw [List.map_append, List.map_cons, List.eraseIdx_append_of_length_le (by simp)]
  simp

/-- Rounds that find the same at the other items find the same without the function. -/
theorem eraseIdx_congr {found foundOther : Item -> List Finding} (item itemOther : Item)
    (same : ∀ other ∈ before ++ after, found other = foundOther other) :
    ((before ++ item :: after).map found).eraseIdx before.length =
      ((before ++ itemOther :: after).map foundOther).eraseIdx before.length := by
  rw [eraseIdx_map, eraseIdx_map]
  exact List.map_congr_left same

theorem finds_pure (session : Session) : session.finds (pure ()) = [] :=
  Session.finds_eq (List.append_nil _).symm

theorem finds_reports (session : Session) (findings : List Finding) :
    session.finds (findings.forM Check.report) = findings := by
  refine Session.finds_eq ?_
  rw [after_reports]

theorem findsEach_reports (session : Session) (items : List Item)
    (found : Item -> List Finding) :
    session.findsEach (fun item => (found item).forM Check.report) items = items.map found := by
  induction items generalizing session with
  | nil => rfl
  | cons item rest inductionHypothesis =>
    unfold Session.findsEach
    rw [inductionHypothesis, finds_reports, List.map_cons]

/-- Where no block is open, none is reported. -/
theorem finds_closing_scope (start : Session) {session : Session}
    (frames : session.table.frames = []) : session.finds (Pass.scope.closing start) = [] := by
  have depth : session.table.depth = 0 := by
    rw [Table.depth, frames]
    rfl
  refine Session.finds_eq ?_
  have checked : session.after (Pass.scope.closing start) =
      session.after (if session.table.depth ≠ 0 then
        Check.report (.scopesLeftOpen session.table.depth) else pure ()) := rfl
  rw [checked, if_neg (not_not_intro depth), List.append_nil]
  rfl

/-- The second pass finds what it finds at each item alone, and nothing else. -/
theorem report_scope {items : List Item} (spread : Spread declared items)
    (housed : Housed declared items one) (isUnit : one.items = items) :
    Pass.scope.report one =
      ⟨[], [items.map fun item => one.finds (Resolve.resolveItem item)], []⟩ := by
  obtain ⟨visited, found⟩ := Resolve.visited_round spread housed
  have frames : (one.after (items.forM Resolve.resolveItem)).table.frames = [] := by
    rw [visited.table, housed.frames]
  have shape : Pass.scope.report one = ⟨one.finds (pure ()),
      [one.findsEach Resolve.resolveItem one.items],
      (one.after (one.items.forM Resolve.resolveItem)).finds (Pass.scope.closing one)⟩ := rfl
  rw [shape, finds_pure, isUnit, found, finds_closing_scope one frames]

/-- Behind the first round the third pass finds what it finds at each item alone. -/
theorem report_typeCheck {items : List Item} (spread : Spread declared items)
    (housed : Housed declared items ((Typing.fresh one).after (Typing.typeGlobals items)))
    (checked : ∀ global ∈ Typing.globals items,
      global.node ∈ ((Typing.fresh one).after (Typing.typeGlobals items)).checked)
    (isUnit : one.items = items) :
    Pass.typeCheck.report one =
      ⟨[], [(Typing.fresh one).findsEach (Typing.checkGlobalItem (Typing.globals items)) items,
        items.map fun item => ((Typing.fresh one).after (Typing.typeGlobals items)).finds
          (Typing.checkBodyItem (Typing.globals items) item)], []⟩ := by
  obtain ⟨-, found⟩ := Typing.visited_typeBodies spread housed checked
  have opened : one.finds (modify Typing.fresh) = [] := Session.finds_eq (List.append_nil _).symm
  have shape : Pass.typeCheck.report one = ⟨one.finds (modify Typing.fresh),
      [(Typing.fresh one).findsEach (Typing.checkGlobalItem (Typing.globals one.items)) one.items,
        ((Typing.fresh one).after (Typing.typeGlobals one.items)).findsEach
          (Typing.checkBodyItem (Typing.globals one.items)) one.items],
      (((Typing.fresh one).after (Typing.typeGlobals one.items)).after
        (Typing.typeBodies one.items)).finds (pure ())⟩ := rfl
  rw [shape, finds_pure, opened, isUnit, found]

namespace Abreast

variable (siblings : Siblings declared before after decl declOther)
  (abreast : Abreast declared before after decl declOther one other)

include abreast

theorem showsAs {last lastOther : Session} (shown : one.ShowsAs last)
    (shownOther : other.ShowsAs lastOther) :
    Abreast declared before after decl declOther last lastOther where
  isUnit := by
    rw [shown.same]
    exact abreast.isUnit
  isUnitOther := by
    rw [shownOther.same]
    exact abreast.isUnitOther
  housed := abreast.housed.showsAs shown
  housedOther := abreast.housedOther.showsAs shownOther
  alike := abreast.alike.showsAs shown shownOther

theorem attributes :
    Abreast declared before after decl declOther (one.after Pass.attributes.walk)
        (other.after Pass.attributes.walk) ∧
      (Pass.attributes.report one).without before.length =
        (Pass.attributes.report other).without before.length := by
  refine ⟨abreast.showsAs ?_ ?_, ?_⟩
  · rw [after_attributes]
    exact ⟨rfl⟩
  · rw [after_attributes]
    exact ⟨rfl⟩
  · unfold PassReport.without Pass.report Pass.opening Pass.closing Pass.rounds
    simp only [finds_pure, Session.findsByRound, findsEach_reports, abreast.isUnit,
      abreast.isUnitOther, List.map_cons, List.map_nil, eraseIdx_map]

include siblings

theorem scope :
    Abreast declared before after decl declOther (one.after Pass.scope.walk)
        (other.after Pass.scope.walk) ∧
      (Pass.scope.report one).without before.length =
        (Pass.scope.report other).without before.length := by
  obtain ⟨spread, spreadOther, -⟩ := siblings
  obtain ⟨isUnit, isUnitOther, housed, housedOther, alike⟩ := abreast
  obtain ⟨behind, same⟩ := Resolve.lookAlike_walk alike spread spreadOther housed housedOther isUnit
    isUnitOther (subset_insert _ _ _) (subset_insert _ _ _)
  refine ⟨⟨?_, ?_, Resolve.housed_walk spread housed isUnit,
    Resolve.housed_walk spreadOther housedOther isUnitOther, behind⟩, ?_⟩
  · rw [items_after_walk, isUnit]
  · rw [items_after_walk, isUnitOther]
  · rw [report_scope spread housed isUnit, report_scope spreadOther housedOther isUnitOther]
    unfold PassReport.without
    simp only [List.map_cons, List.map_nil]
    rw [eraseIdx_congr _ (.function declOther) same]

/-- The first round of the third pass finds the same at all items. -/
theorem typeGlobals :
    LookAlike declared (before ++ after)
        ((Typing.fresh one).after (Typing.typeGlobals (before ++ .function decl :: after)))
        ((Typing.fresh other).after (Typing.typeGlobals (before ++ .function declOther :: after))) ∧
      (Typing.fresh one).findsEach
          (Typing.checkGlobalItem (Typing.globals (before ++ .function decl :: after)))
          (before ++ .function decl :: after) =
        (Typing.fresh other).findsEach
          (Typing.checkGlobalItem (Typing.globals (before ++ .function declOther :: after)))
          (before ++ .function declOther :: after) := by
  have alike : LookAlike declared (before ++ after) (Typing.fresh one) (Typing.fresh other) :=
    abreast.alike.showsAs ⟨rfl⟩ ⟨rfl⟩
  have housed : Housed declared (before ++ .function decl :: after) (Typing.fresh one) :=
    abreast.housed.showsAs ⟨rfl⟩
  have founding : ∀ item ∈ before ++ .function decl :: after, ∀ node ∈ item.founds,
      item ∈ before ++ after := by
    intro item isItem node isFound
    simp only [List.mem_append, List.mem_cons] at isItem ⊢
    obtain isBefore | rfl | isAfter := isItem
    · exact .inl isBefore
    · cases isFound
    · exact .inr isAfter
  have same := siblings.same_bare
  obtain ⟨behind, found⟩ :=
    Typing.lookAlike_typeGlobals alike siblings.spread housed founding rfl
  have walks : Typing.typeGlobals (before ++ .function declOther :: after) =
      Typing.typeGlobals (before ++ .function decl :: after) := by
    rw [← Typing.typeGlobals_bare, ← same, Typing.typeGlobals_bare]
  rw [walks, Typing.findsEach_bare same]
  exact ⟨behind, found⟩

theorem typeCheck :
    Abreast declared before after decl declOther (one.after Pass.typeCheck.walk)
        (other.after Pass.typeCheck.walk) ∧
      (Pass.typeCheck.report one).without before.length =
        (Pass.typeCheck.report other).without before.length := by
  have housed : Housed declared (before ++ .function decl :: after) (Typing.fresh one) :=
    abreast.housed.showsAs ⟨rfl⟩
  have housedOther : Housed declared (before ++ .function declOther :: after)
      (Typing.fresh other) := abreast.housedOther.showsAs ⟨rfl⟩
  obtain ⟨look, found⟩ := typeGlobals siblings abreast
  obtain ⟨spread, spreadOther, -⟩ := id siblings
  have first := Typing.housed_typeGlobals spread housed
  have firstOther := Typing.housed_typeGlobals spreadOther housedOther
  have globals : Typing.globals (before ++ .function declOther :: after) =
      Typing.globals (before ++ .function decl :: after) := by
    rw [← Typing.globals_bare, ← siblings.same_bare, Typing.globals_bare]
  have checked : ∀ global ∈ Typing.globals (before ++ .function decl :: after), _ :=
    Typing.mem_checked_typeGlobals (Typing.fresh one)
  have checkedOther : ∀ global ∈ Typing.globals (before ++ .function declOther :: after), _ :=
    Typing.mem_checked_typeGlobals (Typing.fresh other)
  obtain ⟨behind, same⟩ := Typing.lookAlike_typeBodies look spread spreadOther first firstOther
    globals checked (by rwa [globals] at checkedOther) (subset_insert _ _ _) (subset_insert _ _ _)
  have walks := Typing.after_walk one
  have walksOther := Typing.after_walk other
  rw [abreast.isUnit] at walks
  rw [abreast.isUnitOther] at walksOther
  refine ⟨⟨?_, ?_, ?_, ?_, ?_⟩, ?_⟩
  · rw [items_after_walk, abreast.isUnit]
  · rw [items_after_walk, abreast.isUnitOther]
  · rw [Pass.walk_typeCheck, walks]
    exact Typing.housed_typeBodies spread first checked
  · rw [Pass.walk_typeCheck, walksOther]
    exact Typing.housed_typeBodies spreadOther firstOther checkedOther
  · rw [Pass.walk_typeCheck, walks, walksOther]
    exact behind
  · rw [report_typeCheck spread first checked abreast.isUnit,
      report_typeCheck spreadOther firstOther checkedOther abreast.isUnitOther, found]
    unfold PassReport.without
    simp only [List.map_cons, List.map_nil]
    rw [eraseIdx_congr _ (.function declOther) same]

omit siblings abreast

/-- All nodes of an item are seen from the item. -/
theorem seen (spread : Spread declared (before ++ .function decl :: after)) {item : Item}
    (isOther : item ∈ before ++ after) : ∀ node ∈ item.sites,
      (item.outlook declared).inside node ∧ (item.outlook declared).steady (.node node) := by
  intro node isSite
  rw [Item.sites_eq] at isSite
  have inside : declared node ∨ node ∈ item.inner :=
    (List.mem_append.mp isSite).imp_left (spread.own item (subset_insert _ _ _ isOther) node)
  refine ⟨inside, ?_⟩
  rintro _ ⟨⟩
  exact inside

include abreast

/-- Abreast the same is kept for every node of another item. -/
theorem entries (spread : Spread declared (before ++ .function decl :: after)) {item : Item}
    (isOther : item ∈ before ++ after) : ∀ node ∈ item.sites, one.entry node = other.entry node ∧
      one.knownOf (.node node) = other.knownOf (.node node) := by
  intro node isSite
  obtain ⟨inside, steady⟩ := seen spread isOther node isSite
  have agree := abreast.alike.items item isOther
  exact ⟨agree.entries node inside, agree.known _ steady⟩

include siblings

theorem lint :
    Abreast declared before after decl declOther (one.after Pass.lint.walk)
        (other.after Pass.lint.walk) ∧
      (Pass.lint.report one).without before.length =
        (Pass.lint.report other).without before.length := by
  have spread := siblings.spread
  have same : ∀ item ∈ before ++ after, Lint.itemFindings one (Lint.viewOf one) item =
      Lint.itemFindings other (Lint.viewOf other) item := by
    intro item isOther
    have seen := seen spread isOther
    rw [Item.sites_eq] at seen
    obtain ⟨own, inner⟩ := List.forall_mem_append.mp seen
    exact Lint.itemFindings_congr (abreast.alike.items item isOther)
      (abreast.housed.items item (subset_insert _ _ _ isOther)) item own
      fun node isInner => (inner node isInner).1
  have strays : Lint.strays (before ++ .function declOther :: after) =
      Lint.strays (before ++ .function decl :: after) := by
    simp [Lint.strays]
  have closed : Lint.stmtsFindings (Lint.viewOf one) .outside
        (Lint.strays (before ++ .function decl :: after)) =
      Lint.stmtsFindings (Lint.viewOf other) .outside
        (Lint.strays (before ++ .function decl :: after)) := by
    refine Lint.strayFindings_congr abreast.alike.globals.options _ ?_
    intro stmt isStray node isSite
    have isOther : .stray stmt ∈ before ++ after := by
      simpa using isStray
    refine (entries abreast spread isOther node ?_).1
    have inside : node ∈ Stmt.sitesAll (Item.stray stmt).stmts := by
      simpa [Item.stmts] using isSite
    unfold Item.sites
    simp only [List.mem_append, inside, or_true, true_or]
  refine ⟨abreast.showsAs ?_ ?_, ?_⟩
  · rw [after_lint]
    exact ⟨rfl⟩
  · rw [after_lint]
    exact ⟨rfl⟩
  · unfold PassReport.without Pass.report Pass.opening Pass.closing Pass.rounds
    simp only [finds_pure, finds_reports, Session.findsByRound, findsEach_reports, abreast.isUnit,
      abreast.isUnitOther, List.map_cons, List.map_nil, strays, closed]
    rw [eraseIdx_congr _ (.function declOther) same]

end Abreast

/-! ### Checks of decoded units -/

section Checks

variable {file text textOther : String} {unit unitOther : Module} {options : Options}
  (read : Module.decode file text = .ok unit)
  (readOther : Module.decode file textOther = .ok unitOther)
  (isUnit : unit.items = before ++ .function decl :: after)
  (isUnitOther : unitOther.items = before ++ .function declOther :: after)
  (bare : (Item.function decl).bare = (Item.function declOther).bare)

include read readOther isUnit isUnitOther bare

/-- The items of decoded units that differ in a body are siblings. -/
theorem siblings_of_decode :
    Siblings (· ∈ unit.items.flatMap Item.ownNode) before after decl declOther := by
  have spread := spread_of_decode read
  have spreadOther := spread_of_decode readOther
  have own : (before ++ .function declOther :: after).flatMap Item.ownNode =
      (before ++ .function decl :: after).flatMap Item.ownNode := by
    rw [List.flatMap_append, List.flatMap_append, List.flatMap_cons, List.flatMap_cons,
      ← Item.ownNode_bare, ← bare, Item.ownNode_bare]
  rw [isUnit] at spread ⊢
  rw [isUnitOther, own] at spreadOther
  exact ⟨spread, spreadOther, bare⟩

/-- The first pass reports the same of both units and leaves sessions abreast behind. -/
theorem abreast_declare {one other : Session}
    (start : (Session.start (some unit) options).Alike one)
    (startOther : (Session.start (some unitOther) options).Alike other) :
    Abreast (· ∈ unit.items.flatMap Item.ownNode) before after decl declOther
        (one.after Pass.declare.walk) (other.after Pass.declare.walk) ∧
      Pass.declare.report one = Pass.declare.report other := by
  have siblings := siblings_of_decode read readOther isUnit isUnitOther bare
  have sameFile : unit.file = unitOther.file := by
    rw [file_of_decode read, file_of_decode readOther]
  have same : unit.items.map Item.bare = unitOther.items.map Item.bare := by
    rw [isUnit, isUnitOther, siblings.same_bare]
  have own : unitOther.items.flatMap Item.ownNode = unit.items.flatMap Item.ownNode := by
    have bared (items : List Item) :
        (items.map Item.bare).flatMap Item.ownNode = items.flatMap Item.ownNode := by
      simp only [List.flatMap_map, Item.ownNode_bare]
    rw [← bared, ← same, bared]
  obtain ⟨alike, found⟩ := Declare.lookAlike_walk start startOther sameFile same (before ++ after)
  have housed := Declare.housed_walk (Module.nodup_sites read) start
  have housedOther := Declare.housed_walk (Module.nodup_sites readOther) startOther
  rw [own] at housedOther
  refine ⟨⟨?_, ?_, isUnit ▸ housed, isUnitOther ▸ housedOther, alike⟩, ?_⟩
  · rw [items_after_walk, start.items]
    exact isUnit
  · rw [items_after_walk, startOther.items]
    exact isUnitOther
  · have shape (session : Session) :
        Pass.declare.report session = ⟨session.finds Declare.walk, [], []⟩ := by
      have closed := finds_pure (session.after Declare.walk)
      have unfolded : Pass.declare.report session =
        ⟨session.finds Declare.walk, [], (session.after Declare.walk).finds (pure ())⟩ := rfl
      rw [unfolded, closed]
    rw [shape, shape, found]

variable (options) in
/-- Each pass reports the same of both units but for what it finds at the function, and
behind it the sessions are abreast. -/
theorem abreast_walk (pass : Pass) :
    Abreast (· ∈ unit.items.flatMap Item.ownNode) before after decl declOther
        ((Session.ahead (some unit) options pass).after pass.walk)
        ((Session.ahead (some unitOther) options pass).after pass.walk) ∧
      (pass.report (.ahead (some unit) options pass)).without before.length =
        (pass.report (.ahead (some unitOther) options pass)).without before.length := by
  have siblings := siblings_of_decode read readOther isUnit isUnitOther bare
  obtain ⟨start, scope, typeCheck, attributes, lint, -, -⟩ := check_walks (some unit) options
  obtain ⟨startOther, scopeOther, typeCheckOther, attributesOther, lintOther, -, -⟩ :=
    check_walks (some unitOther) options
  have declared := abreast_declare read readOther isUnit isUnitOther bare start startOther
  have resolved := (declared.1.showsAs scope.showsAs scopeOther.showsAs).scope siblings
  have typed := (resolved.1.showsAs typeCheck.showsAs typeCheckOther.showsAs).typeCheck siblings
  have attributed := (typed.1.showsAs attributes.showsAs attributesOther.showsAs).attributes
  have linted := (attributed.1.showsAs lint.showsAs lintOther.showsAs).lint siblings
  cases pass with
  | declare => exact ⟨declared.1, by rw [declared.2]⟩
  | scope => exact resolved
  | typeCheck => exact typed
  | attributes => exact attributed
  | lint => exact linted

end Checks

/-- Of two units that differ in what the body of one function holds, the first pass reports
the same, every other pass reports the same but for what it finds at that function, and
behind each pass the same is recorded for all nodes of all other items and known of what
they declare. -/
theorem reports_elsewhere {file text textOther : String} {unit unitOther : Module}
    {before after : List Item} {decl : FunctionDecl} {body bodyOther : Body}
    (read : Module.decode file text = .ok unit)
    (readOther : Module.decode file textOther = .ok unitOther)
    (isUnit : unit.items = before ++ .function { decl with body := some body } :: after)
    (isUnitOther : unitOther.items =
      before ++ .function { decl with body := some bodyOther } :: after)
    (options : Options) (pass : Pass) :
    (pass.report (.ahead (some unit) options pass)).without before.length =
        (pass.report (.ahead (some unitOther) options pass)).without before.length ∧
      ∀ item ∈ before ++ after, ∀ node ∈ item.sites,
        ((Session.ahead (some unit) options pass).after pass.walk).entry node =
            ((Session.ahead (some unitOther) options pass).after pass.walk).entry node ∧
          ((Session.ahead (some unit) options pass).after pass.walk).knownOf (.node node) =
            ((Session.ahead (some unitOther) options pass).after pass.walk).knownOf
              (.node node) := by
  obtain ⟨abreast, reports⟩ :=
    abreast_walk options read readOther isUnit isUnitOther rfl pass
  have spread := (siblings_of_decode read readOther isUnit isUnitOther rfl).spread
  exact ⟨reports, fun item isOther => abreast.entries spread isOther⟩

/-- The function of a unit, without its body. -/
def soundDecl : FunctionDecl :=
  ⟨[], some ⟨"g", .ofLine 4 5⟩, [], some (.named "s32" (.ofLine 9 12)), none, .ofLine 0 32⟩

/-- The constant behind the function. -/
def behindDecl : ConstDecl :=
  ⟨[], some ⟨"k", .ofLine 39 40⟩, some (.named "s32" (.ofLine 41 44)),
    some (.literal ⟨.integer, "2", .ofLine 45 46⟩), .ofLine 32 47⟩

/-- A body that returns a value. -/
def returning (value : Expr) : Body := ⟨[.ret (some value) (.ofLine 20 30)], .ofLine 13 31⟩

/-- A function that returns a number and one that returns an unknown name leave the third
pass the same at the constant behind them. -/
theorem reports_elsewhere_behind : ∃ unit unitOther,
    Module.decode "unit" "(fn g () s32 (block (return 1)))(const k s32 2)" = .ok unit ∧
      Module.decode "unit" "(fn g () s32 (block (return x)))(const k s32 2)" = .ok unitOther ∧
      (Pass.typeCheck.report (.ahead (some unit) .standard .typeCheck)).without 0 =
        (Pass.typeCheck.report (.ahead (some unitOther) .standard .typeCheck)).without 0 := by
  have read : Module.decode "unit" "(fn g () s32 (block (return 1)))(const k s32 2)" =
      .ok ⟨"unit", [.function { soundDecl with
        body := some (returning (.literal ⟨.integer, "1", .ofLine 28 29⟩)) }, .const behindDecl],
        some (.ofLine 0 47)⟩ :=
    Module.decode_chars (by cbv)
  have readOther : Module.decode "unit" "(fn g () s32 (block (return x)))(const k s32 2)" =
      .ok ⟨"unit", [.function { soundDecl with
        body := some (returning (.name ⟨"x", .ofLine 28 29⟩)) }, .const behindDecl],
        some (.ofLine 0 47)⟩ :=
    Module.decode_chars (by cbv)
  have isUnit : [.function { soundDecl with
        body := some (returning (.literal ⟨.integer, "1", .ofLine 28 29⟩)) },
      .const behindDecl] = [] ++ Item.function { soundDecl with
        body := some (returning (.literal ⟨.integer, "1", .ofLine 28 29⟩)) } ::
          [.const behindDecl] := rfl
  have same := reports_elsewhere read readOther isUnit rfl .standard .typeCheck
  exact ⟨_, _, read, readOther, same.1⟩

end UnitCheck
