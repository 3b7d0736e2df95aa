import UnitCheck.Proofs.Session.Twins

/-!
# Passes in any order

Passes may be run one by one, again and in the wrong order. What a single pass does is one of
three things: it is refused for what it misses, it goes through its walk and completes, or it
goes through its walk and is refused for having completed before. The two passes that need
no more than the names of a unit commute.
-/

namespace UnitCheck

/-! ### What a single pass does -/

/-- A bug of the order in which passes run. -/
def Finding.IsOrderBug (finding : Finding) : Prop :=
  finding.code = "B0002" ∧ finding.severity = .bug

theorem Finding.isOrderBug_tooEarly (pass earlier : Pass) :
    (Finding.passTooEarly pass earlier).IsOrderBug := ⟨rfl, rfl⟩

theorem Finding.isOrderBug_refused (error : PassError) :
    (Finding.passRefused error).IsOrderBug := ⟨rfl, rfl⟩

/-- Requiring the prerequisites of a pass reports those that are missing. -/
theorem run_require (session : Session) (pass : Pass) : (Check.require pass).run session =
    ((session.passes.missing pass).isEmpty,
      { session with findings := session.findings ++
          (session.passes.missing pass).map (.passTooEarly pass) }) := by
  have reported : session.after
      ((session.passes.missing pass).forM fun earlier => Check.report (.passTooEarly pass earlier)) =
        { session with findings := session.findings ++
            (session.passes.missing pass).map (.passTooEarly pass) } := by
    rw [← after_reports]
    simp only [List.forM_eq_forM, List.forM_map]
  exact congrArg (Prod.mk _) reported

/-- A pass that misses prerequisites reports each and does nothing else. -/
theorem step_of_missing {session : Session} {pass : Pass}
    (missing : session.passes.missing pass ≠ []) : session.step pass =
      { session with findings := session.findings ++
          (session.passes.missing pass).map (.passTooEarly pass) } := by
  unfold Session.step
  rw [Pass.run_eq, Check.runPass, StateT.run_bind, run_require]
  have refused : (session.passes.missing pass).isEmpty = false := by
    rwa [List.isEmpty_eq_false_iff]
  rw [refused]
  rfl

/-- A pass that has completed goes through its walk once more and is refused. -/
theorem step_of_repeated {session : Session} {pass : Pass}
    (ready : session.passes.missing pass = []) (isDone : session.passes.isDone pass = true) :
    session.step pass = { session.after pass.walk with
      findings := (session.after pass.walk).findings ++ [.passRefused (.repeated pass)] } := by
  have completes : session.step pass = (session.after pass.walk).after (Check.complete pass) := by
    unfold Session.step
    rw [Pass.run_eq, Check.runPass, StateT.run_bind, run_require, ready, List.map_nil,
      List.append_nil]
    rfl
  have refused : (session.after pass.walk).passes.complete pass = .error (.repeated pass) := by
    rw [passes_after_walk]
    simp [Tracker.complete, ready, isDone]
  rw [completes]
  generalize session.after pass.walk = walked at refused ⊢
  unfold Session.after Check.complete
  rw [StateT.run_bind]
  simp only [StateT.run_get, pure_bind, refused]
  rfl

/-! ### Sequences of passes -/

/-- The session after several passes over a unit, one by one. -/
def Session.scheduled (unit : Option Module) (options : Options) (schedule : List Pass) :
    Session :=
  schedule.foldl Session.step (.start unit options)

namespace Tracker

/-- With every pass that has completed its prerequisites have. -/
def Closed (tracker : Tracker) : Prop :=
  ∀ pass ∈ tracker.done, ∀ earlier ∈ pass.prerequisites, earlier ∈ tracker.done

theorem missing_eq_nil {tracker : Tracker} {pass : Pass} :
    tracker.missing pass = [] ↔ ∀ earlier ∈ pass.prerequisites, earlier ∈ tracker.done := by
  simp [missing, isDone]

theorem isDone_iff {tracker : Tracker} {pass : Pass} :
    tracker.isDone pass = true ↔ pass ∈ tracker.done := by
  simp [isDone]

/-- A pass that is ready may be added. -/
theorem Closed.cons {tracker : Tracker} {pass : Pass} (closed : tracker.Closed)
    (ready : tracker.missing pass = []) : Closed ⟨pass :: tracker.done⟩ := by
  intro done isDone earlier isEarlier
  rcases List.mem_cons.mp isDone with rfl | wasDone
  · exact List.mem_cons_of_mem _ (missing_eq_nil.mp ready earlier isEarlier)
  · exact List.mem_cons_of_mem _ (closed done wasDone earlier isEarlier)

end Tracker

/-- A single pass completes itself or nothing. -/
theorem passes_step (session : Session) (pass : Pass) :
    (session.step pass).passes = session.passes ∨
      session.passes.missing pass = [] ∧
        (session.step pass).passes = ⟨pass :: session.passes.done⟩ := by
  by_cases ready : session.passes.missing pass = []
  · by_cases isDone : session.passes.isDone pass = true
    · refine .inl ?_
      rw [step_of_repeated ready isDone]
      exact passes_after_walk pass session
    · exact .inr ⟨ready, (run_pass ready (by simpa using isDone)).2⟩
  · refine .inl ?_
    rw [step_of_missing ready]

theorem closed_step {session : Session} (closed : session.passes.Closed) (pass : Pass) :
    (session.step pass).passes.Closed := by
  rcases passes_step session pass with same | ⟨ready, completed⟩
  · rwa [same]
  · rw [completed]
    exact closed.cons ready

theorem closed_steps {session : Session} (closed : session.passes.Closed)
    (schedule : List Pass) : (schedule.foldl Session.step session).passes.Closed := by
  induction schedule generalizing session with
  | nil => exact closed
  | cons pass rest inductionHypothesis => exact inductionHypothesis (closed_step closed pass)

/-- Completed passes are never taken back. -/
theorem done_steps (session : Session) (schedule : List Pass) :
    session.passes.done <:+ (schedule.foldl Session.step session).passes.done := by
  induction schedule generalizing session with
  | nil => exact List.suffix_refl _
  | cons pass rest inductionHypothesis =>
    refine List.IsSuffix.trans ?_ (inductionHypothesis (session.step pass))
    rcases passes_step session pass with same | ⟨-, completed⟩
    · exact (congrArg Tracker.done same).symm ▸ List.suffix_refl _
    · rw [completed]
      exact List.suffix_cons _ _

theorem closed_scheduled (unit : Option Module) (options : Options) (schedule : List Pass) :
    (Session.scheduled unit options schedule).passes.Closed := by
  refine closed_steps (fun pass isDone => ?_) schedule
  cases isDone

/-! ### Passes that commute -/

/-- Twins under the same options that have found the same, in any order. -/
structure Session.Reordered (one other : Session) : Prop where
  twins : one.Twins other
  options : other.options = one.options
  findings : other.findings.Perm one.findings

namespace Session.Reordered

variable {one other nextOne nextOther : Session}

theorem between (reordered : one.Reordered other) (alikeOne : one.Alike nextOne)
    (alikeOther : other.Alike nextOther) : nextOne.Reordered nextOther where
  twins := reordered.twins.between alikeOne alikeOther
  options := by rw [alikeOther.options, reordered.options, alikeOne.options]
  findings := by
    rw [alikeOther.findings, alikeOne.findings]
    exact reordered.findings

/-- The last walk finds the same. -/
theorem lint (reordered : one.Reordered other) :
    (one.after Pass.lint.walk).Reordered (other.after Pass.lint.walk) where
  twins := reordered.twins.walk_lint
  options := by
    rw [options_after_walk, options_after_walk]
    exact reordered.options
  findings := by
    have same : Lint.findings other = Lint.findings one := by
      rw [reordered.twins.lint, reordered.options]
    rw [after_lint, after_lint, same]
    exact reordered.findings.append_right _

end Session.Reordered

/-- Other findings leave twins what they are. -/
theorem Session.Twins.retold {one other : Session} (twins : one.Twins other)
    (findings : List Finding) : { one with findings := findings }.Twins other := by
  obtain ⟨guise, rfl⟩ : ∃ guise, other = one.wearing guise := ⟨_, twins.same⟩
  exact ⟨rfl, twins.suits⟩

/-- Typing and checking attributes commute. -/
theorem reordered_of_swap {typed typedLast checked checkedLast one other : Session}
    (start : typed.Alike checked)
    (between : (typed.after Typing.walk).Alike typedLast)
    (betweenOther : (checked.after Pass.attributes.walk).Alike checkedLast)
    (last : (typedLast.after Pass.attributes.walk).Alike one)
    (lastOther : (checkedLast.after Typing.walk).Alike other) : one.Reordered other := by
  rw [after_attributes] at betweenOther last
  have options : checkedLast.options = typed.options := by
    rw [betweenOther.options, ← start.options]
  have twins : typed.Twins checkedLast := by
    refine ⟨?_, options ▸ Options.suits_refl _⟩
    rw [betweenOther.same, start.same]
    rfl
  obtain ⟨twinsTyped, found, isFound, isFoundOther⟩ :=
    twins.walk Typing.aloof_walk (.inl (congrArg Options.derefMode options))
  have items : typedLast.items = checked.items :=
    between.items.trans ((items_after_walk .typeCheck typed).trans start.items.symm)
  have kept (session : Session) : (session.after Typing.walk).options = session.options :=
    options_after_walk .typeCheck session
  refine Session.Reordered.between ⟨(twinsTyped.between between ⟨rfl⟩).retold _, ?_, ?_⟩ last
    lastOther
  · exact (kept checkedLast).trans (options.trans ((kept typed).symm.trans between.options.symm))
  · have isOther : (checkedLast.after Typing.walk).findings =
        typed.findings ++ (checked.items.flatMap Attributes.itemFindings ++ found) := by
      rw [isFoundOther, betweenOther.findings, start.findings, List.append_assoc]
    have isOne : typedLast.findings ++ typedLast.items.flatMap Attributes.itemFindings =
        typed.findings ++ (found ++ checked.items.flatMap Attributes.itemFindings) := by
      rw [between.findings, isFound, items, List.append_assoc]
    rw [isOther, isOne]
    exact List.perm_append_comm.append_left _

/-- The session after passes over a unit in a given order, together with the progress messages
around them. -/
def Session.checkIn (order : List Pass) (unit : Option Module) (options : Options) : Session :=
  ((do Check.runPasses 1 order; Check.sayOutcome : Check Unit).run (start unit options)).2

theorem Session.checkIn_all (unit : Option Module) (options : Options) :
    Session.checkIn Pass.all unit options = Session.check unit options := rfl

/-- The running order with the attributes checked before types are. -/
def Pass.swapped : List Pass := [.declare, .scope, .attributes, .typeCheck, .lint]

/-- In either order a check finds the same and completes all passes. -/
theorem reordered_check (unit : Option Module) (options : Options) :
    (Session.check unit options).Reordered (Session.checkIn Pass.swapped unit options) ∧
      (Session.check unit options).passes.isComplete = true ∧
      (Session.checkIn Pass.swapped unit options).passes.isComplete = true := by
  obtain ⟨-, second, -, passes2, rest1⟩ :=
    run_round (Session.start unit options) 1 .declare rfl rfl
  obtain ⟨-, third, -, passes3, rest2⟩ :=
    run_round second 2 .scope (by rw [passes2]; rfl) (by rw [passes2]; rfl)
  rw [passes2] at passes3
  -- The running order.
  obtain ⟨startTyped, fourth, between, passes4, rest3⟩ :=
    run_round third 3 .typeCheck (by rw [passes3]; rfl) (by rw [passes3]; rfl)
  rw [passes3] at passes4
  obtain ⟨startLast, fifth, last, passes5, rest4⟩ :=
    run_round fourth 4 .attributes (by rw [passes4]; rfl) (by rw [passes4]; rfl)
  rw [passes4] at passes5
  obtain ⟨startLint, final, lint, passes6, rest5⟩ :=
    run_round fifth 5 .lint (by rw [passes5]; rfl) (by rw [passes5]; rfl)
  rw [passes5] at passes6
  -- The other order.
  obtain ⟨startChecked, fourthOther, betweenOther, passes4Other, rest3Other⟩ :=
    run_round third 3 .attributes (by rw [passes3]; rfl) (by rw [passes3]; rfl)
  rw [passes3] at passes4Other
  obtain ⟨startLastOther, fifthOther, lastOther, passes5Other, rest4Other⟩ :=
    run_round fourthOther 4 .typeCheck (by rw [passes4Other]; rfl) (by rw [passes4Other]; rfl)
  rw [passes4Other] at passes5Other
  obtain ⟨startLintOther, finalOther, lintOther, passes6Other, rest5Other⟩ :=
    run_round fifthOther 5 .lint (by rw [passes5Other]; rfl) (by rw [passes5Other]; rfl)
  rw [passes5Other] at passes6Other
  have ends : Session.check unit options = final.after Check.sayOutcome := by
    rw [← Session.checkIn_all]
    unfold Session.checkIn Pass.all
    rw [← Session.after, Session.after_bind, ← Session.after, rest1, rest2, rest3, rest4, rest5]
    rfl
  have endsOther : Session.checkIn Pass.swapped unit options =
      finalOther.after Check.sayOutcome := by
    unfold Session.checkIn Pass.swapped
    rw [← Session.after, Session.after_bind, ← Session.after, rest1, rest2, rest3Other,
      rest4Other, rest5Other]
    rfl
  obtain ⟨alike, passes⟩ := alike_sayOutcome final
  obtain ⟨alikeOther, passesOther⟩ := alike_sayOutcome finalOther
  have reordered := reordered_of_swap (startTyped.symm.trans startChecked)
    (between.trans startLast) (betweenOther.trans startLastOther) last lastOther
  rw [ends, endsOther, passes, passesOther, passes6, passes6Other]
  exact ⟨((reordered.between startLint startLintOther).lint.between lint lintOther).between alike
    alikeOther, rfl, rfl⟩

/-- The sessions end with the same facts about their unit, with the same diagnostics in some
order and with the same verdict. -/
structure Session.SameUpToOrder (one other : Session) : Prop where
  table : other.table = one.table
  definitions : other.definitions = one.definitions
  known : other.known = one.known
  facts : other.facts = one.facts
  diagnostics : other.bag.diagnostics.Perm one.bag.diagnostics
  verdict : other.canGenerate = one.canGenerate

theorem Session.Reordered.sameUpToOrder {one other : Session} (reordered : one.Reordered other)
    (complete : one.passes.isComplete = true) (completeOther : other.passes.isComplete = true) :
    one.SameUpToOrder other := by
  have diagnostics : other.bag.diagnostics.Perm one.bag.diagnostics := by
    unfold Session.bag
    rw [reordered.twins.file]
    exact reordered.findings.map _
  refine ⟨reordered.twins.table, reordered.twins.definitions, reordered.twins.known,
    reordered.twins.facts, diagnostics, ?_⟩
  unfold Session.canGenerate Bag.hasErrors
  rw [complete, completeOther, diagnostics.any_eq]

/-- What a further pass may do. One that misses prerequisites adds a bug for each of them and
does nothing else. One that has completed before completes nothing and adds a bug behind what
it finds. -/
structure Session.Gated (session : Session) (pass : Pass) : Prop where
  tooEarly : session.passes.missing pass ≠ [] → ∃ bugs : List Finding,
    bugs = (session.passes.missing pass).map (.passTooEarly pass) ∧
      (∀ bug ∈ bugs, bug.IsOrderBug) ∧
      session.step pass = { session with findings := session.findings ++ bugs }
  repeated : pass ∈ session.passes.done → ∃ found bug, bug = .passRefused (.repeated pass) ∧
    bug.IsOrderBug ∧ (session.step pass).findings = session.findings ++ found ++ [bug] ∧
      (session.step pass).passes = session.passes

theorem gated_of_closed {session : Session} (closed : session.passes.Closed) (pass : Pass) :
    session.Gated pass where
  tooEarly missing := by
    refine ⟨_, rfl, ?_, step_of_missing missing⟩
    exact List.forall_mem_map.mpr fun earlier _ => Finding.isOrderBug_tooEarly pass earlier
  repeated isDone := by
    have ready := Tracker.missing_eq_nil.mpr (closed pass isDone)
    have stepped := step_of_repeated ready (Tracker.isDone_iff.mpr isDone)
    obtain ⟨found, isFound⟩ := findings_after_walk pass session
    refine ⟨found, _, rfl, Finding.isOrderBug_refused _, ?_, ?_⟩
    · rw [stepped, isFound]
    · rw [stepped]
      exact passes_after_walk pass session

/-- What a schedule of single passes leaves behind. Completed passes have their prerequisites
completed and stay completed, and every further pass is gated by them. The order of typing and
checking attributes makes no difference to what a check finds out, and to its findings only in
their order. -/
theorem scheduled_passes (unit : Option Module) (options : Options) :
    (∀ schedule, (Session.scheduled unit options schedule).passes.Closed) ∧
      (∀ schedule more, (Session.scheduled unit options schedule).passes.done <:+
        (Session.scheduled unit options (schedule ++ more)).passes.done) ∧
      (∀ schedule pass, (Session.scheduled unit options schedule).Gated pass) ∧
      (Session.check unit options).SameUpToOrder
        (Session.checkIn Pass.swapped unit options) := by
  obtain ⟨reordered, complete, completeOther⟩ := reordered_check unit options
  refine ⟨closed_scheduled unit options, fun schedule more => ?_, fun schedule pass => ?_,
    reordered.sameUpToOrder complete completeOther⟩
  · unfold Session.scheduled
    rw [List.foldl_append]
    exact done_steps _ more
  · exact gated_of_closed (closed_scheduled unit options schedule) pass

/-- The last pass ahead of all others misses three, and the second is run twice. -/
example : (Session.scheduled none .standard [.lint, .declare, .scope, .scope]).bag.codes =
    ["B0002", "B0002", "B0002", "B0002"] := by decide +kernel

end UnitCheck
