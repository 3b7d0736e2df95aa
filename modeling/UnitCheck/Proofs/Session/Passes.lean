import UnitCheck.Proofs.Declare.Frame
import UnitCheck.Proofs.Resolve.Frame
import UnitCheck.Proofs.Session.Quiet
import UnitCheck.Proofs.Typing.Frame
import UnitCheck.Verdict

/-!
# The five walks of a check

A check is five walks, one behind the other. What happens between them, the
bookkeeping of passes and the progress messages, changes nothing a walk looks at.
`check_walks` says so once: each walk starts from a session like the one the walk before
has left.
-/

namespace UnitCheck

/-- The walk of a pass, without its bookkeeping. -/
def Pass.walk : Pass -> Check Unit
  | .declare => Declare.walk
  | .scope => Resolve.walk
  | .typeCheck => Typing.walk
  | .attributes => do ((<- get).items.flatMap Attributes.itemFindings).forM Check.report
  | .lint => do (Lint.findings (<- get)).forM Check.report

theorem Pass.walk_declare : Pass.declare.walk = Declare.walk := rfl

theorem Pass.walk_scope : Pass.scope.walk = Resolve.walk := rfl

theorem Pass.walk_typeCheck : Pass.typeCheck.walk = Typing.walk := rfl

/-- A pass runs its walk when its prerequisites have completed. -/
theorem Pass.run_eq (pass : Pass) : pass.run = Check.runPass pass pass.walk := by
  cases pass <;> rfl

/-- The session after a walk. -/
def Session.after (session : Session) (walk : Check Unit) : Session := (walk.run session).2

/-- Walks one behind the other. -/
theorem Session.after_bind {α : Type} (session : Session) (first : Check α) (rest : Check Unit) :
    session.after (first >>= fun _ => rest) = (first.run session).2.after rest := rfl

/-! ### Walks complete no pass -/

theorem mayResolve_free (inside : NodeId -> Prop) : Check.MayResolve Regime.free inside :=
  ⟨fun _ => trivial, fun _ _ _ => trivial, fun _ _ _ => trivial⟩

theorem mayDeclare_free : Declare.MayDeclare Regime.free fun _ => True :=
  ⟨mayResolve_free _, fun _ => trivial, fun _ _ _ => trivial, fun _ _ => trivial,
    fun _ _ => trivial, fun _ => trivial, fun _ _ => trivial, fun _ _ => trivial⟩

theorem mayBind_free : Resolve.MayBind Regime.free (fun _ => True) fun _ => True :=
  ⟨mayResolve_free _, fun _ _ _ _ => trivial, fun _ _ _ => trivial, fun _ _ => trivial,
    fun _ _ _ => trivial⟩

theorem mayType_free : Typing.MayType Regime.free :=
  ⟨fun _ => trivial, fun _ _ => trivial, fun _ _ => trivial, fun _ => trivial⟩

theorem mayCheckItem_free (item : Item) : Typing.MayCheckItem Regime.free item :=
  Typing.mayCheckItem_of mayResolve_free (fun _ _ => trivial) item

/-- Reporting takes one act for each finding. -/
theorem obeys_reports {regime : Regime} (report : ∀ finding, regime.permits (.report finding))
    (findings : List Finding) : regime.Obeys (findings.forM Check.report) :=
  .forM _ fun _ _ => Check.obeys_report (report _)

/-- The last two walks only report. -/
theorem obeys_lastWalks {regime : Regime} (report : ∀ finding, regime.permits (.report finding)) :
    regime.Obeys Pass.attributes.walk ∧ regime.Obeys Pass.lint.walk :=
  ⟨.read fun _ => obeys_reports report _, .read fun _ => obeys_reports report _⟩

/-- Whatever a walk does, it does in acts, once typing has forgotten which globals have
been gone through. -/
theorem trace_walk (pass : Pass) (session : Session) :
    ∃ checked, Trace Regime.free.permits { session with checked := checked }
      (session.after pass.walk) := by
  unfold Session.after
  cases pass with
  | declare =>
    exact ⟨session.checked,
      Declare.obeys_walk mayDeclare_free (fun _ _ _ _ _ _ => trivial) session trivial⟩
  | scope =>
    exact ⟨session.checked,
      Resolve.obeys_walk mayBind_free (fun _ _ _ _ _ _ => trivial) (fun _ _ _ _ _ _ => trivial)
        session trivial⟩
  | typeCheck =>
    exact ⟨[], Typing.trace_walk mayType_free session (fun item _ => mayCheckItem_free item)
      trivial⟩
  | attributes => exact ⟨session.checked, (obeys_lastWalks mayType_free.report).1 session trivial⟩
  | lint => exact ⟨session.checked, (obeys_lastWalks mayType_free.report).2 session trivial⟩

/-- A walk completes no pass. -/
theorem passes_after_walk (pass : Pass) (session : Session) :
    (session.after pass.walk).passes = session.passes := by
  obtain ⟨_, trace⟩ := trace_walk pass session
  exact trace.passes

/-- A walk leaves the items of the unit alone. -/
theorem items_after_walk (pass : Pass) (session : Session) :
    (session.after pass.walk).items = session.items := by
  obtain ⟨_, trace⟩ := trace_walk pass session
  exact trace.items

/-- A walk leaves the options alone. -/
theorem options_after_walk (pass : Pass) (session : Session) :
    (session.after pass.walk).options = session.options := by
  obtain ⟨_, trace⟩ := trace_walk pass session
  exact trace.options

/-- A walk takes nothing back that has been found. -/
theorem findings_after_walk (pass : Pass) (session : Session) :
    session.findings <+: (session.after pass.walk).findings := by
  obtain ⟨_, trace⟩ := trace_walk pass session
  exact trace.findings

/-- What is quiet after a walk was quiet before. -/
theorem quiet_before_walk (pass : Pass) {session : Session}
    (quiet : (session.after pass.walk).Quiet) : session.Quiet :=
  quiet.of_prefix (findings_after_walk pass session)

/-! ### What happens between walks -/

/-- The sessions differ in progress and completed passes at most. -/
structure Session.Alike (before after : Session) : Prop where
  same : after = { before with passes := after.passes, progress := after.progress }

namespace Session.Alike

variable {before middle after : Session}

theorem refl (session : Session) : session.Alike session := ⟨rfl⟩

theorem trans (first : Alike before middle) (second : Alike middle after) : Alike before after := by
  refine ⟨?_⟩
  rw [second.same, first.same]

theorem symm (alike : Alike before after) : Alike after before := by
  obtain ⟨passes, progress, rfl⟩ : ∃ passes progress,
      after = { before with passes := passes, progress := progress } := ⟨_, _, alike.same⟩
  exact ⟨rfl⟩

theorem options (alike : Alike before after) : after.options = before.options := by
  rw [alike.same]

theorem items (alike : Alike before after) : after.items = before.items := by
  rw [alike.same]
  rfl

theorem facts (alike : Alike before after) : after.facts = before.facts := by
  rw [alike.same]

theorem known (alike : Alike before after) : after.known = before.known := by
  rw [alike.same]

theorem definitions (alike : Alike before after) : after.definitions = before.definitions := by
  rw [alike.same]

theorem table (alike : Alike before after) : after.table = before.table := by
  rw [alike.same]

theorem findings (alike : Alike before after) : after.findings = before.findings := by
  rw [alike.same]

theorem quiet (alike : Alike before after) (quiet : after.Quiet) : before.Quiet := by
  unfold Quiet
  rw [← alike.findings]
  exact quiet

/-- What looks neither at completed passes nor at progress carries over. -/
theorem carries {property : Session -> Prop} (alike : Alike before after)
    (holds : property before) (ignores : ∀ passes progress,
      property before → property { before with passes := passes, progress := progress }) :
    property after := by
  rw [alike.same]
  exact ignores _ _ holds

end Session.Alike

/-- A progress message changes nothing else. -/
theorem alike_say (session : Session) (style : Style) (text : String) :
    session.Alike (session.after (Check.say style text)) ∧
      (session.after (Check.say style text)).passes = session.passes := by
  have outcome : session.after (Check.say style text) =
      if session.options.debug then
        { session with progress := session.progress ++ [style.paint text] }
      else session := rfl
  rw [outcome]
  split <;> exact ⟨⟨rfl⟩, rfl⟩

/-- The closing progress message changes nothing else. -/
theorem alike_sayOutcome (session : Session) :
    session.Alike (session.after Check.sayOutcome) ∧
      (session.after Check.sayOutcome).passes = session.passes := by
  have outcome : session.after Check.sayOutcome = if session.bag.hasErrors then
      session.after (Check.say .red ("\n✗ " ++ session.file ++ ": " ++
        toString session.bag.failures ++ " error(s)\n"))
      else session.after (Check.say .green ("\n✓ " ++ session.file ++ " checked\n")) := by
    unfold Session.after Check.sayOutcome
    rw [StateT.run_bind]
    simp only [StateT.run_get, pure_bind]
    split <;> rfl
  rw [outcome]
  split <;> exact alike_say _ _ _

/-- A pass that may complete and has not does its walk and completes. -/
theorem run_pass {session : Session} {pass : Pass} (ready : session.passes.missing pass = [])
    (isNew : session.passes.isDone pass = false) :
    (session.after pass.walk).Alike (session.after pass.run) ∧
      (session.after pass.run).passes = ⟨pass :: session.passes.done⟩ := by
  have completes : session.after pass.run = (session.after pass.walk).after (Check.complete pass) := by
    rw [Pass.run_eq]
    have required : (Check.require pass).run session = (true, session) := by
      have outcome : (Check.require pass).run session =
          ((session.passes.missing pass).isEmpty, session.after
            ((session.passes.missing pass).forM fun earlier =>
              Check.report (.passTooEarly pass earlier))) := rfl
      rw [outcome, ready]
      rfl
    unfold Session.after Check.runPass
    rw [StateT.run_bind, required]
    rfl
  have finished : (session.after pass.walk).passes.complete pass =
      .ok ⟨pass :: session.passes.done⟩ := by
    rw [passes_after_walk]
    simp [Tracker.complete, ready, isNew]
  rw [completes]
  generalize session.after pass.walk = walked at finished ⊢
  have outcome : walked.after (Check.complete pass) =
      ({ walked with passes := ⟨pass :: session.passes.done⟩ } : Session).after
        (Check.say .cyan ("[" ++ pass.text ++ "] done, " ++ toString walked.errorCount ++
          " error(s) so far\n")) := by
    unfold Session.after Check.complete
    rw [StateT.run_bind]
    simp only [StateT.run_get, pure_bind, finished]
    rfl
  have marked : walked.Alike { walked with passes := ⟨pass :: session.passes.done⟩ } := ⟨rfl⟩
  obtain ⟨alike, passes⟩ := alike_say
    { walked with passes := ⟨pass :: session.passes.done⟩ } .cyan
    ("[" ++ pass.text ++ "] done, " ++ toString walked.errorCount ++ " error(s) so far\n")
  rw [outcome]
  exact ⟨marked.trans alike, passes⟩

/-- The progress message ahead of a pass. -/
def Check.announce (number : Nat) (pass : Pass) : Check Unit :=
  Check.say .cyan ("\n[Phase " ++ toString number ++ "] " ++ pass.title ++ "\n")

/-- One round of a check: a pass between two progress messages. -/
theorem run_round (session : Session) (number : Nat) (pass : Pass)
    (ready : session.passes.missing pass = []) (isNew : session.passes.isDone pass = false) :
    session.Alike (session.after (Check.announce number pass)) ∧
      ∃ next, ((session.after (Check.announce number pass)).after pass.walk).Alike next ∧
        next.passes = ⟨pass :: session.passes.done⟩ ∧
        ∀ rest, session.after (Check.runPasses number (pass :: rest)) =
          next.after (Check.runPasses (number + 1) rest) := by
  obtain ⟨alikeStart, startPasses⟩ := alike_say session .cyan
    ("\n[Phase " ++ toString number ++ "] " ++ pass.title ++ "\n")
  unfold Check.announce
  generalize started : session.after (Check.say .cyan
    ("\n[Phase " ++ toString number ++ "] " ++ pass.title ++ "\n")) = start at *
  obtain ⟨alikeRun, runPasses⟩ := run_pass (startPasses ▸ ready) (startPasses ▸ isNew)
  rw [startPasses] at runPasses
  obtain ⟨alikeNext, nextPasses⟩ := alike_say (start.after pass.run) .purple
    ("  ✓ " ++ (start.after pass.run).file ++ "\n")
  refine ⟨alikeStart, _, alikeRun.trans alikeNext, nextPasses.trans runPasses, fun rest => ?_⟩
  rw [← started]
  rfl

/-- The session from which the walk of a pass starts in a check. -/
def Session.ahead (unit : Option Module) (options : Options) (pass : Pass) : Session :=
  let earlier := Pass.all.takeWhile (· ≠ pass)
  ((Session.start unit options).after (Check.runPasses 1 earlier)).after
    (Check.announce (earlier.length + 1) pass)

/-- Between the walks of a check nothing they look at changes, and in the end all passes
have completed. -/
theorem check_walks (unit : Option Module) (options : Options) :
    (Session.start unit options).Alike (.ahead unit options .declare) ∧
      ((Session.ahead unit options .declare).after Pass.declare.walk).Alike
        (.ahead unit options .scope) ∧
      ((Session.ahead unit options .scope).after Pass.scope.walk).Alike
        (.ahead unit options .typeCheck) ∧
      ((Session.ahead unit options .typeCheck).after Pass.typeCheck.walk).Alike
        (.ahead unit options .attributes) ∧
      ((Session.ahead unit options .attributes).after Pass.attributes.walk).Alike
        (.ahead unit options .lint) ∧
      ((Session.ahead unit options .lint).after Pass.lint.walk).Alike
        (Session.check unit options) ∧
      (Session.check unit options).passes.isComplete = true := by
  obtain ⟨alike1, second, next1, passes1, rest1⟩ :=
    run_round (Session.start unit options) 1 .declare rfl rfl
  obtain ⟨alike2, third, next2, passes2, rest2⟩ :=
    run_round second 2 .scope (by rw [passes1]; rfl) (by rw [passes1]; rfl)
  rw [passes1] at passes2
  obtain ⟨alike3, fourth, next3, passes3, rest3⟩ :=
    run_round third 3 .typeCheck (by rw [passes2]; rfl) (by rw [passes2]; rfl)
  rw [passes2] at passes3
  obtain ⟨alike4, fifth, next4, passes4, rest4⟩ :=
    run_round fourth 4 .attributes (by rw [passes3]; rfl) (by rw [passes3]; rfl)
  rw [passes3] at passes4
  obtain ⟨alike5, last, next5, passes5, rest5⟩ :=
    run_round fifth 5 .lint (by rw [passes4]; rfl) (by rw [passes4]; rfl)
  rw [passes4] at passes5
  have behind1 : (Session.start unit options).after (Check.runPasses 1 [.declare]) = second :=
    rest1 []
  have behind2 : (Session.start unit options).after (Check.runPasses 1 [.declare, .scope]) =
      third := (rest1 _).trans (rest2 [])
  have behind3 : (Session.start unit options).after
      (Check.runPasses 1 [.declare, .scope, .typeCheck]) = fourth :=
    (rest1 _).trans ((rest2 _).trans (rest3 []))
  have behind4 : (Session.start unit options).after
      (Check.runPasses 1 [.declare, .scope, .typeCheck, .attributes]) = fifth :=
    (rest1 _).trans ((rest2 _).trans ((rest3 _).trans (rest4 [])))
  rw [← behind1] at alike2 next2 next1
  rw [← behind2] at alike3 next3 next2
  rw [← behind3] at alike4 next4 next3
  rw [← behind4] at alike5 next5 next4
  have final : Session.check unit options = last.after Check.sayOutcome := by
    unfold Session.check
    rw [← Session.after, Session.after_bind, ← Session.after]
    unfold Pass.all
    rw [rest1, rest2, rest3, rest4, rest5]
    rfl
  obtain ⟨alikeFinal, passesFinal⟩ := alike_sayOutcome last
  rw [final]
  refine ⟨alike1, next1.trans alike2, next2.trans alike3, next3.trans alike4, next4.trans alike5,
    next5.trans alikeFinal, ?_⟩
  rw [passesFinal, passes5]
  rfl

/-! ### The walks that only report -/

/-- Reporting adds findings and does nothing else. -/
theorem after_reports (findings : List Finding) (session : Session) :
    session.after (findings.forM Check.report) =
      { session with findings := session.findings ++ findings } := by
  induction findings generalizing session with
  | nil =>
    rw [List.append_nil]
    rfl
  | cons finding rest inductionHypothesis =>
    have first : session.after ((finding :: rest).forM Check.report) =
        (Act.apply session (.report finding)).after (rest.forM Check.report) := rfl
    rw [first, inductionHypothesis]
    simp [Act.apply]

/-- The last walk adds what is to be said about control flow. -/
theorem after_lint (session : Session) : session.after Pass.lint.walk =
    { session with findings := session.findings ++ Lint.findings session } := by
  rw [← after_reports]
  rfl

/-- The walk before the last adds what is to be said about attributes. -/
theorem after_attributes (session : Session) : session.after Pass.attributes.walk =
    { session with
      findings := session.findings ++ session.items.flatMap Attributes.itemFindings } := by
  rw [← after_reports]
  rfl

/-- The session with other findings and other bookkeeping. -/
def Session.retold (session : Session) (findings : List Finding) (passes : Tracker)
    (progress : List String) : Session :=
  { session with findings := findings, passes := passes, progress := progress }

/-- The last two passes and what happens between passes change findings, progress and
completed passes only. -/
theorem check_told (unit : Option Module) (options : Options) :
    let typed := (Session.ahead unit options .typeCheck).after Typing.walk
    ∃ findings passes progress,
      Session.check unit options = typed.retold (typed.findings ++ findings) passes progress := by
  obtain ⟨-, -, -, fourth, fifth, last, -⟩ := check_walks unit options
  rw [after_attributes] at fifth
  rw [after_lint] at last
  rw [Pass.walk_typeCheck] at fourth
  refine ⟨(Session.ahead unit options .attributes).items.flatMap Attributes.itemFindings ++
      Lint.findings (.ahead unit options .lint),
    (Session.check unit options).passes, (Session.check unit options).progress, ?_⟩
  unfold Session.retold
  rw [last.same, fifth.same, fourth.same]
  simp

/-- A check is three walks, and what is told behind them. -/
theorem check_typed (unit : Option Module) (options : Options) :
    ∃ declare scope typeCheck : Session,
      (Session.start unit options).Alike declare ∧
      (declare.after Declare.walk).Alike scope ∧
      (scope.after Resolve.walk).Alike typeCheck ∧
      ∃ findings passes progress, Session.check unit options =
        (typeCheck.after Typing.walk).retold ((typeCheck.after Typing.walk).findings ++ findings)
          passes progress := by
  obtain ⟨first, second, third, -, -, -, -⟩ := check_walks unit options
  exact ⟨_, _, _, first, second, third, check_told unit options⟩

/-- A check leaves the items of the unit alone. -/
theorem items_check (unit : Option Module) (options : Options) :
    (Session.check unit options).items = (Session.start unit options).items := by
  obtain ⟨first, second, third, fourth, fifth, last, -⟩ := check_walks unit options
  rw [last.items, items_after_walk, fifth.items, items_after_walk, fourth.items,
    items_after_walk, third.items, items_after_walk, second.items, items_after_walk, first.items]

/-- What neither a walk changes nor what happens between walks is the same ahead of each. -/
theorem ahead_keeps {α : Type} {view : Session -> α}
    (between : ∀ {before after : Session}, before.Alike after → view after = view before)
    (walks : ∀ (pass : Pass) (session : Session), view (session.after pass.walk) = view session)
    (unit : Option Module) (options : Options) (pass : Pass) :
    view (.ahead unit options pass) = view (.start unit options) := by
  obtain ⟨first, second, third, fourth, fifth, -, -⟩ := check_walks unit options
  have declare := between first
  have scope := (between second).trans ((walks .declare _).trans declare)
  have typeCheck := (between third).trans ((walks .scope _).trans scope)
  have attributes := (between fourth).trans ((walks .typeCheck _).trans typeCheck)
  cases pass with
  | declare => exact declare
  | scope => exact scope
  | typeCheck => exact typeCheck
  | attributes => exact attributes
  | lint => exact (between fifth).trans ((walks .attributes _).trans attributes)

theorem items_ahead (unit : Option Module) (options : Options) (pass : Pass) :
    (Session.ahead unit options pass).items = (Session.start unit options).items :=
  ahead_keeps Session.Alike.items items_after_walk unit options pass

theorem options_ahead (unit : Option Module) (options : Options) (pass : Pass) :
    (Session.ahead unit options pass).options = options :=
  ahead_keeps Session.Alike.options options_after_walk unit options pass

/-- A check ends with what is to be said about control flow, judged by all that the
check has found out. -/
theorem check_lint (unit : Option Module) (options : Options) :
    ∃ judged : Session, judged.items = (Session.start unit options).items ∧
      (Session.check unit options).facts = judged.facts ∧
      (Session.check unit options).known = judged.known ∧
      (Session.check unit options).findings = judged.findings ++ Lint.findings judged := by
  have items := items_check unit options
  obtain ⟨-, -, -, -, -, last, -⟩ := check_walks unit options
  rw [after_lint] at last
  generalize Session.ahead unit options .lint = judged at last
  exact ⟨judged, last.items.symm.trans items, last.facts, last.known, last.findings⟩

end UnitCheck
