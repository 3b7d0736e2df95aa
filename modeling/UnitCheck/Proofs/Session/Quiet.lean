import UnitCheck.Proofs.Session.Trace

/-!
# Sessions without errors, and what walks do not look at

A session is quiet as long as nothing fatal has been found. Findings are never
taken back, so a session that ends quiet was quiet all along.

A walk looks at few options and never at what has been found, which passes have completed or
which progress messages have been written. These make up the guise of a session. An `Aloof`
walk gives the same result in any guise that suits its session, finds the same, and ends in
the same session in a guise that tells of it. How strict a check is shows in what is found to
be unreachable only, which aloof walks say nothing about.

Whether field accesses look through `mut` does matter to walks, but in one direction only: a
walk that is quiet where they do not is the same where they do.
-/

namespace UnitCheck

/-- The severity of a finding does not depend on the file. -/
theorem Finding.severity_diagnostic (finding : Finding) (file : String) :
    (finding.diagnostic file).severity = finding.severity := by
  unfold severity
  cases finding with
  | missingInitializer span what => cases what <;> rfl
  | fieldAccess span error =>
    obtain ⟨reason, segment, type⟩ := error
    cases reason <;> rfl
  | _ => rfl

/-- Whether a finding fails the unit. -/
def Finding.isFatal (finding : Finding) : Bool := finding.severity.isFatal

/-- Whether the finding is an objection to the types of operands, or to a value that does not
fit its type. -/
def Finding.isObjection : Finding -> Bool
  | .notNumber _ _ | .literalOverflow _ _ _ | .invalidOperand _ _ _ _ | .negatedUnsigned _ _
  | .operandMismatch _ _ _ _ _ | .pointerOrder _ _ | .unordered _ _ | .mismatch _ _ _
  | .notIndexable _ _ | .indexOutOfBounds _ _ _ _ => true
  | _ => false

theorem Finding.isFatal_of_isObjection {finding : Finding}
    (isObjection : finding.isObjection = true) : finding.isFatal = true := by
  cases finding <;> first | rfl | cases isObjection

/-- A field access that leads nowhere fails the unit whatever the reason. -/
theorem Finding.isFatal_fieldAccess (span : Span) (error : FieldError) :
    (Finding.fieldAccess span error).isFatal = true := by
  obtain ⟨reason, segment, type⟩ := error
  cases reason <;> rfl

namespace Session

/-- Nothing fatal has been found. -/
def Quiet (session : Session) : Prop := ∀ finding ∈ session.findings, finding.isFatal = false

theorem quiet_iff (session : Session) : session.bag.hasErrors = false ↔ session.Quiet := by
  have fatal (finding : Finding) :
      (finding.diagnostic session.file).isFatal = finding.isFatal := by
    unfold Diagnostic.isFatal Finding.isFatal
    rw [Finding.severity_diagnostic]
  simp [bag, Bag.hasErrors, Quiet, fatal]

/-- What ends quiet was quiet before. -/
theorem Quiet.of_prefix {before after : Session} (quiet : after.Quiet)
    (grows : before.findings <+: after.findings) : before.Quiet :=
  fun finding inside => quiet finding (grows.subset inside)

/-- Behind a fatal finding nothing is quiet. -/
theorem not_quiet_report {session : Session} {finding : Finding}
    (fatal : finding.isFatal = true) : ¬((Check.report finding).run session).2.Quiet := by
  intro quiet
  have found := quiet finding (List.mem_append_right _ List.mem_cons_self)
  rw [fatal] at found
  cases found

end Session
/-!
### What quiet walks ensure

Statements about walks that end without a fatal finding. A complaint then never
happened, so what it complains about is excluded. Properties that no act takes back
hold from where they are reached on.
-/

/-- No act takes the property back. -/
def Lasting (property : Session -> Prop) : Prop :=
  ∀ act session, property session → property (Act.apply session act)

/-- When it starts where the precondition holds and ends quiet, the walk leaves a session
and a value of which the postcondition holds. -/
structure Ensures {α : Type} (pre : Session -> Prop) (walk : Check α)
    (post : Session -> α -> Prop) : Prop where
  grows : Regime.free.Obeys walk
  ensures : ∀ session, pre session → (walk.run session).2.Quiet →
    post (walk.run session).2 (walk.run session).1

/-- A lasting property survives any walk. -/
theorem Lasting.run {property : Session -> Prop} (lasting : Lasting property) {α : Type}
    {walk : Check α} (grows : Regime.free.Obeys walk) {session : Session}
    (holds : property session) : property (walk.run session).2 :=
  (grows session trivial).preserves (fun act session _ => lasting act session) holds

/-- What holds of all members of a list lasts when it lasts for each. -/
theorem lasting_forall {ι : Type} {values : List ι} {property : ι -> Session -> Prop}
    (lasting : ∀ value, Lasting (property value)) :
    Lasting fun session => ∀ value ∈ values, property value session :=
  fun act session holds value inside => lasting value act session (holds value inside)

namespace Ensures

variable {α β : Type} {pre : Session -> Prop} {walk : Check α} {next : α -> Check β}
  {post middle : Session -> α -> Prop} {goal : Session -> β -> Prop}

theorem bind (first : Ensures pre walk middle)
    (second : ∀ value, Ensures (fun session => middle session value) (next value) goal) :
    Ensures pre (walk >>= next) goal where
  grows := .bind first.grows fun value => (second value).grows
  ensures session holds quiet := by
    have quietMiddle := quiet.of_prefix
      ((second (walk.run session).1).grows (walk.run session).2 trivial).findings
    exact (second _).ensures _ (first.ensures session holds quietMiddle) quiet

/-- More may be asked for and less be said. -/
theorem mono {weaker : Session -> Prop} {stronger : Session -> α -> Prop}
    (ensures : Ensures weaker walk stronger) (weaken : ∀ session, pre session → weaker session)
    (strengthen : ∀ session value, stronger session value → post session value) :
    Ensures pre walk post :=
  ⟨ensures.grows, fun session holds quiet =>
    strengthen _ _ (ensures.ensures session (weaken session holds) quiet)⟩

/-- A walk that does nothing, where the postcondition holds already. -/
theorem stay {value : α} (holds : ∀ session, pre session → post session value) :
    Ensures pre (pure value) post :=
  ⟨.pure value, fun session held _ => holds session held⟩

/-- A walk that looks at the session first. -/
theorem read {rest : Session -> Check α}
    (ensures : ∀ seen, Ensures (fun session => session = seen ∧ pre session) (rest seen) post) :
    Ensures pre (get >>= rest) post where
  grows := .read fun seen => (ensures seen).grows
  ensures session holds := (ensures session).ensures session ⟨rfl, holds⟩

/-- Behind a fatal finding anything may be said. -/
theorem report {finding : Finding} {post : Session -> Unit -> Prop}
    (fatal : finding.isFatal = true) : Ensures pre (Check.report finding) post :=
  ⟨Check.obeys_report trivial, fun _ _ quiet => absurd quiet (Session.not_quiet_report fatal)⟩

/-- Behind a walk that never ends quiet anything may be said. -/
theorem refused (first : Ensures pre walk fun _ _ => False)
    (grows : ∀ value, Regime.free.Obeys (next value)) : Ensures pre (walk >>= next) goal where
  grows := .bind first.grows grows
  ensures session holds quiet := by
    have quietMiddle := quiet.of_prefix
      (grows (walk.run session).1 (walk.run session).2 trivial).findings
    exact (first.ensures session holds quietMiddle).elim

/-- A walk of which nothing need be said. -/
theorem ofObeys (grows : Regime.free.Obeys walk) : Ensures pre walk fun _ _ => True :=
  ⟨grows, fun _ _ _ => trivial⟩

/-- A lasting property holds behind a walk when it holds in front of it. -/
theorem keep {property : Session -> Prop} (lasting : Lasting property)
    (ensures : Ensures pre walk post) :
    Ensures (fun session => pre session ∧ property session) walk
      fun session value => post session value ∧ property session :=
  ⟨ensures.grows, fun session holds quiet =>
    ⟨ensures.ensures session holds.1 quiet, lasting.run ensures.grows holds.2⟩⟩

/-- One walk behind another, where the first leaves something that lasts. -/
theorem andThen {first second : Session -> Prop} {next : α -> Check β}
    (lasting : Lasting first) (one : Ensures (fun _ => True) walk fun session _ => first session)
    (two : ∀ value, Ensures (fun _ => True) (next value) fun session _ => second session) :
    Ensures (fun _ => True) (walk >>= next) fun session _ => first session ∧ second session :=
  one.bind fun value => ((two value).keep lasting).mono (fun _ holds => ⟨trivial, holds⟩)
    fun _ _ holds => holds.symm

/-- A walk over a list in which every step leaves something that lasts. -/
theorem forM {ι : Type} {visit : ι -> Check Unit} {mark : ι -> Session -> Prop}
    (values : List ι) (lasting : ∀ value, Lasting (mark value))
    (ensures : ∀ value ∈ values, Ensures (fun _ => True) (visit value)
      fun session _ => mark value session) :
    Ensures (fun _ => True) (values.forM visit)
      fun session _ => ∀ value ∈ values, mark value session := by
  induction values with
  | nil => exact stay fun _ _ => List.forall_mem_nil _
  | cons value rest inductionHypothesis =>
    obtain ⟨ofValue, ofRest⟩ := List.forall_mem_cons.mp ensures
    exact (ofValue.andThen (lasting value) fun _ => inductionHypothesis ofRest).mono
      (fun _ holds => holds) fun _ _ holds => List.forall_mem_cons.mpr holds

end Ensures

/-! ### What walks do not look at -/

/-- Whether the finding is one that depends on how strict a check is. -/
def Finding.isUnreachable : Finding -> Bool
  | .unreachable _ _ => true
  | _ => false

/-- What a session shows apart from what walks go by. -/
structure Guise where
  options : Options
  findings : List Finding
  passes : Tracker
  progress : List String

/-- Walks that look at the options find the same in others, and look through `mut` with the
others where they do with these. -/
structure Options.Suits (others options : Options) : Prop where
  integerType : others.integerType = options.integerType
  derefMode : others.derefMode = options.derefMode ∨ others.derefMode = .viaMut

namespace Session

/-- The guise of the session. -/
def guise (session : Session) : Guise :=
  ⟨session.options, session.findings, session.passes, session.progress⟩

/-- The session in another guise. -/
def wearing (session : Session) (guise : Guise) : Session :=
  { session with
    options := guise.options
    findings := guise.findings
    passes := guise.passes
    progress := guise.progress }

end Session

namespace Guise

/-- The guise with more findings, and other progress messages. -/
def telling (guise : Guise) (found : List Finding) (progress : List String) : Guise :=
  { guise with findings := guise.findings ++ found, progress := progress }

theorem telling_nil (guise : Guise) : guise.telling [] guise.progress = guise := by
  unfold telling
  rw [List.append_nil]

theorem telling_telling (guise : Guise) (first second : List Finding) (middle last : List String) :
    (guise.telling first middle).telling second last = guise.telling (first ++ second) last := by
  simp only [telling, List.append_assoc]

/-- What the walk does from the session in the guise is what it does from the session. -/
def Follows {α : Type} (guise : Guise) (walk : Check α) (session : Session) : Prop :=
  ∃ found progress, (walk.run session).2.findings = session.findings ++ found ∧
    walk.run (session.wearing guise) =
      ((walk.run session).1, (walk.run session).2.wearing (guise.telling found progress))

end Guise

/-- The walk does the same in any guise that suits its session. Where only the guise looks
through `mut`, the walk has to end quiet. -/
structure Aloof {α : Type} (walk : Check α) : Prop where
  finds : ∀ session, ∃ found, (walk.run session).2.findings = session.findings ++ found ∧
    ∀ finding ∈ found, finding.isUnreachable = false
  options : ∀ session, (walk.run session).2.options = session.options
  follows : ∀ session (guise : Guise), guise.options.Suits session.options →
    guise.options.derefMode = session.options.derefMode ∨ (walk.run session).2.Quiet →
    guise.Follows walk session

namespace Aloof

variable {α β : Type} {walk : Check α}

theorem findings (aloof : Aloof walk) (session : Session) :
    session.findings <+: (walk.run session).2.findings := by
  obtain ⟨found, isFound, -⟩ := aloof.finds session
  exact ⟨found, isFound.symm⟩

theorem pure (value : α) : Aloof (pure value : Check α) where
  finds _ := ⟨[], (List.append_nil _).symm, List.forall_mem_nil _⟩
  options _ := rfl
  follows session guise _ _ := by
    refine ⟨[], guise.progress, (List.append_nil _).symm, ?_⟩
    rw [Guise.telling_nil]
    rfl

theorem bind {rest : α -> Check β} (first : Aloof walk) (second : ∀ value, Aloof (rest value)) :
    Aloof (walk >>= rest) where
  finds session := by
    obtain ⟨found, isFound, ordinary⟩ := first.finds session
    obtain ⟨later, isLater, others⟩ :=
      (second (walk.run session).1).finds (walk.run session).2
    refine ⟨found ++ later, ?_, List.forall_mem_append.mpr ⟨ordinary, others⟩⟩
    rw [← List.append_assoc, ← isFound]
    exact isLater
  options session := ((second _).options _).trans (first.options session)
  follows session guise suits trusted := by
    have behind := second (walk.run session).1
    obtain ⟨found, progress, isFound, ran⟩ := first.follows session guise suits
      (trusted.imp_right fun quiet => quiet.of_prefix (behind.findings _))
    have same := first.options session
    obtain ⟨later, last, isLater, ranLater⟩ := behind.follows (walk.run session).2
      (guise.telling found progress) (same ▸ suits) (same ▸ trusted)
    refine ⟨found ++ later, last, ?_, ?_⟩
    · rw [← List.append_assoc, ← isFound]
      exact isLater
    · rw [StateT.run_bind, ran]
      rw [Guise.telling_telling] at ranLater
      exact ranLater

/-- A walk that looks at the session first and sees the same in the guises it is compared in. -/
theorem readWhere {rest : Session -> Check α}
    (same : ∀ session (guise : Guise), guise.options.Suits session.options →
      guise.options.derefMode = session.options.derefMode ∨
        ((rest session).run session).2.Quiet →
      rest (session.wearing guise) = rest session)
    (aloof : ∀ session, Aloof (rest session)) : Aloof (get >>= rest) where
  finds session := (aloof session).finds session
  options session := (aloof session).options session
  follows session guise suits trusted := by
    have ran : (get >>= rest).run (session.wearing guise) =
        (rest session).run (session.wearing guise) := by
      rw [← same session guise suits trusted]
      rfl
    unfold Guise.Follows
    rw [ran]
    exact (aloof session).follows session guise suits trusted

/-- A walk that looks at the session first, and not at its guise. -/
theorem read {rest : Session -> Check α}
    (same : ∀ session (guise : Guise), guise.options.Suits session.options →
      rest (session.wearing guise) = rest session)
    (aloof : ∀ session, Aloof (rest session)) : Aloof (get >>= rest) :=
  .readWhere (fun session guise suits _ => same session guise suits) aloof

/-- A walk that changes the session, but not its guise. -/
theorem modify {change : Session -> Session} (keeps : ∀ session, (change session).guise = session.guise)
    (commutes : ∀ session guise, change (session.wearing guise) = (change session).wearing guise) :
    Aloof (modify change : Check Unit) where
  finds session := by
    refine ⟨[], ?_, List.forall_mem_nil _⟩
    rw [List.append_nil]
    exact congrArg Guise.findings (keeps session)
  options session := congrArg Guise.options (keeps session)
  follows session guise _ _ := by
    refine ⟨[], guise.progress, ?_, Prod.ext rfl ?_⟩
    · rw [List.append_nil]
      exact congrArg Guise.findings (keeps session)
    · rw [Guise.telling_nil]
      exact commutes session guise

/-- A walk over a list. -/
theorem forM {visit : α -> Check Unit} (values : List α)
    (aloof : ∀ value ∈ values, Aloof (visit value)) : Aloof (values.forM visit) := by
  induction values with
  | nil => exact .pure _
  | cons value rest inductionHypothesis =>
    obtain ⟨ofValue, ofRest⟩ := List.forall_mem_cons.mp aloof
    exact .bind ofValue fun _ => inductionHypothesis ofRest

/-- A walk over a list that hands a value on. -/
theorem foldlM {visit : β -> α -> Check β} (values : List α)
    (aloof : ∀ value ∈ values, ∀ state, Aloof (visit state value)) (state : β) :
    Aloof (values.foldlM visit state) := by
  induction values generalizing state with
  | nil => exact .pure _
  | cons value rest inductionHypothesis =>
    obtain ⟨ofValue, ofRest⟩ := List.forall_mem_cons.mp aloof
    rw [List.foldlM_cons]
    exact .bind (ofValue state) fun next => inductionHypothesis ofRest next

/-- A walk that turns every value of a list into another. -/
theorem mapM {visit : α -> Check β} (values : List α)
    (aloof : ∀ value ∈ values, Aloof (visit value)) : Aloof (values.mapM visit) := by
  induction values with
  | nil => exact .pure _
  | cons value rest inductionHypothesis =>
    obtain ⟨ofValue, ofRest⟩ := List.forall_mem_cons.mp aloof
    rw [List.mapM_cons]
    exact .bind ofValue fun _ => .bind (inductionHypothesis ofRest) fun _ => .pure _

end Aloof

namespace Check

/-! ### The elementary steps of passes -/

theorem aloof_report (finding : Finding) (ordinary : finding.isUnreachable = false) :
    Aloof (report finding) where
  finds _ := ⟨[finding], rfl, List.forall_mem_singleton.mpr ordinary⟩
  options _ := rfl
  follows _ guise _ _ := ⟨[finding], guise.progress, rfl, rfl⟩

/-- Whether progress messages are written is a matter of the guise. -/
theorem aloof_say (style : Style) (text : String) : Aloof (say style text) := by
  have ran (session : Session) : (say style text).run session =
      ((), if session.options.debug then
        { session with progress := session.progress ++ [style.paint text] } else session) := rfl
  constructor
  · intro session
    refine ⟨[], ?_, List.forall_mem_nil _⟩
    rw [ran, List.append_nil]
    simp only
    split <;> rfl
  · intro session
    rw [ran]
    simp only
    split <;> rfl
  · intro session guise _ _
    refine ⟨[], ((say style text).run (session.wearing guise)).2.progress, ?_, ?_⟩
    · rw [ran, List.append_nil]
      simp only
      split <;> rfl
    · rw [ran, ran]
      unfold Guise.telling
      rw [List.append_nil]
      simp only
      split <;> split <;> rfl

theorem aloof_recordExpr (node : NodeId) (type : Ty) : Aloof (recordExpr node type) :=
  .modify (fun _ => rfl) fun _ _ => rfl

theorem aloof_recordForm (node : NodeId) (type : Ty) : Aloof (recordForm node type) :=
  .modify (fun _ => rfl) fun _ _ => rfl

theorem aloof_recordRef (node : NodeId) (symbol : Symbol) : Aloof (recordRef node symbol) :=
  .modify (fun _ => rfl) fun _ _ => rfl

theorem aloof_recordDecl (node : NodeId) (symbol : Symbol) : Aloof (recordDecl node symbol) :=
  .modify (fun _ => rfl) fun _ _ => rfl

theorem aloof_recordMembers (node : NodeId) (steps : List MemberStep) :
    Aloof (recordMembers node steps) :=
  .modify (fun _ => rfl) fun _ _ => rfl

theorem aloof_setKnown (id : SymbolId) (known : SymbolType) : Aloof (setKnown id known) :=
  .modify (fun _ => rfl) fun _ _ => rfl

theorem aloof_setType (id : SymbolId) (type : Ty) : Aloof (setType id type) :=
  .modify (fun _ => rfl) fun _ _ => rfl

theorem aloof_setTable (table : Table) : Aloof (setTable table) :=
  .modify (fun _ => rfl) fun _ _ => rfl

theorem aloof_define (change : Definitions -> Definitions) : Aloof (define change) :=
  .modify (fun _ => rfl) fun _ _ => rfl

/-! ### Written types -/

theorem aloof_namedType (name : String) (span : Span) : Aloof (namedType name span) := by
  unfold namedType
  cases Prim.ofName? name with
  | some builtin => exact .pure _
  | none =>
    refine .read (fun _ _ _ => rfl) fun session => ?_
    cases session.table.resolveType? name with
    | none => exact .pure _
    | some symbol => exact .bind (aloof_recordRef _ _) fun _ => .pure _

mutual

theorem aloof_resolveForm : (form : TypeForm) -> Aloof (resolveForm form)
  | .named name span => by
    unfold resolveForm
    exact .bind (aloof_namedType name span) fun _ => .bind (aloof_recordForm _ _) fun _ => .pure _
  | .opaquePointer span | .address span => by
    unfold resolveForm
    exact .bind (aloof_recordForm _ _) fun _ => .pure _
  | .pointer inner span | .array inner span | .fixedArray inner _ span | .const inner span
  | .mutable inner span => by
    unfold resolveForm
    exact .bind (aloof_resolveForm inner) fun _ => .bind (aloof_recordForm _ _) fun _ => .pure _
  | .function params result variadic span => by
    unfold resolveForm
    exact .bind (aloof_resolveForms params) fun _ => .bind (aloof_resolveForm result) fun _ =>
      .bind (aloof_recordForm _ _) fun _ => .pure _

theorem aloof_resolveForms : (forms : List TypeForm) -> Aloof (resolveForms forms)
  | [] => by
    unfold resolveForms
    exact .pure _
  | form :: rest => by
    unfold resolveForms
    exact .bind (aloof_resolveForm form) fun _ => .bind (aloof_resolveForms rest) fun _ => .pure _

end

theorem aloof_typeOf (form : TypeForm) : Aloof (typeOf form) := by
  unfold typeOf
  exact .bind (aloof_resolveForm form) fun _ =>
    .bind (.forM _ fun _ _ => aloof_report _ rfl) fun _ => .pure _

theorem aloof_typeOf? : (form : Option TypeForm) -> Aloof (typeOf? form)
  | none => .pure _
  | some form => .bind (aloof_typeOf form) fun _ => .pure _

theorem aloof_recordedType (form : TypeForm) : Aloof (recordedType form) := by
  refine .read (fun _ _ _ => rfl) fun session => ?_
  cases session.facts.forms.find? form.node with
  | some type => exact .pure _
  | none => exact .bind (aloof_resolveForm form) fun _ => .pure _

end Check
end UnitCheck
