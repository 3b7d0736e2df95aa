import UnitCheck.Proofs.Session.Lockstep
import UnitCheck.Proofs.Session.Passes

/-!
# Visits that do not meet

A pass visits one item after the other. Where every visit writes to nodes of its own and
looks at none that another one writes to, each visit does what it would do alone: it finds
the same, and it leaves the same behind at its nodes. So neither the order of the visits
nor what the others find makes a difference.
-/

namespace UnitCheck

/-! ### What stays -/

/-- The session has changed at touched nodes only. -/
structure Kept (touched : NodeId -> Prop) (before after : Session) : Prop where
  unit : after.unit = before.unit
  options : after.options = before.options
  globals : after.table.globals = before.table.globals
  checked : after.checked = before.checked
  known : ∀ id, (∀ node, touched node → id ≠ .node node) → after.knownOf id = before.knownOf id
  entries : ∀ node, ¬touched node → after.entry node = before.entry node

namespace Kept

variable {touched wider : NodeId -> Prop} {before middle after : Session}

theorem refl : Kept touched before before :=
  ⟨rfl, rfl, rfl, rfl, fun _ _ => rfl, fun _ _ => rfl⟩

theorem trans (first : Kept touched before middle) (second : Kept touched middle after) :
    Kept touched before after where
  unit := second.unit.trans first.unit
  options := second.options.trans first.options
  globals := second.globals.trans first.globals
  checked := second.checked.trans first.checked
  known id apart := (second.known id apart).trans (first.known id apart)
  entries node apart := (second.entries node apart).trans (first.entries node apart)

theorem mono (kept : Kept touched before after) (more : ∀ node, touched node → wider node) :
    Kept wider before after where
  unit := kept.unit
  options := kept.options
  globals := kept.globals
  checked := kept.checked
  known id apart := kept.known id fun node isTouched => apart node (more node isTouched)
  entries node apart := kept.entries node fun isTouched => apart (more node isTouched)

/-- What is known of the symbol of an untouched node stays. -/
theorem knownOf_node (kept : Kept touched before after) {node : NodeId} (apart : ¬touched node) :
    after.knownOf (.node node) = before.knownOf (.node node) := by
  refine kept.known _ fun other isTouched same => apart ?_
  cases same
  exact isTouched

/-- A permitted act changes owned nodes only. -/
theorem act {outlook : Outlook} {act : Act} (permitted : outlook.Permits act) (session : Session) :
    Kept outlook.owns session (act.apply session) where
  unit := by
    cases act <;> rfl
  options := by
    cases act <;> rfl
  globals := by
    cases act <;> first | rfl | exact permitted.elim
  checked := by
    cases act <;> first | rfl | exact permitted.elim
  known id apart := by
    rw [Act.knownOf_apply, if_neg]
    intro subject
    obtain ⟨node, owns, same⟩ := Outlook.owns_of_subject permitted subject
    exact apart node owns same
  entries node apart := by
    rw [Act.entry_apply, if_neg]
    exact fun site => apart (Outlook.owns_of_site permitted site)

/-- The session differs from another one in bookkeeping only. -/
theorem of_alike (alike : before.Alike after) : Kept touched before after := by
  rw [alike.same]
  exact ⟨rfl, rfl, rfl, rfl, fun _ _ => rfl, fun _ _ => rfl⟩

end Kept

/-! ### What a walk finds -/

/-- What a walk finds in a session. -/
def Session.finds (session : Session) (walk : Check Unit) : List Finding :=
  (session.after walk).findings.drop session.findings.length

theorem Session.finds_eq {session : Session} {walk : Check Unit} {found : List Finding}
    (added : (session.after walk).findings = session.findings ++ found) :
    session.finds walk = found := by
  rw [Session.finds, added, List.drop_left]

/-- What visits in turn find, one by one. -/
def Session.findsEach {α : Type} (visit : α -> Check Unit) : Session -> List α -> List (List Finding)
  | _, [] => []
  | session, value :: rest =>
    session.finds (visit value) :: (session.after (visit value)).findsEach visit rest

/-- Two sessions have found the same since they set out. -/
def FoundAlike (first second one other : Session) : Prop :=
  ∃ found, one.findings = first.findings ++ found ∧ other.findings = second.findings ++ found

theorem FoundAlike.start (one other : Session) : FoundAlike one other one other :=
  ⟨[], (List.append_nil _).symm, (List.append_nil _).symm⟩

/-- The same act on both sides finds the same. -/
theorem FoundAlike.act {first second one other : Session}
    (found : FoundAlike first second one other) (act : Act) :
    FoundAlike first second (act.apply one) (act.apply other) := by
  obtain ⟨added, inOne, inOther⟩ := found
  cases act with
  | report finding =>
    refine ⟨added ++ [finding], ?_, ?_⟩
    · rw [← List.append_assoc, ← inOne]
      rfl
    · rw [← List.append_assoc, ← inOther]
      rfl
  | _ => exact ⟨added, inOne, inOther⟩

/-- Walks behind which the same has been found find the same. -/
theorem FoundAlike.finds_eq {one other : Session} {walk others : Check Unit}
    (found : FoundAlike one other (one.after walk) (other.after others)) :
    one.finds walk = other.finds others ∧
      (one.after walk).findings = one.findings ++ one.finds walk ∧
      (other.after others).findings = other.findings ++ other.finds others := by
  obtain ⟨added, inOne, inOther⟩ := found
  rw [Session.finds_eq inOne, Session.finds_eq inOther]
  exact ⟨rfl, inOne, inOther⟩

/-! ### Tracked walks -/

/-- Two sessions that agree, each with where it has come from: both have changed at owned
nodes only and have found the same. -/
structure Tracked (outlook : Outlook) (first second one other : Session) : Prop where
  agree : Agree outlook one other
  enclosed : Enclosed outlook one
  kept : Kept outlook.owns first one
  keptOther : Kept outlook.owns second other
  found : FoundAlike first second one other

variable {outlook : Outlook} {first second one other : Session}

/-- The same permitted act on both sides keeps sessions tracked. -/
theorem Tracked.act {act : Act} (tracked : Tracked outlook first second one other)
    (permitted : outlook.Permits act) :
    Tracked outlook first second (act.apply one) (act.apply other) where
  agree := tracked.agree.act permitted
  enclosed := tracked.enclosed.act permitted
  kept := tracked.kept.trans (.act permitted one)
  keptOther := tracked.keptOther.trans (.act permitted other)
  found := tracked.found.act act

/-- Sessions with where they have come from. -/
def Pairing.tracked (outlook : Outlook) (first second : Session) : Pairing outlook where
  alike := Tracked outlook first second
  agree tracked := tracked.agree
  enclosed tracked := tracked.enclosed
  act tracked permitted := tracked.act permitted

theorem Tracked.start (agree : Agree outlook one other) (enclosed : Enclosed outlook one) :
    Tracked outlook one other one other :=
  ⟨agree, enclosed, .refl, .refl, .start one other⟩

/-- The session has changed at owned nodes only. Globals may be declared and gone through
on the way. -/
def Spared (outlook : Outlook) (before after : Session) : Prop :=
  ∀ node, ¬outlook.owns node → after.entry node = before.entry node ∧
    after.knownOf (.node node) = before.knownOf (.node node)

theorem Spared.refl : Spared outlook one one := fun _ _ => ⟨rfl, rfl⟩

theorem Spared.act {act : Act} (spared : Spared outlook first one)
    (permitted : outlook.Permits act) : Spared outlook first (act.apply one) := by
  intro node apart
  have kept := Kept.act permitted one
  rw [kept.entries node apart, kept.knownOf_node apart]
  exact spared node apart

/-- Two sessions that agree and have found the same since they set out. -/
structure Since (outlook : Outlook) (first second one other : Session) : Prop where
  agree : Agree outlook one other
  enclosed : Enclosed outlook one
  checked : one.checked = other.checked
  spared : Spared outlook first one
  sparedOther : Spared outlook second other
  found : FoundAlike first second one other

theorem Since.start (agree : Agree outlook one other) (enclosed : Enclosed outlook one)
    (checked : one.checked = other.checked) : Since outlook one other one other :=
  ⟨agree, enclosed, checked, .refl, .refl, .start one other⟩

theorem Since.act {act : Act} (since : Since outlook first second one other)
    (permitted : outlook.Permits act) :
    Since outlook first second (act.apply one) (act.apply other) where
  agree := since.agree.act permitted
  enclosed := since.enclosed.act permitted
  checked := by
    cases act <;> first | exact since.checked | exact permitted.elim
  spared := since.spared.act permitted
  sparedOther := since.sparedOther.act permitted
  found := since.found.act act

/-- Sessions that have agreed since they set out. -/
def Pairing.since (outlook : Outlook) (first second : Session) : Pairing outlook where
  alike := Since outlook first second
  agree since := since.agree
  enclosed since := since.enclosed
  act since permitted := since.act permitted

/-- Visits that stay in step from sessions that agree find the same one by one. -/
theorem findsEach_eq {α : Type} {visit : α -> Check Unit} (values : List α)
    (steps : ∀ value ∈ values, ∀ first second,
      (Pairing.since outlook first second).Steps (visit value) fun _ => True)
    (agree : Agree outlook one other) (enclosed : Enclosed outlook one)
    (checked : one.checked = other.checked) :
    one.findsEach visit values = other.findsEach visit values := by
  induction values generalizing one other with
  | nil => rfl
  | cons value rest inductionHypothesis =>
    have since : Since outlook one other (one.after (visit value)) (other.after (visit value)) :=
      (steps value List.mem_cons_self one other one other (.start agree enclosed checked)).2.2
    unfold Session.findsEach
    rw [since.found.finds_eq.1]
    congr 1
    exact inductionHypothesis (fun later isLater => steps later (List.mem_cons_of_mem _ isLater))
      since.agree since.enclosed since.checked

/-! ### Visits alone -/

/-- From any session that differs from another one at touched nodes only, the walk finds the
same, and at its own nodes it leaves the same. -/
def Alone (base : Session) (touched : NodeId -> Prop) (territory : List NodeId)
    (walk : Check Unit) : Prop :=
  ∀ session, Kept touched base session → session.table = base.table →
    Kept (· ∈ territory) session (session.after walk) ∧
      (session.after walk).table = session.table ∧
      (session.after walk).findings = session.findings ++ base.finds walk ∧
      ∀ node ∈ territory, (session.after walk).entry node = (base.after walk).entry node ∧
        (session.after walk).knownOf (.node node) = (base.after walk).knownOf (.node node)

/-- What visits leave behind that do what they do alone. -/
structure Visited {α : Type} (base : Session) (visit : α -> Check Unit)
    (territory : α -> List NodeId) (values : List α) (after : Session) : Prop where
  kept : Kept (fun node => ∃ value ∈ values, node ∈ territory value) base after
  table : after.table = base.table
  findings : after.findings = base.findings ++ values.flatMap fun value => base.finds (visit value)
  own : ∀ value ∈ values, ∀ node ∈ territory value,
    after.entry node = (base.after (visit value)).entry node ∧
      after.knownOf (.node node) = (base.after (visit value)).knownOf (.node node)

section Visits

variable {α : Type} {base session : Session} {visit : α -> Check Unit}
  {territory : α -> List NodeId} {values done : List α}

theorem Visited.nil : Visited base visit territory [] base where
  kept := .refl
  table := rfl
  findings := (List.append_nil _).symm
  own := List.forall_mem_nil _

/-- One more visit. -/
theorem Visited.step {value : α} (visited : Visited base visit territory done session)
    (apart : ∀ earlier ∈ done, ∀ node ∈ territory earlier, node ∉ territory value)
    (alone : Alone base (fun node => ∃ earlier ∈ done, node ∈ territory earlier)
      (territory value) (visit value)) :
    Visited base visit territory (done ++ [value]) (session.after (visit value)) := by
  obtain ⟨kept, table, findings, own⟩ := alone session visited.kept visited.table
  refine ⟨?_, table.trans visited.table, ?_, ?_⟩
  · refine (visited.kept.mono ?_).trans (kept.mono ?_)
    · rintro node ⟨earlier, isDone, inside⟩
      exact ⟨earlier, List.mem_append_left _ isDone, inside⟩
    · intro node inside
      exact ⟨value, List.mem_append_right _ List.mem_cons_self, inside⟩
  · rw [findings, visited.findings, List.flatMap_append, List.flatMap_singleton, List.append_assoc]
  · refine List.forall_mem_append.mpr ⟨fun earlier isDone node inside => ?_, ?_⟩
    · have isApart := apart earlier isDone node inside
      rw [kept.entries node isApart, kept.knownOf_node isApart]
      exact visited.own earlier isDone node inside
    · rintro _ (_ | ⟨_, ⟨⟩⟩)
      exact own

/-- Visits that do not meet do what each of them does alone. -/
theorem Visited.forM (visited : Visited base visit territory done session)
    (distinct : ((done ++ values).flatMap territory).Nodup)
    (alone : ∀ value ∈ values, Alone base
      (fun node => node ∉ territory value ∧ ∃ other ∈ done ++ values, node ∈ territory other)
      (territory value) (visit value)) :
    Visited base visit territory (done ++ values) (session.after (values.forM visit)) ∧
      session.findsEach visit values = values.map fun value => base.finds (visit value) := by
  induction values generalizing done session with
  | nil =>
    rw [List.append_nil]
    exact ⟨visited, rfl⟩
  | cons value rest inductionHypothesis =>
    have apart : ∀ earlier ∈ done, ∀ node ∈ territory earlier, node ∉ territory value := by
      intro earlier isDone node inEarlier inValue
      rw [List.flatMap_append, List.nodup_append] at distinct
      refine distinct.2.2 node (List.mem_flatMap.mpr ⟨earlier, isDone, inEarlier⟩) node ?_ rfl
      exact List.mem_flatMap.mpr ⟨value, List.mem_cons_self, inValue⟩
    have isAlone := alone value List.mem_cons_self
    have first : Alone base (fun node => ∃ earlier ∈ done, node ∈ territory earlier)
        (territory value) (visit value) := by
      intro other kept
      refine isAlone other (kept.mono ?_)
      rintro node ⟨earlier, isDone, inside⟩
      exact ⟨apart earlier isDone node inside, earlier, List.mem_append_left _ isDone, inside⟩
    have assoc : done ++ value :: rest = (done ++ [value]) ++ rest := by simp
    have stepped := visited.step apart first
    rw [assoc] at distinct ⊢
    obtain ⟨later, found⟩ := inductionHypothesis stepped distinct fun other isOther => by
      rw [← assoc]
      exact alone other (List.mem_cons_of_mem _ isOther)
    refine ⟨later, ?_⟩
    rw [Session.findsEach, found, List.map_cons]
    congr 1
    exact Session.finds_eq (first session visited.kept visited.table).2.2.1

end Visits

/-- A walk that stays in step in an outlook where nothing touched is looked at does what it
does alone. -/
theorem alone_of_steps {base : Session} {touched : NodeId -> Prop} {territory : List NodeId}
    {walk : Check Unit} (owns : ∀ node, outlook.owns node ↔ node ∈ territory)
    (unseen : ∀ node, outlook.inside node → ¬touched node)
    (unknown : ∀ node, outlook.steady (.node node) → ¬touched node)
    (steady : ∀ node, outlook.visible node → outlook.steady (.node node))
    (enclosed : Enclosed outlook base)
    (steps : ∀ session, session.checked = base.checked →
      (Pairing.tracked outlook session base).Steps walk fun _ => True)
    (balanced : ∀ session, Kept touched base session → session.table = base.table →
      (session.after walk).table = session.table) :
    Alone base touched territory walk := by
  intro session kept table
  have known : ∀ id, outlook.steady id → session.knownOf id = base.knownOf id := by
    intro id isSteady
    refine kept.known id ?_
    rintro node isTouched rfl
    exact unknown node isSteady isTouched
  have agree : Agree outlook session base := by
    refine ⟨?_, kept.options, ?_, ?_, ?_, known, ?_⟩
    · unfold Session.file
      rw [kept.unit]
    · rw [table]
      exact fun _ _ _ => rfl
    · rw [table]
    · rw [table]
    · exact fun node inside => kept.entries node (unseen node inside)
  have enclosedHere : Enclosed outlook session := by
    refine ⟨?_, ?_, fun id met => ?_, fun node inside => ?_⟩
    · rw [table]
      exact enclosed.globals
    · rw [table]
      exact enclosed.locals
    · have same : session.knownOf id = base.knownOf id := by
        cases id with
        | builtin number => exact kept.known _ fun _ _ impossible => by cases impossible
        | node node => exact known _ (steady node met)
      rw [same]
      exact enclosed.known id met
    · rw [kept.entries node (unseen node inside)]
      exact enclosed.entries node inside
  have tracked : Tracked outlook session base (session.after walk) (base.after walk) :=
    (steps session kept.checked session base (.start agree enclosedHere)).2.2
  obtain ⟨sameFound, added, -⟩ := tracked.found.finds_eq
  refine ⟨tracked.kept.mono fun node => (owns node).mp, balanced session kept table, ?_, ?_⟩
  · rw [added, sameFound]
  · intro node inside
    have owned := (owns node).mpr inside
    exact ⟨tracked.agree.entries node (outlook.inside_of_owns node owned),
      tracked.agree.known _ (outlook.steady_of_owns node owned)⟩

end UnitCheck
