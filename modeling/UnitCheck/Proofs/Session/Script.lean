import UnitCheck.Proofs.Session.Lockstep
import UnitCheck.Proofs.Session.Passes
import UnitCheck.Proofs.Session.Quiet

/-!
# Walks that follow a script, and sessions that match

Wherever a regime holds, a walk that follows a script gives the same value and takes the
same acts. Such walks can be compared without running them: where each of several keeps to
nodes of its own, the order in which they are replayed makes no difference to any node.

Two sessions match when they look the same everywhere and have found the same, in whatever
order. Walks that keep to nodes of their own may be taken in any order: from sessions that
match they lead to sessions that match.
-/

namespace UnitCheck

/-! ### Replaying acts -/

/-- The session after several acts in turn. -/
def Session.replay (session : Session) (acts : List Act) : Session := acts.foldl Act.apply session

namespace Act

/-- What the act says, if it reports something. -/
def finding? : Act -> Option Finding
  | .report finding => some finding
  | _ => none

/-- The global that the act adds to the table. -/
def global? : Act -> Option Symbol
  | .global symbol => some symbol
  | _ => none

/-- The act writes to nodes of a territory and finds out about their symbols only. -/
structure Inside (territory : NodeId -> Prop) (act : Act) : Prop where
  site : ∀ node, act.site? = some node → territory node
  subject : ∀ id, act.subject? = some id → ∃ node, territory node ∧ id = .node node

end Act

namespace Session

variable {session : Session} {acts : List Act}

@[simp] theorem replay_nil : session.replay [] = session := rfl

@[simp] theorem replay_cons (act : Act) :
    session.replay (act :: acts) = (act.apply session).replay acts := rfl

@[simp] theorem replay_append (others : List Act) :
    session.replay (acts ++ others) = (session.replay acts).replay others :=
  List.foldl_append

/-- Permitted acts replayed make a trace. -/
theorem trace_replay {permitted : Act -> Prop} (allowed : ∀ act ∈ acts, permitted act)
    (session : Session) : Trace permitted session (session.replay acts) := by
  induction acts generalizing session with
  | nil => exact .refl
  | cons act rest inductionHypothesis =>
    obtain ⟨first, later⟩ := List.forall_mem_cons.mp allowed
    exact (Trace.single first).trans (inductionHypothesis later _)

/-- What is kept for a node depends on the acts that write to it. -/
theorem entry_replay (session : Session) (acts : List Act) (node : NodeId) :
    (session.replay acts).entry node =
      (acts.filter (·.site? = some node)).foldl Act.note (session.entry node) := by
  induction acts generalizing session with
  | nil => rfl
  | cons act rest inductionHypothesis =>
    rw [replay_cons, inductionHypothesis, Act.entry_apply, List.filter_cons]
    by_cases isSite : act.site? = some node
    · simp only [isSite, if_true, decide_true, List.foldl_cons]
    · simp only [isSite, if_false, decide_false, Bool.false_eq_true]

/-- What is known of a symbol depends on the acts that find something out about it. -/
theorem knownOf_replay (session : Session) (acts : List Act) (id : SymbolId) :
    (session.replay acts).knownOf id =
      (acts.filter (·.subject? = some id)).foldl Act.learn (session.knownOf id) := by
  induction acts generalizing session with
  | nil => rfl
  | cons act rest inductionHypothesis =>
    rw [replay_cons, inductionHypothesis, Act.knownOf_apply, List.filter_cons]
    by_cases isSubject : act.subject? = some id
    · simp only [isSubject, if_true, decide_true, List.foldl_cons]
    · simp only [isSubject, if_false, decide_false, Bool.false_eq_true]

theorem findings_replay (session : Session) (acts : List Act) :
    (session.replay acts).findings = session.findings ++ acts.filterMap Act.finding? := by
  induction acts generalizing session with
  | nil => exact (List.append_nil _).symm
  | cons act rest inductionHypothesis =>
    rw [replay_cons, inductionHypothesis]
    cases act <;> simp [Act.apply, Act.finding?, List.filterMap_cons]

theorem globals_replay (session : Session) (acts : List Act) :
    (session.replay acts).table.globals = session.table.globals ++ acts.filterMap Act.global? := by
  induction acts generalizing session with
  | nil => exact (List.append_nil _).symm
  | cons act rest inductionHypothesis =>
    rw [replay_cons, inductionHypothesis]
    cases act <;> simp [Act.apply, Act.global?, List.filterMap_cons]

end Session

/-! ### The order of blocks -/

section Blocks

variable {ι : Type} {values others : List ι} {acts : ι -> List Act} {territory : ι -> NodeId -> Prop}

/-- Where no two blocks hold such a member, their order makes no difference to these. -/
theorem filter_flatMap_perm {α : Type} {block : ι -> List α} {keeps : α -> Bool}
    (perm : values.Perm others)
    (single : ∀ one ∈ values, ∀ other ∈ values, (∃ member ∈ block one, keeps member = true) →
      (∃ member ∈ block other, keeps member = true) → one = other) :
    (values.flatMap block).filter keeps = (others.flatMap block).filter keeps := by
  induction perm with
  | nil => rfl
  | cons value _ inductionHypothesis =>
    simp only [List.flatMap_cons, List.filter_append]
    rw [inductionHypothesis fun one isOne other isOther =>
      single one (List.mem_cons_of_mem _ isOne) other (List.mem_cons_of_mem _ isOther)]
  | swap first second rest =>
    have nothing (value : ι) (none : ¬∃ member ∈ block value, keeps member = true) :
        (block value).filter keeps = [] :=
      List.filter_eq_nil_iff.mpr fun member isMember isKept => none ⟨member, isMember, isKept⟩
    simp only [List.flatMap_cons, List.filter_append]
    by_cases inFirst : ∃ member ∈ block first, keeps member = true
    · by_cases inSecond : ∃ member ∈ block second, keeps member = true
      · rw [single first (by simp) second (by simp) inFirst inSecond]
      · rw [nothing second inSecond, List.nil_append, List.nil_append]
    · rw [nothing first inFirst, List.nil_append, List.nil_append]
  | trans first _ ofFirst ofSecond =>
    rw [ofFirst single, ofSecond fun one isOne other isOther =>
      single one (first.mem_iff.mpr isOne) other (first.mem_iff.mpr isOther)]

variable (perm : values.Perm others)
  (inside : ∀ value ∈ values, ∀ act ∈ acts value, act.Inside (territory value))
  (apart : ∀ one ∈ values, ∀ other ∈ values, ∀ node, territory one node → territory other node →
    one = other)

include perm inside apart

/-- Blocks that keep to territories of their own leave the same at every node in any order. -/
theorem entry_replay_perm {one other : Session} {node : NodeId}
    (same : one.entry node = other.entry node) :
    (one.replay (values.flatMap acts)).entry node =
      (other.replay (others.flatMap acts)).entry node := by
  rw [Session.entry_replay, Session.entry_replay, same, filter_flatMap_perm perm]
  rintro first isFirst second isSecond ⟨act, isAct, site⟩ ⟨later, isLater, laterSite⟩
  exact apart first isFirst second isSecond node
    ((inside first isFirst act isAct).site node (of_decide_eq_true site))
    ((inside second isSecond later isLater).site node (of_decide_eq_true laterSite))

/-- Blocks that keep to territories of their own find out the same of every symbol. -/
theorem knownOf_replay_perm {one other : Session} {id : SymbolId}
    (same : one.knownOf id = other.knownOf id) :
    (one.replay (values.flatMap acts)).knownOf id =
      (other.replay (others.flatMap acts)).knownOf id := by
  rw [Session.knownOf_replay, Session.knownOf_replay, same, filter_flatMap_perm perm]
  rintro first isFirst second isSecond ⟨act, isAct, subject⟩ ⟨later, isLater, laterSubject⟩
  obtain ⟨node, inFirst, rfl⟩ :=
    (inside first isFirst act isAct).subject id (of_decide_eq_true subject)
  obtain ⟨_, inSecond, ⟨⟩⟩ :=
    (inside second isSecond later isLater).subject _ (of_decide_eq_true laterSubject)
  exact apart first isFirst second isSecond node inFirst inSecond

end Blocks

/-- In any order blocks of acts find the same. -/
theorem findings_replay_perm {ι : Type} {values others : List ι} {acts : ι -> List Act}
    {one other : Session} (perm : values.Perm others) (same : one.findings.Perm other.findings) :
    (one.replay (values.flatMap acts)).findings.Perm
      (other.replay (others.flatMap acts)).findings := by
  rw [Session.findings_replay, Session.findings_replay]
  exact same.append ((perm.flatMap_right acts).filterMap _)

/-! ### Scripts -/

namespace Regime

variable {regime : Regime} {α β : Type}

/-- Where the regime holds the walk gives this value and takes these acts, all permitted. -/
structure Follows (regime : Regime) (walk : Check α) (value : α) (acts : List Act) : Prop where
  allowed : ∀ act ∈ acts, regime.permits act
  runs : ∀ session, regime.holds session → walk.run session = (value, session.replay acts)

/-- Where the regime holds the walk gives the same value and takes the same acts. -/
def Scripted (regime : Regime) (walk : Check α) : Prop :=
  ∃ value acts, regime.Follows walk value acts

/-- Permitted acts keep what the regime relies on. -/
theorem holds_replay {acts : List Act} (allowed : ∀ act ∈ acts, regime.permits act)
    {session : Session} (holds : regime.holds session) : regime.holds (session.replay acts) :=
  (Session.trace_replay allowed session).holds holds

/-- A script is followed wherever another regime holds as well. -/
theorem Follows.weaken {other : Regime} {walk : Check α} {value : α} {acts : List Act}
    (follows : regime.Follows walk value acts)
    (holds : ∀ session, other.holds session → regime.holds session)
    (permits : ∀ act, regime.permits act → other.permits act) :
    other.Follows walk value acts :=
  ⟨fun act isAct => permits act (follows.allowed act isAct),
    fun session held => follows.runs session (holds session held)⟩

namespace Scripted

theorem pure (value : α) : regime.Scripted (pure value) :=
  ⟨value, [], List.forall_mem_nil _, fun _ _ => rfl⟩

theorem bind {first : Check α} {rest : α -> Check β} (scripted : regime.Scripted first)
    (scriptedRest : ∀ value, regime.Scripted (rest value)) : regime.Scripted (first >>= rest) := by
  obtain ⟨value, acts, allowed, runs⟩ := scripted
  obtain ⟨result, later, allowedLater, runsLater⟩ := scriptedRest value
  refine ⟨result, acts ++ later, List.forall_mem_append.mpr ⟨allowed, allowedLater⟩,
    fun session holds => ?_⟩
  rw [StateT.run_bind, runs session holds, Session.replay_append]
  exact runsLater _ (holds_replay allowed holds)

/-- A walk that looks at the session first and finds there what the regime relies on. -/
theorem read {rest : Session -> Check α} {walk : Check α} (scripted : regime.Scripted walk)
    (same : ∀ session, regime.holds session → rest session = walk) :
    regime.Scripted (get >>= rest) := by
  obtain ⟨value, acts, allowed, runs⟩ := scripted
  refine ⟨value, acts, allowed, fun session holds => ?_⟩
  rw [StateT.run_bind, StateT.run_get, pure_bind, same session holds, runs session holds]

/-- A walk that is one permitted act. -/
theorem act {walk : Check Unit} (act : Act) (runs : ∀ session, (walk.run session).2 = act.apply session)
    (permitted : regime.permits act) : regime.Scripted walk :=
  ⟨(), [act], List.forall_mem_singleton.mpr permitted,
    fun session _ => Prod.ext rfl (runs session)⟩

theorem forM {visit : α -> Check Unit} (values : List α)
    (scripted : ∀ value ∈ values, regime.Scripted (visit value)) :
    regime.Scripted (values.forM visit) := by
  induction values with
  | nil => exact .pure _
  | cons value rest inductionHypothesis =>
    obtain ⟨first, later⟩ := List.forall_mem_cons.mp scripted
    exact .bind first fun _ => inductionHypothesis later

theorem mapM {visit : α -> Check β} (values : List α)
    (scripted : ∀ value ∈ values, regime.Scripted (visit value)) :
    regime.Scripted (values.mapM visit) := by
  induction values with
  | nil => exact .pure _
  | cons value rest inductionHypothesis =>
    obtain ⟨first, later⟩ := List.forall_mem_cons.mp scripted
    rw [List.mapM_cons]
    exact .bind first fun _ => .bind (inductionHypothesis later) fun _ => .pure _

end Scripted

/-- Visits that follow scripts follow them one behind the other. -/
theorem Follows.forM {ι : Type} {visit : ι -> Check Unit} {acts : ι -> List Act} (values : List ι)
    (follows : ∀ value ∈ values, regime.Follows (visit value) () (acts value)) :
    regime.Follows (values.forM visit) () (values.flatMap acts) := by
  induction values with
  | nil => exact ⟨List.forall_mem_nil _, fun _ _ => rfl⟩
  | cons value rest inductionHypothesis =>
    obtain ⟨first, later⟩ := List.forall_mem_cons.mp follows
    obtain ⟨allowed, runs⟩ := inductionHypothesis later
    rw [List.flatMap_cons]
    refine ⟨List.forall_mem_append.mpr ⟨first.allowed, allowed⟩, fun session holds => ?_⟩
    have shape : ((value :: rest).forM visit).run session =
        (rest.forM visit).run ((visit value).run session).2 := rfl
    rw [shape, first.runs session holds, Session.replay_append]
    exact runs _ (holds_replay first.allowed holds)

end Regime

/-! ### Sessions that match -/

/-- Sessions that look the same everywhere and have found the same, in whatever order. -/
structure Session.Matches (one other : Session) : Prop where
  file : one.file = other.file
  options : one.options = other.options
  globals : one.table.globals.Perm other.table.globals
  names : ∀ space name, one.table.global? space name = other.table.global? space name
  locals : one.table.locals = other.table.locals
  frames : one.table.frames = other.table.frames
  known : ∀ id, one.knownOf id = other.knownOf id
  entries : ∀ node, one.entry node = other.entry node
  findings : one.findings.Perm other.findings

namespace Session.Matches

variable {one other first last : Session}

theorem refl (session : Session) : session.Matches session :=
  ⟨rfl, rfl, .refl _, fun _ _ => rfl, rfl, rfl, fun _ => rfl, fun _ => rfl, .refl _⟩

theorem symm (matched : one.Matches other) : other.Matches one where
  file := matched.file.symm
  options := matched.options.symm
  globals := matched.globals.symm
  names space name := (matched.names space name).symm
  locals := matched.locals.symm
  frames := matched.frames.symm
  known id := (matched.known id).symm
  entries node := (matched.entries node).symm
  findings := matched.findings.symm

theorem trans (matched : one.Matches other) (later : other.Matches last) : one.Matches last where
  file := matched.file.trans later.file
  options := matched.options.trans later.options
  globals := matched.globals.trans later.globals
  names space name := (matched.names space name).trans (later.names space name)
  locals := matched.locals.trans later.locals
  frames := matched.frames.trans later.frames
  known id := (matched.known id).trans (later.known id)
  entries node := (matched.entries node).trans (later.entries node)
  findings := matched.findings.trans later.findings

/-- Sessions that match agree in every outlook. -/
theorem agree (matched : one.Matches other) (outlook : Outlook) : Agree outlook one other :=
  ⟨matched.file, matched.options, fun space name _ => matched.names space name, matched.locals, matched.frames,
    fun id _ => matched.known id, fun node _ => matched.entries node⟩

/-- Whether something fatal has been found does not depend on the order. -/
theorem quiet (matched : one.Matches other) (quiet : one.Quiet) : other.Quiet :=
  fun finding isFound => quiet finding (matched.findings.mem_iff.mpr isFound)

/-- Bookkeeping makes no difference. -/
theorem of_alike (matched : one.Matches other) (alike : one.Alike first)
    (alikeOther : other.Alike last) : first.Matches last := by
  rw [alike.same, alikeOther.same]
  exact ⟨matched.file, matched.options, matched.globals, matched.names, matched.locals,
    matched.frames, matched.known, matched.entries, matched.findings⟩

theorem resolveType? (matched : one.Matches other) (name : String) :
    one.table.resolveType? name = other.table.resolveType? name := by
  simp only [Table.resolveType?, matched.locals, matched.names]

/-- What encloses one session encloses a session that matches. -/
theorem enclosed {outlook : Outlook} (matched : one.Matches other)
    (enclosed : Enclosed outlook one) : Enclosed outlook other where
  globals symbol isGlobal := enclosed.globals symbol (matched.globals.mem_iff.mpr isGlobal)
  locals := matched.locals ▸ enclosed.locals
  known id met := matched.known id ▸ enclosed.known id met
  entries node inside := matched.entries node ▸ enclosed.entries node inside

/-- The same act on both sides keeps sessions matched. -/
theorem act (matched : one.Matches other) (act : Act) : (act.apply one).Matches (act.apply other) where
  file := by
    cases act <;> exact matched.file
  options := by
    cases act <;> exact matched.options
  globals := by
    cases act with
    | global symbol => exact matched.globals.append_right [symbol]
    | _ => exact matched.globals
  names space name := by
    cases act with
    | global symbol =>
      have same := matched.names space name
      simp only [Table.global?, Act.apply, List.find?_append] at same ⊢
      rw [same]
    | _ => exact matched.names space name
  locals := by
    cases act with
    | locals arena frames => rfl
    | _ => exact matched.locals
  frames := by
    cases act with
    | locals arena frames => rfl
    | _ => exact matched.frames
  known id := by rw [Act.knownOf_apply, Act.knownOf_apply, matched.known]
  entries node := by rw [Act.entry_apply, Act.entry_apply, matched.entries]
  findings := by
    cases act with
    | report finding => exact matched.findings.append_right [finding]
    | _ => exact matched.findings

theorem replay (matched : one.Matches other) (acts : List Act) :
    (one.replay acts).Matches (other.replay acts) := by
  induction acts generalizing one other with
  | nil => exact matched
  | cons act rest inductionHypothesis => exact inductionHypothesis (matched.act act)

end Session.Matches

/-- No act changes the file of the unit. -/
theorem Session.file_replay (session : Session) (acts : List Act) :
    (session.replay acts).file = session.file := by
  induction acts generalizing session with
  | nil => rfl
  | cons act rest inductionHypothesis =>
    rw [replay_cons, inductionHypothesis]
    cases act <;> rfl

theorem Session.options_replay (session : Session) (acts : List Act) :
    (session.replay acts).options = session.options :=
  (Session.trace_replay (fun _ _ => trivial : ∀ act ∈ acts, True) session).options

section Blocks

variable {ι : Type} {values others : List ι} {acts : ι -> List Act} {territory : ι -> NodeId -> Prop}
  {one other : Session}

/-- Blocks that keep to territories of their own lead to sessions that match where they leave
tables that do. -/
theorem Session.Matches.replay_perm (matched : one.Matches other) (perm : values.Perm others)
    (inside : ∀ value ∈ values, ∀ act ∈ acts value, act.Inside (territory value))
    (apart : ∀ one ∈ values, ∀ other ∈ values, ∀ node, territory one node → territory other node →
      one = other)
    (names : ∀ space name, (one.replay (values.flatMap acts)).table.global? space name =
      (other.replay (others.flatMap acts)).table.global? space name)
    (locals : (one.replay (values.flatMap acts)).table.locals =
      (other.replay (others.flatMap acts)).table.locals)
    (frames : (one.replay (values.flatMap acts)).table.frames =
      (other.replay (others.flatMap acts)).table.frames) :
    (one.replay (values.flatMap acts)).Matches (other.replay (others.flatMap acts)) where
  file := by rw [Session.file_replay, Session.file_replay, matched.file]
  options := by rw [Session.options_replay, Session.options_replay, matched.options]
  globals := by
    rw [Session.globals_replay, Session.globals_replay]
    exact matched.globals.append ((perm.flatMap_right acts).filterMap _)
  names := names
  locals := locals
  frames := frames
  known id := knownOf_replay_perm perm inside apart (matched.known id)
  entries node := entry_replay_perm perm inside apart (matched.entries node)
  findings := findings_replay_perm perm matched.findings

/-- Acts that leave the table alone one by one leave it alone. -/
theorem Session.table_replay {acts : List Act}
    (kept : ∀ act ∈ acts, ∀ session, (Act.apply session act).table = session.table)
    (session : Session) : (session.replay acts).table = session.table :=
  (Session.trace_replay kept session).keeps fun _ session kept => kept session

/-- Visits that keep to territories of their own and leave the table alone may be taken in
any order. -/
theorem Session.Matches.forM {regime : Regime} {visit : ι -> Check Unit}
    (matched : one.Matches other) (perm : values.Perm others)
    (follows : ∀ value ∈ values, regime.Follows (visit value) () (acts value))
    (inside : ∀ value ∈ values, ∀ act ∈ acts value, act.Inside (territory value))
    (apart : ∀ one ∈ values, ∀ other ∈ values, ∀ node, territory one node → territory other node →
      one = other)
    (kept : ∀ act session, regime.permits act → (Act.apply session act).table = session.table)
    (holds : regime.holds one) (holdsOther : regime.holds other) :
    (one.after (values.forM visit)).Matches (other.after (others.forM visit)) := by
  have followed := Regime.Follows.forM values follows
  have followedOther : regime.Follows (others.forM visit) () (others.flatMap acts) :=
    .forM others fun value isValue => follows value (perm.mem_iff.mpr isValue)
  have tables {list : List ι} (allowed : ∀ act ∈ list.flatMap acts, regime.permits act)
      (session : Session) : (session.replay (list.flatMap acts)).table = session.table :=
    Session.table_replay (fun act isAct session => kept act session (allowed act isAct)) session
  unfold Session.after
  rw [followed.runs one holds, followedOther.runs other holdsOther]
  refine matched.replay_perm perm inside apart (fun space name => ?_) ?_ ?_
  · rw [tables followed.allowed, tables followedOther.allowed, matched.names]
  · rw [tables followed.allowed, tables followedOther.allowed, matched.locals]
  · rw [tables followed.allowed, tables followedOther.allowed, matched.frames]

end Blocks
end UnitCheck
