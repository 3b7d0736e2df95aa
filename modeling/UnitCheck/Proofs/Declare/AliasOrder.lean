import UnitCheck.Proofs.Declare.Aliases
import UnitCheck.Proofs.Declare.Naming
import UnitCheck.Proofs.Session.Quiet
import UnitCheck.Proofs.Session.Passes
import UnitCheck.Proofs.Session.Precedence
import Mathlib.Data.List.Nodup

/-!
# Aliases are resolved in any order

A quiet search through the aliases leaves a schedule of them: none is settled ahead of one
that its target mentions. Along a schedule each alias gets a type that depends on the types
of earlier ones only, and a search from any session and in any order settles each alias
with that type, once.
-/

namespace UnitCheck

/-- A pure precondition is at hand in the proof. -/
theorem Ensures.suppose {α : Type} {pre : Session -> Prop} {walk : Check α}
    {post : Session -> α -> Prop} {fact : Prop} (grows : Regime.free.Obeys walk)
    (ensures : fact → Ensures pre walk post) :
    Ensures (fun session => pre session ∧ fact) walk post :=
  ⟨grows, fun session holds quiet => (ensures holds.2).ensures session holds.1 quiet⟩

namespace Declare

/-- The alias that a name refers to where names of types stand for these symbols. -/
def aliasOf? (all : List DeclaredAlias) (look : String -> Option Symbol) (name : String) :
    Option DeclaredAlias :=
  (look name).bind fun symbol => all.find? (·.symbol.id = symbol.id)

/-- The alias that a mentioned name refers to, if it refers to one. -/
def mentioned (all : List DeclaredAlias) (look : String -> Option Symbol) (mention : Ident) :
    List SymbolId :=
  (aliasOf? all look mention.name).toList.map (·.symbol.id)

/-- The target of one alias mentions another one. -/
def AliasNeeds (all : List DeclaredAlias) (look : String -> Option Symbol)
    (one other : SymbolId) : Prop :=
  ∃ entry ∈ all, entry.symbol.id = one ∧
    ∃ mention ∈ entry.mentions, other ∈ mentioned all look mention

/-- The identities of aliases. -/
abbrev aliasIds (all : List DeclaredAlias) : List SymbolId := all.map (·.symbol.id)

/-- Names of types stand for these symbols. -/
def LooksUp (look : String -> Option Symbol) (session : Session) : Prop :=
  ∀ name, session.table.resolveType? name = look name

/-- The type that the target of an alias stands for; a missing target is reported. -/
def DeclaredAlias.targetType (entry : DeclaredAlias) : Check Ty :=
  match entry.decl.target with
  | some target => Check.typeOf target
  | none => do
    Check.report (.malformed entry.decl.span (.aliasWithoutTarget entry.symbol.name))
    return .unknown

/-- An alias without a type gets that of its target. -/
theorem run_settle {entry : DeclaredAlias} {session : Session}
    (unsettled : (session.knownOf entry.symbol.id).type = none) :
    entry.settle.run session = (do
      let type <- entry.targetType
      Check.setType entry.symbol.id type : Check Unit).run session := by
  unfold DeclaredAlias.settle DeclaredAlias.targetType
  rw [StateT.run_bind]
  simp only [StateT.run_get, pure_bind, unsettled]
  cases entry.decl.target <;> rfl

section Search

variable {all : List DeclaredAlias} {look : String -> Option Symbol}

theorem run_aliasNamed?_of_looksUp (name : String) {session : Session} (looksUp : LooksUp look session) :
    (aliasNamed? all name).run session = (aliasOf? all look name, session) := by
  unfold aliasNamed? aliasOf?
  rw [StateT.run_bind]
  simp only [StateT.run_get, pure_bind, looksUp name]
  cases look name <;> rfl

theorem mem_of_aliasOf? {name : String} {found : DeclaredAlias}
    (isFound : found ∈ aliasOf? all look name) : found ∈ all := by
  obtain ⟨symbol, -, isFound⟩ := Option.bind_eq_some_iff.mp isFound
  exact List.mem_of_find?_eq_some isFound

/-- An alias that a mentioned name stands for is mentioned. -/
theorem mem_mentioned {mention : Ident} {symbol : Symbol} (isMeant : symbol ∈ look mention.name)
    (isAlias : symbol.id ∈ aliasIds all) : symbol.id ∈ mentioned all look mention := by
  obtain ⟨entry, isEntry, same⟩ := List.mem_map.mp isAlias
  obtain ⟨found, isFound⟩ : ∃ found, all.find? (·.symbol.id = symbol.id) = some found :=
    Option.isSome_iff_exists.mp (List.find?_isSome.mpr ⟨entry, isEntry, by simp [same]⟩)
  have sameFound : found.symbol.id = symbol.id := by simpa using List.find?_some isFound
  have isAlias : aliasOf? all look mention.name = some found :=
    Option.bind_eq_some_iff.mpr ⟨symbol, isMeant, isFound⟩
  unfold mentioned
  rw [isAlias, ← sameFound]
  exact List.mem_singleton_self _

theorem grows_resolveAlias {entry : DeclaredAlias} (isEntry : entry ∈ all) (fuel : Nat)
    (path settled : List SymbolId) :
    Regime.free.Obeys (resolveAlias all fuel path settled entry) :=
  obeys_resolveAlias mayDeclare_free.mayResolveAliases all (fun _ _ => mayDeclare_free.mayLearn _)
    (fun _ _ _ _ => trivial) fuel path settled entry
    isEntry

theorem grows_visitMention (fuel : Nat) (path settled : List SymbolId) (mention : Ident) :
    Regime.free.Obeys (visitMention all fuel path settled mention) := by
  refine .bindYields (fun found => ∀ entry ∈ found, entry ∈ all) (obeys_aliasNamed? all _)
    (fun session _ => mem_of_aliasNamed? all mention.name session) fun found isFound => ?_
  cases found with
  | some other => exact grows_resolveAlias (isFound other rfl) _ _ _
  | none => exact .pure _

/-- Settling an alias leaves the table alone. -/
theorem table_settle (entry : DeclaredAlias) (session : Session) :
    (entry.settle.run session).2.table = session.table := by
  have target : ((Naming.of session).regime Naming.anywhere (fun _ => True) fun _ => True).Scripted
      entry.targetType := by
    unfold DeclaredAlias.targetType
    cases entry.decl.target with
    | some target => exact Naming.scripted_typeOf (fun _ _ => trivial) fun _ _ => trivial
    | none => exact .bind (Naming.scripted_report _) fun _ => .pure _
  cases known : (session.knownOf entry.symbol.id).type with
  | some type =>
    unfold DeclaredAlias.settle
    rw [StateT.run_bind]
    simp only [StateT.run_get, pure_bind, known]
    rfl
  | none =>
    obtain ⟨type, acts, allowed, runs⟩ := target
    have run := runs session fun _ _ => ⟨rfl, fun _ _ => rfl⟩
    rw [run_settle known, StateT.run_bind, run]
    have table : (session.replay acts).table = session.table :=
      (Session.trace_replay allowed session).keeps fun _ start permitted =>
        Naming.table_of_allows permitted.2.2 start
    exact table

/-- What a search has settled so far: nothing ahead of what it needs, nothing twice, and
nothing on the path that the search is on. -/
structure Searched (all : List DeclaredAlias) (look : String -> Option Symbol)
    (path settled : List SymbolId) : Prop where
  scheduled : Scheduled (AliasNeeds all look) settled
  distinct : settled.Nodup
  inside : settled ⊆ aliasIds all
  apart : ∀ id ∈ path, id ∉ settled

/-- The search is on its way to one more alias. -/
theorem Searched.enter {path settled : List SymbolId} {id : SymbolId}
    (searched : Searched all look path settled) (isNew : id ∉ settled) :
    Searched all look (id :: path) settled :=
  ⟨searched.scheduled, searched.distinct, searched.inside,
    List.forall_mem_cons.mpr ⟨isNew, searched.apart⟩⟩

/-- An alias may be settled when all that it needs is. -/
theorem Searched.leave {path settled : List SymbolId} {id : SymbolId}
    (searched : Searched all look (id :: path) settled) (isAlias : id ∈ aliasIds all)
    (isNew : id ∉ path) (needed : ∀ other, AliasNeeds all look id other → other ∈ settled) :
    Searched all look path (id :: settled) := by
  obtain ⟨isLast, apart⟩ := List.forall_mem_cons.mp searched.apart
  refine ⟨⟨needed, searched.scheduled⟩, List.nodup_cons.mpr ⟨isLast, searched.distinct⟩,
    List.cons_subset.mpr ⟨isAlias, searched.inside⟩, fun other isPath isDone => ?_⟩
  obtain rfl | isDone := List.mem_cons.mp isDone
  · exact isNew isPath
  · exact apart other isPath isDone

/-- A quiet walk goes on with a schedule until some aliases are settled. -/
def Extends (all : List DeclaredAlias) (look : String -> Option Symbol)
    (path settled : List SymbolId) (walk : Check (List SymbolId)) (goal : List SymbolId) : Prop :=
  Ensures (LooksUp look) walk fun session done =>
    LooksUp look session ∧ Searched all look path done ∧ settled ⊆ done ∧ goal ⊆ done

namespace Extends

variable {path pathOther settled goal last : List SymbolId} {walk : Check (List SymbolId)}
  {next : List SymbolId -> Check (List SymbolId)}

theorem stay (searched : Searched all look path settled) (isSettled : goal ⊆ settled) :
    Extends all look path settled (pure settled) goal :=
  Ensures.stay fun _ looksUp => ⟨looksUp, searched, List.Subset.refl _, isSettled⟩

theorem bind (first : Extends all look path settled walk goal)
    (grows : ∀ done, Regime.free.Obeys (next done))
    (second : ∀ done, Searched all look path done → goal ⊆ done →
      Extends all look pathOther done (next done) last) :
    Extends all look pathOther settled (walk >>= next) last := by
  refine Ensures.bind first fun done => .mono (.suppose (grows done)
    fun held : Searched all look path done ∧ settled ⊆ done ∧ goal ⊆ done => ?_)
    (fun _ holds => holds) fun _ _ holds => holds
  obtain ⟨searched, more, isSettled⟩ := held
  refine Ensures.mono (second done searched isSettled) (fun _ looksUp => looksUp) ?_
  rintro _ _ ⟨looksUp, searched, further, isSettled⟩
  exact ⟨looksUp, searched, List.Subset.trans more further, isSettled⟩

/-- Visits that go on with a schedule do so one behind the other. -/
theorem foldlM {ι : Type} {visit : List SymbolId -> ι -> Check (List SymbolId)}
    {ids : ι -> List SymbolId} (values : List ι)
    (visits : ∀ value ∈ values, ∀ settled, Searched all look path settled →
      Extends all look path settled (visit settled value) (ids value))
    (grows : ∀ value ∈ values, ∀ settled, Regime.free.Obeys (visit settled value))
    (searched : Searched all look path settled) :
    Extends all look path settled (values.foldlM visit settled) (values.flatMap ids) := by
  induction values generalizing settled with
  | nil => exact .stay searched (List.nil_subset _)
  | cons value rest inductionHypothesis =>
    obtain ⟨first, later⟩ := List.forall_mem_cons.mp visits
    obtain ⟨-, growsLater⟩ := List.forall_mem_cons.mp grows
    rw [List.foldlM_cons, List.flatMap_cons]
    refine (first settled searched).bind (fun _ => .foldlM _ growsLater _)
      fun done searched isSettled => ?_
    refine Ensures.mono (inductionHypothesis later growsLater searched) (fun _ looksUp => looksUp) ?_
    rintro _ _ ⟨looksUp, searched, more, others⟩
    exact ⟨looksUp, searched, more,
      List.append_subset.mpr ⟨List.Subset.trans isSettled more, others⟩⟩

end Extends

/-- What a mentioned name refers to is searched, if it is an alias. -/
theorem extends_visitMention {fuel : Nat} {path settled : List SymbolId}
    (visits : ∀ entry ∈ all, Extends all look path settled
      (resolveAlias all fuel path settled entry) [entry.symbol.id])
    (searched : Searched all look path settled) (mention : Ident) :
    Extends all look path settled (visitMention all fuel path settled mention)
      (mentioned all look mention) := by
  refine ⟨grows_visitMention _ _ _ _, fun session looksUp quiet => ?_⟩
  unfold visitMention mentioned at *
  rw [StateT.run_bind, run_aliasNamed?_of_looksUp mention.name looksUp] at quiet ⊢
  cases isFound : aliasOf? all look mention.name with
  | none => exact ⟨looksUp, searched, List.Subset.refl _, List.nil_subset _⟩
  | some found =>
    rw [isFound] at quiet
    exact (visits found (mem_of_aliasOf? isFound)).ensures session looksUp quiet

/-- An alias is settled when what it mentions is. -/
theorem extends_settle (distinct : (aliasIds all).Nodup) {path settled : List SymbolId}
    {entry : DeclaredAlias} (isEntry : entry ∈ all) (isNew : entry.symbol.id ∉ path)
    (searched : Searched all look (entry.symbol.id :: path) settled)
    (isSettled : entry.mentions.flatMap (mentioned all look) ⊆ settled) :
    Extends all look path settled (do entry.settle; return entry.symbol.id :: settled)
      [entry.symbol.id] := by
  refine ⟨.bind (obeys_settle mayDeclare_free.mayResolveAliases (mayDeclare_free.mayLearn _)
    fun _ _ => trivial) fun _ => .pure _, fun session looksUp _ => ?_⟩
  have sameTable : LooksUp look (entry.settle.run session).2 := by
    intro name
    rw [table_settle]
    exact looksUp name
  refine ⟨sameTable, searched.leave (List.mem_map_of_mem isEntry) isNew ?_,
    List.subset_cons_self _ _, List.cons_subset.mpr ⟨List.mem_cons_self, List.nil_subset _⟩⟩
  rintro other ⟨another, isAnother, sameId, mention, isMention, isMentioned⟩
  obtain rfl := List.inj_on_of_nodup_map distinct isAnother isEntry sameId
  exact isSettled (List.mem_flatMap.mpr ⟨mention, isMention, isMentioned⟩)

/-- A quiet search goes on with a schedule. -/
theorem extends_resolveAlias (distinct : (aliasIds all).Nodup) (fuel : Nat)
    {path settled : List SymbolId} (entry : DeclaredAlias) (isEntry : entry ∈ all)
    (fueled : Fueled (aliasIds all) fuel path) (searched : Searched all look path settled) :
    Extends all look path settled (resolveAlias all fuel path settled entry)
      [entry.symbol.id] := by
  induction fuel generalizing path settled entry with
  | zero => exact absurd fueled Fueled.not_zero
  | succ fuel inductionHypothesis =>
    rw [resolveAlias_succ]
    split
    · exact Ensures.refused (.report rfl) fun _ =>
        .bind (Check.obeys_setType trivial) fun _ => .pure _
    · rename_i isNew
      simp only [List.contains_iff_mem] at isNew
      split
      · rename_i isSettled
        exact .stay searched (List.cons_subset.mpr ⟨by simpa using isSettled, List.nil_subset _⟩)
      · rename_i unsettled
        simp only [List.contains_iff_mem] at unsettled
        have deeper := fueled.step (List.mem_map_of_mem isEntry) isNew
        refine (Extends.foldlM entry.mentions (fun mention _ settled searched =>
          extends_visitMention (fun other isOther => inductionHypothesis other isOther deeper searched)
            searched mention) (fun _ _ _ => grows_visitMention _ _ _ _)
          (searched.enter unsettled)).bind (fun _ => ?_) fun done searched isSettled =>
            extends_settle distinct isEntry isNew searched isSettled
        exact .bind (obeys_settle mayDeclare_free.mayResolveAliases (mayDeclare_free.mayLearn _)
          fun _ _ => trivial) fun _ => .pure _

/-- A quiet search through all aliases leaves a schedule of them. -/
theorem scheduled_resolveAliases (distinct : (aliasIds all).Nodup) {session : Session}
    (looksUp : LooksUp look session) (quiet : ((resolveAliases all).run session).2.Quiet) :
    ∃ schedule, Searched all look [] schedule ∧ ∀ entry ∈ all, entry.symbol.id ∈ schedule := by
  have fueled : Fueled (aliasIds all) (all.length + 1) [] := by
    have start : Fueled (aliasIds all) ((aliasIds all).length + 1) [] := .start
    rwa [List.length_map] at start
  have start : Searched all look [] [] :=
    ⟨trivial, List.nodup_nil, List.nil_subset _, List.forall_mem_nil _⟩
  obtain ⟨-, searched, -, covers⟩ :=
    (Extends.foldlM all (fun entry isEntry _ searched =>
      extends_resolveAlias distinct _ entry isEntry fueled searched)
      (fun _ isEntry _ => grows_resolveAlias isEntry _ _ _) start).ensures session looksUp quiet
  exact ⟨_, searched, fun entry isEntry =>
    covers (List.mem_flatMap.mpr ⟨entry, isEntry, List.mem_singleton_self _⟩)⟩

end Search

/-! ### Settling along a schedule -/

/-- The names that the target of an alias mentions. -/
def DeclaredAlias.isAbout (entry : DeclaredAlias) (name : String) : Prop :=
  ∃ ident ∈ entry.mentions, ident.name = name

/-- The nodes of the target of an alias. -/
def DeclaredAlias.targetNodes (entry : DeclaredAlias) : List NodeId :=
  entry.decl.target.toList.flatMap TypeForm.nodes

/-- What is known when some aliases have been given types. -/
def settledKnown (known : SymbolId -> SymbolType) (type : SymbolId -> Ty)
    (settled : List SymbolId) (id : SymbolId) : SymbolType :=
  if id ∈ settled then { known id with type := some (type id) } else known id

/-- A walk that finds the type of an alias where some types are known. -/
abbrev targetRegime (look : String -> Option Symbol) (known : SymbolId -> SymbolType)
    (entry : DeclaredAlias) : Regime :=
  Naming.regime ⟨look, known⟩ entry.isAbout (· ∈ entry.targetNodes) fun _ => False

/-- Where the names in its target are known, the type of an alias is found by a script. -/
theorem scripted_targetType (look : String -> Option Symbol) (known : SymbolId -> SymbolType)
    (entry : DeclaredAlias) : (targetRegime look known entry).Scripted entry.targetType := by
  unfold DeclaredAlias.targetType
  cases written : entry.decl.target with
  | none => exact .bind (Naming.scripted_report _) fun _ => .pure _
  | some target =>
    refine Naming.scripted_typeOf (fun ident isMentioned => ⟨ident, ?_, rfl⟩) fun node isNode => ?_
    · simpa [DeclaredAlias.mentions, written] using isMentioned
    · simpa [DeclaredAlias.targetNodes, written] using isNode

/-- Each alias of the schedule follows its script where all of them are settled with these
types. -/
def Determines (all : List DeclaredAlias) (look : String -> Option Symbol)
    (known : SymbolId -> SymbolType) (schedule : List SymbolId) (type : SymbolId -> Ty)
    (acts : SymbolId -> List Act) : Prop :=
  ∀ entry ∈ all, entry.symbol.id ∈ schedule →
    (targetRegime look (settledKnown known type schedule) entry).Follows entry.targetType
      (type entry.symbol.id) (acts entry.symbol.id)

section Settling

variable {all : List DeclaredAlias} {look : String -> Option Symbol}
  {known : SymbolId -> SymbolType} {schedule : List SymbolId}

/-- What a mentioned name stands for is needed, when it is an alias. -/
theorem needs_of_isAbout {entry found : DeclaredAlias} (isEntry : entry ∈ all)
    (isFound : found ∈ all) {name : String} (isAbout : entry.isAbout name) {symbol : Symbol}
    (isMeant : symbol ∈ look name) (same : symbol.id = found.symbol.id) :
    AliasNeeds all look entry.symbol.id found.symbol.id := by
  obtain ⟨mention, isMention, rfl⟩ := isAbout
  rw [← same]
  exact ⟨entry, isEntry, rfl, mention, isMention,
    mem_mentioned isMeant (same ▸ List.mem_map_of_mem isFound)⟩

/-- Settling one more alias changes nothing that is known of others. -/
theorem settledKnown_update {type : SymbolId -> Ty} {id last : SymbolId} (found : Ty)
    (settled : List SymbolId) (apart : id ≠ last) :
    settledKnown known (Function.update type last found) (last :: settled) id =
      settledKnown known type settled id := by
  unfold settledKnown
  simp only [List.mem_cons, apart, false_or, Function.update_of_ne apart]

/-- The script of an alias that does not need the last one is followed all the same when that
is settled. -/
theorem follows_update {type : SymbolId -> Ty} {settled : List SymbolId}
    {entry last : DeclaredAlias} (isEntry : entry ∈ all) (isLast : last ∈ all)
    (unneeded : ¬AliasNeeds all look entry.symbol.id last.symbol.id) (found : Ty) {value : Ty}
    {script : List Act}
    (follows : (targetRegime look (settledKnown known type settled) entry).Follows
      entry.targetType value script) :
    (targetRegime look (settledKnown known (Function.update type last.symbol.id found)
      (last.symbol.id :: settled)) entry).Follows entry.targetType value script := by
  refine follows.weaken (fun session holds name isAbout => ?_) fun _ permitted => permitted
  obtain ⟨means, knows⟩ := holds name isAbout
  refine ⟨means, fun symbol isMeant => ?_⟩
  rw [knows symbol isMeant]
  exact settledKnown_update found settled fun same =>
    unneeded (needs_of_isAbout isEntry isLast isAbout isMeant same)

/-- Aliases can be given types along a schedule. -/
theorem exists_determines (known : SymbolId -> SymbolType)
    (scheduled : Scheduled (AliasNeeds all look) schedule)
    (distinct : schedule.Nodup) (inside : schedule ⊆ aliasIds all)
    (single : (aliasIds all).Nodup) :
    ∃ type acts, Determines all look known schedule type acts := by
  induction schedule with
  | nil => exact ⟨fun _ => .unknown, fun _ => [], fun _ _ impossible => by cases impossible⟩
  | cons last earlier inductionHypothesis =>
    obtain ⟨isLast, inside⟩ := List.cons_subset.mp inside
    obtain ⟨isNew, distinct⟩ := List.nodup_cons.mp distinct
    obtain ⟨type, acts, determines⟩ := inductionHypothesis scheduled.2 distinct inside
    obtain ⟨entry, isEntry, rfl⟩ := List.mem_map.mp isLast
    obtain ⟨found, script, follows⟩ :=
      scripted_targetType look (settledKnown known type earlier) entry
    refine ⟨Function.update type entry.symbol.id found, Function.update acts entry.symbol.id script,
      fun other isOther isScheduled => ?_⟩
    refine follows_update isOther isEntry (scheduled.not_needs_last isNew isScheduled) found ?_
    by_cases isSame : other.symbol.id = entry.symbol.id
    · obtain rfl : other = entry := List.inj_on_of_nodup_map single isOther isEntry isSame
      rw [Function.update_self, Function.update_self]
      exact follows
    · rw [Function.update_of_ne isSame, Function.update_of_ne isSame]
      exact determines other isOther ((List.mem_cons.mp isScheduled).resolve_left isSame)

/-- Finding the type of an alias and settling the alias with it. -/
def settleActs (type : SymbolId -> Ty) (acts : SymbolId -> List Act) (id : SymbolId) : List Act :=
  acts id ++ [.settles id (type id)]

/-- A session that a search has reached with some aliases of the schedule settled, the
latest first. -/
structure Reached (start : Session) (schedule : List SymbolId) (type : SymbolId -> Ty)
    (acts : SymbolId -> List Act) (done : List SymbolId) (session : Session) : Prop where
  same : session = start.replay (done.reverse.flatMap (settleActs type acts))
  known : ∀ id, session.knownOf id = settledKnown start.knownOf type done id
  table : session.table = start.table
  distinct : done.Nodup
  inside : done ⊆ schedule

variable {start session : Session} {type : SymbolId -> Ty} {acts : SymbolId -> List Act}
  {done : List SymbolId}

/-- Settling one more alias all of whose needs are settled. -/
theorem Reached.settle (reached : Reached start schedule type acts done session)
    (determines : Determines all look start.knownOf schedule type acts)
    (looksUp : LooksUp look start) {entry : DeclaredAlias}
    (isEntry : entry ∈ all) (isScheduled : entry.symbol.id ∈ schedule)
    (isNew : entry.symbol.id ∉ done) (unsettled : (start.knownOf entry.symbol.id).type = none)
    (needed : ∀ name, entry.isAbout name → ∀ symbol ∈ look name, symbol.id ∈ schedule →
      symbol.id ∈ done) :
    ∃ after, entry.settle.run session = ((), after) ∧
      Reached start schedule type acts (entry.symbol.id :: done) after := by
  have follows := determines entry isEntry isScheduled
  have holds : (targetRegime look (settledKnown start.knownOf type schedule) entry).holds
      session := by
    intro name isAbout
    refine ⟨by rw [reached.table]; exact looksUp name, fun symbol isMeant => ?_⟩
    have iff : symbol.id ∈ done ↔ symbol.id ∈ schedule :=
      ⟨fun isDone => reached.inside isDone, needed name isAbout symbol isMeant⟩
    simp only [reached.known, settledKnown, iff]
  have noSubject : ∀ id, (session.replay (acts entry.symbol.id)).knownOf id = session.knownOf id := by
    intro id
    have nothing : (acts entry.symbol.id).filter (fun act => act.subject? = some id) = [] := by
      refine List.filter_eq_nil_iff.mpr fun act isAct isSubject => ?_
      exact ((follows.allowed act isAct).2.1 id (of_decide_eq_true isSubject)).1
    rw [Session.knownOf_replay, nothing]
    rfl
  have table : (session.replay (acts entry.symbol.id)).table = session.table :=
    (Session.trace_replay follows.allowed session).keeps fun _ start permitted =>
      Naming.table_of_allows permitted.2.2 start
  have isUnsettled : (session.knownOf entry.symbol.id).type = none := by
    rw [reached.known, settledKnown, if_neg isNew, unsettled]
  have run := follows.runs session holds
  refine ⟨session.replay (settleActs type acts entry.symbol.id), ?_, ?_, fun id => ?_, ?_,
    List.nodup_cons.mpr ⟨isNew, reached.distinct⟩, List.cons_subset.mpr ⟨isScheduled, reached.inside⟩⟩
  · rw [run_settle isUnsettled, StateT.run_bind, run]
    unfold settleActs
    rw [Session.replay_append]
    rfl
  · rw [List.reverse_cons, List.flatMap_append, List.flatMap_singleton, Session.replay_append,
      ← reached.same]
  · unfold settleActs
    rw [Session.replay_append, Session.replay_cons, Session.replay_nil, Act.knownOf_apply]
    unfold Act.subject? Act.learn
    rw [noSubject, reached.known]
    unfold settledKnown
    by_cases same : entry.symbol.id = id
    · subst same
      simp [isNew]
    · rw [if_neg (by simpa using same)]
      simp only [List.mem_cons, Ne.symm same, false_or]
  · unfold settleActs
    rw [Session.replay_append]
    exact table.trans reached.table

/-- What a search has settled behind what was settled: some of these aliases. -/
structure Further (among done found : List SymbolId) : Prop where
  more : done ⊆ found
  among : ∀ id ∈ found, id ∈ done ∨ id ∈ among

theorem Further.refl {among : List SymbolId} : Further among done done :=
  ⟨List.Subset.refl _, fun _ isDone => .inl isDone⟩

theorem Further.trans {among found last : List SymbolId} (first : Further among done found)
    (later : Further among found last) : Further among done last :=
  ⟨List.Subset.trans first.more later.more, fun id isLast =>
    (later.among id isLast).elim (first.among id) .inr⟩

theorem Further.widen {among others found : List SymbolId} (further : Further among done found)
    (wider : among ⊆ others) : Further others done found :=
  ⟨further.more, fun id isFound => (further.among id isFound).imp_right fun isOne => wider isOne⟩

/-- Wherever the schedule has been followed, the walk follows it further, through some aliases
and until others are settled. -/
def Reaches (start : Session) (schedule : List SymbolId) (type : SymbolId -> Ty)
    (acts : SymbolId -> List Act) (among : List SymbolId)
    (walk : List SymbolId -> Check (List SymbolId)) (goal : List SymbolId) : Prop :=
  ∀ done session, Reached start schedule type acts done session →
    ∃ found after, (walk done).run session = (found, after) ∧
      Reached start schedule type acts found after ∧ Further among done found ∧ goal ⊆ found

/-- Visits that follow the schedule follow it one behind the other. -/
theorem Reaches.foldlM {ι : Type} {visit : List SymbolId -> ι -> Check (List SymbolId)}
    {ids : ι -> List SymbolId} {among : List SymbolId} (values : List ι)
    (visits : ∀ value ∈ values,
      Reaches start schedule type acts among (visit · value) (ids value)) :
    Reaches start schedule type acts among (values.foldlM visit ·) (values.flatMap ids) := by
  induction values with
  | nil => exact fun done session reached => ⟨done, session, rfl, reached, .refl, List.nil_subset _⟩
  | cons value rest inductionHypothesis =>
    intro done session reached
    obtain ⟨first, later⟩ := List.forall_mem_cons.mp visits
    obtain ⟨found, after, run, reached, further, isFound⟩ := first done session reached
    obtain ⟨last, final, runRest, reached, furtherRest, others⟩ :=
      inductionHypothesis later found after reached
    refine ⟨last, final, ?_, reached, further.trans furtherRest, ?_⟩
    · beta_reduce at run ⊢
      rw [List.foldlM_cons, StateT.run_bind, run]
      exact runRest
    · rw [List.flatMap_cons]
      exact List.append_subset.mpr ⟨List.Subset.trans isFound furtherRest.more, others⟩

theorem Reaches.widen {among others goal : List SymbolId}
    {walk : List SymbolId -> Check (List SymbolId)}
    (reaches : Reaches start schedule type acts among walk goal) (wider : among ⊆ others) :
    Reaches start schedule type acts others walk goal := by
  intro done session reached
  obtain ⟨found, after, run, reached, further, isFound⟩ := reaches done session reached
  exact ⟨found, after, run, reached, further.widen wider, isFound⟩

section Search

variable (scheduled : Searched all look [] schedule)
  (determines : Determines all look start.knownOf schedule type acts) (looksUp : LooksUp look start)
  (unsettled : ∀ entry ∈ all, (start.knownOf entry.symbol.id).type = none)

include looksUp in
/-- What a mentioned name refers to is settled, if it is an alias. -/
theorem reaches_visitMention {fuel : Nat} {path among : List SymbolId} {mention : Ident}
    (visits : ∀ entry ∈ aliasOf? all look mention.name,
      Reaches start schedule type acts among (resolveAlias all fuel path · entry)
        [entry.symbol.id]) :
    Reaches start schedule type acts among (visitMention all fuel path · mention)
      (mentioned all look mention) := by
  intro done session reached
  have sameLook : LooksUp look session := fun name => by
    rw [reached.table]
    exact looksUp name
  unfold visitMention mentioned
  rw [StateT.run_bind, run_aliasNamed?_of_looksUp mention.name sameLook]
  cases isFound : aliasOf? all look mention.name with
  | none => exact ⟨done, session, rfl, reached, .refl, List.nil_subset _⟩
  | some found => exact visits found isFound done session reached

include scheduled determines looksUp unsettled

/-- An alias is settled behind what it mentions. -/
theorem reaches_settle {entry : DeclaredAlias} {earlier : List SymbolId} (isEntry : entry ∈ all)
    (isScheduled : entry.symbol.id ∈ schedule) (notEarlier : entry.symbol.id ∉ earlier)
    {done found : List SymbolId} {after : Session} (isNew : entry.symbol.id ∉ done)
    (reached : Reached start schedule type acts found after) (further : Further earlier done found)
    (needed : entry.mentions.flatMap (mentioned all look) ⊆ found) :
    ∃ final, (do entry.settle; return entry.symbol.id :: found : Check (List SymbolId)).run after =
        (entry.symbol.id :: found, final) ∧
      Reached start schedule type acts (entry.symbol.id :: found) final ∧
      Further (entry.symbol.id :: earlier) done (entry.symbol.id :: found) := by
  have notFound : entry.symbol.id ∉ found := fun isFound =>
    (further.among _ isFound).elim isNew notEarlier
  obtain ⟨final, settle, reached⟩ := reached.settle determines looksUp isEntry isScheduled notFound
    (unsettled entry isEntry) fun name isAbout symbol isMeant isLater => by
      obtain ⟨mention, isMention, rfl⟩ := isAbout
      exact needed (List.mem_flatMap.mpr
        ⟨mention, isMention, mem_mentioned isMeant (scheduled.inside isLater)⟩)
  refine ⟨final, ?_, reached, fun id isDone => List.mem_cons_of_mem _ (further.more isDone),
    List.forall_mem_cons.mpr ⟨.inr List.mem_cons_self, fun id isFound => ?_⟩⟩
  · have shape : (do entry.settle; return entry.symbol.id :: found : Check _).run after =
        (entry.symbol.id :: found, (entry.settle.run after).2) := rfl
    rw [settle] at shape
    exact shape
  · exact (further.among id isFound).imp_right (List.mem_cons_of_mem _)

/-- Where there is a schedule a search settles an alias and what it needs, along the schedule
and without coming back to its path. -/
theorem reaches_resolveAlias (fuel : Nat) {path later earlier : List SymbolId}
    {entry : DeclaredAlias} (isEntry : entry ∈ all)
    (split : schedule = later ++ entry.symbol.id :: earlier) (ahead : path ⊆ later)
    (enough : earlier.length < fuel) :
    Reaches start schedule type acts (entry.symbol.id :: earlier)
      (resolveAlias all fuel path · entry) [entry.symbol.id] := by
  induction fuel generalizing path later earlier entry with
  | zero => exact absurd enough (Nat.not_lt_zero _)
  | succ fuel inductionHypothesis =>
    intro done session reached
    obtain ⟨notLater, notEarlier⟩ : entry.symbol.id ∉ later ∧ entry.symbol.id ∉ earlier := by
      have distinct := scheduled.distinct
      rw [split, List.nodup_append, List.nodup_cons] at distinct
      exact ⟨fun isLater => distinct.2.2 _ isLater _ List.mem_cons_self rfl, distinct.2.1.1⟩
    have isScheduled : entry.symbol.id ∈ schedule := by simp [split]
    beta_reduce
    rw [resolveAlias_succ, if_neg (by simpa using fun isPath => notLater (ahead isPath))]
    by_cases isDone : entry.symbol.id ∈ done
    · rw [if_pos (by simpa using isDone)]
      exact ⟨done, session, rfl, reached, .refl, List.cons_subset.mpr ⟨isDone, List.nil_subset _⟩⟩
    rw [if_neg (by simpa using isDone)]
    have visits (mention : Ident) (isMention : mention ∈ entry.mentions) :
        Reaches start schedule type acts earlier
          (visitMention all fuel (entry.symbol.id :: path) · mention)
          (mentioned all look mention) := by
      refine reaches_visitMention looksUp fun other isFound => ?_
      have needed : AliasNeeds all look entry.symbol.id other.symbol.id :=
        ⟨entry, isEntry, rfl, mention, isMention, by simp [mentioned, Option.mem_def.mp isFound]⟩
      obtain ⟨between, first, rfl⟩ :=
        List.append_of_mem ((split ▸ scheduled.scheduled).mem_earlier needed)
      rw [List.length_append, List.length_cons] at enough
      have inLater : entry.symbol.id :: path ⊆ later ++ entry.symbol.id :: between :=
        List.cons_subset.mpr ⟨by simp, fun id isPath => List.mem_append_left _ (ahead isPath)⟩
      exact (inductionHypothesis (mem_of_aliasOf? isFound) (by rw [split]; simp) inLater
        (by omega)).widen (List.subset_append_right _ _)
    obtain ⟨found, after, run, reached, further, needed⟩ :=
      Reaches.foldlM entry.mentions visits done session reached
    obtain ⟨final, settle, reached, further⟩ := reaches_settle scheduled determines looksUp
      unsettled isEntry isScheduled notEarlier isDone reached further needed
    refine ⟨_, final, ?_, reached, further,
      List.cons_subset.mpr ⟨List.mem_cons_self, List.nil_subset _⟩⟩
    rw [StateT.run_bind, run]
    exact settle

/-- A search through all aliases settles every one of them, once. -/
theorem run_resolveAliases (covers : ∀ entry ∈ all, entry.symbol.id ∈ schedule) :
    ∃ done, ((resolveAliases all).run start).2 =
        start.replay (done.reverse.flatMap (settleActs type acts)) ∧
      Reached start schedule type acts done ((resolveAliases all).run start).2 ∧
      ∀ entry ∈ all, entry.symbol.id ∈ done := by
  have visits (entry : DeclaredAlias) (isEntry : entry ∈ all) :
      Reaches start schedule type acts schedule
        (resolveAlias all (all.length + 1) [] · entry) [entry.symbol.id] := by
    have short := (List.subperm_of_subset scheduled.distinct scheduled.inside).length_le
    obtain ⟨later, earlier, split⟩ := List.append_of_mem (covers entry isEntry)
    rw [List.length_map, split, List.length_append, List.length_cons] at short
    have behind : entry.symbol.id :: earlier ⊆ schedule := by
      rw [split]
      exact List.subset_append_right _ _
    exact (reaches_resolveAlias scheduled determines looksUp unsettled _ isEntry split
      (List.nil_subset _) (by omega)).widen behind
  have begun : Reached start schedule type acts [] start :=
    ⟨rfl, fun _ => by simp [settledKnown], rfl, List.nodup_nil, List.nil_subset _⟩
  obtain ⟨found, after, run, reached, -, isSettled⟩ := Reaches.foldlM all visits [] start begun
  have final : ((resolveAliases all).run start).2 = after := by
    unfold resolveAliases
    rw [StateT.run_bind, run]
    rfl
  rw [final]
  exact ⟨found, reached.same, reached, fun entry isEntry =>
    isSettled (List.mem_flatMap.mpr ⟨entry, isEntry, List.mem_singleton_self _⟩)⟩

end Search
end Settling
end Declare
end UnitCheck
