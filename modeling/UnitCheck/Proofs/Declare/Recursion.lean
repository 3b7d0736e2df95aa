import UnitCheck.Proofs.Session.Passes
import UnitCheck.Proofs.Type.Containment

/-!
# The search for recursive structs

The structs of a unit are gone through depth first along what they store in place, and a
field that leads back to a struct still being gone through loses its type. The structs that
are done are kept in a list, and behind each of them stands all that it contains: so none of
them holds itself. A struct that is being gone through keeps its fields until the search
comes back to it, which is why cutting while going over the fields misses none of them.
-/

namespace UnitCheck

/-- A recursive struct has been reported. -/
def Session.ReportsRecursion (session : Session) : Prop :=
  ∃ finding ∈ session.findings, finding.isRecursion = true

namespace Declare

theorem stores_iff {id : TypeId} :
    (type : Ty) -> (type.Stores id ↔ ∃ name, valueStruct? type = some (name, id))
  | .struct name other => by
    constructor
    · rintro ⟨⟩
      exact ⟨name, rfl⟩
    · rintro ⟨_, ⟨⟩⟩
      exact .struct name
  | .fixedArray element length => by
    rw [valueStruct?, ← stores_iff element]
    constructor
    · rintro ⟨⟩
      assumption
    · exact .fixedArray length
  | .const inner => by
    rw [valueStruct?, ← stores_iff inner]
    constructor
    · rintro ⟨⟩
      assumption
    · exact .const
  | .mutable inner => by
    rw [valueStruct?, ← stores_iff inner]
    constructor
    · rintro ⟨⟩
      assumption
    · exact .mutable
  | .prim _ | .opaquePointer | .pointer _ | .array _ | .enum _ _ | .function _ _ _ _ => by
    constructor
    · rintro ⟨⟩
    · rintro ⟨_, ⟨⟩⟩

/-! ### Lists of structs that are done -/

/-- The structs contain no more than they did. -/
def Trims (before after : Definitions) : Prop :=
  ∀ outer inner, after.Contains outer inner → before.Contains outer inner

/-- Behind each struct stand the structs that it contains. -/
def Settled (definitions : Definitions) : List TypeId -> Prop
  | [] => True
  | id :: rest => (∀ inner, definitions.Contains id inner → inner ∈ rest) ∧ Settled definitions rest

theorem Settled.trim {before after : Definitions} (trims : Trims before after) {done : List TypeId}
    (settled : Settled before done) : Settled after done := by
  induction done with
  | nil => trivial
  | cons id rest inductionHypothesis =>
    obtain ⟨behind, others⟩ := settled
    exact ⟨fun inner contains => behind inner (trims id inner contains), inductionHypothesis others⟩

/-- From a settled struct no chain of structs that contain each other goes on for ever. -/
theorem Settled.acc {definitions : Definitions} {done : List TypeId}
    (settled : Settled definitions done) :
    ∀ id ∈ done, Acc (Function.swap definitions.Contains) id := by
  induction done with
  | nil => exact List.forall_mem_nil _
  | cons id rest inductionHypothesis =>
    obtain ⟨behind, others⟩ := settled
    have accRest := inductionHypothesis others
    exact List.forall_mem_cons.mpr
      ⟨⟨_, fun inner contains => accRest inner (behind inner contains)⟩, accRest⟩

/-- Where all structs that contain others are settled, no chain of them goes on for ever. -/
theorem Settled.wellFounded {definitions : Definitions} {done : List TypeId}
    (settled : Settled definitions done)
    (reached : ∀ outer inner, definitions.Contains outer inner → outer ∈ done) :
    WellFounded (Function.swap definitions.Contains) := by
  refine ⟨fun id => ⟨_, fun inner contains => ?_⟩⟩
  exact (settled.acc id (reached id inner contains)).inv contains

/-! ### Cutting fields -/

section Cutting

variable {definitions : Definitions} {id : TypeId} {index : Nat}

/-- The definitions after a field of a struct has lost its type. -/
def cut (definitions : Definitions) (id : TypeId) (index : Nat) : Definitions :=
  definitions.setStruct id (cutField (definitions.struct id) index)

theorem struct_cut_self : (cut definitions id index).struct id =
    cutField (definitions.struct id) index := by
  unfold cut Definitions.setStruct Definitions.struct
  simp

theorem struct_cut_of_ne {other : TypeId} (differs : other ≠ id) :
    (cut definitions id index).struct other = definitions.struct other := by
  unfold cut Definitions.setStruct Definitions.struct
  rw [List.lookup_cons, beq_false_of_ne differs]

/-- The field that is cut loses its type and the others stay. -/
theorem getElem?_cutField {body : StructBody} {place : Nat} {field : StructField}
    (found : (cutField body index).fields[place]? = some field) :
    field.type = .unknown ∨ place ≠ index ∧ body.fields[place]? = some field := by
  unfold cutField at found
  simp only [List.getElem?_modify] at found
  cases old : body.fields[place]? with
  | none => simp [old] at found
  | some original =>
    rw [old] at found
    split at found
    · cases found
      exact .inl rfl
    · rename_i differs
      cases found
      exact .inr ⟨fun same => differs same.symm, rfl⟩

theorem getElem?_cutField_of_ne {body : StructBody} {place : Nat} (differs : place ≠ index) :
    (cutField body index).fields[place]? = body.fields[place]? := by
  unfold cutField
  simp only [List.getElem?_modify, if_neg (Ne.symm differs)]
  cases body.fields[place]? <;> rfl

theorem not_stores_unknown {inner : TypeId} {type : Ty} (isUnknown : type = .unknown) :
    ¬type.Stores inner := by
  rintro stores
  rw [isUnknown] at stores
  cases stores

theorem trims_cut : Trims definitions (cut definitions id index) := by
  rintro outer inner ⟨field, isField, stores⟩
  by_cases same : outer = id
  · subst same
    rw [struct_cut_self] at isField
    obtain ⟨place, found⟩ := List.mem_iff_getElem?.mp isField
    obtain isUnknown | ⟨-, found⟩ := getElem?_cutField found
    · exact absurd stores (not_stores_unknown isUnknown)
    · exact ⟨field, List.mem_of_getElem? found, stores⟩
  · rw [struct_cut_of_ne same] at isField
    exact ⟨field, isField, stores⟩

end Cutting

/-! ### Folds over numbered values -/

/-- What every step over a value keeps, one place further each time, the fold keeps. -/
theorem foldlM_keeps {α β : Type} {visit : β -> α -> Check β}
    (invariant : Nat -> Session -> β -> Prop) (values : List α)
    (step : ∀ place value, values[place]? = some value → ∀ session state,
      invariant place session state →
      invariant (place + 1) ((visit state value).run session).2 ((visit state value).run session).1)
    {session : Session} {state : β} (start : invariant 0 session state) :
    invariant values.length ((values.foldlM visit state).run session).2
      ((values.foldlM visit state).run session).1 := by
  have suffix (rest : List α) (place : Nat) (behind : ∀ offset, values[place + offset]? = rest[offset]?)
      (session : Session) (state : β) (holds : invariant place session state) :
      invariant (place + rest.length) ((rest.foldlM visit state).run session).2
        ((rest.foldlM visit state).run session).1 := by
    induction rest generalizing place session state with
    | nil => exact holds
    | cons value rest inductionHypothesis =>
      have next := step place value (behind 0) session state holds
      have shifted : ∀ offset, values[place + 1 + offset]? = rest[offset]? := by
        intro offset
        rw [Nat.add_right_comm, Nat.add_assoc]
        exact behind (offset + 1)
      have final := inductionHypothesis (place + 1) shifted _ _ next
      rw [List.length_cons, ← Nat.add_assoc, Nat.add_right_comm]
      exact final
  have final := suffix values 0 (fun offset => by rw [Nat.zero_add]) session state start
  rwa [Nat.zero_add] at final

/-- Where an invariant is kept and makes the steps of two folds the same, so are the folds. -/
theorem foldlM_same {α β : Type} {visit other : β -> α -> Check β}
    (invariant : Nat -> Session -> β -> Prop) (values : List α)
    (step : ∀ place value, values[place]? = some value → ∀ session state,
      invariant place session state →
      invariant (place + 1) ((visit state value).run session).2 ((visit state value).run session).1)
    (same : ∀ place value, values[place]? = some value → ∀ session state,
      invariant place session state →
      (other state value).run session = (visit state value).run session)
    {session : Session} {state : β} (start : invariant 0 session state) :
    (values.foldlM other state).run session = (values.foldlM visit state).run session := by
  induction values generalizing invariant session state with
  | nil => rfl
  | cons value rest inductionHypothesis =>
    rw [List.foldlM_cons, List.foldlM_cons, StateT.run_bind, StateT.run_bind,
      same 0 value rfl session state start]
    exact inductionHypothesis (fun place => invariant (place + 1))
      (fun place => step (place + 1)) (fun place => same (place + 1)) (step 0 value rfl _ _ start)

/-- A fold of which no step changes the session does not change it. -/
theorem foldlM_still {α β : Type} {visit : β -> α -> Check β} {session : Session} (values : List α)
    (still : ∀ value ∈ values, ∀ state, ((visit state value).run session).2 = session) (state : β) :
    ((values.foldlM visit state).run session).2 = session := by
  refine foldlM_keeps (fun _ after _ => after = session) values ?_ rfl
  rintro place value isValue _ between rfl
  exact still value (List.mem_of_getElem? isValue) between

/-! ### Going through structs -/

/-- What going through structs keeps: they contain no more than before, those on the path
keep their fields, enumerations stay, and structs that are done stay done. -/
structure Keeps (path : List TypeId) (before : Session) (done : List TypeId) (after : Session)
    (others : List TypeId) : Prop where
  trims : Trims before.definitions after.definitions
  path : ∀ held ∈ path, after.definitions.struct held = before.definitions.struct held
  enums : after.definitions.enums = before.definitions.enums
  settled : Settled before.definitions done → Settled after.definitions others
  more : done ⊆ others

namespace Keeps

variable {path : List TypeId} {before middle after : Session} {done between others : List TypeId}

theorem refl : Keeps path before done before done :=
  ⟨fun _ _ contains => contains, fun _ _ => rfl, rfl, fun settled => settled, List.Subset.refl _⟩

theorem trans (first : Keeps path before done middle between)
    (second : Keeps path middle between after others) : Keeps path before done after others where
  trims outer inner contains := first.trims outer inner (second.trims outer inner contains)
  path held isHeld := (second.path held isHeld).trans (first.path held isHeld)
  enums := second.enums.trans first.enums
  settled settled := second.settled (first.settled settled)
  more := List.Subset.trans first.more second.more

/-- What keeps the structs of a longer path keeps those of a shorter one. -/
theorem shorter {id : TypeId} (keeps : Keeps (id :: path) before done after others) :
    Keeps path before done after others :=
  ⟨keeps.trims, fun held isHeld => keeps.path held (List.mem_cons_of_mem _ isHeld), keeps.enums,
    keeps.settled, keeps.more⟩

/-- Findings play no part. -/
theorem report (finding : Finding) :
    Keeps path before done (Act.apply before (.report finding)) done :=
  ⟨fun _ _ contains => contains, fun _ _ => rfl, rfl, fun settled => settled, List.Subset.refl _⟩

/-- Cutting a field of a struct that is not on the path. -/
theorem cutting {id : TypeId} (fresh : id ∉ path) (index : Nat) :
    Keeps path before done
      (Act.apply before (.struct id (cutField (before.definitions.struct id) index))) done where
  trims := trims_cut
  path _ isHeld := struct_cut_of_ne fun same => fresh (same ▸ isHeld)
  enums := rfl
  settled := Settled.trim trims_cut
  more := List.Subset.refl _

end Keeps

/-- Where the search stands among the fields of a struct that it goes through: what the
fields behind it store is done, and those ahead are as they were. -/
structure Midway (path : List TypeId) (id : TypeId) (before : Session) (done : List TypeId)
    (place : Nat) (session : Session) (others : List TypeId) : Prop where
  keeps : Keeps path before done session others
  behind : ∀ index < place, ∀ field,
    (session.definitions.struct id).fields[index]? = some field →
    ∀ inner, field.type.Stores inner → inner ∈ others
  ahead : ∀ index, place ≤ index → (session.definitions.struct id).fields[index]? =
    (before.definitions.struct id).fields[index]?

/-- The structs that contain others are among the given ones, and so are those on the path;
a longer path would hold one of them twice. -/
structure Room (ids : List TypeId) (fuel : Nat) (path : List TypeId) (session : Session) : Prop where
  listed : ∀ outer inner, session.definitions.Contains outer inner → outer ∈ ids
  nodup : path.Nodup
  subset : path ⊆ ids
  enough : ids.length < fuel + path.length

variable {ids path done : List TypeId} {fuel : Nat} {session : Session}

/-- There is always room for one more struct. -/
theorem Room.fuel_ne_zero (room : Room ids fuel path session) : fuel ≠ 0 := by
  have short := (List.subperm_of_subset room.nodup room.subset).length_le
  have enough := room.enough
  omega

theorem Room.longer {id inner : TypeId} (room : Room ids (fuel + 1) path session) (fresh : id ∉ path)
    (contains : session.definitions.Contains id inner) : Room ids fuel (id :: path) session where
  listed := room.listed
  nodup := List.nodup_cons.mpr ⟨fresh, room.nodup⟩
  subset := List.cons_subset.mpr ⟨room.listed id inner contains, room.subset⟩
  enough := by
    have enough := room.enough
    rw [List.length_cons]
    omega

theorem Room.trim {after : Session} (room : Room ids fuel path session)
    (trims : Trims session.definitions after.definitions) : Room ids fuel path after :=
  ⟨fun outer inner contains => room.listed outer inner (trims outer inner contains), room.nodup,
    room.subset, room.enough⟩

/-- A struct that has been gone through is on the path, which is then said, or done. -/
def Answers (path : List TypeId) (id : TypeId) (outcome : Bool × List TypeId) : Prop :=
  outcome.1 = true ∧ id ∈ path ∨ outcome.1 = false ∧ id ∈ outcome.2

/-- Going through a struct keeps what is done and answers whether the struct is on the path. -/
def Searches (ids : List TypeId) (fuel : Nat) : Prop :=
  ∀ path done blame name id session, Room ids fuel path session →
    Keeps path session done ((visitStruct fuel path done blame name id).run session).2
        ((visitStruct fuel path done blame name id).run session).1.2 ∧
      Answers path id ((visitStruct fuel path done blame name id).run session).1

/-- The fields behind a place are done with more that is done, and when fields are cut. -/
theorem Midway.step {id : TypeId} {place : Nat} {field : StructField} {before middle after : Session}
    {between others : List TypeId} (midway : Midway path id before done place middle between)
    (keeps : Keeps path middle between after others)
    (isField : (before.definitions.struct id).fields[place]? = some field)
    (fields : ∀ (index : Nat) (other : StructField), (after.definitions.struct id).fields[index]? = some other →
      other.type = .unknown ∨ (middle.definitions.struct id).fields[index]? = some other)
    (stored : (after.definitions.struct id).fields[place]? = some field →
      ∀ inner, field.type.Stores inner → inner ∈ others)
    (ahead : ∀ index : Nat, place < index → (after.definitions.struct id).fields[index]? =
      (middle.definitions.struct id).fields[index]?) :
    Midway path id before done (place + 1) after others where
  keeps := midway.keeps.trans keeps
  behind index isBehind other isOther inner stores := by
    obtain isUnknown | wasOther := fields index other isOther
    · exact absurd stores (not_stores_unknown isUnknown)
    rcases Nat.lt_succ_iff_lt_or_eq.mp isBehind with isBehind | rfl
    · exact keeps.more (midway.behind index isBehind other wasOther inner stores)
    · rw [midway.ahead index (Nat.le_refl _), isField] at wasOther
      cases wasOther
      exact stored isOther inner stores
  ahead index isAhead := (ahead index isAhead).trans (midway.ahead index (Nat.le_of_succ_le isAhead))

/-- The field that led back to a struct on the path loses its type. -/
theorem Midway.cutting {id : TypeId} {place : Nat} {field : StructField} {before middle after : Session}
    {between others : List TypeId} (midway : Midway path id before done place middle between)
    (keeps : Keeps (id :: path) middle between after others) (fresh : id ∉ path)
    (isField : (before.definitions.struct id).fields[place]? = some field) :
    Midway path id before done (place + 1)
      (Act.apply after (.struct id (cutField (after.definitions.struct id) place))) others := by
  have body : (Act.apply after (.struct id (cutField (after.definitions.struct id) place))
      ).definitions.struct id = cutField (middle.definitions.struct id) place := by
    rw [← keeps.path id List.mem_cons_self]
    exact struct_cut_self
  refine midway.step (keeps.shorter.trans (.cutting fresh place)) isField ?_ ?_ ?_
  · intro index other found
    rw [body] at found
    exact (getElem?_cutField found).imp_right And.right
  · intro found inner stores
    rw [body] at found
    obtain isUnknown | ⟨differs, -⟩ := getElem?_cutField found
    · exact absurd stores (not_stores_unknown isUnknown)
    · exact absurd rfl differs
  · intro index isAhead
    rw [body]
    exact getElem?_cutField_of_ne (Nat.ne_of_gt isAhead)

/-- One more field of a struct that is gone through. -/
theorem midway_visitField (searches : Searches ids fuel) {id : TypeId} (name : String)
    (room : Room ids (fuel + 1) path session) (fresh : id ∉ path) {place : Nat}
    {field : StructField} (isField : (session.definitions.struct id).fields[place]? = some field)
    {middle : Session} {state : Option Span × List TypeId}
    (midway : Midway path id session done place middle state.2) :
    Midway path id session done (place + 1)
      ((visitField fuel path name id state (field, place)).run middle).2
      ((visitField fuel path name id state (field, place)).run middle).1.2 := by
  have isAhead : (middle.definitions.struct id).fields[place]? = some field :=
    (midway.ahead place (Nat.le_refl _)).trans isField
  obtain ⟨blame, between⟩ := state
  unfold visitField
  cases isStruct : valueStruct? field.type with
  | none =>
    refine midway.step .refl isField (fun _ _ found => .inr found) ?_ fun _ _ => rfl
    intro _ inner stores
    obtain ⟨name, found⟩ := (stores_iff _).mp stores
    rw [isStruct] at found
    cases found
  | some target =>
    obtain ⟨inner, innerId⟩ := target
    have contains : middle.definitions.Contains id innerId :=
      ⟨field, List.mem_of_getElem? isAhead, (stores_iff _).mpr ⟨inner, isStruct⟩⟩
    have deeper := (room.trim midway.keeps.trims).longer fresh contains
    obtain ⟨keeps, answers⟩ := searches (id :: path) between blame inner innerId middle deeper
    simp only [StateT.run_bind]
    generalize (visitStruct fuel (id :: path) between blame inner innerId).run middle = outcome
      at keeps answers ⊢
    obtain ⟨⟨cyclic, others⟩, after⟩ := outcome
    have stays : after.definitions.struct id = middle.definitions.struct id :=
      keeps.path id List.mem_cons_self
    rcases answers with ⟨isCyclic, -⟩ | ⟨isCyclic, isDone⟩
    · cases isCyclic
      cases blame with
      | none => exact midway.cutting keeps fresh isField
      | some span => exact midway.cutting (keeps.trans (.report _)) fresh isField
    · cases isCyclic
      refine midway.step keeps.shorter isField (fun _ _ found => .inr ?_) ?_ fun _ _ => ?_
      · exact stays ▸ found
      · intro _ other stores
        obtain ⟨_, found⟩ := (stores_iff _).mp stores
        rw [isStruct] at found
        cases found
        exact isDone
      · exact stays ▸ rfl

/-- At first no field is behind the search. -/
theorem Midway.start {id : TypeId} : Midway path id session done 0 session done :=
  ⟨.refl, fun index isBehind => absurd isBehind (Nat.not_lt_zero index), fun _ _ => rfl⟩

theorem getElem?_of_zipIdx {fields : List StructField} {place : Nat} {field : StructField × Nat}
    (isPlace : fields.zipIdx[place]? = some field) :
    fields[place]? = some field.1 ∧ field.2 = place := by
  rw [List.getElem?_zipIdx] at isPlace
  obtain ⟨found, isField, rfl⟩ := Option.map_eq_some_iff.mp isPlace
  exact ⟨isField, Nat.zero_add place⟩

/-- All fields of a struct that is gone through. -/
theorem midway_fields (searches : Searches ids fuel) (done : List TypeId) {id : TypeId}
    (name : String) (room : Room ids (fuel + 1) path session) (fresh : id ∉ path)
    (blame : Option Span) :
    let fields := (session.definitions.struct id).fields
    Midway path id session done fields.zipIdx.length
      ((fields.zipIdx.foldlM (visitField fuel path name id) (blame, done)).run session).2
      ((fields.zipIdx.foldlM (visitField fuel path name id) (blame, done)).run session).1.2 := by
  intro fields
  refine foldlM_keeps (fun place middle (state : Option Span × List TypeId) =>
    Midway path id session done place middle state.2) fields.zipIdx ?_ .start
  rintro place ⟨field, index⟩ isPlace middle state midway
  obtain ⟨isField, rfl⟩ := getElem?_of_zipIdx isPlace
  exact midway_visitField searches name room fresh isField midway

/-- The search keeps what is done, as deep as it goes. -/
theorem searches (ids : List TypeId) (fuel : Nat) : Searches ids fuel := by
  induction fuel with
  | zero =>
    intro path done blame name id session room
    exact absurd rfl room.fuel_ne_zero
  | succ fuel inductionHypothesis =>
    intro path done blame name id session room
    rw [visitStruct_succ]
    by_cases onPath : id ∈ path
    · rw [if_pos (List.contains_iff_mem.mpr onPath)]
      exact ⟨.refl, .inl ⟨rfl, onPath⟩⟩
    rw [if_neg (mt List.contains_iff_mem.mp onPath)]
    by_cases isDone : id ∈ done
    · rw [if_pos (List.contains_iff_mem.mpr isDone)]
      exact ⟨.refl, .inr ⟨rfl, isDone⟩⟩
    rw [if_neg (mt List.contains_iff_mem.mp isDone)]
    obtain ⟨keeps, behind, ahead⟩ := midway_fields inductionHypothesis done name room
      onPath blame
    simp only [StateT.run_bind, StateT.run_get, pure_bind]
    generalize (List.foldlM (visitField fuel path name id) (blame, done)
      (session.definitions.struct id).fields.zipIdx).run session = outcome at keeps behind ahead ⊢
    obtain ⟨⟨rest, others⟩, after⟩ := outcome
    -- no field is left that the search has not been at
    have contained : ∀ inner, after.definitions.Contains id inner → inner ∈ others := by
      rintro inner ⟨field, isField, stores⟩
      obtain ⟨index, found⟩ := List.mem_iff_getElem?.mp isField
      refine behind index ?_ field found inner stores
      by_contra beyond
      have past := not_lt.mp beyond
      rw [List.length_zipIdx] at past
      rw [ahead index (not_lt.mp beyond), List.getElem?_eq_none past] at found
      cases found
    refine ⟨⟨keeps.trims, keeps.path, keeps.enums, fun settled => ?_, ?_⟩,
      .inr ⟨rfl, List.mem_cons_self⟩⟩
    · exact ⟨contained, keeps.settled settled⟩
    · exact List.subset_cons_of_subset id keeps.more

/-- More fuel than there is room for makes no difference. -/
theorem visitStruct_deeper (fuel : Nat) (blame : Option Span) (name : String) (id : TypeId)
    (room : Room ids fuel path session) :
    (visitStruct (fuel + 1) path done blame name id).run session =
      (visitStruct fuel path done blame name id).run session := by
  induction fuel generalizing path done blame name id session with
  | zero => exact absurd rfl room.fuel_ne_zero
  | succ fuel inductionHypothesis =>
    rw [visitStruct_succ, visitStruct_succ]
    by_cases onPath : id ∈ path
    · rw [if_pos (List.contains_iff_mem.mpr onPath), if_pos (List.contains_iff_mem.mpr onPath)]
    rw [if_neg (mt List.contains_iff_mem.mp onPath), if_neg (mt List.contains_iff_mem.mp onPath)]
    by_cases isDone : id ∈ done
    · rw [if_pos (List.contains_iff_mem.mpr isDone), if_pos (List.contains_iff_mem.mpr isDone)]
    rw [if_neg (mt List.contains_iff_mem.mp isDone), if_neg (mt List.contains_iff_mem.mp isDone)]
    have fields : ((session.definitions.struct id).fields.zipIdx.foldlM
          (visitField (fuel + 1) path name id) (blame, done)).run session =
        ((session.definitions.struct id).fields.zipIdx.foldlM
          (visitField fuel path name id) (blame, done)).run session := by
      refine foldlM_same (fun place middle (state : Option Span × List TypeId) =>
        Midway path id session done place middle state.2) _ ?_ ?_ .start
      · rintro place ⟨field, index⟩ isPlace middle state midway
        obtain ⟨isField, rfl⟩ := getElem?_of_zipIdx isPlace
        exact midway_visitField (searches ids fuel) name room onPath isField midway
      · rintro place ⟨field, index⟩ isPlace middle state midway
        obtain ⟨isField, rfl⟩ := getElem?_of_zipIdx isPlace
        have isAhead := (midway.ahead index (Nat.le_refl _)).trans isField
        unfold visitField
        cases isStruct : valueStruct? field.type with
        | none => rfl
        | some target =>
          obtain ⟨inner, innerId⟩ := target
          have contains : middle.definitions.Contains id innerId :=
            ⟨field, List.mem_of_getElem? isAhead, (stores_iff _).mpr ⟨inner, isStruct⟩⟩
          have deeper := (room.trim midway.keeps.trims).longer onPath contains
          simp only [StateT.run_bind, inductionHypothesis state.1 inner innerId deeper]
    simp only [StateT.run_bind, StateT.run_get, pure_bind, fields]

/-! ### Nothing to cut -/

/-- Where no struct holds itself and the structs on the path lead to a struct, going through
that struct changes nothing. -/
theorem visitStruct_of_acyclic (acyclic : session.definitions.Acyclic) (fuel : Nat)
    (done : List TypeId) (blame : Option Span) (name : String) (id : TypeId)
    (leads : ∀ held ∈ path, Relation.TransGen session.definitions.Contains held id) :
    ∃ others, (visitStruct fuel path done blame name id).run session =
      ((false, others), session) := by
  induction fuel generalizing path done blame name id with
  | zero => exact ⟨done, rfl⟩
  | succ fuel inductionHypothesis =>
    have fresh : id ∉ path := fun onPath => acyclic id (leads id onPath)
    rw [visitStruct_succ, if_neg (mt List.contains_iff_mem.mp fresh)]
    by_cases isDone : id ∈ done
    · rw [if_pos (List.contains_iff_mem.mpr isDone)]
      exact ⟨done, rfl⟩
    rw [if_neg (mt List.contains_iff_mem.mp isDone)]
    have still : ∀ value ∈ (session.definitions.struct id).fields.zipIdx,
        ∀ state, ((visitField fuel path name id state value).run session).2 = session := by
      rintro ⟨field, index⟩ isField between
      unfold visitField
      cases isStruct : valueStruct? field.type with
      | none => rfl
      | some target =>
        obtain ⟨inner, innerId⟩ := target
        have contains : session.definitions.Contains id innerId :=
          ⟨field, List.fst_mem_of_mem_zipIdx isField, (stores_iff _).mpr ⟨inner, isStruct⟩⟩
        have leadsOn : ∀ held ∈ id :: path,
            Relation.TransGen session.definitions.Contains held innerId := by
          intro held isHeld
          rcases List.mem_cons.mp isHeld with rfl | isHeld
          · exact .single contains
          · exact (leads held isHeld).tail contains
        obtain ⟨others, unchanged⟩ := inductionHypothesis between.2 between.1 inner innerId leadsOn
        simp only [StateT.run_bind, unchanged]
        rfl
    have unchanged := foldlM_still _ still (blame, done)
    simp only [StateT.run_bind, StateT.run_get, pure_bind]
    generalize (List.foldlM (visitField fuel path name id) (blame, done)
      (session.definitions.struct id).fields.zipIdx).run session = outcome at unchanged ⊢
    obtain ⟨⟨rest, others⟩, after⟩ := outcome
    exact ⟨id :: others, Prod.ext rfl unchanged⟩

/-! ### Reports -/

/-- What has been reported stays reported. -/
theorem reportsRecursion_after {α : Type} {walk : Check α} (grows : Regime.free.Obeys walk)
    (reports : session.ReportsRecursion) : (walk.run session).2.ReportsRecursion := by
  obtain ⟨finding, isFinding, isRecursion⟩ := reports
  exact ⟨finding, (grows session trivial).findings.subset isFinding, isRecursion⟩

/-- What is reported ahead of a cut is a recursive struct. -/
theorem reportsRecursion_report (session : Session) (span : Span) (field name inner : String) :
    (Act.apply session (.report (.recursiveStruct span field name inner))).ReportsRecursion :=
  ⟨_, List.mem_append_right _ List.mem_cons_self, rfl⟩

/-- Nothing has changed and there is still a declaration to blame, or it has been. -/
def Faithful (session : Session) (span : Span) (after : Session) (blame : Option Span) : Prop :=
  (after = session ∧ blame = some span) ∨ after.ReportsRecursion

/-- With a declaration to blame, a search that changes something reports it. -/
def Reports (fuel : Nat) : Prop :=
  ∀ path done span name id session,
    ((visitStruct fuel path done (some span) name id).run session).2 = session ∨
      ((visitStruct fuel path done (some span) name id).run session).2.ReportsRecursion

theorem faithful_visitField (reports : Reports fuel) {span : Span} (name : String) (id : TypeId)
    (field : StructField × Nat) {middle : Session} {state : Option Span × List TypeId}
    (faithful : Faithful session span middle state.1) :
    Faithful session span ((visitField fuel path name id state field).run middle).2
      ((visitField fuel path name id state field).run middle).1.1 := by
  rcases faithful with ⟨rfl, blame⟩ | reported
  · obtain ⟨_, others⟩ := state
    cases blame
    unfold visitField
    cases isStruct : valueStruct? field.1.type with
    | none => exact .inl ⟨rfl, rfl⟩
    | some target =>
      obtain ⟨inner, innerId⟩ := target
      have visited := reports (id :: path) others span inner innerId middle
      simp only [StateT.run_bind]
      generalize (visitStruct fuel (id :: path) others (some span) inner innerId).run middle =
        outcome at visited ⊢
      obtain ⟨⟨cyclic, between⟩, after⟩ := outcome
      cases cyclic with
      | false => exact visited.imp_left fun same => ⟨same, rfl⟩
      | true => exact .inr (reportsRecursion_report after span field.1.name name inner)
  · have grows := obeys_visitField mayDeclare_free.mayDefine (obeys_visitStruct mayDeclare_free.mayDefine fuel) path name
      id state field
    exact .inr (reportsRecursion_after grows reported)

theorem reports (fuel : Nat) : Reports fuel := by
  induction fuel with
  | zero => exact fun _ _ _ _ _ _ => .inl rfl
  | succ fuel inductionHypothesis =>
    intro path done span name id session
    have kept (fields : List (StructField × Nat)) : Faithful session span
        ((fields.foldlM (visitField fuel path name id) (some span, done)).run session).2
        ((fields.foldlM (visitField fuel path name id) (some span, done)).run session).1.1 :=
      foldlM_keeps (fun _ after (state : Option Span × List TypeId) =>
        Faithful session span after state.1) fields
        (fun _ field _ _ _ => faithful_visitField inductionHypothesis name id field) (.inl ⟨rfl, rfl⟩)
    rw [visitStruct_succ]
    split
    · exact .inl rfl
    split
    · exact .inl rfl
    exact (kept _).imp_left And.left

/-! ### All structs of a unit -/

/-- The structs among the pending globals. -/
def structIds (pending : List Pending) : List TypeId :=
  pending.filterMap fun entry =>
    match entry.item with
    | .struct decl => some decl.span.node
    | _ => none

theorem mem_structIds {pending : List Pending} {entry : Pending} {decl : StructDecl}
    (isPending : entry ∈ pending) (isStruct : entry.item = .struct decl) :
    decl.span.node ∈ structIds pending := by
  refine List.mem_filterMap.mpr ⟨entry, isPending, ?_⟩
  rw [isStruct]

theorem exists_of_mem_structIds {pending : List Pending} {id : TypeId}
    (isStruct : id ∈ structIds pending) :
    ∃ entry ∈ pending, ∃ decl, entry.item = .struct decl ∧ decl.span.node = id := by
  obtain ⟨entry, isPending, found⟩ := List.mem_filterMap.mp isStruct
  split at found
  · rename_i decl isItem
    cases found
    exact ⟨entry, isPending, decl, isItem, rfl⟩
  · cases found

/-- Goes through a pending global, if it is a struct. -/
def visitPending (count : Nat) (done : List TypeId) (entry : Pending) : Check (List TypeId) := do
  match entry.item with
  | .struct decl =>
    let (_, done) <-
      visitStruct (count + 1) [] done (some decl.span) entry.symbol.name decl.span.node
    return done
  | _ => return done

theorem after_cutRecursion (session : Session) (pending : List Pending) :
    session.after (cutRecursion pending) =
      ((pending.foldlM (visitPending pending.length) []).run session).2 := rfl

theorem visitPending_of_acyclic (acyclic : session.definitions.Acyclic) (count : Nat)
    (done : List TypeId) (entry : Pending) :
    ((visitPending count done entry).run session).2 = session := by
  unfold visitPending
  split
  · rename_i decl _
    obtain ⟨others, unchanged⟩ := visitStruct_of_acyclic acyclic (count + 1) done
      (some decl.span) entry.symbol.name decl.span.node (List.forall_mem_nil _)
    simp only [StateT.run_bind, unchanged]
    rfl
  · rfl

/-- Where no struct holds itself, the search changes nothing. -/
theorem cutRecursion_of_acyclic (acyclic : session.definitions.Acyclic) (pending : List Pending) :
    session.after (cutRecursion pending) = session := by
  rw [after_cutRecursion]
  exact foldlM_still pending
    (fun entry _ done => visitPending_of_acyclic acyclic pending.length done entry) []

theorem visitPending_reports {middle : Session} (count : Nat) (done : List TypeId) (entry : Pending)
    (kept : middle = session ∨ middle.ReportsRecursion) :
    ((visitPending count done entry).run middle).2 = session ∨
      ((visitPending count done entry).run middle).2.ReportsRecursion := by
  unfold visitPending
  split
  · rename_i decl _
    rcases kept with rfl | reported
    · exact reports (count + 1) [] done decl.span entry.symbol.name decl.span.node middle
    · have grows := obeys_visitStruct mayDeclare_free.mayDefine (count + 1) [] done (some decl.span)
        entry.symbol.name decl.span.node
      exact .inr (reportsRecursion_after (grows.bind fun _ => .pure _) reported)
  · exact kept

/-- A search that changes anything reports a recursive struct. -/
theorem cutRecursion_reports (session : Session) (pending : List Pending) :
    session.after (cutRecursion pending) = session ∨
      (session.after (cutRecursion pending)).ReportsRecursion := by
  rw [after_cutRecursion]
  exact foldlM_keeps (fun _ after _ => after = session ∨ after.ReportsRecursion) pending
    (fun _ entry _ _ done kept => visitPending_reports pending.length done entry kept) (.inl rfl)

/-- The pending structs ahead of a place have been gone through. -/
structure Through (pending : List Pending) (before : Session) (place : Nat) (session : Session)
    (done : List TypeId) : Prop where
  keeps : Keeps [] before [] session done
  reached : ∀ index < place, ∀ entry, pending[index]? = some entry → ∀ decl,
    entry.item = .struct decl → decl.span.node ∈ done

theorem Through.start {pending : List Pending} : Through pending session 0 session [] :=
  ⟨.refl, fun index isBehind => absurd isBehind (Nat.not_lt_zero index)⟩

/-- From outside of all structs there is room for all that are pending. -/
theorem Through.room {pending : List Pending} {middle : Session} {place : Nat}
    (through : Through pending session place middle done)
    (listed : ∀ outer inner, session.definitions.Contains outer inner → outer ∈ structIds pending) :
    Room (structIds pending) (pending.length + 1) [] middle where
  listed outer inner contains := listed outer inner (through.keeps.trims outer inner contains)
  nodup := List.nodup_nil
  subset := List.nil_subset _
  enough := by
    have short : (structIds pending).length ≤ pending.length := List.length_filterMap_le _ _
    rw [List.length_nil]
    omega

theorem through_visitPending {pending : List Pending} {middle : Session}
    (listed : ∀ outer inner, session.definitions.Contains outer inner → outer ∈ structIds pending)
    {place : Nat} {entry : Pending} (isEntry : pending[place]? = some entry)
    (through : Through pending session place middle done) :
    Through pending session (place + 1)
      ((visitPending pending.length done entry).run middle).2
      ((visitPending pending.length done entry).run middle).1 := by
  have room := through.room listed
  obtain ⟨keeps, reached⟩ := through
  unfold visitPending
  split
  · rename_i decl isStruct
    -- nothing is on the path, so the search does not come back to it
    obtain ⟨searched, answers⟩ := searches (structIds pending) (pending.length + 1) [] done
      (some decl.span) entry.symbol.name decl.span.node middle room
    obtain ⟨-, onPath⟩ | ⟨-, isDone⟩ := answers
    · cases onPath
    refine ⟨keeps.trans searched, fun index isBehind other isOther otherDecl isOtherStruct => ?_⟩
    rcases Nat.lt_succ_iff_lt_or_eq.mp isBehind with isBehind | rfl
    · exact searched.more (reached index isBehind other isOther otherDecl isOtherStruct)
    · cases isEntry.symm.trans isOther
      cases isStruct.symm.trans isOtherStruct
      exact isDone
  · rename_i notStruct
    refine ⟨keeps, fun index isBehind other isOther decl isStruct => ?_⟩
    rcases Nat.lt_succ_iff_lt_or_eq.mp isBehind with isBehind | rfl
    · exact reached index isBehind other isOther decl isStruct
    · cases isEntry.symm.trans isOther
      exact absurd isStruct (notStruct decl)

/-- What is no struct does not count where all structs are gone through. -/
theorem cutRecursion_skip {before behind : List Pending} {entry : Pending}
    (isOther : ∀ decl, entry.item ≠ .struct decl)
    (listed : ∀ outer inner, session.definitions.Contains outer inner →
      outer ∈ structIds (before ++ behind)) :
    session.after (cutRecursion (before ++ entry :: behind)) =
      session.after (cutRecursion (before ++ behind)) := by
  have skipped (count : Nat) (done : List TypeId) : visitPending count done entry = pure done := by
    unfold visitPending
    split
    · rename_i decl isStruct
      exact (isOther decl isStruct).elim
    · rfl
  have longer : (before ++ entry :: behind).length = (before ++ behind).length + 1 := by
    simp only [List.length_append, List.length_cons, Nat.add_assoc]
  have shorter : (before ++ entry :: behind).foldlM (visitPending ((before ++ behind).length + 1)) [] =
      (before ++ behind).foldlM (visitPending ((before ++ behind).length + 1)) [] := by
    simp only [List.foldlM_append, List.foldlM_cons, skipped, pure_bind]
  rw [after_cutRecursion, after_cutRecursion, longer, shorter]
  refine congrArg Prod.snd (foldlM_same (Through (before ++ behind) session) _
    (fun _ _ isEntry _ _ through => through_visitPending listed isEntry through) ?_ .start)
  intro place other _ middle done through
  unfold visitPending
  split
  · simp only [StateT.run_bind, visitStruct_deeper _ _ _ _ (through.room listed)]
  · rfl

/-- Behind the search no chain of structs that contain each other goes on for ever. -/
theorem cutRecursion_founded {pending : List Pending}
    (listed : ∀ outer inner, session.definitions.Contains outer inner → outer ∈ structIds pending)
    (integers : session.definitions.StoredAsIntegers) :
    (session.after (cutRecursion pending)).definitions.Founded := by
  rw [after_cutRecursion]
  obtain ⟨keeps, reached⟩ := foldlM_keeps (Through pending session) pending
    (fun _ _ isEntry _ _ through => through_visitPending listed isEntry through)
    Through.start
  refine Definitions.founded_of_wellFounded ((keeps.settled trivial).wellFounded ?_) ?_
  · intro outer inner contains
    obtain ⟨entry, isPending, decl, isStruct, rfl⟩ :=
      exists_of_mem_structIds (listed outer inner (keeps.trims outer inner contains))
    obtain ⟨index, isEntry⟩ := List.mem_iff_getElem?.mp isPending
    have inside := (List.getElem?_eq_some_iff.mp isEntry).1
    exact reached index inside entry isEntry decl isStruct
  · intro id body isBody
    unfold Definitions.enum? at isBody
    rw [keeps.enums] at isBody
    exact integers id body isBody

end Declare
end UnitCheck
