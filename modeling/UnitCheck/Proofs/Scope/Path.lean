import Mathlib.Data.List.Infix
import UnitCheck.Scope.Member

/-!
# Walks along member paths

A walk may be cut anywhere: it leads where its second stretch leads from the end of its
first one. A walk that leads nowhere has gone as far as any does and blames the segment
behind. A `const` around the type that a walk starts from makes no difference to it,
unless it stands around another `const` that stands around a `mut` struct.
-/

namespace UnitCheck

/-- The step names the field at its place in its struct. -/
def MemberStep.Fits (definitions : Definitions) (step : MemberStep) : Prop :=
  ((definitions.struct step.structId).fields[step.index]?).map (·.name) = some step.field

namespace Member

variable {definitions : Definitions} {mode : DerefMode} {type : Ty} {segment : String}

/-! ### One hop -/

/-- Where there is no struct to look into, the segment is blamed. -/
theorem segment_of_structOf {error : FieldError}
    (failed : structOf mode type segment = .error error) : error.segment = segment := by
  unfold structOf at failed
  split at failed
  all_goals
    simp only at failed
    repeat' split at failed
  all_goals
    cases failed
    try rfl

/-- A hop that leads nowhere is blamed on its segment. -/
theorem segment_of_hop {error : FieldError}
    (failed : hop definitions mode type segment = .error error) : error.segment = segment := by
  unfold hop at failed
  split at failed
  · cases failed
    exact segment_of_structOf ‹_›
  · simp only at failed
    split at failed
    · cases failed
      rfl
    · split at failed <;> cases failed
      rfl

/-- A hop takes the field at its place. -/
theorem fits_of_hop {step : MemberStep} {next : Ty}
    (taken : hop definitions mode type segment = .ok (step, next)) : step.Fits definitions := by
  unfold hop at taken
  split at taken
  · cases taken
  · simp only at taken
    split at taken
    · cases taken
    · split at taken
      · rename_i isField
        cases taken
        exact congrArg (Option.map StructField.name) isField
      · cases taken

/-! ### Walks in stretches -/

/-- A walk goes on from the end of its first stretch, if there is one. -/
theorem walk_append (front back : List String) (type : Ty) :
    walk definitions mode type (front ++ back) =
      match walk definitions mode type front with
      | (.ok middle, early) =>
        ((walk definitions mode middle back).1, early ++ (walk definitions mode middle back).2)
      | (.error error, early) => (.error error, early) := by
  induction front generalizing type with
  | nil => rfl
  | cons segment rest inductionHypothesis =>
    simp only [List.cons_append, walk]
    cases hop definitions mode type segment with
    | error error => rfl
    | ok taken =>
      obtain ⟨step, next⟩ := taken
      simp only [inductionHypothesis next]
      cases walk definitions mode next rest with
      | mk outcome steps => cases outcome <;> rfl

/-- A walk leads somewhere when both its stretches do. -/
theorem walk_append_eq_ok_iff {front back : List String} {found : Ty} {steps : List MemberStep} :
    walk definitions mode type (front ++ back) = (.ok found, steps) ↔
      ∃ middle early late, walk definitions mode type front = (.ok middle, early) ∧
        walk definitions mode middle back = (.ok found, late) ∧ steps = early ++ late := by
  rw [walk_append]
  constructor
  · intro walked
    cases first : walk definitions mode type front with
    | mk outcome early =>
      rw [first] at walked
      cases outcome with
      | error error => cases walked
      | ok middle =>
        obtain ⟨leads, isSteps⟩ := Prod.mk.inj walked
        exact ⟨middle, early, _, rfl, Prod.ext leads rfl, isSteps.symm⟩
  · rintro ⟨middle, early, late, first, second, rfl⟩
    rw [first]
    simp only [second]

/-- A walk that leads somewhere has taken a step for each segment. -/
theorem length_of_walk {path : List String} {found : Ty} {steps : List MemberStep}
    (walked : walk definitions mode type path = (.ok found, steps)) :
    steps.length = path.length := by
  induction path generalizing type steps with
  | nil =>
    cases walked
    rfl
  | cons segment rest inductionHypothesis =>
    unfold walk at walked
    split at walked
    · cases walked
    · obtain ⟨leads, rfl⟩ := Prod.mk.inj walked
      rw [List.length_cons, List.length_cons, inductionHypothesis (Prod.ext leads rfl)]

/-- All steps of a walk name fields, wherever it leads. -/
theorem fits_of_walk (path : List String) (type : Ty) :
    ∀ step ∈ (walk definitions mode type path).2, step.Fits definitions := by
  induction path generalizing type with
  | nil => exact List.forall_mem_nil _
  | cons segment rest inductionHypothesis =>
    unfold walk
    split
    · exact List.forall_mem_nil _
    · rename_i step next taken
      exact List.forall_mem_cons.mpr ⟨fits_of_hop taken, inductionHypothesis next⟩

/-- A walk that leads nowhere stops in front of the segment it blames. -/
theorem stop_of_walk {path : List String} {error : FieldError} {steps : List MemberStep}
    (failed : walk definitions mode type path = (.error error, steps)) :
    ∃ front rest middle, path = front ++ error.segment :: rest ∧
      walk definitions mode type front = (.ok middle, steps) ∧
      hop definitions mode middle error.segment = .error error := by
  induction path generalizing type steps with
  | nil => cases failed
  | cons segment rest inductionHypothesis =>
    unfold walk at failed
    cases taken : hop definitions mode type segment with
    | error reason =>
      rw [taken] at failed
      cases failed
      obtain rfl := segment_of_hop taken
      exact ⟨[], rest, type, rfl, rfl, taken⟩
    | ok target =>
      obtain ⟨step, next⟩ := target
      rw [taken] at failed
      obtain ⟨leads, rfl⟩ := Prod.mk.inj failed
      obtain ⟨front, others, middle, isRest, walked, blamed⟩ :=
        inductionHypothesis (Prod.ext leads rfl)
      refine ⟨segment :: front, others, middle, congrArg (segment :: ·) isRest, ?_, blamed⟩
      simp only [walk, taken, walked]

/-- No walk gets past a segment that leads nowhere. -/
theorem prefix_of_walk {front rest longer : List String} {middle found : Ty}
    {steps taken : List MemberStep} {error : FieldError}
    (walked : walk definitions mode type front = (.ok middle, steps))
    (blamed : hop definitions mode middle segment = .error error)
    (within : longer <+: front ++ segment :: rest)
    (leads : walk definitions mode type longer = (.ok found, taken)) : longer <+: front := by
  obtain shorter | ⟨beyond, rfl⟩ :=
    List.prefix_or_prefix_of_prefix within (List.prefix_append front _)
  · exact shorter
  · cases beyond with
    | nil => exact (List.append_nil front).symm ▸ List.prefix_rfl
    | cons next others =>
      obtain ⟨rfl, -⟩ := List.cons_prefix_cons.mp ((List.prefix_append_right_inj front).mp within)
      rw [walk_append, walked] at leads
      simp only [walk, blamed] at leads
      cases leads

/-- Walks compose along their paths. One that leads somewhere has a step for each segment,
which names the field at its place. One that leads nowhere has the steps of the longest
stretch that leads somewhere and blames the segment behind it. -/
theorem walks_compose (definitions : Definitions) (mode : DerefMode) (type : Ty) :
    (∀ front back found steps,
      walk definitions mode type (front ++ back) = (.ok found, steps) ↔
        ∃ middle early late, walk definitions mode type front = (.ok middle, early) ∧
          walk definitions mode middle back = (.ok found, late) ∧ steps = early ++ late) ∧
    (∀ path found steps, walk definitions mode type path = (.ok found, steps) →
      steps.length = path.length ∧ ∀ step ∈ steps, step.Fits definitions) ∧
    ∀ path error steps, walk definitions mode type path = (.error error, steps) →
      ∃ front rest, path = front ++ error.segment :: rest ∧
        (∃ middle, walk definitions mode type front = (.ok middle, steps)) ∧
        ∀ longer found taken, longer <+: path →
          walk definitions mode type longer = (.ok found, taken) → longer <+: front := by
  refine ⟨fun front back found steps => walk_append_eq_ok_iff, ?_, ?_⟩
  · intro path found steps walked
    have named : ∀ step ∈ (walk definitions mode type path).2, step.Fits definitions :=
      fits_of_walk path type
    rw [walked] at named
    exact ⟨length_of_walk walked, named⟩
  · intro path error steps failed
    obtain ⟨front, rest, middle, rfl, walked, blamed⟩ := stop_of_walk failed
    exact ⟨front, rest, rfl, ⟨middle, walked⟩,
      fun longer found taken within leads => prefix_of_walk walked blamed within leads⟩

/-- A struct that holds another one and points to it. -/
def nestedStructs : Definitions where
  structs := [
    (0, ⟨[⟨"id", .prim .s32⟩, ⟨"in", .struct "Inner" 1⟩, ⟨"link", .pointer (.struct "Inner" 1)⟩],
      .padded⟩),
    (1, ⟨[⟨"a", .prim .u8⟩, ⟨"b", .prim .f64⟩], .padded⟩)]
  enums := []

/-- A walk through a pointer, by name and by place, and one that stops behind two hops. -/
theorem walks_compose_nested :
    (∃ middle early late,
      walk nestedStructs .viaMut (.struct "Outer" 0) ["link"] = (.ok middle, early) ∧
        walk nestedStructs .viaMut middle ["0"] = (.ok (.prim .u8), late) ∧
        [⟨"Outer", 0, 2, "link", false⟩, ⟨"Inner", 1, 0, "a", true⟩] = early ++ late) ∧
    (∀ step ∈ (walk nestedStructs .viaMut (.struct "Outer" 0) ["link", "0"]).2,
      step.Fits nestedStructs) ∧
    ∃ front rest, ["in", "b", "x", "y"] = front ++ "x" :: rest ∧
      ∃ middle, walk nestedStructs .viaMut (.struct "Outer" 0) front =
        (.ok middle, [⟨"Outer", 0, 1, "in", false⟩, ⟨"Inner", 1, 1, "b", false⟩]) := by
  have reached : walk nestedStructs .viaMut (.struct "Outer" 0) ["link", "0"] =
      (.ok (.prim .u8), [⟨"Outer", 0, 2, "link", false⟩, ⟨"Inner", 1, 0, "a", true⟩]) :=
    rfl
  have stopped : walk nestedStructs .viaMut (.struct "Outer" 0) ["in", "b", "x", "y"] =
      (.error ⟨.notStruct, "x", .prim .f64⟩,
        [⟨"Outer", 0, 1, "in", false⟩, ⟨"Inner", 1, 1, "b", false⟩]) :=
    rfl
  obtain ⟨composes, fits, stops⟩ := walks_compose nestedStructs .viaMut (.struct "Outer" 0)
  obtain ⟨front, rest, isPath, leads, -⟩ := stops _ _ _ stopped
  exact ⟨(composes ["link"] ["0"] _ _).mp reached, reached ▸ (fits _ _ _ reached).2,
    front, rest, isPath, leads⟩

/-! ### Walks from behind a `const` -/

/-- Both walks lead to one type or neither leads anywhere, and they take the same steps. -/
def Meet (one other : Except FieldError Ty × List MemberStep) : Prop :=
  one.1.toOption = other.1.toOption ∧ one.2 = other.2

/-- The type is a `mut` struct behind a `const`. -/
def HidesMut (type : Ty) : Prop :=
  ∃ inner, type = .const (.mutable inner) ∧ inner.struct?.isSome

/-- The struct that a type points to, or else the one that it is. -/
def chosen (deref : Bool) (base : Ty) : Option (String × TypeId × Bool) :=
  match base.pointeeStruct? with
  | some (name, id) => some (name, id, true)
  | none => base.struct?.map fun (name, id) => (name, id, deref)

@[simp] theorem chosen_const (deref : Bool) (inner : Ty) :
    chosen deref (.const inner) = chosen deref inner := rfl

@[simp] theorem chosen_mutable (deref : Bool) (inner : Ty) :
    chosen deref (.mutable inner) = chosen deref inner := rfl

/-- A type that is a struct points to none. -/
theorem chosen_of_struct? {base : Ty} {name : String} {id : TypeId}
    (isStruct : base.struct? = some (name, id)) (deref : Bool) :
    chosen deref base = some (name, id, deref) := by
  have noPointer : base.pointeeStruct? = none := by
    unfold Ty.struct? at isStruct
    unfold Ty.pointeeStruct?
    split at isStruct
    · rename_i itself
      rw [itself]
    · cases isStruct
  rw [chosen, noPointer, isStruct]
  rfl

/-- The struct that a hop looks into once a `const` is off. -/
def uncovered (mode : DerefMode) : Ty -> Option (String × TypeId × Bool)
  | .mutable inner =>
    if inner.struct?.isSome && mode = .pointerOnly then none else chosen true inner
  | base => chosen false base

/-- A hop from behind a `const` takes that `const` off. -/
theorem toOption_structOf_const (mode : DerefMode) (type : Ty) (segment : String) :
    (structOf mode (.const type) segment).toOption = uncovered mode type := by
  cases type
  case mutable inner =>
    simp only [structOf, uncovered, chosen]
    split
    · rfl
    · cases inner.pointeeStruct? <;> cases inner.struct? <;> rfl
  all_goals
    simp only [structOf, uncovered, chosen]
    generalize Ty.pointeeStruct? _ = pointee
    generalize Ty.struct? _ = struct
    cases pointee <;> cases struct <;> rfl

/-- A first `const` makes no difference. -/
theorem toOption_structOf_bare (bare : ∀ inner, type ≠ .const inner) :
    (structOf mode (.const type) segment).toOption = (structOf mode type segment).toOption := by
  cases type
  case const inner => exact absurd rfl (bare inner)
  case mutable inner =>
    simp only [structOf]
    split
    · rfl
    · split <;> rfl
  all_goals
    simp only [structOf]
    split <;> rfl

/-- A further `const` makes no difference either, unless there is a `mut` struct behind the
one in front of it. -/
theorem toOption_structOf_of_not_hidesMut (shown : ¬ HidesMut type) :
    (structOf mode (.const type) segment).toOption = (structOf mode type segment).toOption := by
  by_cases bare : ∀ inner, type ≠ .const inner
  · exact toOption_structOf_bare bare
  · obtain ⟨inner, rfl⟩ := not_forall_not.mp bare
    rw [toOption_structOf_const, toOption_structOf_const]
    cases inner with
    | mutable deeper =>
      have noStruct : deeper.struct? = none := by
        rw [← Option.not_isSome_iff_eq_none]
        exact fun isStruct => shown ⟨deeper, rfl, isStruct⟩
      simp only [uncovered, chosen_const, chosen_mutable]
      simp [chosen, noStruct]
    | _ => rfl

/-- A step that has looked through something, or has not. -/
def marked (deref : Bool) (taken : MemberStep × Ty) : MemberStep × Ty :=
  ({ taken.1 with deref := deref }, taken.2)

/-- What a hop finds is what it finds in the struct that it looks into, but for the mark. -/
theorem toOption_hop (definitions : Definitions) (mode : DerefMode) (type : Ty)
    (segment : String) :
    (hop definitions mode type segment).toOption =
      (structOf mode type segment).toOption.bind fun target =>
        (hop definitions mode (.struct target.1 target.2.1) segment).toOption.map
          (marked target.2.2) := by
  cases found : structOf mode type segment with
  | error error =>
    unfold hop
    rw [found]
    rfl
  | ok target =>
    obtain ⟨name, id, deref⟩ := target
    have itself : structOf mode (.struct name id) segment = .ok (name, id, false) := rfl
    change _ = (hop definitions mode (.struct name id) segment).toOption.map (marked deref)
    unfold hop
    rw [found, itself]
    simp only
    cases fieldIndex (definitions.struct id) segment with
    | error reason => rfl
    | ok index =>
      simp only
      cases (definitions.struct id).fields[index]? <;> rfl

/-- A hop from behind one more `const` misses a hidden `mut` and leaves its step unmarked;
the hop in front of it sees the `mut`, which it refuses or marks. -/
theorem toOption_hop_of_hidesMut (definitions : Definitions) (mode : DerefMode)
    (segment : String) (hides : HidesMut type) :
    ∃ entered : Option (MemberStep × Ty),
      (hop definitions mode (.const type) segment).toOption = entered.map (marked false) ∧
      (hop definitions mode type segment).toOption =
        if mode = .pointerOnly then none else entered.map (marked true) := by
  obtain ⟨inner, rfl, isStruct⟩ := hides
  obtain ⟨⟨name, id⟩, found⟩ := Option.isSome_iff_exists.mp isStruct
  refine ⟨(hop definitions mode (.struct name id) segment).toOption, ?_, ?_⟩
  · rw [toOption_hop, toOption_structOf_const, uncovered, chosen_const, chosen_mutable,
      chosen_of_struct? found, Option.bind_some]
    simp
  · rw [toOption_hop, toOption_structOf_const, uncovered, chosen_of_struct? found, isStruct]
    by_cases pointerOnly : mode = .pointerOnly <;> simp [pointerOnly]

/-- A walk starts with the step of its first hop. -/
theorem head?_walk_cons (rest : List String) :
    (walk definitions mode type (segment :: rest)).2.head? =
      (hop definitions mode type segment).toOption.map Prod.fst := by
  unfold walk
  cases hop definitions mode type segment <;> rfl

/-- Walks meet behind the same first hop. -/
theorem meet_of_hop {other : Ty} (rest : List String)
    (same : (hop definitions mode type segment).toOption =
      (hop definitions mode other segment).toOption) :
    Meet (walk definitions mode type (segment :: rest))
      (walk definitions mode other (segment :: rest)) := by
  unfold walk
  cases one : hop definitions mode type segment <;>
    cases another : hop definitions mode other segment <;>
    rw [one, another] at same
  · exact ⟨rfl, rfl⟩
  · cases same
  · cases same
  · cases same
    exact ⟨rfl, rfl⟩

/-- A `const` around the type that a path starts from makes no difference to a walk, except
where it stands around another `const` around a `mut` struct that has the first field. -/
theorem walk_const_meets_iff (definitions : Definitions) (mode : DerefMode) (type : Ty)
    (segment : String) (rest : List String) :
    Meet (walk definitions mode (.const type) (segment :: rest))
        (walk definitions mode type (segment :: rest)) ↔
      ¬ (HidesMut type ∧ ∃ taken, hop definitions mode (.const type) segment = .ok taken) := by
  by_cases hides : HidesMut type
  · obtain ⟨entered, behind, inFront⟩ := toOption_hop_of_hidesMut definitions mode segment hides
    cases entered with
    | none =>
      have noneInFront : (hop definitions mode type segment).toOption = none := by
        rw [inFront]
        split <;> rfl
      refine ⟨?_, fun _ => meet_of_hop rest (behind.trans noneInFront.symm)⟩
      rintro - ⟨-, taken, leads⟩
      rw [leads] at behind
      cases behind
    | some taken =>
      constructor
      · intro meets
        have heads := congrArg List.head? meets.2
        rw [head?_walk_cons, head?_walk_cons, behind, inFront] at heads
        split at heads
        · cases heads
        · have marks := congrArg (Option.map MemberStep.deref) heads
          cases marks
      · intro apart
        refine absurd ⟨hides, ?_⟩ apart
        cases leads : hop definitions mode (.const type) segment with
        | error error =>
          rw [leads] at behind
          cases behind
        | ok found => exact ⟨found, rfl⟩
  · exact ⟨fun _ both => hides both.1, fun _ => meet_of_hop rest
      (by rw [toOption_hop, toOption_hop, toOption_structOf_of_not_hidesMut hides])⟩

/-- One `const` around a `mut` struct lets the struct be refused or its step be marked, and
two of them do not. -/
theorem mut_missed_behind_consts :
    walk nestedStructs .pointerOnly (.const (.mutable (.struct "Inner" 1))) ["a"] =
      (.error ⟨.needsPointer, "a", .const (.mutable (.struct "Inner" 1))⟩, []) ∧
    walk nestedStructs .pointerOnly (.const (.const (.mutable (.struct "Inner" 1)))) ["a"] =
      (.ok (.prim .u8), [⟨"Inner", 1, 0, "a", false⟩]) ∧
    walk nestedStructs .viaMut (.const (.mutable (.struct "Inner" 1))) ["a"] =
      (.ok (.prim .u8), [⟨"Inner", 1, 0, "a", true⟩]) ∧
    walk nestedStructs .viaMut (.const (.const (.mutable (.struct "Inner" 1)))) ["a"] =
      (.ok (.prim .u8), [⟨"Inner", 1, 0, "a", false⟩]) :=
  ⟨rfl, rfl, rfl, rfl⟩

end Member
end UnitCheck
