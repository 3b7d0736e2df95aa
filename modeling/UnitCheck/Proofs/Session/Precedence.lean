import Mathlib.Data.List.Perm.Subperm

/-!
# Schedules

Some declarations need others: an alias the aliases its target mentions, a global the
globals its value reads. Where a search has gone through them without coming back to one
it had not finished, the order in which it finished them is a schedule, and no later search
can run into a circle either.
-/

namespace UnitCheck

/-- The latest first, nothing is scheduled ahead of what it needs. -/
def Scheduled {α : Type} (needs : α -> α -> Prop) : List α -> Prop
  | [] => True
  | last :: earlier => (∀ other, needs last other → other ∈ earlier) ∧ Scheduled needs earlier

namespace Scheduled

variable {α : Type} {needs : α -> α -> Prop} {later earlier : List α} {value : α}

/-- What is scheduled earlier makes a schedule. -/
theorem of_append (scheduled : Scheduled needs (later ++ earlier)) : Scheduled needs earlier := by
  induction later with
  | nil => exact scheduled
  | cons _ _ inductionHypothesis => exact inductionHypothesis scheduled.2

/-- What is scheduled needs only what is scheduled earlier. -/
theorem mem_earlier (scheduled : Scheduled needs (later ++ value :: earlier)) {other : α}
    (needed : needs value other) : other ∈ earlier :=
  scheduled.of_append.1 other needed

/-- Nothing needs what is scheduled last. -/
theorem not_needs_last {last : α} (scheduled : Scheduled needs (last :: earlier))
    (isNew : last ∉ earlier) (isScheduled : value ∈ last :: earlier) : ¬needs value last := by
  intro needed
  obtain ⟨before, behind, split⟩ := List.append_of_mem isScheduled
  have isBehind := (split ▸ scheduled).mem_earlier needed
  cases before with
  | nil =>
    obtain ⟨-, rfl⟩ := List.cons.inj split
    exact isNew isBehind
  | cons _ _ =>
    obtain ⟨-, rfl⟩ := List.cons.inj split
    exact isNew (List.mem_append_right _ (List.mem_cons_of_mem _ isBehind))

end Scheduled

/-- Fuel for a search along a path: no path goes through a key twice. -/
structure Fueled {α : Type} (keys : List α) (fuel : Nat) (path : List α) : Prop where
  distinct : path.Nodup
  inside : path ⊆ keys
  enough : fuel + path.length = keys.length + 1

namespace Fueled

variable {α : Type} {keys path : List α} {fuel : Nat} {key : α}

theorem start : Fueled keys (keys.length + 1) [] :=
  ⟨List.nodup_nil, List.nil_subset _, rfl⟩

/-- One more key on the path takes one unit of fuel. -/
theorem step (fueled : Fueled keys (fuel + 1) path) (isKey : key ∈ keys) (isNew : key ∉ path) :
    Fueled keys fuel (key :: path) where
  distinct := List.nodup_cons.mpr ⟨isNew, fueled.distinct⟩
  inside := List.cons_subset.mpr ⟨isKey, fueled.inside⟩
  enough := by
    have enough := fueled.enough
    rw [List.length_cons]
    omega

/-- Fuel never runs out. -/
theorem not_zero : ¬Fueled keys 0 path := by
  intro fueled
  have short := (List.subperm_of_subset fueled.distinct fueled.inside).length_le
  have enough := fueled.enough
  omega

end Fueled
end UnitCheck
