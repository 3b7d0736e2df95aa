import Mathlib.Data.List.Perm.Subperm
import UnitCheck.Typing.Globals

/-!
# The recursion between globals ends

Typing a global types the globals that its value reads, and these read others in turn.
`typeGlobal` does that without a bound on how deep it may go. It is well-founded, since a
global on the path is not entered again and a unit has finitely many. `checkGlobal` bounds
the depth by the number of globals and never meets that bound, so the two are the same.
-/

namespace UnitCheck.Typing

variable {all : List Global} {path : List NodeId} {fuel : Nat} {global : Global}

/-- The globals that are not on the path. -/
def offPath (all : List Global) (path : List NodeId) : List Global :=
  all.filter fun global => !path.contains global.node

/-- One more global on the path leaves fewer off it. -/
theorem length_offPath_cons (isGlobal : global ∈ all) (isNew : ¬path.contains global.node = true) :
    (offPath all (global.node :: path)).length < (offPath all path).length := by
  have split : offPath all (global.node :: path) =
      (offPath all path).filter fun other => other.node ≠ global.node := by
    unfold offPath
    rw [List.filter_filter]
    refine List.filter_congr fun other _ => ?_
    rw [List.contains_cons]
    cases path.contains other.node <;> simp [beq_eq_decide]
  rw [split]
  refine List.length_filter_lt_length_iff_exists.mpr ⟨global, ?_, by simp⟩
  exact List.mem_filter.mpr ⟨isGlobal, by simpa using isNew⟩

/-- A global among these. -/
abbrev Member (all : List Global) := { global : Global // global ∈ all }

/-- The global that a symbol stands for. -/
def globalOf? (all : List Global) (symbol : Symbol) : Option (Member all) :=
  all.attach.find? fun other => symbol.id = .node other.1.node

theorem map_globalOf? (all : List Global) (symbol : Symbol) :
    (globalOf? all symbol).map Subtype.val =
      all.find? fun other => symbol.id = .node other.node := by
  conv => rhs; rw [← List.attach_map_subtype_val all, List.find?_map]
  rfl

/-- Types a global, unless that has been done, however deep the recursion goes. -/
def typeGlobal (all : List Global) (path : List NodeId) (global : Member all) : Check Ty := do
  let node := global.1.node
  if (<- get).checked.contains node then
    declType node
  else if _onPath : path.contains node then
    Check.report (.selfReference global.1.span)
    setDeclType node .unknown
    return .unknown
  else
    let demand : Demand := fun symbol =>
      match globalOf? all symbol with
      | some other => typeGlobal all (node :: path) other
      | none => return .unknown
    let type <- global.1.check demand
    markChecked node
    return type
termination_by (offPath all path).length
decreasing_by exact length_offPath_cons global.2 _onPath

/-- Fuel for a path of globals: no path holds a global twice. -/
structure Fueled (all : List Global) (fuel : Nat) (path : List NodeId) : Prop where
  distinct : path.Nodup
  inside : path ⊆ all.map Global.node
  enough : all.length < fuel + path.length

/-- The start of a path. -/
theorem fueled_start (enough : all.length < fuel) : Fueled all fuel [] :=
  ⟨List.nodup_nil, List.nil_subset _, enough⟩

/-- One more global on the path takes one unit of fuel. -/
theorem Fueled.step (fueled : Fueled all (fuel + 1) path) (isGlobal : global ∈ all)
    (isNew : path.contains global.node = false) : Fueled all fuel (global.node :: path) where
  distinct := List.nodup_cons.mpr ⟨by simpa using isNew, fueled.distinct⟩
  inside := List.cons_subset.mpr ⟨List.mem_map_of_mem isGlobal, fueled.inside⟩
  enough := by
    have enough := fueled.enough
    rw [List.length_cons]
    omega

/-- Fuel never runs out. -/
theorem not_fueled_zero : ¬Fueled all 0 path := by
  intro fueled
  have short := (List.subperm_of_subset fueled.distinct fueled.inside).length_le
  have enough := fueled.enough
  rw [List.length_map] at short
  omega

/-- With fuel for its path the bounded recursion is the unbounded one. -/
theorem checkGlobal_eq_typeGlobal (fueled : Fueled all fuel path) (global : Member all) :
    checkGlobal all fuel path global = typeGlobal all path global := by
  induction fuel generalizing path global with
  | zero => exact absurd fueled not_fueled_zero
  | succ fuel inductionHypothesis =>
    unfold checkGlobal typeGlobal
    refine bind_congr fun session => ?_
    by_cases onPath : path.contains global.1.node = true
    · simp only [onPath, if_true, dif_pos]
    · have deeper := fueled.step global.2 (by simpa using onPath)
      simp only [onPath, dif_neg, not_false_eq_true, if_false, Bool.false_eq_true]
      congr 2
      refine congrArg (Global.check · global.1) (funext fun symbol => ?_)
      rw [← map_globalOf?]
      cases globalOf? all symbol with
      | some other => exact inductionHypothesis deeper other
      | none => rfl

end UnitCheck.Typing
