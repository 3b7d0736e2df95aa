/-!
# Passes and their order

A unit is checked in five passes. Each pass has prerequisites, and a tracker
records which passes have completed: a pass completes once, and only when its
prerequisites have.
-/

namespace UnitCheck

/-- The passes over a unit. -/
inductive Pass where
  | declare | scope | typeCheck | attributes | lint
deriving Repr, DecidableEq, Inhabited

namespace Pass

/-- The passes in the order they run. -/
def all : List Pass := [.declare, .scope, .typeCheck, .attributes, .lint]

/-- The pass's name. -/
def text : Pass -> String
  | .declare => "Declare"
  | .scope => "Scope"
  | .typeCheck => "TypeCheck"
  | .attributes => "Attributes"
  | .lint => "Lint"

/-- What the pass does, as progress messages call it. -/
def title : Pass -> String
  | .declare => "Forward declaration"
  | .scope => "Scope resolution"
  | .typeCheck => "Type checking"
  | .attributes => "Attribute checking"
  | .lint => "Control-flow analysis"

/-- The pass called `name`. -/
def ofText? (name : String) : Option Pass :=
  all.find? (·.text = name)

/-- The pass at a place of the running order, counted from zero. -/
def ofIndex? (index : Int) : Option Pass :=
  if index < 0 then none else all[index.toNat]?

/-- The passes that must have completed before this one. -/
def prerequisites : Pass -> List Pass
  | .declare => []
  | .scope => [.declare]
  | .typeCheck => [.scope]
  | .attributes => [.scope]
  | .lint => [.scope, .typeCheck, .attributes]

end Pass

/-- Why a pass cannot complete. -/
inductive PassError where
  | unknown (index : Int)
  | tooEarly (pass : Pass) (missing : List Pass)
  | repeated (pass : Pass)
deriving Repr, DecidableEq

/-- The wording of each cause. -/
def PassError.message : PassError -> String
  | .unknown index => "unknown pass " ++ toString index
  | .tooEarly pass missing =>
    "pass " ++ pass.text ++ " completed before [" ++ " ".intercalate (missing.map Pass.text) ++ "]"
  | .repeated pass => "pass " ++ pass.text ++ " already completed"

/-- The passes that have completed, the latest first. -/
structure Tracker where
  done : List Pass
deriving Repr, DecidableEq, Inhabited

namespace Tracker

/-- Nothing has completed. -/
def empty : Tracker := ⟨[]⟩

/-- Whether a pass has completed. -/
def isDone (tracker : Tracker) (pass : Pass) : Bool :=
  tracker.done.contains pass

/-- The prerequisites of a pass that have not completed, in order. -/
def missing (tracker : Tracker) (pass : Pass) : List Pass :=
  pass.prerequisites.filter (!tracker.isDone ·)

/-- Records that a pass has completed. -/
def complete (tracker : Tracker) (pass : Pass) : Except PassError Tracker :=
  match tracker.missing pass with
  | [] => if tracker.isDone pass then .error (.repeated pass) else .ok ⟨pass :: tracker.done⟩
  | missing => .error (.tooEarly pass missing)

/-- Records that the pass at a place of the running order has completed. -/
def completeAt (tracker : Tracker) (index : Int) : Except PassError Tracker :=
  match Pass.ofIndex? index with
  | some pass => tracker.complete pass
  | none => .error (.unknown index)

/-- The completed passes in running order. -/
def completed (tracker : Tracker) : List Pass :=
  Pass.all.filter tracker.isDone

/-- Whether every pass has completed. -/
def isComplete (tracker : Tracker) : Bool :=
  Pass.all.all tracker.isDone

end Tracker
end UnitCheck
