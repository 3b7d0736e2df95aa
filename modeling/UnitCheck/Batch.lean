import UnitCheck.Verdict

/-!
# Batches

A batch checks several units, each in a session of its own. It stops at the
first unit that is missing, and a batch that is canceled before it starts checks
nothing. The summary has one line for each unit that was checked.
-/

namespace UnitCheck

/-- Why a batch stops. -/
inductive BatchError where
  /-- There is no unit at that place, counted from zero. -/
  | missing (index : Nat)
  | canceled
deriving Repr, DecidableEq

/-- The wording of each cause. -/
def BatchError.message : BatchError -> String
  | .missing index => "checking modules: module " ++ toString index ++ " is nil"
  | .canceled => "checking modules: context canceled"

/-- The outcome of a batch: the session of each unit that was checked, in the order of
the units, and why the batch stopped, if it did. -/
structure Batch where
  sessions : List (Option Session)
  error : Option BatchError

namespace Batch

/-- Checks units until one is missing; `index` is the place of the first of them. -/
def checkFrom (options : Options) (index : Nat) : List (Option Module) -> Batch
  | [] => ⟨[], none⟩
  | none :: rest => ⟨none :: rest.map fun _ => none, some (.missing index)⟩
  | some unit :: rest =>
    let later := checkFrom options (index + 1) rest
    ⟨some (Session.check (some unit) options) :: later.sessions, later.error⟩

/-- Checks all units. A canceled batch fails as soon as there is anything to check. -/
def check (options : Options) (units : List (Option Module)) (canceled : Bool) : Batch :=
  if canceled then
    ⟨units.map fun _ => none, if units.isEmpty then none else some .canceled⟩
  else checkFrom options 0 units

/-- The progress messages of all units. -/
def trace (batch : Batch) : String :=
  String.join (batch.sessions.filterMap (·.map Session.trace))

/-- The line of a unit in the summary. -/
def summaryLine (session : Session) : String :=
  (if session.canGenerate then Style.green.paint (" ✓ " ++ session.file)
    else Style.red.paint (" ✗ " ++ session.file)) ++
    " (" ++ toString session.bag.failures ++ " error(s), " ++
    toString (session.bag.count .warning) ++ " warning(s))\n"

/-- The number of units from which no code may be generated. -/
def failed (batch : Batch) : Nat :=
  (batch.sessions.filter (·.any (!·.canGenerate))).length

/-- The line around the title of the summary. -/
def rule : String := String.ofList (List.replicate 39 '═')

/-- The summary: one line for each unit that was checked, and the totals. -/
def summary (batch : Batch) : String :=
  "\n" ++ Style.cyan.paintLine rule ++ Style.cyan.paintLine "          CHECK SUMMARY" ++
    Style.cyan.paintLine rule ++
    String.join (batch.sessions.filterMap (·.map summaryLine)) ++
    "\nUnits: " ++ toString batch.sessions.length ++ ", failed: " ++ toString batch.failed ++ "\n"

end Batch
end UnitCheck
