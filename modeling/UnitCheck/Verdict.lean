import UnitCheck.Attribute.Check
import UnitCheck.Declare.Signature
import UnitCheck.Lint.Unit
import UnitCheck.Resolve
import UnitCheck.Typing.Globals

/-!
# Verdicts

The five passes run over a unit in order, and each runs even when an earlier one
found errors. The verdict is that code may be generated from the unit, which
takes every pass completed and nothing fatal found.
-/

namespace UnitCheck

/-- The walk of a pass, together with its bookkeeping. -/
def Pass.run : Pass -> Check Unit
  | .declare => Declare.pass
  | .scope => Resolve.pass
  | .typeCheck => Typing.pass
  | .attributes => Attributes.pass
  | .lint => Lint.pass

namespace Check

/-- Runs the passes in order between progress messages; `number` is the number of the
first of them. -/
def runPasses (number : Nat) : List Pass -> Check Unit
  | [] => return
  | pass :: rest => do
    say .cyan ("\n[Phase " ++ toString number ++ "] " ++ pass.title ++ "\n")
    pass.run
    say .purple ("  ✓ " ++ (<- get).file ++ "\n")
    runPasses (number + 1) rest

/-- Closes a run with a progress message about its outcome. -/
def sayOutcome : Check Unit := do
  let session <- get
  let bag := session.bag
  if bag.hasErrors then
    say .red ("\n✗ " ++ session.file ++ ": " ++ toString bag.failures ++ " error(s)\n")
  else say .green ("\n✓ " ++ session.file ++ " checked\n")

end Check

namespace Session

/-- The session after one more pass. -/
def step (session : Session) (pass : Pass) : Session :=
  (pass.run.run session).2

/-- The session after all passes over a unit. -/
def check (unit : Option Module) (options : Options) : Session :=
  ((do Check.runPasses 1 Pass.all; Check.sayOutcome : Check Unit).run (start unit options)).2

/-- Whether code may be generated from the unit. -/
def canGenerate (session : Session) : Bool :=
  !session.bag.hasErrors && session.passes.isComplete

end Session
end UnitCheck
