import UnitCheck.CommandLine

/-!
# The program

Reads the files that the command line names, checks them and writes the report.
-/

namespace UnitCheck.CommandLine

/-- Reads a file. -/
def readFile (path : String) : IO (Except FileError String) := do
  try
    return .ok (<- IO.FS.readFile path)
  catch error =>
    match error with
    | .noFileOrDirectory _ _ _ => return .error ⟨path, .notFound⟩
    | .inappropriateType _ _ _ => return .error ⟨path, .isDirectory⟩
    | _ => return .error ⟨path, .notDirectory⟩

/-- Whether a stream shows colors. -/
def showsColors (stream : IO.FS.Stream) : IO Bool := do
  if (<- IO.getEnv "NO_COLOR").isSome then return false
  stream.isTty

/-- Carries out a command; the result is the exit status. -/
def perform (command : Command) : IO UInt32 := do
  let out <- IO.getStdout
  let err <- IO.getStderr
  match command with
  | .version =>
    out.putStr versionLine
    return 0
  | .help =>
    err.putStr usage
    return 1
  | .invalid complaint =>
    err.putStr (complaint ++ "\n" ++ usage)
    return 2
  | .run request =>
    let settings <- readFile (settingsPath request).1
    let contents <- request.files.mapM readFile
    let report := report request settings contents (<- showsColors err)
    out.putStr report.trace
    err.putStr report.output
    return if report.success then 0 else 1

end UnitCheck.CommandLine

/-- Runs the program. -/
def main (arguments : List String) : IO UInt32 :=
  UnitCheck.CommandLine.perform (UnitCheck.CommandLine.parse arguments)
