import UnitCheck.Run

/-!
# The command line

The arguments of the command line are flags followed by files. A flag starts
with one or two dashes; a flag with a value takes it behind an equals sign or
from the next argument.
-/

namespace UnitCheck.CommandLine

/-- What the command line asks for. -/
inductive Command where
  | version
  | help
  | run (request : Run.Request)
  | invalid (complaint : String)

/-- The flags read so far. -/
structure Flags where
  debug : Bool
  version : Bool
  summary : Bool
  settings : String
  code : String
deriving Repr, DecidableEq, Inhabited

/-- No flags. -/
def Flags.none : Flags := ⟨false, false, false, "", ""⟩

/-- The name of a flag and its value, if an argument is a flag. -/
def flag? (argument : String) : Option (String × Option String) :=
  let body := match argument.toList with
    | '-' :: '-' :: rest => rest
    | '-' :: rest => rest
    | _ => []
  if body.isEmpty then none
  else
    let name := String.ofList (body.takeWhile (· ≠ '='))
    match body.dropWhile (· ≠ '=') with
    | [] => some (name, none)
    | _ :: value => some (name, some (String.ofList value))

/-- What a flag that is switched on or off says. -/
def switch? (value : Option String) : Option Bool :=
  match value with
  | none => some true
  | some text =>
    if ["1", "t", "T", "true", "TRUE", "True"].contains text then some true
    else if ["0", "f", "F", "false", "FALSE", "False"].contains text then some false
    else none

/-- The flags after switching one on or off. -/
def setSwitch? (flags : Flags) (name : String) (value : Bool) : Option Flags :=
  match name with
  | "d" | "debug" => some { flags with debug := value }
  | "v" | "version" => some { flags with version := value }
  | "summary" => some { flags with summary := value }
  | _ => none

/-- The flags after giving one a text. -/
def setText? (flags : Flags) (name value : String) : Option Flags :=
  match name with
  | "config" => some { flags with settings := value }
  | "e" => some { flags with code := value }
  | _ => none

/-- What the flags and the files behind them ask for. -/
def conclude (flags : Flags) (files : List String) : Command :=
  if flags.version then .version
  else if files.isEmpty && flags.code.isEmpty then .help
  else .run ⟨files, flags.code, flags.settings, flags.debug, flags.summary⟩

/-- Reads a flag that is switched on or off. -/
def readSwitch (flags : Flags) (name : String) (value : Option String) :
    Except String Flags :=
  match setSwitch? flags name true, switch? value with
  | none, _ => .error ("flag provided but not defined: -" ++ name)
  | some _, none =>
    .error ("invalid boolean value " ++ Text.quoted (value.getD "") ++ " for -" ++ name ++
      ": parse error")
  | some on, some state => .ok ((setSwitch? flags name state).getD on)

/-- Reads the arguments. -/
def parseFrom (flags : Flags) : List String -> Command
  | [] => conclude flags []
  | argument :: rest =>
    if argument = "--" then conclude flags rest
    else match flag? argument with
      | none => conclude flags (argument :: rest)
      | some (name, value) =>
        match setText? flags name "", value, rest with
        | some _, some text, rest => parseFrom ((setText? flags name text).getD flags) rest
        | some _, none, text :: rest => parseFrom ((setText? flags name text).getD flags) rest
        | some _, none, [] => .invalid ("flag needs an argument: -" ++ name)
        | none, value, rest =>
          match readSwitch flags name value with
          | .ok flags => parseFrom flags rest
          | .error complaint => .invalid complaint

/-- Reads the command line. -/
def parse (arguments : List String) : Command :=
  parseFrom .none arguments

/-- The version line. -/
def versionLine : String := "thrushc semantic checker version 0.1.0\n"

/-- How the program is called. -/
def usage : String :=
  "Usage: thrushc [options] <file>...\n\nOptions:\n" ++
  "  -config string\n    \tPath to thrush.yaml (default: next to the first file)\n" ++
  "  -d\tEnable debug output\n  -debug\n    \tEnable debug output\n" ++
  "  -e string\n    \tCheck an s-expression module given on the command line\n" ++
  "  -summary\n    \tPrint one line per checked file\n" ++
  "  -v\tShow version\n  -version\n    \tShow version\n"

/-- The path of a file next to another. -/
def sibling (path name : String) : String :=
  String.ofList (path.toList.reverse.dropWhile (· ≠ '/')).reverse ++ name

/-- Where the settings of a request are: the path, and whether the file must exist. -/
def settingsPath (request : Run.Request) : String × Bool :=
  if !request.settings.isEmpty then (request.settings, true)
  else match request.files with
    | [] => (Run.settingsName, false)
    | first :: _ => (sibling first Run.settingsName, false)

/-- The options of a run from what was found at the settings path. -/
def optionsFrom (request : Run.Request) (content : Except FileError String) :
    Except Run.SettingsError Options :=
  let (path, required) := settingsPath request
  let options := match content with
    | .error ⟨_, .notFound⟩ =>
      if required then Run.optionsOf path content else .ok .standard
    | content => Run.optionsOf path content
  options.map fun options => if request.debug then { options with debug := true } else options

/-- The report of a request from the contents of its files. -/
def report (request : Run.Request) (settings : Except FileError String)
    (contents : List (Except FileError String)) (isTerminal : Bool) : Run.Report :=
  match optionsFrom request settings with
  | .error error => Run.refused error
  | .ok options =>
    let inputs : List Run.Input :=
      request.files.zipWith (fun file content => ⟨file, content⟩) contents ++
        if request.code.isEmpty then [] else [⟨Run.codeName, .ok request.code⟩]
    Run.check options inputs ⟨[]⟩ request.summary isTerminal

end UnitCheck.CommandLine
