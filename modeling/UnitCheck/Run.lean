import UnitCheck.Batch
import UnitCheck.Diagnostic.Listing
import UnitCheck.Options.Reader
import UnitCheck.Tree.Decode

/-!
# Runs

A run checks the units in some files. It reads the settings, decodes every file,
checks the units that could be decoded and lists what was found. A file that
cannot be read or decoded is reported and fails the run, but not the units of
other files.
-/

namespace UnitCheck.Run

/-- What a run is asked to do. -/
structure Request where
  /-- The files, one unit each. -/
  files : List String
  /-- A unit given directly; an empty text is none. -/
  code : String
  /-- The settings file; without one it is looked for next to the first file. -/
  settings : String
  debug : Bool
  summary : Bool

/-- The file name of a unit given directly. -/
def codeName : String := "<input>"

/-- The name of a settings file. -/
def settingsName : String := "thrush.yaml"

/-- Why there are no options. -/
inductive SettingsError where
  | unreadable (path : String) (error : FileError)
  | refused (path : String) (fault : Options.FileFault)

/-- The wording of each cause. -/
def SettingsError.message : SettingsError -> String
  | .unreadable path error => "reading config " ++ path ++ ": " ++ error.message
  | .refused path fault => fault.message path

/-- The options in the content of a settings file. -/
def optionsOf (path : String) : Except FileError String -> Except SettingsError Options
  | .error error => .error (.unreadable path error)
  | .ok text =>
    match Options.read text with
    | .ok options => .ok options
    | .error fault => .error (.refused path fault)

/-- Where the settings file is looked for when none is named: next to the first file. A
file outside the workspace has none. -/
def nearbySettings? (request : Request) : Option String :=
  match request.files with
  | [] => some settingsName
  | first :: _ =>
    match Path.clean? first with
    | none | some [] => none
    | some names => some (Path.render (names.dropLast ++ [settingsName]))

/-- The options of a run. Without a settings file they are the standard ones. -/
def options (workspace : Workspace) (request : Request) : Except SettingsError Options :=
  if !request.settings.isEmpty then
    optionsOf request.settings (workspace.read request.settings)
  else match nearbySettings? request with
    | none => .ok .standard
    | some path =>
      match workspace.read path with
      | .error ⟨_, .notFound⟩ => .ok .standard
      | content => optionsOf path content

/-- A file with its content, if it could be read. -/
structure Input where
  file : String
  content : Except FileError String

/-- The inputs of a run, in order. -/
def inputs (workspace : Workspace) (request : Request) : List Input :=
  (request.files.map fun file => ⟨file, workspace.read file⟩) ++
    if request.code.isEmpty then [] else [⟨codeName, .ok request.code⟩]

/-- Why there is no unit in an input. -/
inductive InputError where
  | unreadable (error : FileError)
  | undecodable (file : String) (error : DecodeError)

/-- The wording of each cause. -/
def InputError.message : InputError -> String
  | .unreadable error => error.message
  | .undecodable file error => error.message file

/-- The unit in an input. -/
def Input.unit (input : Input) : Except InputError Module :=
  match input.content with
  | .error error => .error (.unreadable error)
  | .ok text =>
    match Module.decode input.file text with
    | .ok unit => .ok unit
    | .error error => .error (.undecodable input.file error)

/-- The outcome of a run. -/
structure Report where
  success : Bool
  /-- The listing of everything that was found. -/
  output : String
  /-- The progress messages. -/
  trace : String
  /-- The sessions of the units that could be decoded. -/
  sessions : List Session
  /-- Why the other inputs have no unit. -/
  rejected : List InputError
  /-- Why there were no options. -/
  refusal : Option SettingsError

/-- An error as the output shows it. -/
def errorLine (message : String) : String :=
  Style.red.paint ("error: " ++ message ++ "\n")

/-- Whether the output is colored. -/
def isColored (options : Options) (isTerminal : Bool) : Bool :=
  options.color = "always" || (options.color ≠ "never" && isTerminal)

/-- Checks inputs under given options. -/
def check (options : Options) (inputs : List Input) (workspace : Workspace)
    (summary isTerminal : Bool) : Report :=
  let units := inputs.map Input.unit
  let decoded := units.filterMap Except.toOption
  let rejected := units.filterMap fun
    | .error error => some error
    | .ok _ => none
  let batch := Batch.check options (decoded.map some) false
  let sessions := batch.sessions.filterMap id
  -- only the text of a decoded unit is at hand for the listing
  let texts := (inputs.zip units).filterMap fun
    | (input, .ok _) => input.content.toOption.map fun text => (input.file, text)
    | (_, .error _) => none
  let colored := isColored options isTerminal
  let sources : Sources := ⟨texts.reverse, workspace⟩
  { success := rejected.isEmpty && sessions.all (·.canGenerate)
    output :=
      String.join (rejected.map fun error => errorLine error.message) ++
        String.join (sessions.map fun session => session.bag.listing sources colored) ++
        (if summary then batch.summary else "")
    trace := batch.trace
    sessions := sessions
    rejected := rejected
    refusal := none }

/-- A run without options fails before it reads any input. -/
def refused (error : SettingsError) : Report :=
  ⟨false, errorLine error.message, "", [], [], some error⟩

/-- Carries out a request in a workspace. -/
def perform (workspace : Workspace) (request : Request) (isTerminal : Bool) : Report :=
  match options workspace request with
  | .error error => refused error
  | .ok options =>
    let options := if request.debug then { options with debug := true } else options
    check options (inputs workspace request) workspace request.summary isTerminal

end UnitCheck.Run
