import UnitCheck.Source.Span

/-!
# Diagnostics

A diagnostic is a message with a severity, a code and labelled places. Its
primary label, when it has one, is the first label.
-/

namespace UnitCheck

/-- How bad a diagnostic is. -/
inductive Severity where
  | error
  | warning
  /-- A broken assumption of the checks themselves. -/
  | bug
  /-- None of the others. -/
  | other
deriving Repr, DecidableEq, Inhabited

namespace Severity

/-- The severity in words. -/
def text : Severity -> String
  | .error => "error"
  | .warning => "warning"
  | .bug => "bug"
  | .other => "unknown"

/-- Whether a diagnostic of this severity fails the unit. -/
def isFatal : Severity -> Bool
  | .error | .bug => true
  | .warning | .other => false

end Severity

/-- Whether a label marks the place itself or something that explains it. -/
inductive LabelStyle where
  | primary | secondary
deriving Repr, DecidableEq, Inhabited

/-- The style's name. -/
def LabelStyle.text : LabelStyle -> String
  | .primary => "primary"
  | .secondary => "secondary"

/-- A labelled place. -/
structure Label where
  location : Option Location
  message : String
  style : LabelStyle
deriving Repr, DecidableEq, Inhabited

/-- A diagnostic. Empty texts stand for what was not given. -/
structure Diagnostic where
  severity : Severity
  message : String
  code : String
  labels : List Label
  notes : List String
  help : String
  /-- What raised a bug. -/
  origin : String
deriving Repr, DecidableEq, Inhabited

namespace Diagnostic

/-- The code of a bug that has no code of its own. -/
def internalCode : String := "B0001"

/-- A diagnostic that only has a severity and a message. A bug starts with the code
of internal bugs. -/
def plain (severity : Severity) (message : String) : Diagnostic :=
  ⟨severity, message, if severity = .bug then internalCode else "", [], [], "", ""⟩

/-- Sets the code. -/
def withCode (diagnostic : Diagnostic) (code : String) : Diagnostic :=
  { diagnostic with code := code }

/-- The primary label. -/
def primary? (diagnostic : Diagnostic) : Option Label :=
  diagnostic.labels.find? (·.style = .primary)

/-- Adds the primary label in front of all labels; a second one has no effect. -/
def withPrimary (diagnostic : Diagnostic) (location : Option Location) (message : String) :
    Diagnostic :=
  match diagnostic.primary? with
  | some _ => diagnostic
  | none => { diagnostic with labels := ⟨location, message, .primary⟩ :: diagnostic.labels }

/-- Adds a secondary label behind all labels; there must be a label already. -/
def withSecondary? (diagnostic : Diagnostic) (location : Option Location) (message : String) :
    Option Diagnostic :=
  if diagnostic.labels.isEmpty then none
  else some { diagnostic with
    labels := diagnostic.labels ++ [⟨location, message, .secondary⟩] }

/-- Why `withSecondary?` refuses a diagnostic without labels. -/
def secondaryComplaint : String :=
  "Cannot add secondary label without primary label. Call WithPrimaryLabel first."

/-- Adds a note. -/
def withNote (diagnostic : Diagnostic) (note : String) : Diagnostic :=
  { diagnostic with notes := diagnostic.notes ++ [note] }

/-- Sets the help. -/
def withHelp (diagnostic : Diagnostic) (help : String) : Diagnostic :=
  { diagnostic with help := help }

/-- The place of the primary label. -/
def location? (diagnostic : Diagnostic) : Option Location :=
  diagnostic.primary?.bind (·.location)

/-- The message of the primary label. -/
def detail (diagnostic : Diagnostic) : String :=
  match diagnostic.primary? with
  | some label => label.message
  | none => ""

/-- Whether the diagnostic fails the unit. -/
def isFatal (diagnostic : Diagnostic) : Bool := diagnostic.severity.isFatal

/-- The diagnostic on one line. -/
def render (diagnostic : Diagnostic) : String :=
  diagnostic.severity.text ++
    (if diagnostic.code.isEmpty then "" else "[" ++ diagnostic.code ++ "]") ++ ": " ++
    diagnostic.message ++ " at " ++ Location.render diagnostic.location?

end Diagnostic

/-- The diagnostics of a file in the order they were found. -/
structure Bag where
  file : String
  diagnostics : List Diagnostic
deriving Repr, DecidableEq, Inhabited

namespace Bag

/-- The number of diagnostics of a severity. -/
def count (bag : Bag) (severity : Severity) : Nat :=
  (bag.diagnostics.filter (·.severity = severity)).length

/-- Whether a diagnostic fails the unit. -/
def hasErrors (bag : Bag) : Bool :=
  bag.diagnostics.any (·.isFatal)

/-- The number of errors and bugs. -/
def failures (bag : Bag) : Nat := bag.count .error + bag.count .bug

/-- The codes in order. -/
def codes (bag : Bag) : List String := bag.diagnostics.map (·.code)

end Bag
end UnitCheck
