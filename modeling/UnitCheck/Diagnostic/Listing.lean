import UnitCheck.Diagnostic.Basic
import UnitCheck.Numeral.Integer
import UnitCheck.Text.Lines
import UnitCheck.Text.Style
import UnitCheck.Workspace

/-!
# Listings

A listing shows diagnostics to a reader: a headline, the labelled source lines
with the labelled parts underlined, notes and help. Listings are styled; without
colors every control sequence is dropped, also those that stood in a source
line.
-/

namespace UnitCheck

/-- Where the texts of files are found: among those handed over, the latest first, and
else in the workspace. -/
structure Sources where
  texts : List (String × String)
  workspace : Workspace

namespace Sources

/-- The text of a file. -/
def text? (sources : Sources) (file : String) : Option String :=
  sources.texts.lookup file <|> (sources.workspace.read file).toOption

/-- A line of a file, counted from one. -/
def line? (sources : Sources) (file : String) (line : Int) : Option (List Char) :=
  if line < 1 then none
  else (sources.text? file).bind fun text => (Text.lines text)[(line - 1).toNat]?

end Sources

namespace Listing

/-- A row of spaces. -/
def spaces (count : Nat) : String := String.ofList (List.replicate count ' ')

/-- The number of bytes of a text. -/
def byteLength (text : List Char) : Nat :=
  text.foldl (fun length c => length + c.utf8Size) 0

/-- A row of marks of this length: at least one mark, and a single one in place of a row
whose length is past the signed 64-bit words. -/
def markRow (length : Int) : Nat :=
  if length < Numeral.power 2 63 then max 1 length.toNat else 1

/-- The number of marks under a label: the columns of a part on one line; otherwise
the bytes of its first line behind its start. There is at least one mark. -/
def markCount (start stop : Point) (line : List Char) : Nat :=
  if stop.line = start.line && start.column < stop.column then
    markRow (stop.column - start.column)
  else if start.line < stop.line then markRow (byteLength line - start.column + 1)
  else 1

/-- The style of the marks under a label. -/
def markStyle (severity : Severity) : LabelStyle -> Style
  | .secondary => .blue
  | .primary =>
    match severity with
    | .warning => .yellow
    | .bug => .purple
    | .error | .other => .red

/-- The character that marks are made of. -/
def markChar : LabelStyle -> Char
  | .primary => '^'
  | .secondary => '-'

/-- The source line of a label with the labelled part underlined. -/
def underlined (severity : Severity) (label : Label) (start stop : Point)
    (line : List Char) : String :=
  let margin := spaces (toString start.line).length
  let marks := String.ofList (List.replicate (markCount start stop line) (markChar label.style))
  margin ++ Style.grey.paintLine " |" ++
    Style.grey.paint (toString start.line ++ " | ") ++ String.ofList line ++ "\n" ++
    margin ++ Style.grey.paint " | " ++ spaces (start.column - 1).toNat ++
    (markStyle severity label.style).paint (marks ++ " " ++ label.message) ++ "\n"

/-- A label. Without a place only its message is shown, and without the source line
only the place and the message. -/
def label (sources : Sources) (severity : Severity) (label : Label) : String :=
  match label.location.bind (·.start) with
  | none => if label.message.isEmpty then "" else "  " ++ label.message ++ "\n"
  | some start =>
    let stop := (label.location.bind (·.stop)).getD start
    let file := Location.fileName label.location
    let margin := spaces (toString start.line).length
    Style.blue.paint (margin ++ "--> " ++ file ++ ":" ++ start.renderShort ++ "\n") ++
      match sources.line? file start.line with
      | none => margin ++ Style.grey.paint " = " ++ label.message ++ "\n"
      | some line => underlined severity label start stop line

/-- The severity as a headline shows it. -/
def severity (severity : Severity) : String :=
  match severity with
  | .error => Style.boldRed.paint severity.text
  | .warning => Style.boldYellow.paint severity.text
  | .bug => Style.boldPurple.paint severity.text
  | .other => severity.text ++ Style.reset.sequence

/-- The headline of a diagnostic. -/
def headline (diagnostic : Diagnostic) : String :=
  severity diagnostic.severity ++
    (if diagnostic.code.isEmpty then "" else "[" ++ diagnostic.code ++ "]") ++ ": " ++
    Style.bold.paintLine diagnostic.message

/-- A line behind the labels, unless it has no text. -/
def remark (style : Style) (title text : String) : String :=
  if text.isEmpty then "" else style.paint ("  = " ++ title ++ ": ") ++ text ++ "\n"

/-- A note; unlike the other remarks it is shown even without a text. -/
def note (text : String) : String :=
  Style.blue.paint "  = note: " ++ text ++ "\n"

/-- A diagnostic. -/
def diagnostic (sources : Sources) (diagnostic : Diagnostic) : String :=
  headline diagnostic ++
    String.join (diagnostic.labels.map (label sources diagnostic.severity)) ++
    String.join (diagnostic.notes.map note) ++
    remark .green "help" diagnostic.help ++
    remark .purple "raised at" diagnostic.origin ++ "\n"

/-- The line that closes the listing of a file. -/
def totals (bag : Bag) : String :=
  let failed := bag.failures
  let warned := bag.count .warning
  if 0 < failed then
    Style.red.paint ("\nCompilation failed with " ++ toString failed ++ " error(s)") ++
      (if 0 < warned then Style.red.paint (" and " ++ toString warned ++ " warning(s)") else "") ++
      "\n"
  else if 0 < warned then
    Style.orange.paint ("\nCompilation succeeded with " ++ toString warned ++ " warning(s)\n")
  else ""

/-- A piece of a listing with or without its styles. -/
def finish (colored : Bool) (text : String) : String :=
  if colored then text else Text.stripStyles text

end Listing

/-- The listing of the diagnostics of a file. -/
def Bag.listing (bag : Bag) (sources : Sources) (colored : Bool) : String :=
  String.join (bag.diagnostics.map fun diagnostic =>
    Listing.finish colored (Listing.diagnostic sources diagnostic)) ++
    Listing.finish colored (Listing.totals bag)

end UnitCheck
