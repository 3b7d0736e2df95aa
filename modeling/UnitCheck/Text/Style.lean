/-!
# Terminal styles

A `Style` is printed as a control sequence: an escape character, an opening
bracket, parameters and a final letter. Styled text is the sequence, the text
and the sequence that resets the terminal. `stripStyles` drops every control
sequence from a text.
-/

namespace UnitCheck

/-- The terminal styles used in output. -/
inductive Style where
  | reset | red | green | yellow | blue | purple | cyan | white | grey | orange
  | bold | boldRed | boldGreen | boldYellow | boldBlue | boldPurple | boldCyan
deriving Repr, DecidableEq, Inhabited

namespace Style

/-- The parameters between the opening bracket and the final letter. -/
def parameters : Style -> String
  | .reset => "0"
  | .red => "31"
  | .green => "32"
  | .yellow => "33"
  | .blue => "34"
  | .purple => "35"
  | .cyan => "36"
  | .white => "37"
  | .grey => "90"
  | .orange => "38;5;208"
  | .bold => "1"
  | .boldRed => "1;31"
  | .boldGreen => "1;32"
  | .boldYellow => "1;33"
  | .boldBlue => "1;34"
  | .boldPurple => "1;35"
  | .boldCyan => "1;36"

/-- The control sequence that selects the style. -/
def sequence (style : Style) : String :=
  "\x1b[" ++ style.parameters ++ "m"

/-- The text in this style, with a reset behind it. -/
def paint (style : Style) (text : String) : String :=
  style.sequence ++ text ++ Style.reset.sequence

/-- A painted line; the line feed stays outside so that the line's end is plain. -/
def paintLine (style : Style) (text : String) : String :=
  style.paint text ++ "\n"

end Style

namespace Text

/-- The character that starts a control sequence. -/
def escapeChar : Char := '\x1b'

/-- A control sequence ends at the first letter. -/
def isFinalLetter (c : Char) : Bool :=
  ('A' ≤ c && c ≤ 'Z') || ('a' ≤ c && c ≤ 'z')

/-- What a character can be part of while control sequences are dropped. -/
inductive StripState where
  | plain
  | escape
  | sequence
deriving Repr, DecidableEq

/-- Drops control sequences. An escape character is held back until the next
character shows whether it opens a sequence; an unfinished sequence is dropped. -/
def stripFrom : StripState -> List Char -> List Char
  | .plain, [] => []
  | .escape, [] => [escapeChar]
  | .sequence, [] => []
  | .plain, c :: rest =>
    if c = escapeChar then stripFrom .escape rest else c :: stripFrom .plain rest
  | .escape, c :: rest =>
    if c = '[' then stripFrom .sequence rest
    else if c = escapeChar then escapeChar :: stripFrom .escape rest
    else escapeChar :: c :: stripFrom .plain rest
  | .sequence, c :: rest =>
    if isFinalLetter c then stripFrom .plain rest else stripFrom .sequence rest

/-- The text without control sequences. -/
def stripStyles (text : String) : String :=
  String.ofList (stripFrom .plain text.toList)

end Text
end UnitCheck
