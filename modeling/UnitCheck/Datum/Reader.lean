import UnitCheck.Datum.Basic
import UnitCheck.Numeral.Spelling
import UnitCheck.Source.Span
import UnitCheck.Text.Lines

/-!
# Reading data

The reader moves over a text one character at a time. Its mode says what the
characters read so far are part of; a character may complete a token, and the
end of the text completes the last one. White space and commas separate tokens
and a semicolon opens a comment that ends with its line.

Tokens are put together from left to right with a stack of the lists still
open. Reading fails at the first token that cannot stand where it is, and at
the end of the text when a list is still open.
-/

namespace UnitCheck

/-! ### Tokens -/

/-- The kinds of tokens. An unterminated string is a token of its own and can
only be the last one. -/
inductive Lexeme where
  | symbol (text : String)
  | number (text : String)
  | string (text : String)
  | openList
  | closeList
  | unterminated
deriving Repr, DecidableEq

/-- A token with the span it was read from. -/
structure Token where
  lexeme : Lexeme
  span : Span
deriving Repr, DecidableEq

namespace Token

/-- What the characters read so far are part of. Texts being read are kept with
their last character first. -/
inductive Mode where
  | gap
  | comment
  | atom (start : Position) (read : List Char)
  | string (start : Position) (read : List Char)
  | escape (start : Position) (read : List Char)
deriving Repr, DecidableEq

/-- Characters that separate tokens. -/
def isSeparator (c : Char) : Bool :=
  Text.isBlank c || c = ','

/-- Characters that end an atom. -/
def endsAtom (c : Char) : Bool :=
  isSeparator c || c = '(' || c = ')' || c = '"' || c = ';'

/-- The character that a backslash and `c` stand for. -/
def unescape (c : Char) : Char :=
  if c = 'n' then '\n' else if c = 't' then '\t' else if c = '0' then '\x00' else c

/-- The token of an atom's characters: a number when it starts like one. -/
def ofAtom (text : List Char) (span : Span) : Token :=
  if Numeral.startsNumber text then ⟨.number (String.ofList text), span⟩
  else ⟨.symbol (String.ofList text), span⟩

/-- What a character does between tokens: the tokens it completes by itself and
the mode behind it. -/
def openWith (point : Position) (c : Char) : List Token × Mode :=
  if isSeparator c then ([], .gap)
  else if c = ';' then ([], .comment)
  else if c = '(' then ([⟨.openList, ⟨point, point.step c⟩⟩], .gap)
  else if c = ')' then ([⟨.closeList, ⟨point, point.step c⟩⟩], .gap)
  else if c = '"' then ([], .string point [])
  else ([], .atom point [c])

/-- What the character `c` at `point` does in a mode: the tokens it completes and
the mode behind it. -/
def next (mode : Mode) (point : Position) (c : Char) : List Token × Mode :=
  match mode with
  | .gap => openWith point c
  | .comment => if c = '\n' then ([], .gap) else ([], .comment)
  | .atom start read =>
    if endsAtom c then
      let (tokens, mode) := openWith point c
      (ofAtom read.reverse ⟨start, point⟩ :: tokens, mode)
    else ([], .atom start (c :: read))
  | .string start read =>
    if c = '"' then
      ([⟨.string (String.ofList read.reverse), ⟨start, point.step c⟩⟩], .gap)
    else if c = '\\' then ([], .escape start read)
    else ([], .string start (c :: read))
  | .escape start read => ([], .string start (unescape c :: read))

/-- The tokens that the end of the text at `point` completes. -/
def finish (mode : Mode) (point : Position) : List Token :=
  match mode with
  | .gap | .comment => []
  | .atom start read => [ofAtom read.reverse ⟨start, point⟩]
  | .string start _ | .escape start _ => [⟨.unterminated, ⟨start, point⟩⟩]

/-- The tokens of the rest of a text, read from a mode and a point. -/
def scan (mode : Mode) (point : Position) : List Char -> List Token
  | [] => finish mode point
  | c :: rest => (next mode point c).1 ++ scan (next mode point c).2 (point.step c) rest

/-- The tokens of a text. -/
def ofText (text : String) : List Token :=
  scan .gap .start text.toList

end Token

/-! ### Data -/

/-- Why a text is not a sequence of data, with the point to blame. -/
inductive ReadError where
  | unexpectedClose (point : Position)
  | unterminatedString (point : Position)
  | unterminatedList (point : Position)
deriving Repr, DecidableEq

namespace ReadError

/-- The point to blame. -/
def point : ReadError -> Position
  | .unexpectedClose point | .unterminatedString point | .unterminatedList point => point

/-- What is wrong at that point. -/
def complaint : ReadError -> String
  | .unexpectedClose _ => "unexpected ')'"
  | .unterminatedString _ => "unterminated string"
  | .unterminatedList _ => "unterminated list"

/-- The error as it is written out. -/
def message (error : ReadError) : String :=
  error.point.renderShort ++ ": " ++ error.complaint

end ReadError

namespace Datum

/-- A list still open: where it starts and its items so far, the last one first. -/
structure OpenList where
  start : Position
  read : List Datum

/-- The lists still open, the innermost first, and the data read outside of all
lists, the last one first. -/
structure Stack where
  lists : List OpenList
  read : List Datum

namespace Stack

/-- Nothing read yet. -/
def empty : Stack := ⟨[], []⟩

/-- Adds a complete datum to the innermost open list. -/
def push (stack : Stack) (datum : Datum) : Stack :=
  match stack.lists with
  | [] => { stack with read := datum :: stack.read }
  | inner :: outer => { stack with lists := { inner with read := datum :: inner.read } :: outer }

/-- What one token does to the stack. -/
def add (stack : Stack) (token : Token) : Except ReadError Stack :=
  match token.lexeme with
  | .symbol text => .ok (stack.push (.symbol text token.span))
  | .number text => .ok (stack.push (.number text token.span))
  | .string text => .ok (stack.push (.string text token.span))
  | .openList => .ok { stack with lists := ⟨token.span.start, []⟩ :: stack.lists }
  | .closeList =>
    match stack.lists with
    | [] => .error (.unexpectedClose token.span.start)
    | inner :: outer =>
      .ok (push { stack with lists := outer }
        (.list inner.read.reverse ⟨inner.start, token.span.stop⟩))
  | .unterminated => .error (.unterminatedString token.span.start)

/-- The data read, provided no list is left open. -/
def close (stack : Stack) : Except ReadError (List Datum) :=
  match stack.lists with
  | [] => .ok stack.read.reverse
  | inner :: _ => .error (.unterminatedList inner.start)

/-- Adds the tokens in turn and closes the stack. -/
def assemble (stack : Stack) : List Token -> Except ReadError (List Datum)
  | [] => stack.close
  | token :: rest =>
    match stack.add token with
    | .ok stack => assemble stack rest
    | .error error => .error error

end Stack

/-- The data a text consists of. -/
def readAll (text : String) : Except ReadError (List Datum) :=
  Stack.empty.assemble (Token.ofText text)

/-- A text given by its characters is read from them, without going through its bytes. -/
theorem readAll_chars {chars : List Char} {outcome : Except ReadError (List Datum)}
    (read : Stack.empty.assemble (Token.scan .gap .start chars) = outcome) :
    readAll (String.ofList chars) = outcome := by
  rwa [readAll, Token.ofText, String.toList_ofList]

end Datum
end UnitCheck
