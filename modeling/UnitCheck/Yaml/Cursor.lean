import UnitCheck.Yaml.Fault

/-!
# Reading characters of a settings file

A cursor stands between the characters of a text that are read and those that are
not. The text is loaded in blocks, one after the other, whenever a reader needs to
look at more characters than are loaded. A character that no text may hold is
noticed when its block is loaded.
-/

namespace UnitCheck.Yaml

/-- Whether a text may hold a character: not a control character except for tabs and
line breaks, and not one of the last two of the basic plane. -/
def isAllowed (c : Char) : Bool :=
  let n := c.toNat
  n = 0x09 || n = 0x0A || n = 0x0D || (0x20 ≤ n && n ≤ 0x7E) || n = 0x85 ||
    (0xA0 ≤ n && n ≤ 0xFFFD) || 0x10000 ≤ n

/-- A space or a tab. -/
def isBlank (c : Char) : Bool := c = ' ' || c = '\t'

/-- A character that ends a line: besides carriage return and line feed the three breaks
of Unicode. -/
def isBreak (c : Char) : Bool :=
  c = '\r' || c = '\n' || c = '\u0085' || c = '\u2028' || c = '\u2029'

/-- Whether a line ends in front of what comes next. -/
def endsLine (next : Option Char) : Bool := next.all isBreak

/-- Whether a word ends in front of what comes next. -/
def endsWord (next : Option Char) : Bool := next.all fun c => isBlank c || isBreak c

/-- A character of a name: an ASCII letter or digit, an underscore or a dash. -/
def isNameChar (c : Char) : Bool :=
  ('0' ≤ c && c ≤ '9') || ('A' ≤ c && c ≤ 'Z') || ('a' ≤ c && c ≤ 'z') || c = '_' || c = '-'

/-- The byte order mark. -/
def byteOrderMark : Char := '\uFEFF'

/-- The number of bytes in a block. -/
def blockSize : Nat := 512

/-- The numbers of characters in the blocks of a text, and whether a character that no text
may hold ends them. The current block takes whole characters as long as they fit; `used`
bytes of it are taken by `count` characters. The sizes of earlier blocks come with the
latest first. -/
def blocksOnto (used count : Nat) (sizes : List Nat) : List Char -> List Nat × Bool
  | [] => ((count :: sizes).reverse, false)
  | c :: rest =>
    let isFull := blockSize < used + c.utf8Size
    if !isAllowed c then ((if isFull then 0 :: count :: sizes else count :: sizes).reverse, true)
    else if isFull then blocksOnto c.utf8Size 1 (count :: sizes) rest
    else blocksOnto (used + c.utf8Size) (count + 1) sizes rest

/-- A place in a text. Characters, lines and columns are counted from zero. -/
structure Place where
  /-- The number of characters in front of it. -/
  index : Nat
  line : Nat
  column : Nat
deriving Repr, DecidableEq, Inhabited

/-- A cursor at a place in a text. -/
structure Cursor where
  /-- The characters that are not read, up to the first that no text may hold. -/
  rest : List Char
  /-- How many of them are loaded. Behind the end of the text ends are loaded, which count
  like characters. -/
  loaded : Nat
  /-- The numbers of characters in the blocks that are not loaded. -/
  blocks : List Nat
  /-- A character that no text may hold ends the last block. -/
  isCut : Bool
  /-- A fault that was met but did not end the reading. -/
  fault : Option SyntaxError
  /-- The cursor stood in front of a byte order mark when characters were last loaded. -/
  loadedAtMark : Bool
  place : Place
  /-- The number of line breaks that were read with nothing but blanks among and behind
  them. -/
  breaks : Nat
  /-- The number of characters in the text, which bounds all reading. -/
  size : Nat
deriving Repr, DecidableEq, Inhabited

namespace Cursor

/-- The place in front of a text. A byte order mark at the start of a text is no part of it
but takes room in the first block. -/
def start (text : String) : Cursor :=
  let (used, chars) := match text.toList with
    | c :: rest => if c = byteOrderMark then (c.utf8Size, rest) else (0, c :: rest)
    | [] => (0, [])
  let (blocks, isCut) := blocksOnto used 0 [] chars
  { rest := chars.takeWhile isAllowed
    loaded := 0
    blocks := blocks
    isCut := isCut
    fault := none
    loadedAtMark := false
    place := ⟨0, 0, 0⟩
    breaks := 0
    size := chars.length }

/-- The number of the line, counted from zero. -/
def line (cursor : Cursor) : Nat := cursor.place.line

/-- The number of characters in front of the cursor on its line. -/
def column (cursor : Cursor) : Nat := cursor.place.column

/-- The number of characters in front of the cursor. -/
def index (cursor : Cursor) : Nat := cursor.place.index

/-- Loads blocks until so many characters are loaded, or an end of the text behind the last
block. The result tells whether no character was met that no text may hold. -/
def loadBlocks (count : Nat) (cursor : Cursor) : List Nat -> Cursor × Bool
  | [] => ({ cursor with loaded := cursor.loaded + 1, blocks := [] }, true)
  | size :: rest =>
    let loaded := cursor.loaded + size
    if cursor.isCut && rest.isEmpty then ({ cursor with loaded := loaded, blocks := [0] }, false)
    else if count ≤ loaded then ({ cursor with loaded := loaded, blocks := rest }, true)
    else loadBlocks count { cursor with loaded := loaded } rest

/-- Makes sure that so many characters are loaded. -/
def load (count : Nat) (cursor : Cursor) : Cursor × Bool :=
  if count ≤ cursor.loaded then (cursor, true)
  else
    loadBlocks count
      { cursor with loadedAtMark := cursor.rest.head? = some byteOrderMark } cursor.blocks

/-- Past the next character, whatever it is, or past an end of the text. -/
def skip (cursor : Cursor) : Cursor :=
  { cursor with
    rest := cursor.rest.drop 1
    loaded := cursor.loaded - 1
    place := ⟨cursor.index + 1, cursor.line, cursor.column + 1⟩
    breaks := if cursor.rest.head?.any isBlank then cursor.breaks else 0 }

/-- Past a line break of so many characters, to the given rest. -/
def breakTo (cursor : Cursor) (width : Nat) (rest : List Char) : Cursor :=
  { cursor with
    rest := rest
    loaded := cursor.loaded - width
    place := ⟨cursor.index + width, cursor.line + 1, 0⟩
    breaks := cursor.breaks + 1 }

/-- Past the next line break, if there is one; a carriage return and a line feed together
are one. -/
def skipLine (cursor : Cursor) : Cursor :=
  match cursor.rest with
  | '\r' :: '\n' :: rest => cursor.breakTo 2 rest
  | c :: rest => if isBreak c then cursor.breakTo 1 rest else cursor
  | [] => cursor

/-- The line break that comes next as a scalar keeps it: a line feed, unless it is one of
the two breaks that are only Unicode's. -/
def lineBreak (cursor : Cursor) : List Char :=
  match cursor.rest with
  | c :: _ =>
    if c = '\u2028' || c = '\u2029' then [c] else if isBreak c then ['\n'] else []
  | [] => []

/-- Whether there is a line of three of these characters, alone or in front of a blank. -/
def isIndicator (mark : Char) (cursor : Cursor) : Bool :=
  cursor.column = 0 &&
    match cursor.rest with
    | a :: b :: c :: rest => a = mark && b = mark && c = mark && endsWord rest.head?
    | _ => false

/-- Whether a document starts or ends at the next characters. -/
def isDocumentIndicator (cursor : Cursor) : Bool :=
  cursor.isIndicator '-' || cursor.isIndicator '.'

end Cursor

/-- A reader moves a cursor. A fault leaves the cursor where it was met. -/
abbrev Reading := EStateM SyntaxError Cursor

namespace Reading

/-- A fault inside a token that starts on a line. -/
def fail {α : Type} (problem : Problem) (start : Nat) : Reading α := do
  throw (.inToken problem start (<- get).line)

/-- Makes sure that so many characters, or the end of the text, can be looked at. -/
def need (count : Nat) : Reading Unit := do
  let (cursor, isLoaded) := (<- get).load count
  set cursor
  if !isLoaded then throw (.forbidden cursor.fault)

/-- Whether so many characters can be looked at in search of a comment. If not, there is a
fault, but reading may go on and meet another first. -/
def reaches (count : Nat) : Reading Bool := do
  let (cursor, isLoaded) := (<- get).load count
  set (if isLoaded then cursor else { cursor with fault := some (.forbidden cursor.fault) })
  return isLoaded

/-- The character behind so many others. -/
def look (offset : Nat) : Reading (Option Char) := do
  return (<- get).rest[offset]?

/-- Whether the next character satisfies a test; at the end of the text none does. -/
def next (test : Char -> Bool) : Reading Bool := do
  return (<- get).rest.head?.any test

/-- Reads a character that is no line break. -/
def skip : Reading Unit := modify Cursor.skip

/-- Reads so many characters that are no line breaks. -/
def skipChars : Nat -> Reading Unit
  | 0 => return ()
  | count + 1 => do
    skip
    skipChars count

/-- Reads so many characters that are no line breaks, and looks at `ahead` characters
behind each of them. -/
def skipRun (ahead : Nat) : Nat -> Reading Unit
  | 0 => return ()
  | count + 1 => do
    skip
    need ahead
    skipRun ahead count

/-- Reads a line break. -/
def skipLine : Reading Unit := do
  need 2
  modify Cursor.skipLine

/-- Reads a line break and gives it as a scalar keeps it. The end of the text counts as one
that says nothing. -/
def takeLine : Reading (List Char) := do
  need 2
  let cursor <- get
  set (if endsLine cursor.rest.head? && !cursor.rest.isEmpty then cursor.skipLine
    else { cursor with breaks := cursor.breaks + 1 })
  return cursor.lineBreak

/-- Reads the characters that satisfy a test, up to the first that does not; none of them
is a line break. -/
def takeWhile (test : Char -> Bool) : Reading (List Char) := do
  let run := (<- get).rest.takeWhile test
  skipRun 1 run.length
  return run

/-- Reads spaces and tabs. -/
def skipBlanks : Reading Unit := do
  let _ <- takeWhile isBlank

/-- Reads up to the end of the line. -/
def skipToLineEnd : Reading Unit := do
  let _ <- takeWhile fun c => !isBreak c

end Reading
end UnitCheck.Yaml
