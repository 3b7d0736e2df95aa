import UnitCheck.Numeral.Integer
import UnitCheck.Yaml.Cursor

/-!
# Scalars as they are written

A scalar is written plainly, in single or double quotes, or as a block of lines
behind `|` or `>`. Line breaks inside plain and quoted scalars are folded: one
becomes a space, and of several the first is dropped. Each reader starts in
front of its scalar. What a scalar has said so far is kept with the latest
character first.
-/

namespace UnitCheck.Yaml

/-- The blanks and line breaks between two words of a scalar, the latest first. -/
structure Gap where
  /-- The blanks in front of the first line break. -/
  blanks : List Char
  /-- The first line break. -/
  first : List Char
  /-- The other line breaks. -/
  others : List Char
  /-- There is a line break, possibly one that does not count. -/
  isBroken : Bool
deriving Repr, DecidableEq, Inhabited

namespace Gap

/-- Nothing between two words. -/
def none : Gap := ⟨[], [], [], false⟩

/-- What stands for a gap in the scalar, the latest character first. -/
def folded (gap : Gap) : List Char :=
  if !gap.isBroken then gap.blanks
  else if gap.first.head? = some '\n' then
    if gap.others.isEmpty then [' '] else gap.others
  else gap.others ++ gap.first

end Gap

namespace Reading

/-- Reads blanks and line breaks onto a gap. Behind a line break a tab in one of the first
`indent` columns is a fault; `fuel` bounds the number of characters. -/
def gapOnto (start indent : Nat) : (fuel : Nat) -> Gap -> Reading Gap
  | 0, gap => return gap
  | fuel + 1, gap => do
    let cursor <- get
    match cursor.rest.head? with
    | some c =>
      if isBlank c then
        if gap.isBroken && cursor.column < indent && c = '\t' then fail .tabInPlain start
        skip
        need 1
        gapOnto start indent fuel
          (if gap.isBroken then gap else { gap with blanks := c :: gap.blanks })
      else if isBreak c then
        let lineBreak <- takeLine
        need 1
        gapOnto start indent fuel
          (if gap.isBroken then { gap with others := lineBreak ++ gap.others }
          else ⟨[], lineBreak, [], true⟩)
      else return gap
    | none => return gap

/-- Reads blanks and line breaks onto a gap. -/
def gap (start indent : Nat) (gap : Gap) : Reading Gap := do
  gapOnto start indent ((<- get).size + 1) gap

/-! ## Plain scalars -/

/-- A character that ends a plain scalar between brackets. -/
def isFlowEnd (c : Char) : Bool :=
  c = ',' || c = '?' || c = '[' || c = ']' || c = '\x7b' || c = '\x7d'

/-- The number of characters up to the end of a word of a plain scalar: a blank, a line
break, a colon at the end of a word or, between brackets, what ends a scalar there. -/
def plainLength (inFlow : Bool) : List Char -> Nat
  | [] => 0
  | c :: rest =>
    if isBlank c || isBreak c || (c = ':' && endsWord rest.head?) || (inFlow && isFlowEnd c) then 0
    else plainLength inFlow rest + 1

/-- Reads the words of a plain scalar behind what was said and a gap. The result tells
whether the scalar ended behind a line break. -/
def plainOnto (inFlow : Bool) (start indent : Nat) :
    (fuel : Nat) -> (said : List Char) -> Gap -> Reading (List Char × Bool)
  | 0, said, before => return (said, before.isBroken)
  | fuel + 1, said, before => do
    need 4
    let cursor <- get
    let word := cursor.rest.take (plainLength inFlow cursor.rest)
    if cursor.isDocumentIndicator || cursor.rest.head? = some '#' || word.isEmpty then
      return (said, before.isBroken)
    else
      skipRun 2 word.length
      let said := word.reverse ++ before.folded ++ said
      if <- next fun c => isBlank c || isBreak c then
        need 1
        let before <- gap start indent .none
        if !inFlow && (<- get).column < indent then return (said, before.isBroken)
        else plainOnto inFlow start indent fuel said before
      else return (said, false)

/-- Reads a plain scalar whose lines are indented by at least `indent` columns. -/
def plain (inFlow : Bool) (indent : Nat) : Reading (List Char × Bool) := do
  let cursor <- get
  let (said, isBroken) <- plainOnto inFlow cursor.line indent (cursor.size + 1) [] .none
  return (said.reverse, isBroken)

/-! ## Quoted scalars -/

/-- The character that an escape of one letter stands for. -/
def shortEscape? (c : Char) : Option Char :=
  match c with
  | '0' => some '\x00'
  | 'a' => some '\x07'
  | 'b' => some '\x08'
  | 't' => some '\t'
  | '\t' => some '\t'
  | 'n' => some '\n'
  | 'v' => some '\x0b'
  | 'f' => some '\x0c'
  | 'r' => some '\r'
  | 'e' => some '\x1b'
  | ' ' => some ' '
  | '"' => some '"'
  | '\x27' => some '\x27'
  | '\\' => some '\\'
  | 'N' => some '\u0085'
  | '_' => some '\u00a0'
  | 'L' => some '\u2028'
  | 'P' => some '\u2029'
  | _ => none

/-- The number of hexadecimal digits behind an escape letter. -/
def longEscape? (c : Char) : Option Nat :=
  match c with
  | 'x' => some 2
  | 'u' => some 4
  | 'U' => some 8
  | _ => none

/-- The value of hexadecimal digits, when all of them are digits. -/
def hexValue? (digits : List Char) : Option Nat :=
  digits.foldl (fun value c =>
    match value, Numeral.digitValue? c with
    | some value, some digit => some (value * 16 + digit)
    | _, _ => none) (some 0)

/-- Reads the code point of an escape with so many digits. -/
def codePoint (start count : Nat) : Reading Char := do
  need count
  let digits := (<- get).rest.take count
  match hexValue? digits with
  | none => fail .noHexNumber start
  | some value =>
    if digits.length < count then fail .noHexNumber start
    else if !value.isValidChar then fail .badCodePoint start
    else
      skipChars count
      return Char.ofNat value

/-- Reads an escape from its backslash. -/
def escape (start : Nat) : Reading Char := do
  match <- look 1 with
  | none => fail .unknownEscape start
  | some c =>
    match shortEscape? c, longEscape? c with
    | some meant, _ => do
      skipChars 2
      return meant
    | none, some count => do
      skipChars 2
      codePoint start count
    | none, none => fail .unknownEscape start

/-- Reads the characters of a quoted scalar up to a blank, a line break or the closing
quote onto what was said. The result tells whether an escaped line break ended them; `fuel` bounds their
number. -/
def quotedWord (quote : Char) (start : Nat) :
    (fuel : Nat) -> (said : List Char) -> Reading (List Char × Bool)
  | 0, said => return (said, false)
  | fuel + 1, said => do
    match (<- get).rest with
    | [] => return (said, false)
    | c :: rest =>
      if isBlank c || isBreak c then return (said, false)
      else if c = quote then
        if quote = '\x27' && rest.head? = some '\x27' then
          skipChars 2
          need 2
          quotedWord quote start fuel (c :: said)
        else return (said, false)
      else if quote = '"' && c = '\\' then
        if rest.head?.any isBreak then
          need 3
          skip
          skipLine
          return (said, true)
        else
          let meant <- escape start
          need 2
          quotedWord quote start fuel (meant :: said)
      else
        skip
        need 2
        quotedWord quote start fuel (c :: said)

/-- Reads the words of a quoted scalar behind what was said, and the closing quote. -/
def quotedOnto (quote : Char) (start : Nat) : (fuel : Nat) -> (said : List Char) -> Reading (List Char)
  | 0, said => return said
  | fuel + 1, said => do
    need 4
    let cursor <- get
    if cursor.isDocumentIndicator then fail .indicatorInQuotes start
    else if cursor.rest.isEmpty then fail .endInQuotes start
    else
      let (said, isBroken) <- quotedWord quote start (cursor.size + 1) said
      need 1
      if <- next (· = quote) then
        skip
        return said
      else
        let between <- gap start 0 { Gap.none with isBroken := isBroken }
        quotedOnto quote start fuel (between.folded ++ said)

/-- Reads a quoted scalar. -/
def quoted (quote : Char) : Reading (List Char) := do
  let cursor <- get
  skip
  return (<- quotedOnto quote cursor.line (cursor.size + 1) []).reverse

/-! ## Block scalars -/

/-- What becomes of the line breaks at the end of a block scalar. -/
inductive Chomping where
  /-- None is kept. -/
  | strip
  /-- The first is kept. -/
  | clip
  /-- All are kept. -/
  | keep
deriving Repr, DecidableEq, Inhabited

/-- Reads a sign that selects a chomping. -/
def chomping : Reading Chomping := do
  match <- look 0 with
  | some '+' =>
    skip
    need 1
    return .keep
  | some '-' =>
    skip
    need 1
    return .strip
  | _ => return .clip

/-- Reads a digit that gives an indentation. -/
def indentation (start : Nat) : Reading (Option Nat) := do
  match <- look 0 with
  | some c =>
    if Numeral.isDigitOf 10 c then
      if c = '0' then fail .zeroIndent start
      skip
      need 1
      return some (c.toNat - '0'.toNat)
    else return none
  | none => return none

/-- Reads the line that a block scalar starts with: chomping and indentation in either
order, and a comment. -/
def blockHeader (start : Nat) : Reading (Chomping × Option Nat) := do
  skip
  need 1
  let first <- chomping
  let indent <- indentation start
  let chomping <- if first = .clip && indent.isSome then chomping else pure first
  skipBlanks
  if <- next (· = '#') then skipToLineEnd
  if !endsLine (<- look 0) then fail .afterBlockHeader start
  if <- next isBreak then skipLine
  return (chomping, indent)

/-- Reads empty lines and the indentation behind them. Without a known indentation all
spaces belong to it. The result is the line breaks, the latest first, and the widest
indentation met. -/
def blockBreaks (start : Nat) (indent : Option Nat) :
    (fuel : Nat) -> (breaks : List Char) -> (widest : Nat) -> Reading (List Char × Nat)
  | 0, breaks, widest => return (breaks, widest)
  | fuel + 1, breaks, widest => do
    need 1
    let cursor <- get
    let spaces := (cursor.rest.takeWhile (· = ' ')).length
    skipRun 1 (match indent with
      | some indent => min spaces (indent - cursor.column)
      | none => spaces)
    let column := (<- get).column
    let widest := max widest column
    if indent.all (column < ·) && (<- next (· = '\t')) then fail .tabInBlock start
    if <- next isBreak then
      let lineBreak <- takeLine
      blockBreaks start indent fuel (lineBreak ++ breaks) widest
    else return (breaks, widest)

/-- What joins a line of a block scalar to the one before: `first` is the break between
them and `others` are those of empty lines, the latest first. Folding applies between
lines that do not start with a blank. -/
def blockJoin (isFolded : Bool) (first others : List Char) : List Char :=
  if isFolded && first.head? = some '\n' then
    if others.isEmpty then [' '] else others
  else others ++ first

/-- Reads the lines of a block scalar behind what was said and the line breaks in front of
them. -/
def blockLines (isFolded : Bool) (start indent : Nat) :
    (fuel : Nat) -> (said first others : List Char) -> (wasBlank : Bool) ->
      Reading (List Char × List Char × List Char)
  | 0, said, first, others, _ => return (said, first, others)
  | fuel + 1, said, first, others, wasBlank => do
    let cursor <- get
    if cursor.column ≠ indent || cursor.rest.isEmpty then return (said, first, others)
    else
      let startsBlank := cursor.rest.head?.any isBlank
      let join := blockJoin (isFolded && !wasBlank && !startsBlank) first others
      let line <- takeWhile fun c => !isBreak c
      let first <- takeLine
      let (others, _) <- blockBreaks start (some indent) (cursor.size + 1) [] 0
      blockLines isFolded start indent fuel (line.reverse ++ join ++ said) first others startsBlank

/-- Reads a block scalar; its lines are indented deeper than `parent`, which is negative
outside of all collections. -/
def block (isFolded : Bool) (parent : Int) : Reading (List Char) := do
  let cursor <- get
  let start := cursor.line
  let (chomping, increment) <- blockHeader start
  let given := increment.map fun increment => (max parent 0).toNat + increment
  let (breaks, widest) <- blockBreaks start given (cursor.size + 1) [] 0
  let indent := given.getD (max (max widest (parent + 1).toNat) 1)
  let (said, first, others) <-
    blockLines isFolded start indent (cursor.size + 1) [] [] breaks false
  let kept := match chomping with
    | .strip => []
    | .clip => first
    | .keep => others ++ first
  return (kept ++ said).reverse

end Reading
end UnitCheck.Yaml
