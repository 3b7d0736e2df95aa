import UnitCheck.Text.Bytes
import UnitCheck.Yaml.Scalar

/-!
# Tokens of a settings file

The tokens that a text consists of, and readers for those that are made of names:
anchors, tags and directives. Each reader starts in front of its token.
-/

namespace UnitCheck.Yaml

/-- The kinds of tokens. Some have no characters of their own: they stand where an
indentation opens or closes a collection, or in front of a key. -/
inductive TokenKind where
  | streamStart
  | streamEnd
  | version (major minor : Nat)
  | tagRule (handle start : String)
  | documentStart
  | documentEnd
  | sequenceStart
  | mappingStart
  | blockEnd
  | flowSequenceStart
  | flowSequenceEnd
  | flowMappingStart
  | flowMappingEnd
  | entry
  | flowEntry
  | key
  | value
  | alias (name : String)
  | anchor (name : String)
  | tag (handle suffix : String)
  | scalar (text : String) (isPlain : Bool)
deriving Repr, DecidableEq, Inhabited

/-- A token with the place where it starts. -/
structure Token where
  kind : TokenKind
  place : Place
deriving Repr, DecidableEq, Inhabited

/-- The line on which a token starts, counted from zero. -/
def Token.line (token : Token) : Nat := token.place.line

namespace Reading

/-! ## Anchors -/

/-- Reads the name of an anchor behind its mark. -/
def anchorName (start : Nat) : Reading String := do
  skip
  need 1
  let name <- takeWhile isNameChar
  let behind <- look 0
  if name.isEmpty || !(endsWord behind || behind.any "?:,]\x7d%@\x60".toList.contains) then
    fail .noAnchorName start
  return String.ofList name

/-! ## Tags -/

/-- A character of the address in a tag. -/
def isAddressChar (c : Char) : Bool :=
  isNameChar c || ";/?:@&=+$,.!~*'()[]%".toList.contains c

/-- The number of characters of a byte written in hexadecimal. -/
def octetWidth : Nat := 3

/-- Looks at a byte written as a percent sign and two hexadecimal digits. -/
def lookOctet (start : Nat) : Reading Nat := do
  need octetWidth
  match (<- get).rest with
  | '%' :: high :: low :: _ =>
    match hexValue? [high, low] with
    | some value => return value
    | none => fail .noTagOctet start
  | _ => fail .noTagOctet start

/-- Reads so many further bytes of a character. -/
def trailingOctets (start : Nat) : (count : Nat) -> Reading (List Nat)
  | 0 => return []
  | count + 1 => do
    let byte <- lookOctet start
    if !Text.isTrail byte then fail .badTrailingOctet start
    skipChars octetWidth
    return byte :: (<- trailingOctets start count)

/-- Reads a character written byte by byte; bytes that are not the form of a character
become replacement characters. -/
def escapedChar (start : Nat) : Reading (List Char) := do
  let lead <- lookOctet start
  match Text.leadWidth? lead with
  | none => fail .badLeadingOctet start
  | some width =>
    skipChars octetWidth
    let trail <- trailingOctets start (width - 1)
    return (Text.ByteText.ofBytes (lead :: trail)).shown.toList

/-- Reads an address onto what was said of it, the latest character first; `fuel` bounds its
characters. -/
def addressOnto (start : Nat) : (fuel : Nat) -> (said : List Char) -> Reading (List Char)
  | 0, said => return said
  | fuel + 1, said => do
    match <- look 0 with
    | some c =>
      if c = '%' then
        let chars <- escapedChar start
        need 1
        addressOnto start fuel (chars.reverse ++ said)
      else if isAddressChar c then
        skip
        need 1
        addressOnto start fuel (c :: said)
      else return said
    | none => return said

/-- Reads an address behind a beginning that was already read. An address is not empty. -/
def address (start : Nat) (beginning : List Char) : Reading (List Char) := do
  need 1
  let said <- addressOnto start ((<- get).size + 1) (beginning.drop 1).reverse
  if beginning.isEmpty && said.isEmpty then fail .noTagAddress start
  return said.reverse

/-- Reads a tag handle: a name between exclamation marks, the second of which may be
missing outside of directives. -/
def handle (start : Nat) (inDirective : Bool) : Reading (List Char) := do
  need 1
  if !(<- next (· = '!')) then fail .noTagMark start
  skip
  need 1
  let name <- takeWhile isNameChar
  if <- next (· = '!') then
    skip
    return '!' :: name ++ ['!']
  else
    if inDirective && !name.isEmpty then fail .noTagMark start
    return '!' :: name

/-- Reads a tag: its handle and what stands behind the handle. A tag in angle brackets,
and the lone mark, have no handle. -/
def tag (start : Nat) : Reading TokenKind := do
  need 2
  let kind <-
    if (<- look 1) = some '<' then do
      skipChars 2
      let suffix <- address start []
      if !(<- next (· = '>')) then fail .noTagEnd start
      skip
      pure (TokenKind.tag "" (String.ofList suffix))
    else do
      let handle <- handle start false
      if 1 < handle.length && handle.getLast? = some '!' then
        pure (.tag (String.ofList handle) (String.ofList (<- address start [])))
      else
        let suffix <- address start handle
        pure (if suffix.isEmpty then .tag "" "!" else .tag "!" (String.ofList suffix))
  need 1
  if !endsWord (<- look 0) then fail .noTagSpace start
  return kind

/-! ## Directives -/

/-- Reads a part of a version: one or two digits. -/
def versionNumber (start : Nat) : Reading Nat := do
  need 1
  let digits := ((<- get).rest.take 2).takeWhile (Numeral.isDigitOf 10)
  skipRun 1 digits.length
  if <- next (Numeral.isDigitOf 10) then
    if digits.length = 2 then fail .longVersionNumber start
  if digits.isEmpty then fail .noVersionNumber start
  return Numeral.digitsValue 10 digits

/-- Reads the version behind the name of its directive. -/
def version (start : Nat) : Reading TokenKind := do
  need 1
  skipBlanks
  let major <- versionNumber start
  if !(<- next (· = '.')) then fail .noVersionPoint start
  skip
  let minor <- versionNumber start
  return .version major minor

/-- Reads the handle and the beginning that it stands for, behind the name of their
directive. -/
def tagRule (start : Nat) : Reading TokenKind := do
  need 1
  skipBlanks
  let handle <- handle start true
  need 1
  if !(<- next isBlank) then fail .noPrefixSpace start
  skipBlanks
  let beginning <- address start []
  need 1
  if !endsWord (<- look 0) then fail .afterTagPrefix start
  return .tagRule (String.ofList handle) (String.ofList beginning)

/-- Reads a directive with the rest of its line. -/
def directive (start : Nat) : Reading TokenKind := do
  skip
  need 1
  let name <- takeWhile isNameChar
  if name.isEmpty then fail .noDirectiveName start
  if !endsWord (<- look 0) then fail .badDirectiveName start
  let kind <-
    if name = "YAML".toList then version start
    else if name = "TAG".toList then tagRule start
    else fail .unknownDirective start
  need 1
  skipBlanks
  if <- next (· = '#') then skipToLineEnd
  if !endsLine (<- look 0) then fail .afterDirective start
  if <- next isBreak then skipLine
  return kind

end Reading
end UnitCheck.Yaml
