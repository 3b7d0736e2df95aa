import UnitCheck.Text.Quoted

/-!
# Texts given by bytes

Bytes need not be the bytes of a text. Read from the left they fall into characters
in their UTF-8 form and into stray bytes, which belong to no character.

In base 64 four characters stand for three bytes. At the end one or two of the four
may be padding, which stands for nothing. Line breaks between the characters are
passed over.
-/

namespace UnitCheck.Text

/-- A character, or a byte that belongs to none. -/
inductive Piece where
  | char (c : Char)
  | stray (byte : Nat)
deriving Repr, DecidableEq, Inhabited

namespace Piece

/-- The character of a piece. -/
def char? : Piece -> Option Char
  | .char c => some c
  | .stray _ => none

/-- How a piece is written inside quotes: a stray byte in hexadecimal. -/
def quotedForm : Piece -> List Char
  | .char c => quoteChar c
  | .stray byte => '\\' :: 'x' :: hexDigits byte 2

end Piece

/-- A text given by bytes. -/
abbrev ByteText := List Piece

/-- The number of bytes of a character by its first byte, or nothing for a byte that
starts no character. -/
def leadWidth? (byte : Nat) : Option Nat :=
  if byte < 0x80 then some 1
  else if byte < 0xC0 then none
  else if byte < 0xE0 then some 2
  else if byte < 0xF0 then some 3
  else if byte < 0xF8 then some 4
  else none

/-- Whether a byte continues a character. -/
def isTrail (byte : Nat) : Bool := 0x80 ≤ byte && byte < 0xC0

/-- What the first byte of a character of so many bytes holds of its code point. -/
def leadBits (width lead : Nat) : Nat :=
  match width with
  | 1 => lead
  | 2 => lead % 32
  | 3 => lead % 16
  | _ => lead % 8

/-- The character that starts with a byte of so many and goes on with others. A code point
has one form only: the shortest. -/
def charOfBytes? (width lead : Nat) (trail : List Nat) : Option Char :=
  let start := leadBits width lead
  let value := trail.foldl (fun value byte => value * 64 + byte % 64) start
  if trail.length + 1 = width && trail.all isTrail && value.isValidChar &&
      (Char.ofNat value).utf8Size = width then
    some (Char.ofNat value)
  else none

namespace ByteText

/-- Reads bytes from the left; `passed` of them belong to a character already read. -/
def ofBytesFrom : (passed : Nat) -> List Nat -> ByteText
  | _, [] => []
  | passed + 1, _ :: rest => ofBytesFrom passed rest
  | 0, lead :: rest =>
    match leadWidth? lead with
    | none => .stray lead :: ofBytesFrom 0 rest
    | some width =>
      match charOfBytes? width lead (rest.take (width - 1)) with
      | some c => .char c :: ofBytesFrom (width - 1) rest
      | none => .stray lead :: ofBytesFrom 0 rest

/-- The text with these bytes. -/
def ofBytes (bytes : List Nat) : ByteText := ofBytesFrom 0 bytes

/-- A text without stray bytes. -/
def ofString (text : String) : ByteText := text.toList.map Piece.char

/-- The characters of a text, unless there are stray bytes in it. -/
def toString? (text : ByteText) : Option String :=
  (text.mapM Piece.char?).map String.ofList

/-- The text with a replacement character for each stray byte. -/
def shown (text : ByteText) : String :=
  String.ofList (text.map fun piece => piece.char?.getD '\uFFFD')

/-- The text between double quotes. -/
def quoted (text : ByteText) : String :=
  String.ofList ('"' :: text.flatMap Piece.quotedForm ++ ['"'])

/-- Quoting a text without stray bytes is quoting its characters. -/
theorem quoted_ofString (text : String) : (ofString text).quoted = Text.quoted text := by
  simp [quoted, ofString, Text.quoted, List.flatMap_map, Piece.quotedForm]

end ByteText

/-! ### Base64 -/

/-- The value of a character. -/
def base64Value? (c : Char) : Option Nat :=
  if 'A' ≤ c && c ≤ 'Z' then some (c.toNat - 'A'.toNat)
  else if 'a' ≤ c && c ≤ 'z' then some (c.toNat - 'a'.toNat + 26)
  else if '0' ≤ c && c ≤ '9' then some (c.toNat - '0'.toNat + 52)
  else if c = '+' then some 62
  else if c = '/' then some 63
  else none

/-- The number that characters stand for, each for six of its bits. -/
def base64Number? (chars : List Char) : Option Nat :=
  chars.foldl (fun number c =>
    match number, base64Value? c with
    | some number, some value => some (number * 64 + value)
    | _, _ => none) (some 0)

/-- The bytes that characters without line breaks stand for. -/
def base64Bytes? : List Char -> Option (List Nat)
  | [] => some []
  | a :: b :: c :: d :: rest =>
    if d = '=' && rest.isEmpty then
      if c = '=' then (base64Number? [a, b]).map fun number => [number / 16]
      else (base64Number? [a, b, c]).map fun number => [number / 1024, number / 4 % 256]
    else
      match base64Number? [a, b, c, d], base64Bytes? rest with
      | some number, some bytes =>
        some (number / 65536 :: number / 256 % 256 :: number % 256 :: bytes)
      | _, _ => none
  | _ => none

/-- The text whose bytes are written in base 64. -/
def ofBase64? (text : String) : Option ByteText :=
  (base64Bytes? (text.toList.filter fun c => c ≠ '\r' && c ≠ '\n')).map ByteText.ofBytes

end UnitCheck.Text
