/-!
# Spellings of numbers

An integer is written in decimal or, behind `0x`, `0o` or `0b` in either case,
in base sixteen, eight or two. A float is a decimal run with a fraction, an
exponent or both. Single underscores may stand between the digits of a run and
a minus sign may stand in front of the whole.
-/

namespace UnitCheck.Numeral

/-- The value of a digit in bases up to sixteen. -/
def digitValue? (c : Char) : Option Nat :=
  if '0' ≤ c ∧ c ≤ '9' then some (c.toNat - '0'.toNat)
  else if 'a' ≤ c ∧ c ≤ 'f' then some (c.toNat - 'a'.toNat + 10)
  else if 'A' ≤ c ∧ c ≤ 'F' then some (c.toNat - 'A'.toNat + 10)
  else none

/-- Whether `c` is a digit of base `base`. -/
def isDigitOf (base : Nat) (c : Char) : Bool :=
  match digitValue? c with
  | some value => value < base
  | none => false

/-- What may follow the first digit of a run: digits, each with at most one
underscore in front. -/
def isRunTail (base : Nat) : List Char -> Bool
  | [] => true
  | '_' :: c :: rest => isDigitOf base c && isRunTail base rest
  | c :: rest => isDigitOf base c && isRunTail base rest

/-- A run of digits of a base, with single underscores between digits. -/
def isRun (base : Nat) : List Char -> Bool
  | [] => false
  | c :: rest => isDigitOf base c && isRunTail base rest

/-- The base that a letter behind a leading zero selects. -/
def baseOfMark? (c : Char) : Option Nat :=
  if c = 'x' ∨ c = 'X' then some 16
  else if c = 'o' ∨ c = 'O' then some 8
  else if c = 'b' ∨ c = 'B' then some 2
  else none

/-- The base of an unsigned spelling and the digits behind its base mark. -/
def splitBase : List Char -> Nat × List Char
  | '0' :: mark :: digits =>
    match baseOfMark? mark with
    | some base => (base, digits)
    | none => (10, '0' :: mark :: digits)
  | digits => (10, digits)

/-- Whether there is a minus sign in front, and the spelling behind it. -/
def splitSign : List Char -> Bool × List Char
  | '-' :: rest => (true, rest)
  | rest => (false, rest)

/-- Whether the characters spell an integer. -/
def isIntegerChars (text : List Char) : Bool :=
  let (base, digits) := splitBase (splitSign text).2
  isRun base digits

/-- Whether the text spells an integer. -/
def isInteger (text : String) : Bool :=
  isIntegerChars text.toList

/-- A character of a decimal run. -/
def isRunChar (c : Char) : Bool :=
  isDigitOf 10 c || c = '_'

/-- An exponent: its mark, an optional sign and a decimal run. -/
def isExponent : List Char -> Bool
  | mark :: sign :: rest =>
    (mark = 'e' || mark = 'E') &&
      (if sign = '+' || sign = '-' then isRun 10 rest else isRun 10 (sign :: rest))
  | _ => false

/-- What may follow the first run of a float: a fraction, an exponent, or one behind the
other. -/
def isFraction : List Char -> Bool
  | '.' :: fraction =>
    let tail := fraction.dropWhile isRunChar
    isRun 10 (fraction.takeWhile isRunChar) && (tail.isEmpty || isExponent tail)
  | tail => isExponent tail

/-- Whether the characters spell a float. -/
def isFloatChars (text : List Char) : Bool :=
  let body := (splitSign text).2
  isRun 10 (body.takeWhile isRunChar) && isFraction (body.dropWhile isRunChar)

/-- Whether the text spells a float. -/
def isFloat (text : String) : Bool :=
  isFloatChars text.toList

/-- Whether an atom reads as a number: it starts with a digit, or with a minus
sign and a digit. -/
def startsNumber (text : List Char) : Bool :=
  match (splitSign text).2 with
  | c :: _ => isDigitOf 10 c
  | [] => false

end UnitCheck.Numeral
