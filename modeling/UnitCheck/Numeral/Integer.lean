import UnitCheck.Numeral.Spelling
import UnitCheck.Text.Quoted

/-!
# Values of integer spellings

An integer spelling has an exact value, whatever its size. Whether the value
fits a word is a question of its own. The value and the base are read from the
spelling without its underscores.
-/

namespace UnitCheck.Numeral

/-- The power of a base. -/
def power (base exponent : Nat) : Nat := base.pow exponent

/-- The positional value of digits in a base; underscores count for nothing. -/
def digitsValue (base : Nat) (digits : List Char) : Nat :=
  (digits.filterMap digitValue?).foldl (fun value digit => value * base + digit) 0

/-- The value of an integer spelling, exact. -/
def integerValue (text : List Char) : Int :=
  let (negative, body) := splitSign text
  let (base, digits) := splitBase body
  let magnitude : Int := digitsValue base digits
  if negative then -magnitude else magnitude

/-- A spelling without its underscores. -/
def withoutUnderscores (text : List Char) : List Char := text.filter (· ≠ '_')

/-- The base of a spelling without underscores and the digits behind its base mark. A mark
without a digit behind it is none. -/
def detectBase : List Char -> Nat × List Char
  | '0' :: mark :: digit :: digits =>
    match baseOfMark? mark with
    | some base => (base, digit :: digits)
    | none => (10, '0' :: mark :: digit :: digits)
  | digits => (10, digits)

/-- The number that a sign or none and digits of a base stand for. There has to be a digit,
and nothing else may stand among the digits. -/
def signedNumber? (base : Nat) (text : List Char) : Option Int :=
  let (negative, digits) := match text with
    | '+' :: rest => (false, rest)
    | _ => splitSign text
  if digits.isEmpty || !digits.all (isDigitOf base) then none
  else
    let magnitude : Int := digitsValue base digits
    some (if negative then -magnitude else magnitude)

/-- The value of the text, when it spells an integer. Its base is told from the spelling
without the minus sign and the underscores. -/
def integer? (text : String) : Option Int :=
  if isInteger text then
    let (negative, body) := splitSign text.toList
    let (base, digits) := detectBase (withoutUnderscores body)
    (signedNumber? base digits).map fun value => if negative then -value else value
  else none

/-- What is said of a text that spells no integer. -/
def integerComplaint (text : String) : String :=
  "invalid integer literal " ++ Text.quoted text

/-- The value of a plain decimal number with an optional sign, when it is a signed
64-bit word. -/
def machineInteger? (text : String) : Option Int :=
  let (negative, digits) := match text.toList with
    | '-' :: rest => (true, rest)
    | '+' :: rest => (false, rest)
    | rest => (false, rest)
  if digits.isEmpty || !digits.all (isDigitOf 10) then none
  else
    let magnitude : Int := digitsValue 10 digits
    let value := if negative then -magnitude else magnitude
    if -(power 2 63 : Int) ≤ value && value < power 2 63 then some value else none

/-- Whether `value` is representable in an integer word of `bits` bits, in two's
complement when `signed`. No value fits a word without bits. -/
def fits (value : Int) (bits : Nat) (signed : Bool) : Bool :=
  if bits = 0 then false
  else if signed then
    decide (-(power 2 (bits - 1) : Int) ≤ value) && decide (value < power 2 (bits - 1))
  else decide (0 ≤ value) && decide (value < power 2 bits)

end UnitCheck.Numeral
