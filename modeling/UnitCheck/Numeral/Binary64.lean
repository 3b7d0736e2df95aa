import UnitCheck.Numeral.Integer

/-!
# Numbers as double precision words

A decimal spelling denotes an exact rational. Its double precision word is that
of the nearest representable number, the even one of two equally near ones; a
magnitude that rounds past the largest finite number is out of range.
-/

namespace UnitCheck.Numeral

/-- The quotient rounded to the nearest integer, a half to the even neighbour. -/
def roundDiv (numerator denominator : Nat) : Nat :=
  let quotient := numerator / denominator
  let twice := 2 * (numerator % denominator)
  if twice < denominator then quotient
  else if denominator < twice then quotient + 1
  else if quotient % 2 = 0 then quotient else quotient + 1

/-- `numerator / denominator` in units of `2 ^ exponent`, as a fraction. -/
def inUnits (numerator denominator : Nat) (exponent : Int) : Nat × Nat :=
  if exponent < 0 then (numerator * power 2 exponent.natAbs, denominator)
  else (numerator, denominator * power 2 exponent.natAbs)

/-- The exponent of the unit in the last place of `numerator / denominator`:
the quotient in that unit has fifty-three bits, or the unit is the smallest. -/
def unitExponent (numerator denominator : Nat) : Int :=
  let guess : Int := (numerator.log2 : Int) - (denominator.log2 : Int) - 52
  let scaled := inUnits numerator denominator guess
  let exponent := if scaled.1 / scaled.2 < power 2 52 then guess - 1 else guess
  if exponent < -1074 then -1074 else exponent

/-- The word of a nonnegative fraction without its sign bit, or nothing when it
rounds past the largest finite number. -/
def magnitudeBits? (numerator denominator : Nat) : Option Nat :=
  if numerator = 0 then some 0
  else
    let exponent := unitExponent numerator denominator
    let scaled := inUnits numerator denominator exponent
    -- a significand that rounds up to 2 ^ 53 carries into the exponent field
    let significand := roundDiv scaled.1 scaled.2
    let field := (exponent + 1074).toNat
    let bits := field * power 2 52 + significand
    if bits < 2047 * power 2 52 then some bits else none

/-- The parts of a decimal spelling. -/
structure Decimal where
  negative : Bool
  /-- The digits in front of the point, from the first one that is not zero. -/
  whole : List Char
  /-- The digits behind the point. -/
  fraction : List Char
  /-- The power of ten behind the digits. -/
  exponent : Int
deriving Repr, DecidableEq

/-- The number of a written exponent. Digits behind one that makes it ten thousand or
more no longer count, so that it stays below a hundred thousand. -/
def exponentValue (digits : List Char) : Nat :=
  (digits.filterMap digitValue?).foldl
    (fun value digit => if value < 10000 then value * 10 + digit else value) 0

/-- Reads the parts of a decimal spelling. -/
def decimalParts (text : List Char) : Decimal :=
  let (negative, body) := splitSign text
  let digits := fun (run : List Char) => run.filter (isDigitOf 10)
  let whole := body.takeWhile isRunChar
  let tail := body.dropWhile isRunChar
  let fraction := match tail with
    | '.' :: rest => rest.takeWhile isRunChar
    | _ => []
  let tail := match tail with
    | '.' :: rest => rest.dropWhile isRunChar
    | rest => rest
  let exponent : Int := match tail with
    | _ :: '-' :: rest => -(exponentValue rest : Int)
    | _ :: rest => exponentValue rest
    | [] => 0
  ⟨negative, (digits whole).dropWhile (· = '0'), digits fraction, exponent⟩

/-- The number of digits of which a long spelling keeps the values. -/
def digitLimit : Nat := 800

namespace Decimal

/-- The digits from the first one that is not zero. -/
def digits (decimal : Decimal) : List Char :=
  if decimal.whole.isEmpty then decimal.fraction.dropWhile (· = '0')
  else decimal.whole ++ decimal.fraction

/-- How many of the digits stand in front of the point once the exponent has moved it,
when at most `limit` of those in front of the written point are counted. -/
def pointWithin (limit : Nat) (decimal : Decimal) : Int :=
  if decimal.whole.isEmpty then
    decimal.exponent - (decimal.fraction.takeWhile (· = '0')).length
  else decimal.exponent + min limit decimal.whole.length

/-- How many of the digits stand in front of the point once the exponent has moved it. -/
def point (decimal : Decimal) : Int :=
  decimal.pointWithin decimal.whole.length

end Decimal

/-- `digits` times a power of ten, as a fraction. -/
def tenfold (digits : Nat) (exponent : Int) : Nat × Nat :=
  if exponent < 0 then (digits, power 10 exponent.natAbs)
  else (digits * power 10 exponent.natAbs, 1)

/-- The word of a nonnegative number given by digits with so many of them in front of
the point, or nothing when it is out of range. Powers of ten far outside the range are
decided by their size alone. -/
def pointedBits? (digits : List Char) (point : Int) : Option Nat :=
  if digits.isEmpty then some 0
  else if 310 < point then none
  else if point < -330 then some 0
  else
    let (numerator, denominator) := tenfold (digitsValue 10 digits) (point - digits.length)
    magnitudeBits? numerator denominator

/-- The first `digitLimit` digits, with one more that stands for all others unless they
are zero: no number halfway between two words has as many digits. -/
def keptDigits (digits : List Char) : List Char :=
  digits.take digitLimit ++
    if (digits.drop digitLimit).any (· ≠ '0') then ['1'] else []

/-- The word of nineteen digits times a power of ten, or nothing when it is out of range.
Powers of ten far outside the range are decided by their size alone. -/
def scaledBits? (digits : Nat) (exponent : Int) : Option Nat :=
  if 347 < exponent then none
  else if exponent < -348 then some 0
  else
    let (numerator, denominator) := tenfold digits exponent
    magnitudeBits? numerator denominator

/-- Whether the first nineteen digits settle the word of a number, whatever the others
are: the next larger nineteen digits have the same word. -/
def isSettled (digits : List Char) (point : Int) : Bool :=
  let head := digits.take 19
  let exponent := point - head.length
  (digits.drop 19).all (· = '0') ||
    scaledBits? (digitsValue 10 head) exponent = scaledBits? (digitsValue 10 head + 1) exponent

/-- The double precision word of a decimal, or nothing when it is out of range. Where
nineteen digits do not settle it, only so many digits as are kept count towards the
place of the point. -/
def Decimal.bits? (decimal : Decimal) : Option Nat :=
  let sign := if decimal.negative then power 2 63 else 0
  let point :=
    if isSettled decimal.digits decimal.point then decimal.point
    else decimal.pointWithin digitLimit
  (pointedBits? (keptDigits decimal.digits) point).map (sign + ·)

/-- Why a text has no double precision word. -/
inductive FloatError where
  | notNumber (text : String)
  | badForm (text : String)
  | outOfRange (text : String)
deriving Repr, DecidableEq

/-- The wording of each cause. -/
def FloatError.message : FloatError -> String
  | .notNumber text => "invalid float literal " ++ Text.quoted text
  | .badForm text => "strconv.ParseFloat: parsing " ++ Text.quoted text ++ ": invalid syntax"
  | .outOfRange text =>
    "strconv.ParseFloat: parsing " ++ Text.quoted text ++ ": value out of range"

/-- The double precision word of a number's spelling. An integer in a base other
than ten has no float reading. -/
def floatBits (text : String) : Except FloatError Nat :=
  let plain := String.ofList (withoutUnderscores text.toList)
  if !isFloat text && !isInteger text then .error (.notNumber text)
  else if (splitBase (splitSign text.toList).2).1 ≠ 10 then
    .error (.badForm plain)
  else match (decimalParts text.toList).bits? with
    | some bits => .ok bits
    | none => .error (.outOfRange plain)

end UnitCheck.Numeral
