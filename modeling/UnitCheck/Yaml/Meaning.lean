import UnitCheck.Numeral.Binary64
import UnitCheck.Text.Bytes
import UnitCheck.Yaml.Fault

/-!
# Meanings of scalars

A plain scalar is read by its spelling: as null, a truth value, a number, a time,
or else as a text. A scalar that is not plain is a text. A tag in front of a
scalar may ask for one of these meanings, and it is a fault if the scalar has
another one; with any other tag the scalar is a text.
-/

namespace UnitCheck.Yaml

/-- What a scalar means. -/
inductive Meaning where
  | null
  | bool (value : Bool)
  | int (value : Int)
  /-- A number as a double precision word. -/
  | float (bits : Nat)
  | infinity (negative : Bool)
  | nan
  /-- A day, or a time of a day. -/
  | time
  | text (value : Text.ByteText)
deriving Repr, DecidableEq, Inhabited

/-- The name of the type of a meaning. -/
def Meaning.tag : Meaning -> String
  | .null => "!!null"
  | .bool _ => "!!bool"
  | .int _ => "!!int"
  | .float _ | .infinity _ | .nan => "!!float"
  | .time => "!!timestamp"
  | .text _ => "!!str"

/-- The spellings with a meaning of their own. -/
def wordMeaning? (text : String) : Option Meaning :=
  if ["", "~", "null", "Null", "NULL"].contains text then some .null
  else if ["true", "True", "TRUE"].contains text then some (.bool true)
  else if ["false", "False", "FALSE"].contains text then some (.bool false)
  else if [".nan", ".NaN", ".NAN"].contains text then some .nan
  else if [".inf", ".Inf", ".INF", "+.inf", "+.Inf", "+.INF"].contains text then
    some (.infinity false)
  else if ["-.inf", "-.Inf", "-.INF"].contains text then some (.infinity true)
  else none

/-! ## Numbers -/

/-- The sign of a number and the spelling behind it. -/
def splitSign : List Char -> Option Bool × List Char
  | '-' :: rest => (some true, rest)
  | '+' :: rest => (some false, rest)
  | rest => (none, rest)

/-- The value of digits behind an optional sign: a signed 64-bit word, or an unsigned one
without a sign. -/
def word? (sign : Option Bool) (base : Nat) (digits : List Char) : Option Int :=
  if digits.isEmpty || !digits.all (Numeral.isDigitOf base) then none
  else
    let magnitude : Int := Numeral.digitsValue base digits
    let value := if sign = some true then -magnitude else magnitude
    if Numeral.fits value 64 true || (sign = none && Numeral.fits value 64 false) then some value
    else none

/-- The base of an unsigned integer and its digits. A leading zero selects base
eight. -/
def splitBase (digits : List Char) : Nat × List Char :=
  match Numeral.splitBase digits with
  | (10, '0' :: c :: rest) => (8, c :: rest)
  | other => other

/-- The value of an integer. -/
def integer? (text : List Char) : Option Int :=
  let (sign, body) := splitSign text
  let (base, digits) := splitBase body
  word? sign base digits

/-- The value of an integer whose sign stands behind the mark of its base. -/
def innerSigned? (text : List Char) : Option Int :=
  match text with
  | '0' :: 'b' :: rest => word? (splitSign rest).1 2 (splitSign rest).2
  | '0' :: 'o' :: rest => word? (splitSign rest).1 8 (splitSign rest).2
  | _ => none

/-- Whether a text is an exponent or nothing. -/
def isExponent? (text : List Char) : Bool :=
  match text with
  | [] => true
  | mark :: rest =>
    let digits := (splitSign rest).2
    (mark = 'e' || mark = 'E') && !digits.isEmpty && digits.all (Numeral.isDigitOf 10)

/-- Whether a text spells a decimal number: digits with an optional fraction, or a
fraction alone, and an optional exponent. -/
def isDecimal (text : List Char) : Bool :=
  let body := (splitSign text).2
  let digit := Numeral.isDigitOf 10
  match body.span digit with
  | ([], '.' :: rest) =>
    !(rest.takeWhile digit).isEmpty && isExponent? (rest.dropWhile digit)
  | ([], _) => false
  | (_, '.' :: rest) => isExponent? (rest.dropWhile digit)
  | (_, rest) => isExponent? rest

/-- Whether a text spells a fraction alone, with an optional exponent; single underscores
may stand between digits. -/
def isFraction (text : List Char) : Bool :=
  match text with
  | '.' :: rest =>
    let tail := rest.dropWhile Numeral.isRunChar
    Numeral.isRun 10 (rest.takeWhile Numeral.isRunChar) && (tail.isEmpty || Numeral.isExponent tail)
  | _ => false

/-- The meaning of a decimal number, unless it is out of range. -/
def decimal? (text : List Char) : Option Meaning :=
  let (sign, body) := splitSign text
  let parts := Numeral.decimalParts body
  ({ parts with negative := sign = some true }.bits?).map .float

/-- The meaning of an integer as a decimal number. -/
def Meaning.ofInt? (value : Int) : Option Meaning :=
  let sign := if value < 0 then Numeral.power 2 63 else 0
  (Numeral.magnitudeBits? value.natAbs 1).map fun bits => .float (sign + bits)

/-! ## Times -/

/-- The number of days of a month. -/
def daysIn (year month : Nat) : Nat :=
  if month = 2 then
    if year % 4 = 0 && (year % 100 ≠ 0 || year % 400 = 0) then 29 else 28
  else if month = 4 || month = 6 || month = 9 || month = 11 then 30
  else 31

/-- A number of one or two digits and what follows it. -/
def shortNumber? (text : List Char) : Option (Nat × List Char) :=
  let digits := (text.take 2).takeWhile (Numeral.isDigitOf 10)
  if digits.isEmpty then none
  else some (Numeral.digitsValue 10 digits, text.drop digits.length)

/-- What follows a mark. -/
def after? (mark : Char) : List Char -> Option (List Char)
  | c :: rest => if c = mark then some rest else none
  | [] => none

/-- What follows a day: a year of four digits, a month and a day of it. -/
def afterDay? (text : List Char) : Option (List Char) := do
  let (year, rest) := text.span (Numeral.isDigitOf 10)
  let rest <- after? '-' rest
  let (month, rest) <- shortNumber? rest
  let rest <- after? '-' rest
  let (day, rest) <- shortNumber? rest
  if year.length = 4 && 1 ≤ month && month ≤ 12 && 1 ≤ day &&
      day ≤ daysIn (Numeral.digitsValue 10 year) month then
    some rest
  else none

/-- What follows a fraction of a second, if there is one. -/
def afterFraction (text : List Char) : List Char :=
  match text with
  | mark :: digit :: rest =>
    if (mark = '.' || mark = ',') && Numeral.isDigitOf 10 digit then
      rest.dropWhile (Numeral.isDigitOf 10)
    else text
  | _ => text

/-- What follows a time of a day: hour, minute and second with an optional fraction. -/
def afterClock? (text : List Char) : Option (List Char) := do
  let (hour, rest) <- shortNumber? text
  let rest <- after? ':' rest
  let (minute, rest) <- shortNumber? rest
  let rest <- after? ':' rest
  let (second, rest) <- shortNumber? rest
  if hour < 24 && minute < 60 && second < 60 then some (afterFraction rest) else none

/-- Whether a text is the zone of a time: `Z`, or a sign with hours and minutes of two
digits each. -/
def isZone (text : List Char) : Bool :=
  match text with
  | ['Z'] => true
  | [sign, h, h', ':', m, m'] =>
    (sign = '+' || sign = '-') && [h, h', m, m'].all (Numeral.isDigitOf 10) &&
      Numeral.digitsValue 10 [h, h'] ≤ 24 && Numeral.digitsValue 10 [m, m'] ≤ 60
  | _ => false

/-- Whether a text is a day or a time: behind a day may stand `T` or `t` with a clock and a
zone, or spaces with a clock. -/
def isTime (text : List Char) : Bool :=
  match afterDay? text with
  | none => false
  | some [] => true
  | some (mark :: rest) =>
    if mark = 'T' || mark = 't' then (afterClock? rest).any isZone
    else mark = ' ' && (afterClock? (rest.dropWhile (· = ' '))).any (·.isEmpty)

/-! ## Scalars -/

/-- The meaning of a plain scalar that starts like a number; `admitsTime` tells whether it
may be a time. -/
def numberMeaning? (admitsTime : Bool) (text : List Char) : Option Meaning :=
  if admitsTime && isTime text then some .time
  else
    let plain := text.filter (· ≠ '_')
    let decimal := if isDecimal plain then decimal? plain else none
    (integer? plain).map .int <|> decimal <|> (innerSigned? plain).map .int

/-- The meaning of a plain scalar; `admitsTime` tells whether it may be a time. -/
def plainMeaning (admitsTime : Bool) (text : String) : Meaning :=
  let number := match text.toList with
    | '.' :: rest => if isFraction ('.' :: rest) then decimal? ('.' :: rest) else none
    | c :: rest =>
      if c = '-' || c = '+' || Numeral.isDigitOf 10 c then numberMeaning? admitsTime (c :: rest)
      else none
    | [] => none
  (wordMeaning? text <|> number).getD (.text (.ofString text))

/-- A scalar with the name of the type that it is given or asked for, and the line on which
it starts. -/
structure Scalar where
  text : String
  tag : String
  line : Nat
deriving Repr, DecidableEq, Inhabited

namespace Scalar

/-- The tag of a plain scalar with which a mapping takes over the entries of another. -/
def mergeTag : String := "!!merge"

/-- The tag of a scalar without a tag in front of it. -/
def givenTag (text : String) (isPlain : Bool) : String :=
  if !isPlain then "!!str"
  else if text = "<<" then mergeTag
  else (plainMeaning true text).tag

/-- The tags that ask for the meaning of a spelling. -/
def spelledTags : List String := ["!!bool", "!!int", "!!float", "!!null", "!!timestamp"]

/-- The meaning of a scalar with a tag that asks for the meaning of its spelling. A whole
number serves where a decimal one is asked for. -/
def spelledMeaning (scalar : Scalar) : Except SyntaxError Meaning :=
  let found := plainMeaning (scalar.tag = "!!timestamp") scalar.text
  let refused := .error (.plain (.otherType found.tag scalar.text scalar.tag))
  if found.tag = scalar.tag then .ok found
  else if scalar.tag = "!!float" then
    match found with
    | .int value =>
      if Numeral.fits value 64 true then
        match Meaning.ofInt? value with
        | some meaning => .ok meaning
        | none => refused
      else refused
    | _ => refused
  else refused

/-- The meaning of a scalar. A text may be given by its bytes. -/
def meaning (scalar : Scalar) : Except SyntaxError Meaning :=
  if spelledTags.contains scalar.tag then scalar.spelledMeaning
  else if scalar.tag = "!!binary" then
    match Text.ofBase64? scalar.text with
    | some text => .ok (.text text)
    | none => .error (.plain .badBase64)
  else .ok (.text (.ofString scalar.text))

/-- A scalar with this meaning as a text. -/
def asText (scalar : Scalar) : Meaning -> Text.ByteText
  | .text text => text
  | _ => .ofString scalar.text

end Scalar

/-- A double precision word without its fraction, toward zero. -/
def wholePart (bits : Nat) : Int :=
  let field : Nat := bits / Numeral.power 2 52 % Numeral.power 2 11
  let fraction : Nat := bits % Numeral.power 2 52
  let significand : Nat := if field = 0 then fraction else Numeral.power 2 52 + fraction
  let exponent : Int := (if field = 0 then 1 else field) - 1075
  let magnitude : Int :=
    if exponent < 0 then (significand / Numeral.power 2 exponent.natAbs : Nat)
    else (significand * Numeral.power 2 exponent.natAbs : Nat)
  if bits / Numeral.power 2 63 % 2 = 1 then -magnitude else magnitude

end UnitCheck.Yaml
