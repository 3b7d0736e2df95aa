import Mathlib.Computability.RegularExpressions
import Mathlib.Data.List.TakeWhile
import UnitCheck.Proofs.Datum.RoundTrip
import UnitCheck.Proofs.Tree.Numerals

/-!
# Numerals among atoms

The spellings of integers and those of floats are given by two regular expressions. The
recognisers, which look at a spelling from its sign to its last digit, accept exactly what the
expressions match (`isInteger_iff_matches`, `isFloat_iff_matches`). They agree with each other
and with the reader: no atom is both an integer and a float, either is read as a number wherever
it stands, and an integer has the value that its sign, its base mark and its digits denote
(`numerals_recognized`).
-/

namespace UnitCheck

namespace Numeral

open RegularExpression Computability

variable {base : Nat} {text : List Char} {language : Language Char}

/-! ### The expressions -/

/-- One of the characters. -/
def oneOf (chars : String) : RegularExpression Char := (chars.toList.map .char).sum

/-- Nothing or a match. -/
def optional (pattern : RegularExpression Char) : RegularExpression Char := 1 + pattern

/-- Digits, each but the first with at most one underscore in front. -/
def runPattern (digits : String) : RegularExpression Char :=
  oneOf digits * (oneOf digits + char '_' * oneOf digits).star

def binaryDigits : String := "01"

def octalDigits : String := "01234567"

def decimalDigits : String := "0123456789"

def hexDigits : String := "0123456789abcdefABCDEF"

/-- A base mark and a run of digits of the base, or decimal digits without a mark. -/
def unsignedPattern : RegularExpression Char :=
  char '0' * (oneOf "xX" * runPattern hexDigits) +
    char '0' * (oneOf "oO" * runPattern octalDigits) +
    char '0' * (oneOf "bB" * runPattern binaryDigits) + runPattern decimalDigits

def integerPattern : RegularExpression Char := optional (char '-') * unsignedPattern

def exponentPattern : RegularExpression Char :=
  oneOf "eE" * (optional (oneOf "+-") * runPattern decimalDigits)

/-- A fraction, an exponent, or a fraction and an exponent. -/
def fractionPattern : RegularExpression Char :=
  char '.' * (runPattern decimalDigits * optional exponentPattern) + exponentPattern

def floatPattern : RegularExpression Char :=
  optional (char '-') * (runPattern decimalDigits * fractionPattern)

/-! ### Words of products -/

theorem mem_char {c : Char} : text ∈ (char c).matches' ↔ text = [c] := Iff.rfl

theorem mem_oneOf {chars : String} :
    text ∈ (oneOf chars).matches' ↔ ∃ c ∈ chars.toList, text = [c] := by
  unfold oneOf
  induction chars.toList with
  | nil => simp [Language.notMem_zero]
  | cons c rest inductionHypothesis =>
    rw [List.map_cons, List.sum_cons, matches'_add, Language.mem_add, inductionHypothesis, mem_char]
    simp

theorem mem_oneOf_mul {chars : String} :
    text ∈ (oneOf chars).matches' * language ↔
      ∃ c ∈ chars.toList, ∃ rest ∈ language, text = c :: rest := by
  rw [Language.mem_mul]
  constructor
  · rintro ⟨front, isFront, rest, isRest, rfl⟩
    obtain ⟨c, isChar, rfl⟩ := mem_oneOf.mp isFront
    exact ⟨c, isChar, rest, isRest, rfl⟩
  · rintro ⟨c, isChar, rest, isRest, rfl⟩
    exact ⟨[c], mem_oneOf.mpr ⟨c, isChar, rfl⟩, rest, isRest, rfl⟩

theorem mem_char_mul {c : Char} :
    text ∈ (char c).matches' * language ↔ ∃ rest ∈ language, text = c :: rest := by
  rw [Language.mem_mul]
  constructor
  · rintro ⟨front, isFront, rest, isRest, rfl⟩
    cases mem_char.mp isFront
    exact ⟨rest, isRest, rfl⟩
  · rintro ⟨rest, isRest, rfl⟩
    exact ⟨[c], mem_char.mpr rfl, rest, isRest, rfl⟩

theorem mem_optional {pattern : RegularExpression Char} :
    text ∈ (optional pattern).matches' ↔ text = [] ∨ text ∈ pattern.matches' := by
  rw [optional, matches'_add, Language.mem_add, matches'_epsilon, Language.mem_one]

theorem mem_optional_mul {pattern : RegularExpression Char} :
    text ∈ (optional pattern).matches' * language ↔
      text ∈ language ∨ text ∈ pattern.matches' * language := by
  rw [optional, matches'_add, matches'_epsilon, add_mul, one_mul, Language.mem_add]

/-! ### Runs -/

/-- The characters are the digits of the base. -/
def AreDigits (digits : String) (base : Nat) : Prop :=
  ∀ c, c ∈ digits.toList ↔ isDigitOf base c = true

/-- No digit has a code past the letters, so it is enough to look at the codes up to them. -/
theorem areDigits_of_small {digits : String} (sound : digits.toList.all (isDigitOf base) = true)
    (complete : ∀ code < 128, isDigitOf base (Char.ofNat code) = true →
      digits.toList.contains (Char.ofNat code) = true) : AreDigits digits base := by
  intro c
  constructor
  · exact List.all_eq_true.mp sound c
  · intro isDigit
    have isSmall : c.toNat < 128 := by
      by_contra isLarge
      have notBelow (letter : Char) (low : letter.toNat < 128) : ¬c ≤ letter := by
        intro below
        exact isLarge (lt_of_le_of_lt (UInt32.le_iff_toNat_le.mp below) low)
      simp [isDigitOf, digitValue?, notBelow '9' (by decide), notBelow 'f' (by decide),
        notBelow 'F' (by decide)] at isDigit
    have here := complete c.toNat isSmall
    rw [Char.ofNat_toNat] at here
    exact List.contains_iff_mem.mp (here isDigit)

theorem areDigits_binary : AreDigits binaryDigits 2 :=
  areDigits_of_small (by decide +kernel) (by decide +kernel)

theorem areDigits_octal : AreDigits octalDigits 8 :=
  areDigits_of_small (by decide +kernel) (by decide +kernel)

theorem areDigits_decimal : AreDigits decimalDigits 10 :=
  areDigits_of_small (by decide +kernel) (by decide +kernel)

theorem areDigits_hex : AreDigits hexDigits 16 :=
  areDigits_of_small (by decide +kernel) (by decide +kernel)

variable {digits : String}

/-- What follows the first digit of a run is digits with or without an underscore in front. -/
theorem isRunTail_iff_mem (areDigits : AreDigits digits base) :
    isRunTail base text = true ↔
      text ∈ ((oneOf digits + char '_' * oneOf digits).star).matches' := by
  rw [matches'_star, Language.mem_kstar]
  constructor
  · intro isTail
    fun_induction isRunTail base text with
    | case1 => exact ⟨[], rfl, by simp⟩
    | case2 c rest inductionHypothesis =>
      rw [Bool.and_eq_true] at isTail
      obtain ⟨words, rfl, isWord⟩ := inductionHypothesis isTail.2
      refine ⟨['_', c] :: words, rfl, List.forall_mem_cons.mpr ⟨.inr ?_, isWord⟩⟩
      exact mem_char_mul.mpr ⟨[c], mem_oneOf.mpr ⟨c, (areDigits c).mpr isTail.1, rfl⟩, rfl⟩
    | case3 c rest _ inductionHypothesis =>
      rw [Bool.and_eq_true] at isTail
      obtain ⟨words, rfl, isWord⟩ := inductionHypothesis isTail.2
      refine ⟨[c] :: words, rfl, List.forall_mem_cons.mpr ⟨.inl ?_, isWord⟩⟩
      exact mem_oneOf.mpr ⟨c, (areDigits c).mpr isTail.1, rfl⟩
  · rintro ⟨words, rfl, isWord⟩
    induction words with
    | nil => rfl
    | cons word words inductionHypothesis =>
      obtain ⟨first, rest⟩ := List.forall_mem_cons.mp isWord
      have isTail := inductionHypothesis rest
      obtain plain | marked := first
      · obtain ⟨c, isDigit, rfl⟩ := mem_oneOf.mp plain
        have isDigit := (areDigits c).mp isDigit
        change isRunTail base (c :: words.flatten) = true
        rw [isRunTail_cons (ne_of_isDigitOf isDigit rfl), isDigit, isTail]
        rfl
      · obtain ⟨_, isOne, rfl⟩ := mem_char_mul.mp marked
        obtain ⟨c, isDigit, rfl⟩ := mem_oneOf.mp isOne
        change (isDigitOf base c && isRunTail base words.flatten) = true
        rw [(areDigits c).mp isDigit, isTail]
        rfl

theorem isRun_iff_mem (areDigits : AreDigits digits base) :
    isRun base text = true ↔ text ∈ (runPattern digits).matches' := by
  rw [runPattern, matches'_mul, mem_oneOf_mul]
  cases text with
  | nil => simp [isRun]
  | cons c rest =>
    rw [isRun, Bool.and_eq_true, isRunTail_iff_mem areDigits, ← areDigits c]
    constructor
    · rintro ⟨isDigit, isTail⟩
      exact ⟨c, isDigit, rest, isTail, rfl⟩
    · rintro ⟨_, isDigit, _, isTail, same⟩
      cases same
      exact ⟨isDigit, isTail⟩

/-! ### Integers -/

/-- A mark and a run of digits. -/
theorem mem_marked {marks : String} (areDigits : AreDigits digits base) :
    text ∈ (char '0' * (oneOf marks * runPattern digits)).matches' ↔
      ∃ mark ∈ marks.toList, ∃ rest, text = '0' :: mark :: rest ∧ isRun base rest = true := by
  rw [matches'_mul, mem_char_mul]
  constructor
  · rintro ⟨_, isMarked, rfl⟩
    obtain ⟨mark, isMark, rest, isRest, rfl⟩ := mem_oneOf_mul.mp isMarked
    exact ⟨mark, isMark, rest, rfl, (isRun_iff_mem areDigits).mpr isRest⟩
  · rintro ⟨mark, isMark, rest, rfl, isRest⟩
    exact ⟨_, mem_oneOf_mul.mpr ⟨mark, isMark, rest, (isRun_iff_mem areDigits).mp isRest, rfl⟩, rfl⟩

theorem baseOfMark?_eq_some_iff {mark : Char} : baseOfMark? mark = some base ↔
    mark ∈ "xX".toList ∧ base = 16 ∨ mark ∈ "oO".toList ∧ base = 8 ∨
      mark ∈ "bB".toList ∧ base = 2 := by
  constructor
  · intro isMark
    unfold baseOfMark? at isMark
    split_ifs at isMark with sixteen eight two <;> cases isMark
    · exact .inl ⟨by simpa using sixteen, rfl⟩
    · exact .inr (.inl ⟨by simpa using eight, rfl⟩)
    · exact .inr (.inr ⟨by simpa using two, rfl⟩)
  · simp only [String.reduceToList, List.mem_cons, List.not_mem_nil, or_false]
    rintro (⟨rfl | rfl, rfl⟩ | ⟨rfl | rfl, rfl⟩ | ⟨rfl | rfl, rfl⟩) <;> rfl

/-- A base mark and a run of digits of the base, or a decimal run. -/
theorem mem_unsignedPattern : text ∈ unsignedPattern.matches' ↔
    (∃ mark base rest, baseOfMark? mark = some base ∧ text = '0' :: mark :: rest ∧
      isRun base rest = true) ∨ isRun 10 text = true := by
  simp only [unsignedPattern, matches'_add, Language.mem_add, mem_marked areDigits_hex,
    mem_marked areDigits_octal, mem_marked areDigits_binary, ← isRun_iff_mem areDigits_decimal,
    baseOfMark?_eq_some_iff]
  refine or_congr_left ⟨?_, ?_⟩
  · rintro ((⟨mark, isMark, rest, same⟩ | ⟨mark, isMark, rest, same⟩) | ⟨mark, isMark, rest, same⟩)
    · exact ⟨mark, 16, rest, .inl ⟨isMark, rfl⟩, same⟩
    · exact ⟨mark, 8, rest, .inr (.inl ⟨isMark, rfl⟩), same⟩
    · exact ⟨mark, 2, rest, .inr (.inr ⟨isMark, rfl⟩), same⟩
  · rintro ⟨mark, base, rest, ⟨isMark, rfl⟩ | ⟨isMark, rfl⟩ | ⟨isMark, rfl⟩, same⟩
    · exact .inl (.inl ⟨mark, isMark, rest, same⟩)
    · exact .inl (.inr ⟨mark, isMark, rest, same⟩)
    · exact .inr ⟨mark, isMark, rest, same⟩

/-- What is split off in front of the digits is a base mark, or there is none. -/
theorem isRun_splitBase_iff (body : List Char) :
    isRun (splitBase body).1 (splitBase body).2 = true ↔ body ∈ unsignedPattern.matches' := by
  rw [mem_unsignedPattern]
  obtain ⟨mark, base, rest, isMark, rfl, split⟩ | split := splitBase_cases body
  · rw [split]
    constructor
    · exact fun isRest => .inl ⟨mark, base, rest, isMark, rfl, isRest⟩
    · rintro (⟨_, _, _, isOther, same, isRest⟩ | isDecimal)
      · cases same
        cases isMark.symm.trans isOther
        exact isRest
      · rw [isRun, Bool.and_eq_true, isRunTail_cons (ne_underscore_of_baseOfMark? isMark),
          Bool.and_eq_true] at isDecimal
        cases isMark.symm.trans (baseOfMark?_of_isDigitOf isDecimal.2.1)
  · rw [split]
    constructor
    · exact .inr
    · rintro (⟨mark, base, rest, isMark, rfl, isRest⟩ | isDecimal)
      · have marked : splitBase ('0' :: mark :: rest) = (base, rest) := by
          simp only [splitBase, isMark]
        rw [split] at marked
        exact absurd (congrArg Prod.fst marked).symm (baseOfMark?_ne_ten isMark)
      · exact isDecimal

/-- A minus in front of words that start otherwise is split off. -/
theorem mem_signed {pattern : RegularExpression Char} (text : List Char)
    (unsigned : ∀ rest, '-' :: rest ∉ pattern.matches') :
    text ∈ (optional (char '-') * pattern).matches' ↔ (splitSign text).2 ∈ pattern.matches' := by
  rw [matches'_mul, mem_optional_mul, mem_char_mul]
  unfold splitSign
  split
  · rename_i rest
    constructor
    · rintro (isWord | ⟨_, isWord, same⟩)
      · exact absurd isWord (unsigned rest)
      · cases same
        exact isWord
    · exact fun isWord => .inr ⟨rest, isWord, rfl⟩
  · rename_i notMinus
    constructor
    · rintro (isWord | ⟨rest, isWord, rfl⟩)
      · exact isWord
      · exact absurd rfl (notMinus rest)
    · exact .inl

/-- An integer is recognised by the expression for integers. -/
theorem isInteger_iff_matches (text : String) :
    isInteger text = true ↔ text.toList ∈ integerPattern.matches' := by
  rw [integerPattern, mem_signed, ← isRun_splitBase_iff]
  · rfl
  · intro rest isWord
    obtain ⟨_, _, _, _, same, _⟩ | isDecimal := mem_unsignedPattern.mp isWord
    · cases same
    · cases isDecimal

/-! ### Floats -/

theorem isRunChar_of_isDigitOf {c : Char} (isDigit : isDigitOf 10 c = true) :
    isRunChar c = true := by
  simp [isRunChar, isDigit]

theorem all_isRunChar_of_isRun (isRun : isRun 10 text = true) :
    ∀ c ∈ text, isRunChar c = true := by
  cases text with
  | nil => simp
  | cons first rest =>
    rw [Numeral.isRun, Bool.and_eq_true] at isRun
    refine List.forall_mem_cons.mpr ⟨isRunChar_of_isDigitOf isRun.1, ?_⟩
    have isTail := isRun.2
    clear isRun
    fun_induction isRunTail 10 rest with
    | case1 => simp
    | case2 c rest inductionHypothesis =>
      rw [Bool.and_eq_true] at isTail
      exact List.forall_mem_cons.mpr ⟨rfl, List.forall_mem_cons.mpr
        ⟨isRunChar_of_isDigitOf isTail.1, inductionHypothesis isTail.2⟩⟩
    | case3 c rest _ inductionHypothesis =>
      rw [Bool.and_eq_true] at isTail
      exact List.forall_mem_cons.mpr
        ⟨isRunChar_of_isDigitOf isTail.1, inductionHypothesis isTail.2⟩

/-- A run in front of words that do not go on like one is as long as it can be. -/
theorem mem_run_mul (stops : ∀ word ∈ language, ∀ c ∈ word.head?, isRunChar c = false) :
    text ∈ (runPattern decimalDigits).matches' * language ↔
      isRun 10 (text.takeWhile isRunChar) = true ∧ text.dropWhile isRunChar ∈ language := by
  rw [Language.mem_mul]
  constructor
  · rintro ⟨run, isRun, word, isWord, rfl⟩
    have isRun := (isRun_iff_mem areDigits_decimal).mpr isRun
    have inside := all_isRunChar_of_isRun isRun
    have ends : word.takeWhile isRunChar = [] ∧ word.dropWhile isRunChar = word := by
      cases word with
      | nil => exact ⟨rfl, rfl⟩
      | cons c rest =>
        have outside := stops _ isWord c rfl
        simp [outside]
    rw [List.takeWhile_append_of_pos inside, List.dropWhile_append_of_pos inside, ends.1, ends.2,
      List.append_nil]
    exact ⟨isRun, isWord⟩
  · exact fun ⟨isRun, isWord⟩ =>
      ⟨_, (isRun_iff_mem areDigits_decimal).mp isRun, _, isWord, List.takeWhile_append_dropWhile⟩

/-- A sign or none, and a run. -/
theorem mem_signed_run : text ∈ (optional (oneOf "+-") * runPattern decimalDigits).matches' ↔
    isRun 10 text = true ∨ ∃ rest, (text = '+' :: rest ∨ text = '-' :: rest) ∧
      isRun 10 rest = true := by
  rw [matches'_mul, mem_optional_mul, mem_oneOf_mul, ← isRun_iff_mem areDigits_decimal]
  refine or_congr_right ⟨?_, ?_⟩
  · rintro ⟨sign, isSign, rest, isRest, rfl⟩
    have isRest := (isRun_iff_mem areDigits_decimal).mpr isRest
    obtain rfl | rfl : sign = '+' ∨ sign = '-' := by simpa using isSign
    · exact ⟨rest, .inl rfl, isRest⟩
    · exact ⟨rest, .inr rfl, isRest⟩
  · rintro ⟨rest, rfl | rfl, isRest⟩
    · exact ⟨'+', by decide, rest, (isRun_iff_mem areDigits_decimal).mp isRest, rfl⟩
    · exact ⟨'-', by decide, rest, (isRun_iff_mem areDigits_decimal).mp isRest, rfl⟩

theorem isExponent_cons (mark : Char) (text : List Char) : isExponent (mark :: text) = true ↔
    (mark = 'e' ∨ mark = 'E') ∧
      text ∈ (optional (oneOf "+-") * runPattern decimalDigits).matches' := by
  rw [mem_signed_run]
  cases text with
  | nil => simp [isExponent, isRun]
  | cons sign rest =>
    by_cases isSign : sign = '+' ∨ sign = '-'
    · obtain rfl | rfl := isSign <;> simp [isExponent, isRun, isDigitOf, digitValue?]
    · obtain ⟨notPlus, notMinus⟩ := not_or.mp isSign
      simp [isExponent, notPlus, notMinus]

theorem isExponent_iff_mem : isExponent text = true ↔ text ∈ exponentPattern.matches' := by
  rw [exponentPattern, matches'_mul, mem_oneOf_mul]
  cases text with
  | nil => simp [isExponent]
  | cons mark rest =>
    rw [isExponent_cons]
    constructor
    · rintro ⟨isMark, isRest⟩
      exact ⟨mark, by simpa using isMark, rest, isRest, rfl⟩
    · rintro ⟨_, isMark, _, isRest, same⟩
      cases same
      exact ⟨by simpa using isMark, isRest⟩

theorem not_isRunChar_of_isExponent (isExponent : isExponent text = true) :
    ∀ c ∈ text.head?, isRunChar c = false := by
  cases text with
  | nil => simp
  | cons mark rest =>
    obtain ⟨rfl | rfl, -⟩ := (isExponent_cons mark rest).mp isExponent <;>
      simp [isRunChar, isDigitOf, digitValue?]

theorem isFraction_iff_mem : isFraction text = true ↔ text ∈ fractionPattern.matches' := by
  have stops : ∀ word ∈ (optional exponentPattern).matches', ∀ c ∈ word.head?,
      isRunChar c = false := by
    intro word isWord
    obtain rfl | isWord := mem_optional.mp isWord
    · simp
    · exact not_isRunChar_of_isExponent (isExponent_iff_mem.mpr isWord)
  rw [fractionPattern, matches'_add, Language.mem_add, matches'_mul, mem_char_mul, matches'_mul]
  unfold isFraction
  split
  · rename_i fraction
    have noExponent : '.' :: fraction ∉ exponentPattern.matches' := by
      rw [← isExponent_iff_mem, isExponent_cons]
      rintro ⟨isMark | isMark, -⟩ <;> cases isMark
    rw [or_iff_left noExponent, Bool.and_eq_true, Bool.or_eq_true, List.isEmpty_iff,
      isExponent_iff_mem, ← mem_optional, ← mem_run_mul stops]
    simp
  · rename_i notPoint
    rw [isExponent_iff_mem]
    refine (or_iff_right ?_).symm
    rintro ⟨fraction, -, rfl⟩
    exact notPoint fraction rfl

theorem stops_fractionPattern : ∀ word ∈ fractionPattern.matches', ∀ c ∈ word.head?,
    isRunChar c = false := by
  intro word isWord
  rw [fractionPattern, matches'_add, Language.mem_add, matches'_mul, mem_char_mul] at isWord
  obtain ⟨rest, -, rfl⟩ | isExponent := isWord
  · simp [isRunChar, isDigitOf, digitValue?]
  · exact not_isRunChar_of_isExponent (isExponent_iff_mem.mpr isExponent)

/-- A float is recognised by the expression for floats. -/
theorem isFloat_iff_matches (text : String) :
    isFloat text = true ↔ text.toList ∈ floatPattern.matches' := by
  rw [floatPattern, mem_signed, matches'_mul, mem_run_mul stops_fractionPattern,
    ← isFraction_iff_mem, ← Bool.and_eq_true]
  · rfl
  · intro rest isWord
    rw [matches'_mul, mem_run_mul stops_fractionPattern] at isWord
    have noRun : isRun 10 (('-' :: rest).takeWhile isRunChar) = false := by
      simp [isRunChar, isDigitOf, digitValue?, isRun]
    rw [noRun] at isWord
    cases isWord.1

/-! ### The recognisers beside each other -/

/-- The characters behind the sign of an integer are a run, or a zero, a base mark and a run. -/
theorem isInteger_cases (isInteger : isIntegerChars text = true) :
    isRun 10 (splitSign text).2 = true ∨ ∃ mark base rest, baseOfMark? mark = some base ∧
      (splitSign text).2 = '0' :: mark :: rest ∧ isRun base rest = true :=
  (mem_unsignedPattern.mp ((isRun_splitBase_iff _).mp isInteger)).symm

theorem isRunChar_of_baseOfMark? {mark : Char} (isMark : baseOfMark? mark = some base) :
    isRunChar mark = false := by
  have notDigit : isDigitOf 10 mark = false := by
    rw [Bool.eq_false_iff]
    exact fun isDigit => by simp [baseOfMark?_of_isDigitOf isDigit] at isMark
  simp [isRunChar, notDigit, ne_underscore_of_baseOfMark? isMark]

theorem not_isFraction_of_baseOfMark? {mark : Char} (isMark : baseOfMark? mark = some base)
    (rest : List Char) : isFraction (mark :: rest) = false := by
  have notPoint : mark ≠ '.' := by
    rintro rfl
    cases isMark
  have isExponent : isFraction (mark :: rest) = isExponent (mark :: rest) := by
    rw [isFraction]
    exact fun _ same => absurd (List.cons.inj same).1 notPoint
  rw [isExponent, ← Bool.not_eq_true, isExponent_cons]
  rintro ⟨rfl | rfl, -⟩ <;> cases isMark

/-- An integer has no fraction: it is one run, or a letter follows its zero. -/
theorem not_isFloat_of_isInteger (isInteger : isIntegerChars text = true) :
    isFloatChars text = false := by
  unfold isFloatChars
  obtain isDecimal | ⟨mark, base, rest, isMark, same, -⟩ := isInteger_cases isInteger
  · have nothing : (splitSign text).2.dropWhile isRunChar = [] :=
      List.dropWhile_eq_nil_iff.mpr (all_isRunChar_of_isRun isDecimal)
    simp [nothing, isFraction, isExponent]
  · have notInside := isRunChar_of_baseOfMark? isMark
    have isZero : isRunChar '0' = true := rfl
    simp [same, isZero, notInside, not_isFraction_of_baseOfMark? isMark rest]

theorem startsNumber_of_behind {c : Char} {rest : List Char}
    (behind : (splitSign text).2 = c :: rest) (isDigit : isDigitOf 10 c = true) :
    startsNumber text = true := by
  unfold startsNumber
  rw [behind]
  exact isDigit

/-- Integers and floats start with a digit behind their sign. -/
theorem startsNumber_of_recognized
    (recognized : isIntegerChars text = true ∨ isFloatChars text = true) :
    startsNumber text = true := by
  have ofRun (run : List Char) (more : List Char) (behind : (splitSign text).2 = run ++ more)
      (isRun : isRun 10 run = true) : startsNumber text = true := by
    cases run with
    | nil => cases isRun
    | cons c rest =>
      rw [Numeral.isRun, Bool.and_eq_true] at isRun
      exact startsNumber_of_behind behind isRun.1
  obtain isInteger | isFloat := recognized
  · obtain isDecimal | ⟨mark, base, rest, -, behind, -⟩ := isInteger_cases isInteger
    · exact ofRun _ [] (List.append_nil _).symm isDecimal
    · exact startsNumber_of_behind behind rfl
  · unfold isFloatChars at isFloat
    rw [Bool.and_eq_true] at isFloat
    exact ofRun _ _ List.takeWhile_append_dropWhile.symm isFloat.1

/-! ### Numerals as tokens -/

/-- The characters that an expression mentions. -/
def letters : RegularExpression Char -> List Char
  | .zero | .epsilon => []
  | .char c => [c]
  | .plus left right | .comp left right => letters left ++ letters right
  | .star pattern => letters pattern

/-- What an expression matches is made of the characters that it mentions. -/
theorem mem_letters {pattern : RegularExpression Char} (isWord : text ∈ pattern.matches') :
    ∀ c ∈ text, c ∈ letters pattern := by
  induction pattern generalizing text with
  | zero => cases isWord
  | epsilon =>
    cases isWord
    simp
  | char c =>
    cases isWord
    simp [letters]
  | plus left right ofLeft ofRight =>
    intro c inside
    obtain isLeft | isRight := isWord
    · exact List.mem_append_left _ (ofLeft isLeft c inside)
    · exact List.mem_append_right _ (ofRight isRight c inside)
  | comp left right ofLeft ofRight =>
    intro c inside
    obtain ⟨front, isFront, behind, isBehind, rfl⟩ := Language.mem_mul.mp isWord
    obtain inFront | inBehind := List.mem_append.mp inside
    · exact List.mem_append_left _ (ofLeft isFront c inFront)
    · exact List.mem_append_right _ (ofRight isBehind c inBehind)
  | star pattern ofPattern =>
    intro c inside
    obtain ⟨words, rfl, areWords⟩ := Language.mem_kstar.mp isWord
    obtain ⟨word, isOne, inWord⟩ := List.mem_flatten.mp inside
    exact ofPattern (areWords word isOne) c inWord

/-- No character of a numeral ends an atom. -/
theorem isAtom_of_recognized {text : String}
    (recognized : isInteger text = true ∨ isFloat text = true) : Token.IsAtom text.toList := by
  refine ⟨?_, fun c inside => ?_⟩
  · intro isEmpty
    have starts := startsNumber_of_recognized recognized
    rw [isEmpty] at starts
    cases starts
  · obtain accepted | accepted := recognized
    · have inAtom : (letters integerPattern).all (!Token.endsAtom ·) = true := rfl
      simpa using List.all_eq_true.mp inAtom c
        (mem_letters ((isInteger_iff_matches text).mp accepted) c inside)
    · have inAtom : (letters floatPattern).all (!Token.endsAtom ·) = true := rfl
      simpa using List.all_eq_true.mp inAtom c
        (mem_letters ((isFloat_iff_matches text).mp accepted) c inside)

/-- An atom that starts like a number is the number. -/
theorem ofText_of_isAtom {text : String} (isAtom : Token.IsAtom text.toList)
    (starts : startsNumber text.toList = true) :
    Token.ofText text = [⟨.number text, ⟨.start, Position.start.advance text.toList⟩⟩] := by
  have number : Token.atomLexeme text.toList = .number text := by
    rw [Token.atomLexeme, if_pos starts, String.ofList_toList]
  have tokenized : Token.Tokenized .start ([] ++ text.toList ++ []) _ :=
    .token .nil (.atom isAtom) (fun _ => by simp) (.stop (.gap .nil))
  rw [List.nil_append, List.append_nil, number] at tokenized
  exact tokenized.scan

end Numeral

namespace Token

/-- A symbol does not start like a number. -/
def Plain (token : Token) : Prop :=
  ∀ text, token.lexeme = .symbol text → Numeral.startsNumber text.toList = false

theorem plain_ofAtom (text : List Char) (span : Span) : (ofAtom text span).Plain := by
  intro symbol isSymbol
  unfold ofAtom at isSymbol
  split at isSymbol
  · cases isSymbol
  · rename_i notNumber
    cases isSymbol
    rw [String.toList_ofList]
    exact Bool.eq_false_iff.mpr notNumber

theorem plain_openWith (point : Position) (c : Char) :
    ∀ token ∈ (openWith point c).1, token.Plain := by
  unfold openWith
  split_ifs <;> simp [Plain]

theorem plain_next (mode : Mode) (point : Position) (c : Char) :
    ∀ token ∈ (next mode point c).1, token.Plain := by
  cases mode with
  | gap => exact plain_openWith point c
  | comment =>
    by_cases feed : c = '\n' <;> simp [next, feed]
  | atom start read =>
    by_cases ends : endsAtom c = true
    · simp only [next, ends, if_true]
      exact List.forall_mem_cons.mpr ⟨plain_ofAtom _ _, plain_openWith point c⟩
    · simp [next, ends]
  | string start read =>
    by_cases quote : c = '"'
    · simp [next, quote, Plain]
    · by_cases slash : c = '\\' <;> simp [next, quote, slash]
  | escape start read => simp [next]

theorem plain_finish (mode : Mode) (point : Position) :
    ∀ token ∈ finish mode point, token.Plain := by
  cases mode with
  | atom start read => exact List.forall_mem_singleton.mpr (plain_ofAtom _ _)
  | gap | comment | string | escape => simp [finish, Plain]

/-- Whatever the reader finds, its symbols do not start like numbers. -/
theorem plain_scan (mode : Mode) (point : Position) (text : List Char) :
    ∀ token ∈ scan mode point text, token.Plain := by
  induction text generalizing mode point with
  | nil => exact plain_finish mode point
  | cons c rest inductionHypothesis =>
    exact List.forall_mem_append.mpr ⟨plain_next mode point c, inductionHypothesis _ _⟩

end Token

namespace Numeral

/-! ### The value of an integer -/

variable {base : Nat}

theorem Run.not_minus {run : List Char} (isRun : Run base run) : '-' ∉ run := by
  intro isMinus
  obtain isUnderscore | ⟨_, _, isDigit⟩ := isRun.digits '-' isMinus
  · cases isUnderscore
  · cases isDigit

theorem splitSign_append (negative : Bool) {body : List Char} (unsigned : '-' ∉ body) :
    splitSign ((if negative then ['-'] else []) ++ body) = (negative, body) := by
  cases negative with
  | true => rfl
  | false =>
    unfold splitSign
    split
    · rename_i rest same
      simp only [Bool.false_eq_true, if_false, List.nil_append] at same
      simp [same] at unsigned
    · rfl

/-- No run of decimal digits goes on with a base mark. -/
theorem splitBase_of_run {run : List Char} (isRun : Run 10 run) : splitBase run = (10, run) := by
  obtain ⟨mark, base, rest, isMark, rfl, -⟩ | split := splitBase_cases run
  · obtain rfl | ⟨digit, small, isDigit⟩ := isRun.digits mark (by simp)
    · cases isMark
    · have isDigit : isDigitOf 10 mark = true := by simp [isDigitOf, isDigit, small]
      cases isMark.symm.trans (baseOfMark?_of_isDigitOf isDigit)
  · exact split

theorem splitBase_append {mark run : List Char} (isMark : BaseMark mark base)
    (isRun : Run base run) : splitBase (mark ++ run) = (base, run) := by
  cases isMark with
  | decimal => exact splitBase_of_run isRun
  | sixteen isLetter | eight isLetter | two isLetter => obtain rfl | rfl := isLetter <;> rfl

/-- A text denotes one integer at most, the one that is computed from it. -/
theorem integerValue_of_denotes {text : String} {value : Int} (denotes : Denotes text value) :
    integerValue text.toList = value := by
  obtain ⟨negative, mark, base, run, spelled, isMark, isRun, rfl⟩ := denotes
  have unsigned : '-' ∉ mark ++ run := by
    rw [List.mem_append, not_or]
    refine ⟨?_, isRun.not_minus⟩
    cases isMark with
    | decimal => simp
    | sixteen isLetter | eight isLetter | two isLetter => obtain rfl | rfl := isLetter <;> simp
  rw [spelled, List.append_assoc]
  simp only [integerValue, splitSign_append negative unsigned, splitBase_append isMark isRun,
    digitsValue_eq]
  cases negative <;> simp

theorem integer?_eq_some_iff {text : String} {value : Int} :
    integer? text = some value ↔ isInteger text = true ∧ Denotes text value := by
  rw [integer?_eq]
  constructor
  · intro isValue
    split_ifs at isValue with accepted
    obtain ⟨found, isFound, denotes⟩ := denotes_of_isInteger accepted
    rw [integer?_eq, if_pos accepted, isValue] at isFound
    cases isFound
    exact ⟨accepted, denotes⟩
  · rintro ⟨accepted, denotes⟩
    rw [if_pos accepted, integerValue_of_denotes denotes]

/-- The recognisers accept the spellings of integers and of floats. No text is both, and
either is a single number for the reader, never a symbol of a longer text. Just the integers have
a value, which is the positional value of their digits. -/
theorem numerals_recognized (text : String) :
    (isInteger text = true ↔ text.toList ∈ integerPattern.matches') ∧
    (isFloat text = true ↔ text.toList ∈ floatPattern.matches') ∧
    ¬(isInteger text = true ∧ isFloat text = true) ∧
    (isInteger text = true ∨ isFloat text = true →
      startsNumber text.toList = true ∧
      Token.ofText text = [⟨.number text, ⟨.start, Position.start.advance text.toList⟩⟩] ∧
      ∀ source, ∀ token ∈ Token.ofText source, token.lexeme ≠ .symbol text) ∧
    ((integer? text).isSome = true ↔ isInteger text = true) ∧
    ∀ value, integer? text = some value ↔ isInteger text = true ∧ Denotes text value := by
  refine ⟨isInteger_iff_matches text, isFloat_iff_matches text, ?_, fun recognized => ?_, ?_,
    fun _ => integer?_eq_some_iff⟩
  · rintro ⟨accepted, isFloat⟩
    cases isFloat.symm.trans (not_isFloat_of_isInteger accepted)
  · have starts := startsNumber_of_recognized recognized
    refine ⟨starts, ofText_of_isAtom (isAtom_of_recognized recognized) starts, ?_⟩
    intro source token isToken isSymbol
    cases starts.symm.trans (Token.plain_scan _ _ _ token isToken text isSymbol)
  · rw [integer?_eq]
    split_ifs with accepted <;> simp [accepted]

/-- An integer with a sign, a base mark and an underscore is one number for the reader. -/
theorem numerals_recognized_hex : isInteger "-0Xf_F" = true ∧ isFloat "-0Xf_F" = false ∧
    Token.ofText "-0Xf_F" = [⟨.number "-0Xf_F", ⟨.start, ⟨1, 7, 6⟩⟩⟩] ∧
      Denotes "-0Xf_F" (-255) := by
  have accepted : isInteger "-0Xf_F" = true := rfl
  obtain ⟨-, -, apart, recognized, -, value⟩ := numerals_recognized "-0Xf_F"
  refine ⟨accepted, ?_, (recognized (.inl accepted)).2.1, ((value (-255)).mp rfl).2⟩
  exact Bool.eq_false_iff.mpr fun isFloat => apart ⟨accepted, isFloat⟩

end Numeral

end UnitCheck
