import UnitCheck.Numeral.Integer

/-!
# What is read from a spelling

The value and the base of an integer are read from its spelling without the underscores.
That loses neither the base mark nor a digit, so what is read is the value that the digits
have where they stand (`integer?_eq`).
-/

namespace UnitCheck.Numeral

variable {base : Nat} {c : Char} {digits : List Char}

/-! ### Digits and marks -/

/-- What has no value as a digit is no digit. -/
theorem ne_of_isDigitOf {other : Char} (isDigit : isDigitOf base c = true)
    (valueless : digitValue? other = none) : c ≠ other := by
  rintro rfl
  simp [isDigitOf, valueless] at isDigit

/-- A decimal digit selects no base. -/
theorem baseOfMark?_of_isDigitOf (isDigit : isDigitOf 10 c = true) : baseOfMark? c = none := by
  have noLetter (other : Char) (tooBig : isDigitOf 10 other = false) : c ≠ other := by
    rintro rfl
    cases isDigit.symm.trans tooBig
  simp [baseOfMark?, noLetter 'x' rfl, noLetter 'X' rfl, noLetter 'o' rfl, noLetter 'O' rfl,
    noLetter 'b' rfl, noLetter 'B' rfl]

theorem ne_underscore_of_baseOfMark? (isMark : baseOfMark? c = some base) : c ≠ '_' := by
  rintro rfl
  cases isMark

theorem baseOfMark?_ne_ten (isMark : baseOfMark? c = some base) : base ≠ 10 := by
  rintro rfl
  unfold baseOfMark? at isMark
  split at isMark
  · cases isMark
  · split at isMark
    · cases isMark
    · split at isMark <;> cases isMark

/-! ### Runs without their underscores -/

theorem isRunTail_cons (other : c ≠ '_') (rest : List Char) :
    isRunTail base (c :: rest) = (isDigitOf base c && isRunTail base rest) := by
  rw [isRunTail]
  exact fun d _ same => absurd same other

theorem withoutUnderscores_cons (other : c ≠ '_') (rest : List Char) :
    withoutUnderscores (c :: rest) = c :: withoutUnderscores rest := by
  simp [withoutUnderscores, other]

/-- The underscores of a run are all of it that is no digit. -/
theorem all_of_isRunTail (isTail : isRunTail base digits = true) :
    (withoutUnderscores digits).all (isDigitOf base) = true := by
  fun_induction isRunTail base digits with
  | case1 => rfl
  | case2 c rest inductionHypothesis =>
    rw [Bool.and_eq_true] at isTail
    have other : c ≠ '_' := ne_of_isDigitOf isTail.1 rfl
    change (withoutUnderscores (c :: rest)).all (isDigitOf base) = true
    rw [withoutUnderscores_cons other, List.all_cons, isTail.1, inductionHypothesis isTail.2]
    rfl
  | case3 c rest _ inductionHypothesis =>
    rw [Bool.and_eq_true] at isTail
    have other : c ≠ '_' := ne_of_isDigitOf isTail.1 rfl
    rw [withoutUnderscores_cons other, List.all_cons, isTail.1, inductionHypothesis isTail.2]
    rfl

/-- A run starts with a digit, also without its underscores, and is digits altogether then. -/
theorem exists_of_isRun (isRun : isRun base digits = true) :
    ∃ first rest, withoutUnderscores digits = first :: rest ∧ isDigitOf base first = true ∧
      rest.all (isDigitOf base) = true := by
  cases digits with
  | nil => cases isRun
  | cons first rest =>
    rw [Numeral.isRun, Bool.and_eq_true] at isRun
    have other : first ≠ '_' := ne_of_isDigitOf isRun.1 rfl
    exact ⟨first, withoutUnderscores rest, withoutUnderscores_cons other rest, isRun.1,
      all_of_isRunTail isRun.2⟩

/-- Underscores count for nothing. -/
theorem digitsValue_withoutUnderscores (base : Nat) (digits : List Char) :
    digitsValue base (withoutUnderscores digits) = digitsValue base digits := by
  have same : (withoutUnderscores digits).filterMap digitValue? = digits.filterMap digitValue? := by
    induction digits with
    | nil => rfl
    | cons c rest inductionHypothesis =>
      by_cases underscore : c = '_'
      · subst underscore
        exact inductionHypothesis
      · rw [withoutUnderscores_cons underscore]
        simp only [List.filterMap_cons, inductionHypothesis]
  rw [digitsValue, digitsValue, same]

/-! ### The base -/

/-- A spelling has a base mark with more behind it or is digits altogether. -/
theorem splitBase_cases (body : List Char) :
    (∃ mark base rest, baseOfMark? mark = some base ∧ body = '0' :: mark :: rest ∧
      splitBase body = (base, rest)) ∨ splitBase body = (10, body) := by
  unfold splitBase
  split
  · rename_i mark rest
    split
    · rename_i base isMark
      exact .inl ⟨mark, base, rest, isMark, rfl, rfl⟩
    · exact .inr rfl
  · exact .inr rfl

theorem detectBase_mark {mark digit : Char} (isMark : baseOfMark? mark = some base)
    (rest : List Char) : detectBase ('0' :: mark :: digit :: rest) = (base, digit :: rest) := by
  simp only [detectBase, isMark]

theorem detectBase_digits (allDigits : digits.all (isDigitOf 10) = true) (first : Char) :
    detectBase (first :: digits) = (10, first :: digits) := by
  unfold detectBase
  split
  · rename_i mark digit more same
    cases same
    rw [List.all_cons, Bool.and_eq_true] at allDigits
    rw [baseOfMark?_of_isDigitOf allDigits.1]
  · rfl

/-- The base is told without the underscores as well as with them. -/
theorem detectBase_withoutUnderscores {body : List Char}
    (isInteger : isRun (splitBase body).1 (splitBase body).2 = true) :
    detectBase (withoutUnderscores body) =
      ((splitBase body).1, withoutUnderscores (splitBase body).2) := by
  obtain ⟨first, more, digits, -, allDigits⟩ := exists_of_isRun isInteger
  obtain ⟨mark, base, rest, isMark, rfl, split⟩ | split := splitBase_cases body
  · rw [split] at digits ⊢
    rw [withoutUnderscores_cons (by decide),
      withoutUnderscores_cons (ne_underscore_of_baseOfMark? isMark), digits]
    exact detectBase_mark isMark more
  · rw [split] at digits allDigits ⊢
    rw [digits]
    exact detectBase_digits allDigits first

/-! ### The value -/

/-- Digits are read as their value. -/
theorem signedNumber?_of_digits (isDigit : isDigitOf base c = true)
    (allDigits : digits.all (isDigitOf base) = true) :
    signedNumber? base (c :: digits) = some (digitsValue base (c :: digits) : Int) := by
  have notPlus : c ≠ '+' := ne_of_isDigitOf isDigit rfl
  have notMinus : c ≠ '-' := ne_of_isDigitOf isDigit rfl
  simp [signedNumber?, splitSign, notPlus, notMinus, isDigit, allDigits]

/-- What is accepted as an integer is read as the value that its digits have where they stand;
nothing else is read. -/
theorem integer?_eq (text : String) :
    integer? text = if isInteger text then some (integerValue text.toList) else none := by
  unfold integer?
  split
  · rename_i accepted
    have isRun : isRun (splitBase (splitSign text.toList).2).1
        (splitBase (splitSign text.toList).2).2 = true := accepted
    obtain ⟨first, more, digits, isDigit, allDigits⟩ := exists_of_isRun isRun
    have value := signedNumber?_of_digits isDigit allDigits
    rw [← digits, digitsValue_withoutUnderscores] at value
    simp only [detectBase_withoutUnderscores isRun, value, integerValue, Option.map_some]
  · rfl

end UnitCheck.Numeral
