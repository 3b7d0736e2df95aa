import UnitCheck.Datum.Reader

/-!
# Data and their tokens

Data are read from tokens one after the other, with a stack. Here the outcome is tied
to the data themselves: a text reads as certain data exactly when its tokens spell them
(`readAll_eq_ok_iff`). What a datum is, wherever it was read, is given by its lexemes
alone (`respanAll_of_lexemes`).
-/

namespace UnitCheck.Datum

/-! ### What data are made of -/

mutual

/-- The lexemes that a datum consists of. -/
def lexemes : Datum -> List Lexeme
  | .symbol text _ => [.symbol text]
  | .string text _ => [.string text]
  | .number text _ => [.number text]
  | .list items _ => .openList :: lexemesAll items ++ [.closeList]

/-- The lexemes of several data in turn. -/
def lexemesAll : List Datum -> List Lexeme
  | [] => []
  | datum :: rest => lexemes datum ++ lexemesAll rest

end

mutual

/-- The tokens are those of the datum, and its span is what they cover. -/
def Spelled : Datum -> List Token -> Prop
  | .symbol text span, tokens => tokens = [⟨.symbol text, span⟩]
  | .string text span, tokens => tokens = [⟨.string text, span⟩]
  | .number text span, tokens => tokens = [⟨.number text, span⟩]
  | .list items span, tokens => ∃ first inner last,
    tokens = first :: inner ++ [last] ∧ SpelledAll items inner ∧
      first.lexeme = .openList ∧ first.span.start = span.start ∧
      last.lexeme = .closeList ∧ last.span.stop = span.stop

/-- The tokens are those of the data in turn. -/
def SpelledAll : List Datum -> List Token -> Prop
  | [], tokens => tokens = []
  | datum :: rest, tokens => ∃ own later,
    tokens = own ++ later ∧ Spelled datum own ∧ SpelledAll rest later

end

theorem spelledAll_append (first second : List Datum) (tokens : List Token) :
    SpelledAll (first ++ second) tokens ↔
      ∃ own later, tokens = own ++ later ∧ SpelledAll first own ∧ SpelledAll second later := by
  induction first generalizing tokens with
  | nil =>
    constructor
    · exact fun spelled => ⟨[], tokens, rfl, rfl, spelled⟩
    · rintro ⟨_, later, rfl, rfl, spelled⟩
      exact spelled
  | cons datum rest inductionHypothesis =>
    simp only [List.cons_append, SpelledAll, inductionHypothesis]
    constructor
    · rintro ⟨own, _, rfl, spelled, middle, later, rfl, spelledRest, spelledSecond⟩
      exact ⟨own ++ middle, later, (List.append_assoc ..).symm,
        ⟨own, middle, rfl, spelled, spelledRest⟩, spelledSecond⟩
    · rintro ⟨_, later, rfl, ⟨own, middle, rfl, spelled, spelledRest⟩, spelledSecond⟩
      exact ⟨own, middle ++ later, List.append_assoc .., spelled,
        middle, later, rfl, spelledRest, spelledSecond⟩

theorem spelledAll_single {datum : Datum} {tokens : List Token} :
    SpelledAll [datum] tokens ↔ Spelled datum tokens := by
  simp [SpelledAll]

mutual

/-- The lexemes of the tokens of a datum are its own. -/
theorem lexemes_of_spelled : {datum : Datum} → {tokens : List Token} →
    Spelled datum tokens → tokens.map (·.lexeme) = datum.lexemes
  | .symbol _ _, _, spelled | .string _ _, _, spelled | .number _ _, _, spelled => by
    cases spelled
    rfl
  | .list items _, _, spelled => by
    obtain ⟨first, inner, last, rfl, spelledItems, isOpen, -, isClose, -⟩ := spelled
    simp [lexemes, isOpen, isClose, lexemesAll_of_spelled spelledItems]

/-- The lexemes of the tokens of data are their own. -/
theorem lexemesAll_of_spelled : {data : List Datum} → {tokens : List Token} →
    SpelledAll data tokens → tokens.map (·.lexeme) = lexemesAll data
  | [], _, spelled => by
    cases spelled
    rfl
  | _ :: _, _, spelled => by
    obtain ⟨own, later, rfl, spelledOwn, spelledRest⟩ := spelled
    simp [lexemesAll, lexemes_of_spelled spelledOwn, lexemesAll_of_spelled spelledRest]

end

mutual

/-- Tokens with the lexemes of a datum spell the same datum, up to spans. -/
theorem spelled_of_lexemes (blank : Span) : (datum : Datum) → {tokens : List Token} →
    tokens.map (·.lexeme) = datum.lexemes →
      ∃ again, Spelled again tokens ∧ respan blank again = respan blank datum
  | .symbol text _, tokens, same => by
    obtain ⟨token, rfl, isSymbol⟩ := List.map_eq_singleton_iff.mp same
    exact ⟨.symbol text token.span, by simp [Spelled, ← isSymbol], rfl⟩
  | .string text _, tokens, same => by
    obtain ⟨token, rfl, isString⟩ := List.map_eq_singleton_iff.mp same
    exact ⟨.string text token.span, by simp [Spelled, ← isString], rfl⟩
  | .number text _, tokens, same => by
    obtain ⟨token, rfl, isNumber⟩ := List.map_eq_singleton_iff.mp same
    exact ⟨.number text token.span, by simp [Spelled, ← isNumber], rfl⟩
  | .list items _, tokens, same => by
    obtain ⟨front, back, rfl, sameFront, sameBack⟩ := List.map_eq_append_iff.mp same
    obtain ⟨first, inner, rfl, isOpen, sameInner⟩ := List.map_eq_cons_iff.mp sameFront
    obtain ⟨last, rfl, isClose⟩ := List.map_eq_singleton_iff.mp sameBack
    obtain ⟨again, spelled, sameItems⟩ := spelledAll_of_lexemes blank items sameInner
    exact ⟨.list again ⟨first.span.start, last.span.stop⟩,
      ⟨first, inner, last, rfl, spelled, isOpen, rfl, isClose, rfl⟩, by simp [respan, sameItems]⟩

/-- Tokens with the lexemes of data spell the same data, up to spans. -/
theorem spelledAll_of_lexemes (blank : Span) : (data : List Datum) → {tokens : List Token} →
    tokens.map (·.lexeme) = lexemesAll data →
      ∃ again, SpelledAll again tokens ∧ respanAll blank again = respanAll blank data
  | [], tokens, same => ⟨[], List.map_eq_nil_iff.mp same, rfl⟩
  | datum :: rest, tokens, same => by
    obtain ⟨own, later, rfl, sameOwn, sameRest⟩ := List.map_eq_append_iff.mp same
    obtain ⟨again, spelled, sameDatum⟩ := spelled_of_lexemes blank datum sameOwn
    obtain ⟨others, spelledRest, sameOthers⟩ := spelledAll_of_lexemes blank rest sameRest
    exact ⟨again :: others, ⟨own, later, rfl, spelled, spelledRest⟩,
      by simp [respanAll, sameDatum, sameOthers]⟩

end

mutual

/-- No datum has an unterminated string in it. -/
theorem terminated_lexemes : (datum : Datum) → ∀ lexeme ∈ datum.lexemes, lexeme ≠ .unterminated
  | .symbol _ _ | .string _ _ | .number _ _ => by simp [lexemes]
  | .list items _ => by
    simp only [lexemes, List.cons_append, List.forall_mem_cons, List.forall_mem_append]
    exact ⟨by simp, terminated_lexemesAll items, by simp, by simp⟩

/-- No data have an unterminated string in them. -/
theorem terminated_lexemesAll : (data : List Datum) →
    ∀ lexeme ∈ lexemesAll data, lexeme ≠ .unterminated
  | [] => by simp [lexemesAll]
  | datum :: rest => List.forall_mem_append.mpr
    ⟨terminated_lexemes datum, terminated_lexemesAll rest⟩

end

/-- Data are spelled without unterminated strings. -/
theorem terminated_of_spelledAll {data : List Datum} {tokens : List Token}
    (spelled : SpelledAll data tokens) : ∀ token ∈ tokens, token.lexeme ≠ .unterminated := by
  intro token isToken
  refine terminated_lexemesAll data _ ?_
  rw [← lexemesAll_of_spelled spelled]
  exact List.mem_map_of_mem isToken

/-! ### The stack -/

namespace Stack

/-- The tokens are those of the lists still open, the innermost list given first. -/
def OpenSpelled : List OpenList -> List Token -> Prop
  | [], tokens => tokens = []
  | inner :: outer, tokens => ∃ before first items,
    tokens = before ++ first :: items ∧ OpenSpelled outer before ∧
      first.lexeme = .openList ∧ first.span.start = inner.start ∧
      SpelledAll inner.read.reverse items

/-- The tokens are those that the stack was built from. -/
def Spelled (stack : Stack) (tokens : List Token) : Prop :=
  ∃ outside opened, tokens = outside ++ opened ∧
    SpelledAll stack.read.reverse outside ∧ OpenSpelled stack.lists opened

theorem Spelled.push {stack : Stack} {tokens own : List Token} {datum : Datum}
    (spelled : stack.Spelled tokens) (spelledOwn : datum.Spelled own) :
    (stack.push datum).Spelled (tokens ++ own) := by
  obtain ⟨outside, opened, rfl, spelledOutside, spelledOpen⟩ := spelled
  obtain ⟨lists, read⟩ := stack
  cases lists with
  | nil =>
    cases spelledOpen
    refine ⟨outside ++ own, [], by simp, ?_, rfl⟩
    simp only [Stack.push, List.reverse_cons]
    exact (spelledAll_append ..).mpr
      ⟨outside, own, rfl, spelledOutside, spelledAll_single.mpr spelledOwn⟩
  | cons inner outer =>
    obtain ⟨before, first, items, rfl, spelledOuter, isOpen, starts, spelledItems⟩ := spelledOpen
    refine ⟨outside, before ++ first :: (items ++ own), by simp, spelledOutside,
      before, first, items ++ own, rfl, spelledOuter, isOpen, starts, ?_⟩
    rw [List.reverse_cons]
    exact (spelledAll_append ..).mpr
      ⟨items, own, rfl, spelledItems, spelledAll_single.mpr spelledOwn⟩

/-- A token joins the tokens that the stack was built from. -/
theorem Spelled.add {stack after : Stack} {tokens : List Token} {token : Token}
    (spelled : stack.Spelled tokens) (added : stack.add token = .ok after) :
    after.Spelled (tokens ++ [token]) := by
  obtain ⟨lexeme, span⟩ := token
  cases lexeme with
  | symbol text | number text | string text =>
    cases added
    exact spelled.push rfl
  | openList =>
    cases added
    obtain ⟨outside, opened, rfl, spelledOutside, spelledOpen⟩ := spelled
    exact ⟨outside, opened ++ [⟨.openList, span⟩], by simp, spelledOutside,
      opened, _, [], rfl, spelledOpen, rfl, rfl, rfl⟩
  | closeList =>
    obtain ⟨lists, read⟩ := stack
    cases lists with
    | nil => cases added
    | cons inner outer =>
      cases added
      obtain ⟨outside, opened, rfl, spelledOutside, before, first, items, rfl, spelledOuter,
        isOpen, starts, spelledItems⟩ := spelled
      have rest : Stack.Spelled ⟨outer, read⟩ (outside ++ before) :=
        ⟨outside, before, rfl, spelledOutside, spelledOuter⟩
      have closed : (Datum.list inner.read.reverse ⟨inner.start, span.stop⟩).Spelled
          (first :: items ++ [⟨.closeList, span⟩]) :=
        ⟨first, items, _, rfl, spelledItems, isOpen, starts, rfl, rfl⟩
      simpa using rest.push closed
  | unterminated => cases added

/-- The data read are spelled by the tokens. -/
theorem Spelled.assemble {stack : Stack} {before tokens : List Token} {data : List Datum}
    (spelled : stack.Spelled before) (read : stack.assemble tokens = .ok data) :
    SpelledAll data (before ++ tokens) := by
  induction tokens generalizing stack before with
  | nil =>
    obtain ⟨outside, opened, rfl, spelledOutside, spelledOpen⟩ := spelled
    obtain ⟨lists, outermost⟩ := stack
    cases lists with
    | nil =>
      cases read
      cases spelledOpen
      simpa using spelledOutside
    | cons inner outer => cases read
  | cons token rest inductionHypothesis =>
    unfold Stack.assemble at read
    split at read
    · rename_i after added
      simpa using inductionHypothesis (spelled.add added) read
    · cases read

/-- Several data pushed in turn. -/
def pushAll (stack : Stack) (data : List Datum) : Stack := data.foldl push stack

theorem pushAll_nil (read data : List Datum) :
    pushAll ⟨[], read⟩ data = ⟨[], data.reverse ++ read⟩ := by
  induction data generalizing read with
  | nil => rfl
  | cons datum rest inductionHypothesis =>
    have first : pushAll ⟨[], read⟩ (datum :: rest) = pushAll ⟨[], datum :: read⟩ rest := rfl
    simp [first, inductionHypothesis]

theorem pushAll_cons (inner : OpenList) (outer : List OpenList) (read data : List Datum) :
    pushAll ⟨inner :: outer, read⟩ data =
      ⟨{ inner with read := data.reverse ++ inner.read } :: outer, read⟩ := by
  induction data generalizing inner with
  | nil => rfl
  | cons datum rest inductionHypothesis =>
    have first : pushAll ⟨inner :: outer, read⟩ (datum :: rest) =
        pushAll ⟨{ inner with read := datum :: inner.read } :: outer, read⟩ rest := rfl
    simp [first, inductionHypothesis]

mutual

/-- Reading the tokens of a datum pushes it. -/
theorem assemble_spelled : {datum : Datum} → {own : List Token} → (stack : Stack) →
    (rest : List Token) → datum.Spelled own →
      stack.assemble (own ++ rest) = (stack.push datum).assemble rest
  | .symbol _ _, _, _, _, spelled | .string _ _, _, _, _, spelled
  | .number _ _, _, _, _, spelled => by
    cases spelled
    rfl
  | .list items span, _, stack, rest, spelled => by
    obtain ⟨⟨_, firstSpan⟩, inner, ⟨_, lastSpan⟩, rfl, spelledItems, rfl, starts, rfl, stops⟩ :=
      spelled
    obtain rfl : span = ⟨firstSpan.start, lastSpan.stop⟩ := by rw [starts, stops]
    have opened : stack.assemble
        (⟨.openList, firstSpan⟩ :: inner ++ [⟨.closeList, lastSpan⟩] ++ rest) =
        Stack.assemble ⟨⟨firstSpan.start, []⟩ :: stack.lists, stack.read⟩
          (inner ++ ⟨.closeList, lastSpan⟩ :: rest) := by
      rw [List.append_assoc]
      rfl
    rw [opened, assemble_spelledAll _ _ spelledItems, pushAll_cons]
    simp only [Stack.assemble, Stack.add, List.append_nil, List.reverse_reverse]

/-- Reading the tokens of data pushes them in turn. -/
theorem assemble_spelledAll : {data : List Datum} → {own : List Token} → (stack : Stack) →
    (rest : List Token) → SpelledAll data own →
      stack.assemble (own ++ rest) = (stack.pushAll data).assemble rest
  | [], _, _, _, spelled => by
    cases spelled
    rfl
  | _ :: _, _, stack, rest, spelled => by
    obtain ⟨own, later, rfl, spelledOwn, spelledRest⟩ := spelled
    rw [List.append_assoc, assemble_spelled stack _ spelledOwn,
      assemble_spelledAll _ rest spelledRest]
    rfl

end

end Stack

/-- A text reads as exactly the data that its tokens spell. -/
theorem readAll_eq_ok_iff (text : String) (data : List Datum) :
    readAll text = .ok data ↔ SpelledAll data (Token.ofText text) := by
  constructor
  · intro read
    have none : Stack.empty.Spelled [] := ⟨[], [], rfl, rfl, rfl⟩
    exact none.assemble read
  · intro spelled
    have read := Stack.assemble_spelledAll Stack.empty [] spelled
    rw [List.append_nil] at read
    unfold readAll
    rw [read, Stack.empty, Stack.pushAll_nil]
    simp [Stack.assemble, Stack.close]

/-- A text with the lexemes of certain data reads as these data, up to spans. -/
theorem readAll_of_lexemes (blank : Span) {text : String} {data : List Datum}
    (same : (Token.ofText text).map (·.lexeme) = lexemesAll data) :
    ∃ again, readAll text = .ok again ∧ respanAll blank again = respanAll blank data := by
  obtain ⟨again, spelled, alike⟩ := spelledAll_of_lexemes blank data same
  exact ⟨again, (readAll_eq_ok_iff text again).mpr spelled, alike⟩

end UnitCheck.Datum
