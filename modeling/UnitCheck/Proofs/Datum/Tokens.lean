import UnitCheck.Datum.Reader

/-!
# Texts and their tokens

The tokens of a text cover stretches of it with gaps between them. `Tokenized` says so
without a reader: each token is written in one of few ways, and an atom extends up to a
character that ends it. The reader finds exactly the tokens of that description
(`tokenized_iff`), so any stretch that begins and ends with a token reads as the tokens
in it (`Tokenized.between`).
-/

namespace UnitCheck.Token

/-! ### Ways of writing -/

/-- White space, commas and comments with the ends of their lines. -/
inductive Gap : List Char -> Prop where
  | nil : Gap []
  | separator {c : Char} {rest : List Char} (separates : isSeparator c) (gap : Gap rest) :
      Gap (c :: rest)
  | comment {body rest : List Char} (inLine : '\n' ∉ body) (gap : Gap rest) :
      Gap (';' :: body ++ '\n' :: rest)

/-- What may follow the last token: a gap whose last comment may lack the end of its line. -/
inductive Tail : List Char -> Prop where
  | gap {text : List Char} (gap : Gap text) : Tail text
  | comment {text body : List Char} (gap : Gap text) (inLine : '\n' ∉ body) :
      Tail (text ++ ';' :: body)

/-- The first list of characters, between quotes, is one way to write the second. -/
inductive Quoted : List Char -> List Char -> Prop where
  | nil : Quoted [] []
  | plain {c : Char} {body text : List Char} (notQuote : c ≠ '"') (notSlash : c ≠ '\\')
      (quoted : Quoted body text) : Quoted (c :: body) (c :: text)
  | escaped {c : Char} {body text : List Char} (quoted : Quoted body text) :
      Quoted ('\\' :: c :: body) (unescape c :: text)

/-- The characters are those of an atom. -/
structure IsAtom (text : List Char) : Prop where
  nonempty : text ≠ []
  inside : ∀ c ∈ text, endsAtom c = false

/-- What an atom is. -/
def atomLexeme (text : List Char) : Lexeme :=
  if Numeral.startsNumber text then .number (String.ofList text)
  else .symbol (String.ofList text)

/-- The characters are one way to write the lexeme. -/
inductive Writes : List Char -> Lexeme -> Prop where
  | openList : Writes ['('] .openList
  | closeList : Writes [')'] .closeList
  | atom {text : List Char} (isAtom : IsAtom text) : Writes text (atomLexeme text)
  | string {body text : List Char} (quoted : Quoted body text) :
      Writes ('"' :: body ++ ['"']) (.string (String.ofList text))

/-- Nothing that belongs to an atom follows it. -/
def Ends (text rest : List Char) : Prop :=
  IsAtom text → ∀ c ∈ rest.head?, endsAtom c = true

/-- The text from a point on consists of tokens, with gaps around them. -/
inductive Tokenized : Position -> List Char -> List Token -> Prop where
  | stop {point : Position} {text : List Char} (tail : Tail text) : Tokenized point text []
  | token {point : Position} {gap own rest : List Char} {lexeme : Lexeme} {tokens : List Token}
      (isGap : Gap gap) (writes : Writes own lexeme) (ends : Ends own rest)
      (later : Tokenized ((point.advance gap).advance own) rest tokens) :
      Tokenized point (gap ++ own ++ rest)
        (⟨lexeme, ⟨point.advance gap, (point.advance gap).advance own⟩⟩ :: tokens)

theorem ofAtom_eq (text : List Char) (span : Span) : ofAtom text span = ⟨atomLexeme text, span⟩ := by
  unfold ofAtom atomLexeme
  split <;> rfl

theorem Writes.nonempty {own : List Char} {lexeme : Lexeme} (writes : Writes own lexeme) :
    own ≠ [] := by
  cases writes with
  | atom isAtom => exact isAtom.nonempty
  | _ => simp

/-! ### Characters and what they open -/

/-- What neither separates tokens nor opens anything belongs to an atom. -/
theorem openWith_of_inside (point : Position) {c : Char} (inside : endsAtom c = false) :
    openWith point c = ([], .atom point [c]) := by
  unfold endsAtom at inside
  simp only [Bool.or_eq_false_iff, decide_eq_false_iff_not] at inside
  obtain ⟨⟨⟨⟨separates, isOpen⟩, isClose⟩, isQuote⟩, isComment⟩ := inside
  simp [openWith, separates, isOpen, isClose, isQuote, isComment]

theorem openWith_of_separator (point : Position) {c : Char} (separates : isSeparator c = true) :
    openWith point c = ([], .gap) := by
  simp [openWith, separates]

/-! ### The reader in each mode -/

/-- A comment ends with its line. -/
theorem scan_comment {body : List Char} (inLine : '\n' ∉ body) (point : Position)
    (rest : List Char) :
    scan .comment point (body ++ rest) = scan .comment (point.advance body) rest := by
  induction body generalizing point with
  | nil => rfl
  | cons c body inductionHypothesis =>
    have other : c ≠ '\n' := fun same => inLine (same ▸ List.mem_cons_self)
    rw [List.cons_append, scan, next, if_neg other]
    exact inductionHypothesis (fun inside => inLine (List.mem_cons_of_mem c inside)) _

/-- A gap leaves nothing behind. -/
theorem Gap.scan {gap : List Char} (isGap : Gap gap) (point : Position) (rest : List Char) :
    scan .gap point (gap ++ rest) = Token.scan .gap (point.advance gap) rest := by
  induction isGap generalizing point with
  | nil => rfl
  | separator separates _ inductionHypothesis =>
    rw [List.cons_append, Token.scan, next, openWith_of_separator point separates]
    exact inductionHypothesis _
  | @comment body gap inLine _ inductionHypothesis =>
    have opened : Token.scan .gap point (';' :: body ++ '\n' :: gap ++ rest) =
        Token.scan .comment (point.step ';') (body ++ '\n' :: (gap ++ rest)) := by
      rw [List.append_assoc]
      rfl
    have closed (point : Position) : Token.scan .comment point ('\n' :: (gap ++ rest)) =
        Token.scan .gap (point.step '\n') (gap ++ rest) := rfl
    rw [opened, scan_comment inLine, closed, inductionHypothesis]
    simp [Position.advance_append, Position.advance_cons]

/-- Behind the last token nothing is found. -/
theorem Tail.scan {text : List Char} (tail : Tail text) (point : Position) :
    scan .gap point text = [] := by
  cases tail with
  | gap isGap =>
    have behind := isGap.scan point []
    rw [List.append_nil] at behind
    exact behind
  | @comment _ body isGap inLine =>
    have opened (point : Position) : Token.scan .gap point (';' :: body) =
        Token.scan .comment (point.step ';') (body ++ []) := by
      rw [List.append_nil]
      rfl
    rw [isGap.scan, opened, scan_comment inLine]
    rfl

/-- An atom being read goes on up to a character that ends it. -/
theorem scan_atom (start point : Position) (read : List Char) {own rest : List Char}
    (inside : ∀ c ∈ own, endsAtom c = false) (ends : ∀ c ∈ rest.head?, endsAtom c = true) :
    scan (.atom start read) point (own ++ rest) =
      ⟨atomLexeme (read.reverse ++ own), ⟨start, point.advance own⟩⟩ ::
        scan .gap (point.advance own) rest := by
  induction own generalizing point read with
  | nil =>
    cases rest with
    | nil => simp [scan, finish, ofAtom_eq, Position.advance_nil]
    | cons c rest =>
      have isEnd : endsAtom c = true := ends c rfl
      simp [scan, next, isEnd, ofAtom_eq, Position.advance_nil]
  | cons c own inductionHypothesis =>
    have isInside : endsAtom c = false := inside c List.mem_cons_self
    rw [List.cons_append, scan, next, isInside]
    have behind := inductionHypothesis (point.step c) (c :: read)
      fun other later => inside other (List.mem_cons_of_mem c later)
    simpa [Position.advance_cons] using behind

/-- A string being read goes on up to its quote. -/
theorem scan_string (start point : Position) (read : List Char) {body text : List Char}
    (quoted : Quoted body text) (rest : List Char) :
    scan (.string start read) point (body ++ '"' :: rest) =
      ⟨.string (String.ofList (read.reverse ++ text)), ⟨start, (point.advance body).step '"'⟩⟩ ::
        scan .gap ((point.advance body).step '"') rest := by
  induction quoted generalizing point read with
  | nil => simp [scan, next, Position.advance_nil]
  | @plain c _ _ notQuote notSlash _ inductionHypothesis =>
    rw [List.cons_append, scan, next, if_neg notQuote, if_neg notSlash]
    have behind := inductionHypothesis (point.step c) (c :: read)
    simpa [Position.advance_cons] using behind
  | @escaped c _ _ _ inductionHypothesis =>
    have behind := inductionHypothesis ((point.step '\\').step c) (unescape c :: read)
    simpa [scan, next, Position.advance_cons] using behind

/-- From where a token is written, the reader finds it and goes on behind it. -/
theorem Writes.scan {own rest : List Char} {lexeme : Lexeme} (writes : Writes own lexeme)
    (ends : Ends own rest) (point : Position) :
    scan .gap point (own ++ rest) =
      ⟨lexeme, ⟨point, point.advance own⟩⟩ :: Token.scan .gap (point.advance own) rest := by
  cases writes with
  | openList | closeList => rfl
  | atom isAtom =>
    have behind := ends isAtom
    obtain ⟨nonempty, inside⟩ := isAtom
    cases own with
    | nil => exact absurd rfl nonempty
    | cons c own =>
      have first := inside c List.mem_cons_self
      have opened : Token.scan .gap point (c :: own ++ rest) =
          Token.scan (.atom point [c]) (point.step c) (own ++ rest) := by
        rw [List.cons_append, Token.scan, next, openWith_of_inside point first]
        rfl
      rw [opened, scan_atom _ _ _ (fun other later => inside other (List.mem_cons_of_mem c later))
        behind]
      rfl
  | @string body text quoted =>
    have opened : Token.scan .gap point ('"' :: body ++ ['"'] ++ rest) =
        Token.scan (.string point []) (point.step '"') (body ++ '"' :: rest) := by
      rw [List.append_assoc]
      rfl
    rw [opened, scan_string _ _ _ quoted]
    simp [Position.advance_append, Position.advance_cons, Position.advance_nil]

/-- The reader finds the tokens that a text consists of. -/
theorem Tokenized.scan {point : Position} {text : List Char} {tokens : List Token}
    (tokenized : Tokenized point text tokens) : scan .gap point text = tokens := by
  induction tokenized with
  | stop tail => exact tail.scan _
  | token isGap writes ends _ inductionHypothesis =>
    rw [List.append_assoc, isGap.scan, writes.scan ends, inductionHypothesis]

theorem Tokenized.terminated {point : Position} {text : List Char} {tokens : List Token}
    (tokenized : Tokenized point text tokens) : ∀ token ∈ tokens, token.lexeme ≠ .unterminated := by
  induction tokenized with
  | stop => simp
  | token _ writes _ _ inductionHypothesis =>
    refine List.forall_mem_cons.mpr ⟨?_, inductionHypothesis⟩
    cases writes with
    | atom =>
      simp only [atomLexeme]
      split <;> simp
    | _ => simp

/-! ### Every text has a description -/

theorem Gap.append {first second : List Char} (isGap : Gap first) (behind : Gap second) :
    Gap (first ++ second) := by
  induction isGap with
  | nil => exact behind
  | separator separates _ inductionHypothesis => exact .separator separates inductionHypothesis
  | comment inLine _ inductionHypothesis =>
    rw [List.append_assoc]
    exact .comment inLine inductionHypothesis

theorem Tail.prepend {gap text : List Char} (isGap : Gap gap) (tail : Tail text) :
    Tail (gap ++ text) := by
  cases tail with
  | gap behind => exact .gap (isGap.append behind)
  | comment behind inLine =>
    rw [← List.append_assoc]
    exact .comment (isGap.append behind) inLine

/-- A text is over, or something stands behind a gap. -/
def Splits (text : List Char) : Prop :=
  Tail text ∨ ∃ gap c rest, text = gap ++ c :: rest ∧ Gap gap ∧ isSeparator c = false ∧ c ≠ ';'

theorem Splits.prepend {gap text : List Char} (isGap : Gap gap) (splits : Splits text) :
    Splits (gap ++ text) := by
  obtain tail | ⟨behind, c, rest, rfl, isBehind, ends⟩ := splits
  · exact .inl (tail.prepend isGap)
  · exact .inr ⟨gap ++ behind, c, rest, by simp, isGap.append isBehind, ends⟩

/-- Every text splits, and so does one that starts inside a comment. -/
theorem splits (text : List Char) :
    Splits text ∧ ∀ body, '\n' ∉ body → Splits (';' :: body ++ text) := by
  induction text with
  | nil =>
    refine ⟨.inl (.gap .nil), fun body inLine => .inl ?_⟩
    rw [List.append_nil]
    exact Tail.comment .nil inLine
  | cons c rest inductionHypothesis =>
    obtain ⟨inGap, inComment⟩ := inductionHypothesis
    constructor
    · by_cases separates : isSeparator c = true
      · exact inGap.prepend (.separator separates .nil)
      · by_cases opens : c = ';'
        · subst opens
          exact inComment [] List.not_mem_nil
        · exact .inr ⟨[], c, rest, rfl, .nil, by simpa using separates, opens⟩
    · intro body inLine
      by_cases ends : c = '\n'
      · subst ends
        have again := inGap.prepend (.comment inLine .nil)
        simpa using again
      · have again := inComment (body ++ [c]) (by
          simp only [List.mem_append, List.mem_singleton, not_or]
          exact ⟨inLine, fun same => ends same.symm⟩)
        simpa using again

/-- What follows an opening quote is a string with its closing quote, or the reader never
gets out of the string. The second part is the same behind a backslash. -/
theorem exists_quoted (text : List Char) :
    ((∃ body read rest, text = body ++ '"' :: rest ∧ Quoted body read) ∨
      ∀ start read point, scan (.string start read) point text =
        [⟨.unterminated, ⟨start, point.advance text⟩⟩]) ∧
    ((∃ body read rest, '\\' :: text = body ++ '"' :: rest ∧ Quoted body read) ∨
      ∀ start read point, scan (.escape start read) point text =
        [⟨.unterminated, ⟨start, point.advance text⟩⟩]) := by
  induction text with
  | nil => exact ⟨.inr fun _ _ _ => rfl, .inr fun _ _ _ => rfl⟩
  | cons c rest inductionHypothesis =>
    obtain ⟨plain, escaped⟩ := inductionHypothesis
    constructor
    · by_cases isQuote : c = '"'
      · subst isQuote
        exact .inl ⟨[], [], rest, rfl, .nil⟩
      by_cases isSlash : c = '\\'
      · subst isSlash
        obtain closed | unclosed := escaped
        · exact .inl closed
        · exact .inr fun start read point => unclosed start read _
      obtain ⟨body, read, behind, rfl, quoted⟩ | unclosed := plain
      · exact .inl ⟨c :: body, c :: read, behind, rfl, .plain isQuote isSlash quoted⟩
      · refine .inr fun start read point => ?_
        rw [scan, next, if_neg isQuote, if_neg isSlash]
        exact unclosed start (c :: read) _
    · obtain ⟨body, read, behind, rfl, quoted⟩ | unclosed := plain
      · exact .inl ⟨'\\' :: c :: body, unescape c :: read, behind, rfl, .escaped quoted⟩
      · exact .inr fun start read point => unclosed start (unescape c :: read) _

/-- Where no gap goes on, a token is written or a string is never closed. -/
theorem exists_token (c : Char) (rest : List Char) (separates : isSeparator c = false)
    (notComment : c ≠ ';') :
    (∃ own behind lexeme, c :: rest = own ++ behind ∧ Writes own lexeme ∧ Ends own behind) ∨
      ∀ point : Position, scan .gap point (c :: rest) =
        [⟨.unterminated, ⟨point, point.advance (c :: rest)⟩⟩] := by
  have noAtom {own behind : List Char} (ends : ∃ other ∈ own, endsAtom other = true) :
      Ends own behind := by
    rintro ⟨-, inside⟩
    obtain ⟨other, isOwn, isEnd⟩ := ends
    exact absurd isEnd (by simp [inside other isOwn])
  by_cases isOpen : c = '('
  · subst isOpen
    exact .inl ⟨_, rest, _, rfl, .openList, noAtom ⟨'(', by decide, by decide⟩⟩
  by_cases isClose : c = ')'
  · subst isClose
    exact .inl ⟨_, rest, _, rfl, .closeList, noAtom ⟨')', by decide, by decide⟩⟩
  by_cases isQuote : c = '"'
  · subst isQuote
    obtain ⟨body, read, behind, rfl, quoted⟩ | unclosed := (exists_quoted rest).1
    · exact .inl ⟨'"' :: body ++ ['"'], behind, _, by simp, .string quoted,
        noAtom ⟨'"', by simp, by decide⟩⟩
    · exact .inr fun point => unclosed point [] _
  · have inside : endsAtom c = false := by
      simp [endsAtom, separates, isOpen, isClose, isQuote, notComment]
    refine .inl ⟨c :: rest.takeWhile (!endsAtom ·), rest.dropWhile (!endsAtom ·), _, ?_,
      .atom ⟨by simp, ?_⟩, fun _ other isHead => ?_⟩
    · rw [List.cons_append, List.takeWhile_append_dropWhile]
    · refine List.forall_mem_cons.mpr ⟨inside, fun other isOwn => ?_⟩
      simpa using List.all_eq_true.mp (List.all_takeWhile (l := rest)) other isOwn
    · have behind := List.head?_dropWhile_not (fun other => !endsAtom other) rest
      rw [isHead] at behind
      simpa using behind

/-- Without unterminated strings, a text consists of the tokens that the reader finds. -/
theorem tokenized_scan (point : Position) (text : List Char)
    (terminated : ∀ token ∈ scan .gap point text, token.lexeme ≠ .unterminated) :
    Tokenized point text (scan .gap point text) := by
  obtain tail | ⟨gap, c, rest, rfl, isGap, separates, notComment⟩ := (splits text).1
  · rw [tail.scan]
    exact .stop tail
  · obtain ⟨own, behind, lexeme, split, writes, ends⟩ | unclosed :=
      exists_token c rest separates notComment
    · rw [isGap.scan, split, writes.scan ends] at terminated ⊢
      have shorter : behind.length < (gap ++ c :: rest).length := by
        have positive := List.length_pos_iff.mpr writes.nonempty
        rw [split]
        simp only [List.length_append]
        omega
      rw [← List.append_assoc]
      exact .token isGap writes ends
        (tokenized_scan _ behind fun token later => terminated token (List.mem_cons_of_mem _ later))
    · rw [isGap.scan, unclosed] at terminated
      exact absurd rfl (terminated _ List.mem_cons_self)
termination_by text.length

/-- The description of a text and the reader agree on what its tokens are. -/
theorem tokenized_iff (point : Position) (text : List Char) (tokens : List Token) :
    Tokenized point text tokens ↔
      scan .gap point text = tokens ∧ ∀ token ∈ tokens, token.lexeme ≠ .unterminated := by
  constructor
  · exact fun tokenized => ⟨tokenized.scan, tokenized.terminated⟩
  · rintro ⟨rfl, terminated⟩
    exact tokenized_scan point text terminated

/-! ### Stretches of a text -/

namespace Tokenized

variable {point : Position} {text : List Char} {first : Token} {before own after : List Token}

/-- The same text from another point consists of the same tokens at other places. -/
theorem shift {tokens : List Token} (tokenized : Tokenized point text tokens) (other : Position) :
    ∃ moved, Tokenized other text moved ∧ moved.map (·.lexeme) = tokens.map (·.lexeme) := by
  induction tokenized generalizing other with
  | stop tail => exact ⟨[], .stop tail, rfl⟩
  | @token _ gap own rest lexeme _ isGap writes ends _ inductionHypothesis =>
    obtain ⟨moved, tokenized, same⟩ := inductionHypothesis ((other.advance gap).advance own)
    exact ⟨_, .token isGap writes ends tokenized, by simp [same]⟩

/-- Tokens at the front can be left out with what they cover. -/
theorem drop (tokenized : Tokenized point text (before ++ after)) :
    ∃ front back, text = front ++ back ∧ Tokenized (point.advance front) back after := by
  induction before generalizing point text with
  | nil => exact ⟨[], text, rfl, tokenized⟩
  | cons token before inductionHypothesis =>
    cases tokenized with
    | @token _ gap own rest _ _ _ _ _ later =>
      obtain ⟨front, back, rfl, behind⟩ := inductionHypothesis later
      refine ⟨gap ++ own ++ front, back, by simp, ?_⟩
      simpa [Position.advance_append] using behind

/-- The gap in front of the first token can be left out. -/
theorem dropGap (tokenized : Tokenized point text (first :: after)) :
    ∃ gap back, text = gap ++ back ∧ first.span.start = point.advance gap ∧
      Tokenized (point.advance gap) back (first :: after) := by
  cases tokenized with
  | @token _ gap own rest _ _ _ writes ends later =>
    have again : Tokenized (point.advance gap) ([] ++ own ++ rest) _ :=
      Tokenized.token .nil writes ends later
    exact ⟨gap, own ++ rest, by simp, rfl, again⟩

/-- What follows the last of some tokens can be left out. -/
theorem take (tokenized : Tokenized point text (own ++ after)) (nonempty : own ≠ []) :
    ∃ front back, text = front ++ back ∧ front ≠ [] ∧ Tokenized point front own ∧
      ∀ last ∈ own.getLast?, last.span.stop = point.advance front := by
  induction own generalizing point text with
  | nil => exact absurd rfl nonempty
  | cons token rest inductionHypothesis =>
    cases tokenized with
    | @token _ gap chars behind _ _ isGap writes ends later =>
      cases rest with
      | nil =>
        refine ⟨gap ++ chars, behind, rfl, by simp [writes.nonempty], ?_, ?_⟩
        · have alone : Tokenized point (gap ++ chars ++ []) _ :=
            .token isGap writes (fun _ => by simp) (.stop (.gap .nil))
          rwa [List.append_nil] at alone
        · rintro _ ⟨⟩
          exact (Position.advance_append ..).symm
      | cons second rest =>
        obtain ⟨front, back, rfl, isFront, tokenized, stops⟩ :=
          inductionHypothesis later (by simp)
        refine ⟨gap ++ chars ++ front, back, by simp, by simp [writes.nonempty],
          .token isGap writes (fun isAtom => ?_) tokenized, fun last isLast => ?_⟩
        · obtain ⟨c, others, rfl⟩ := List.exists_cons_of_ne_nil isFront
          exact ends isAtom
        · rw [List.getLast?_cons_cons] at isLast
          rw [stops last isLast]
          simp [Position.advance_append]

/-- Some tokens of a text in a row cover a stretch of it, and the stretch consists of them. -/
theorem between (tokenized : Tokenized point text (before ++ first :: own ++ after)) :
    ∃ front part back, text = front ++ part ++ back ∧
      Tokenized (point.advance front) part (first :: own) ∧
      first.span.start = point.advance front ∧
      ∀ last ∈ (first :: own).getLast?, last.span.stop = point.advance (front ++ part) := by
  rw [List.append_assoc] at tokenized
  obtain ⟨front, back, rfl, dropped⟩ := tokenized.drop
  obtain ⟨gap, back, rfl, starts, trimmed⟩ := dropped.dropGap
  have nonempty : first :: own ≠ [] := by simp
  obtain ⟨part, back, rfl, -, taken, stops⟩ := trimmed.take nonempty
  refine ⟨front ++ gap, part, back, by simp, ?_, ?_, fun last isLast => ?_⟩
  · rwa [Position.advance_append]
  · rwa [Position.advance_append]
  · rw [stops last isLast]
    simp [Position.advance_append]

end Tokenized

end UnitCheck.Token
