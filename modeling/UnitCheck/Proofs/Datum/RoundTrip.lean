import Mathlib.Data.List.Infix
import UnitCheck.Proofs.Datum.Lexemes
import UnitCheck.Proofs.Datum.Tokens

/-!
# Data written and read again

Data that were read from some text, each written on one line with a blank between
neighbours, read as the same data; only their spans are new (`readAll_render`). Names and
numbers go through the trip since a reader never makes others than it can read again,
and strings since a backslash and a quote are the only characters that need an escape.
-/

namespace UnitCheck

/-! ### Lexemes as they are written -/

/-- How a lexeme is written on one line. -/
def Lexeme.chars : Lexeme -> List Char
  | .symbol text | .number text => text.toList
  | .string text => Datum.quoteChars text.toList
  | .openList => ['(']
  | .closeList => [')']
  | .unterminated => []

namespace Token

/-- Any text can be written between quotes. -/
theorem quoted_escape (text : List Char) : Quoted (text.flatMap Datum.escapeChar) text := by
  induction text with
  | nil => exact .nil
  | cons c rest inductionHypothesis =>
    rw [List.flatMap_cons]
    by_cases special : c = '\\' ∨ c = '"'
    · have written : Datum.escapeChar c = ['\\', c] := by
        obtain rfl | rfl := special <;> rfl
      have stands : unescape c = c := by
        obtain rfl | rfl := special <;> rfl
      have quoted : Quoted ('\\' :: c :: rest.flatMap Datum.escapeChar) (unescape c :: rest) :=
        .escaped inductionHypothesis
      rw [written]
      rwa [stands] at quoted
    · obtain ⟨notSlash, notQuote⟩ := not_or.mp special
      have written : Datum.escapeChar c = [c] := by simp [Datum.escapeChar, notSlash, notQuote]
      rw [written]
      exact .plain notQuote notSlash inductionHypothesis

/-- A lexeme that can be written at all can be written on one line. -/
theorem Writes.chars {own : List Char} {lexeme : Lexeme} (writes : Writes own lexeme) :
    Writes lexeme.chars lexeme := by
  cases writes with
  | openList => exact .openList
  | closeList => exact .closeList
  | atom isAtom =>
    have same : (atomLexeme own).chars = own := by
      unfold atomLexeme
      split <;> simp [Lexeme.chars]
    rw [same]
    exact .atom isAtom
  | @string _ text _ =>
    have again := quoted_escape (String.ofList text).toList
    rw [String.toList_ofList] at again
    simpa [Lexeme.chars, Datum.quoteChars] using Writes.string again

/-- Every token that a text consists of has a lexeme that can be written. -/
theorem Tokenized.writes {point : Position} {text : List Char} {tokens : List Token}
    (tokenized : Tokenized point text tokens) :
    ∀ token ∈ tokens, ∃ own, Writes own token.lexeme := by
  induction tokenized with
  | stop => simp
  | token _ writes _ _ inductionHypothesis =>
    exact List.forall_mem_cons.mpr ⟨⟨_, writes⟩, inductionHypothesis⟩

/-! ### Texts by their lexemes -/

/-- Wherever the text is read, it consists of tokens with these lexemes. -/
def Consists (text : List Char) (lexemes : List Lexeme) : Prop :=
  ∀ point, ∃ tokens, Tokenized point text tokens ∧ tokens.map (·.lexeme) = lexemes

namespace Consists

variable {text own : List Char} {lexeme : Lexeme} {lexemes : List Lexeme}

theorem nil : Consists [] [] :=
  fun _ => ⟨[], .stop (.gap .nil), rfl⟩

/-- A separator in front changes nothing. -/
theorem separator {c : Char} (separates : isSeparator c = true) (consists : Consists text lexemes) :
    Consists (c :: text) lexemes := by
  intro point
  obtain ⟨_, tokenized, same⟩ := consists (point.step c)
  cases tokenized with
  | stop tail => exact ⟨[], .stop (tail.prepend (.separator separates .nil)), same⟩
  | @token _ gap own rest lexeme tokens isGap writes ends later =>
    have longer : Gap (c :: gap) := .separator separates isGap
    refine ⟨_, ?_, same⟩
    exact Tokenized.token longer writes ends later

/-- A token in front. -/
theorem token (writes : Writes own lexeme) (ends : Ends own text)
    (consists : Consists text lexemes) : Consists (own ++ text) (lexeme :: lexemes) := by
  intro point
  obtain ⟨tokens, tokenized, same⟩ := consists (point.advance own)
  have longer : Tokenized point ([] ++ own ++ text) _ := .token .nil writes ends tokenized
  exact ⟨_, longer, by simp [same]⟩

/-- The text reads as tokens with these lexemes. -/
theorem ofText {text : String} (consists : Consists text.toList lexemes) :
    (Token.ofText text).map (·.lexeme) = lexemes := by
  obtain ⟨tokens, tokenized, same⟩ := consists .start
  rw [Token.ofText, tokenized.scan, same]

end Consists
end Token

/-! ### Data as they are written -/

namespace Datum

open Token

/-- The lexemes can be written, each by itself. -/
def Writable (lexemes : List Lexeme) : Prop :=
  ∀ lexeme ∈ lexemes, ∃ own, Writes own lexeme

/-- The text is over or goes on with a character that ends an atom. -/
def Bounded (text : List Char) : Prop :=
  ∀ c ∈ text.head?, endsAtom c = true

variable {rest : List Char} {lexemes : List Lexeme}

theorem joinedChars_cons_cons (datum next : Datum) (others : List Datum) :
    joinedChars (datum :: next :: others) = datum.chars ++ ' ' :: joinedChars (next :: others) := by
  simp [joinedChars]

/-- An atom or a parenthesis as it is written, in front of a bounded text. -/
theorem consists_lexeme {lexeme : Lexeme} (writable : ∃ own, Writes own lexeme)
    (bounded : Bounded rest) (consists : Consists rest lexemes) :
    Consists (lexeme.chars ++ rest) (lexeme :: lexemes) := by
  obtain ⟨own, writes⟩ := writable
  exact consists.token writes.chars fun _ => bounded

mutual

/-- A datum as it is written consists of its lexemes. -/
theorem consists_chars : (datum : Datum) → {rest : List Char} → {lexemes : List Lexeme} →
    Writable datum.lexemes → Bounded rest → Consists rest lexemes →
      Consists (datum.chars ++ rest) (datum.lexemes ++ lexemes)
  | .symbol _ _, _, _, writable, bounded, consists
  | .string _ _, _, _, writable, bounded, consists
  | .number _ _, _, _, writable, bounded, consists =>
    consists_lexeme (writable _ List.mem_cons_self) bounded consists
  | .list items _, rest, lexemes, writable, bounded, consists => by
    have inner : Writable (lexemesAll items) := by
      intro lexeme isInner
      exact writable lexeme (by simp [Datum.lexemes, isInner])
    have close : Consists (')' :: rest) (.closeList :: lexemes) :=
      consists_lexeme ⟨_, .closeList⟩ bounded consists
    have behind := consists_joinedChars items inner (fun _ isHead => by cases isHead; rfl) close
    have opened : Consists ('(' :: (joinedChars items ++ ')' :: rest)) _ :=
      behind.token .openList fun isAtom => absurd (isAtom.inside '(' (by simp)) (by decide)
    simpa [chars, Datum.lexemes] using opened

/-- Several data as they are written consist of their lexemes. -/
theorem consists_joinedChars : (data : List Datum) → {rest : List Char} →
    {lexemes : List Lexeme} → Writable (lexemesAll data) → Bounded rest → Consists rest lexemes →
      Consists (joinedChars data ++ rest) (lexemesAll data ++ lexemes)
  | [], _, _, _, _, consists => consists
  | [datum], _, _, writable, bounded, consists => by
    have whole := consists_chars datum (fun lexeme inside => writable lexeme (by
      simpa [lexemesAll] using inside)) bounded consists
    simpa [joinedChars, lexemesAll] using whole
  | datum :: next :: others, rest, lexemes, writable, bounded, consists => by
    have own : Writable datum.lexemes := fun lexeme inside =>
      writable lexeme (List.mem_append_left _ inside)
    have later : Writable (lexemesAll (next :: others)) := fun lexeme inside =>
      writable lexeme (List.mem_append_right _ inside)
    have blank := (consists_joinedChars (next :: others) later bounded consists).separator
      (c := ' ') (by decide)
    have whole := consists_chars datum own (fun _ isHead => by cases isHead; decide) blank
    rw [joinedChars_cons_cons, lexemesAll, List.append_assoc, List.append_assoc]
    exact whole

end

/-- The lexemes of data that were read can be written. -/
theorem writable_of_readAll {text : String} {data : List Datum} (read : readAll text = .ok data) :
    Writable (lexemesAll data) := by
  have spelled := (readAll_eq_ok_iff text data).mp read
  have terminated := terminated_of_spelledAll spelled
  have tokenized := tokenized_scan .start text.toList terminated
  rw [← lexemesAll_of_spelled spelled]
  intro lexeme inside
  obtain ⟨token, isToken, rfl⟩ := List.mem_map.mp inside
  exact tokenized.writes token isToken

/-- The data on one line. -/
theorem toList_intercalate_render (data : List Datum) :
    (" ".intercalate (data.map render)).toList = joinedChars data := by
  rw [String.toList_intercalate, List.map_map]
  induction data with
  | nil => rfl
  | cons datum rest inductionHypothesis =>
    cases rest with
    | nil => simp [joinedChars, render]
    | cons next others =>
      rw [joinedChars_cons_cons, ← inductionHypothesis]
      simp [render]

/-- Data that were read, written on one line and read again are the same data, up to
their spans. -/
theorem readAll_render (text : String) (data : List Datum) (read : readAll text = .ok data) :
    ∃ again, readAll (" ".intercalate (data.map render)) = .ok again ∧
      ∀ blank, respanAll blank again = respanAll blank data := by
  have consists : Consists (" ".intercalate (data.map render)).toList (lexemesAll data) := by
    have bounded : Bounded [] := fun _ isHead => by cases isHead
    have whole := consists_joinedChars data (writable_of_readAll read) bounded .nil
    rw [toList_intercalate_render]
    simpa using whole
  obtain ⟨again, readAgain, -⟩ := readAll_of_lexemes default consists.ofText
  refine ⟨again, readAgain, fun blank => ?_⟩
  obtain ⟨other, readOther, same⟩ := readAll_of_lexemes blank consists.ofText
  cases readAgain.symm.trans readOther
  exact same

/-- A comma, a comment, an escape without effect and one with effect on the same trip. -/
theorem readAll_render_escapes :
    let data : List Datum := [.list [.symbol "a" ⟨⟨1, 2, 1⟩, ⟨1, 3, 2⟩⟩,
      .string "x\nq\"" ⟨⟨1, 4, 3⟩, ⟨1, 13, 12⟩⟩, .number "-7" ⟨⟨2, 1, 15⟩, ⟨2, 3, 17⟩⟩]
      ⟨⟨1, 1, 0⟩, ⟨2, 4, 18⟩⟩]
    readAll "(a,\"x\\n\\q\\\"\";c\n-7)" = .ok data ∧
      " ".intercalate (data.map render) = "(a \"x\nq\\\"\" -7)" ∧
      ∃ again, readAll (" ".intercalate (data.map render)) = .ok again ∧
        ∀ blank, respanAll blank again = respanAll blank data := by
  intro data
  have read : readAll "(a,\"x\\n\\q\\\"\";c\n-7)" = .ok data := readAll_chars (by rfl)
  exact ⟨read, by decide +kernel, readAll_render _ _ read⟩

end Datum
end UnitCheck
