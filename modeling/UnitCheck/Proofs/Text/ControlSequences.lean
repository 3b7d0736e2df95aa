import Mathlib.Data.List.Infix
import UnitCheck.Diagnostic.Listing

/-!
# Texts without control sequences

Dropping control sequences goes through a text once, so what stands on both sides of a dropped
sequence becomes neighbours. A new opening of a sequence arises exactly where an escape character
stands ahead of control sequences and a bracket behind them (`hasSequence_stripFrom_iff`). What
was printed with styles from pieces without escape characters is given back as it was
(`strip_printed`).
-/

namespace UnitCheck

namespace Text

variable {text rest parameters : List Char} {c letter : Char}

/-! ### What is dropped -/

/-- No control sequence ends among the characters. -/
def Open (parameters : List Char) : Prop := ∀ c ∈ parameters, isFinalLetter c = false

/-- A control sequence, from its escape character to its first letter. -/
def IsSequence (text : List Char) : Prop :=
  ∃ parameters letter, text = escapeChar :: '[' :: (parameters ++ [letter]) ∧ Open parameters ∧
    isFinalLetter letter = true

/-- The second text is the first one without its control sequences, one of which may lack its
end. An escape character is kept unless a bracket follows it. -/
inductive Strips : List Char -> List Char -> Prop where
  | nil : Strips [] []
  | keep {c : Char} {rest kept : List Char} (alone : c = escapeChar → rest.head? ≠ some '[')
      (strips : Strips rest kept) : Strips (c :: rest) (c :: kept)
  | drop {own rest kept : List Char} (isSequence : IsSequence own) (strips : Strips rest kept) :
      Strips (own ++ rest) kept
  | cut {parameters : List Char} (isOpen : Open parameters) :
      Strips (escapeChar :: '[' :: parameters) []

theorem stripFrom_keep (alone : c = escapeChar → rest.head? ≠ some '[') :
    stripFrom .plain (c :: rest) = c :: stripFrom .plain rest := by
  by_cases isEscape : c = escapeChar
  · subst isEscape
    cases rest with
    | nil => simp [stripFrom]
    | cons next rest =>
      have notBracket : next ≠ '[' := fun same => alone rfl (congrArg some same)
      by_cases again : next = escapeChar
      · subst again
        simp [stripFrom, notBracket]
      · simp [stripFrom, notBracket, again]
  · simp [stripFrom, isEscape]

/-- Inside a control sequence all is dropped up to its letter. -/
theorem stripFrom_open (isOpen : Open parameters) (rest : List Char) :
    stripFrom .sequence (parameters ++ rest) = stripFrom .sequence rest := by
  induction parameters with
  | nil => rfl
  | cons c parameters inductionHypothesis =>
    obtain ⟨notFinal, isOpen⟩ := List.forall_mem_cons.mp isOpen
    rw [List.cons_append, stripFrom, notFinal]
    exact inductionHypothesis isOpen

theorem stripFrom_drop (isSequence : IsSequence text) (rest : List Char) :
    stripFrom .plain (text ++ rest) = stripFrom .plain rest := by
  obtain ⟨parameters, letter, rfl, isOpen, isFinal⟩ := isSequence
  have opened : stripFrom .plain (escapeChar :: '[' :: (parameters ++ [letter]) ++ rest) =
      stripFrom .sequence (parameters ++ letter :: rest) := by
    simp [stripFrom]
  rw [opened, stripFrom_open isOpen, stripFrom, isFinal]
  rfl

theorem stripFrom_cut (isOpen : Open parameters) :
    stripFrom .plain (escapeChar :: '[' :: parameters) = [] := by
  have inside := stripFrom_open isOpen []
  rw [List.append_nil] at inside
  simpa [stripFrom] using inside

/-- Behind a bracket the sequence goes on to the first letter, or to the end. -/
theorem open_or_split (text : List Char) : Open text ∨ ∃ parameters letter rest,
    text = parameters ++ letter :: rest ∧ Open parameters ∧ isFinalLetter letter = true := by
  induction text with
  | nil => exact .inl (by simp [Open])
  | cons c text inductionHypothesis =>
    cases isFinal : isFinalLetter c with
    | true => exact .inr ⟨[], c, text, rfl, by simp [Open], isFinal⟩
    | false =>
      obtain isOpen | ⟨parameters, letter, rest, rfl, isOpen, ends⟩ := inductionHypothesis
      · exact .inl (List.forall_mem_cons.mpr ⟨isFinal, isOpen⟩)
      · exact .inr ⟨c :: parameters, letter, rest, rfl,
          List.forall_mem_cons.mpr ⟨isFinal, isOpen⟩, ends⟩

/-- The scanner drops the control sequences of a text and keeps all else. -/
theorem strips_stripFrom (text : List Char) : Strips text (stripFrom .plain text) := by
  match text with
  | [] => exact .nil
  | c :: rest =>
    by_cases opens : c = escapeChar ∧ rest.head? = some '['
    · obtain ⟨rfl, isBracket⟩ := opens
      obtain ⟨behind, rfl⟩ := List.head?_eq_some_iff.mp isBracket
      obtain isOpen | ⟨parameters, letter, rest, rfl, isOpen, isFinal⟩ := open_or_split behind
      · rw [stripFrom_cut isOpen]
        exact .cut isOpen
      · have isSequence : IsSequence (escapeChar :: '[' :: (parameters ++ [letter])) :=
          ⟨parameters, letter, rfl, isOpen, isFinal⟩
        have split : escapeChar :: '[' :: (parameters ++ letter :: rest) =
            escapeChar :: '[' :: (parameters ++ [letter]) ++ rest := by simp
        rw [split, stripFrom_drop isSequence]
        exact .drop isSequence (strips_stripFrom rest)
    · have alone : c = escapeChar → rest.head? ≠ some '[' :=
        fun isEscape isBracket => opens ⟨isEscape, isBracket⟩
      rw [stripFrom_keep alone]
      exact .keep alone (strips_stripFrom rest)
termination_by text.length

/-! ### Where sequences arise -/

/-- The text opens a control sequence somewhere. -/
def HasSequence (text : List Char) : Prop := [escapeChar, '['] <:+: text

/-- The end of the text is inside a control sequence. -/
def Unfinished (text : List Char) : Prop :=
  ∃ parameters, escapeChar :: '[' :: parameters <:+ text ∧ Open parameters

/-- An escape character stands right ahead of control sequences and a bracket right behind them. -/
def Rejoins (text : List Char) : Prop :=
  ∃ front sequences behind, text = front ++ escapeChar :: (sequences.flatten ++ '[' :: behind) ∧
    ¬Unfinished front ∧ sequences ≠ [] ∧ ∀ own ∈ sequences, IsSequence own

theorem Unfinished.of_suffix {front : List Char} (unfinished : Unfinished front)
    (isSuffix : front <:+ text) : Unfinished text := by
  obtain ⟨parameters, isEnd, isOpen⟩ := unfinished
  exact ⟨parameters, isEnd.trans isSuffix, isOpen⟩

/-- A character that opens no sequence by itself leaves the sequences behind it as they are. -/
theorem Unfinished.of_cons (alone : c = escapeChar → text.head? ≠ some '[')
    (unfinished : Unfinished (c :: text)) : Unfinished text := by
  obtain ⟨parameters, isEnd, isOpen⟩ := unfinished
  obtain same | isEnd := List.suffix_cons_iff.mp isEnd
  · cases same
    exact absurd rfl (alone rfl)
  · exact ⟨parameters, isEnd, isOpen⟩

/-- A finished sequence in front leaves the sequences behind it as they are. -/
theorem Unfinished.of_append {own : List Char} (isSequence : IsSequence own)
    (unfinished : Unfinished (own ++ text)) : Unfinished text := by
  obtain ⟨inside, letter, rfl, -, isFinal⟩ := isSequence
  obtain ⟨parameters, isEnd, isOpen⟩ := unfinished
  have isWhole : letter :: text <:+ escapeChar :: '[' :: (inside ++ [letter]) ++ text :=
    ⟨escapeChar :: '[' :: inside, by simp⟩
  have noLetter : letter ∉ escapeChar :: '[' :: parameters := by
    intro isLetter
    obtain rfl | rfl | isParameter : letter = escapeChar ∨ letter = '[' ∨ letter ∈ parameters := by
      simpa using isLetter
    · cases isFinal
    · cases isFinal
    · cases isFinal.symm.trans (isOpen letter isParameter)
  obtain isShort | isLong := List.suffix_or_suffix_of_suffix isEnd isWhole
  · obtain same | isEnd := List.suffix_cons_iff.mp isShort
    · rw [same] at noLetter
      exact absurd List.mem_cons_self noLetter
    · exact ⟨parameters, isEnd, isOpen⟩
  · exact absurd (isLong.subset List.mem_cons_self) noLetter

theorem IsSequence.head? {own : List Char} (isSequence : IsSequence own) (rest : List Char) :
    (own ++ rest).head? = some escapeChar := by
  obtain ⟨_, _, rfl, _⟩ := isSequence
  rfl

/-- What comes first behind sequences is first when they are dropped. -/
theorem Strips.head {kept : List Char} (strips : Strips text kept)
    (isBracket : kept.head? = some '[') : ∃ sequences behind,
      text = List.flatten sequences ++ '[' :: behind ∧ ∀ own ∈ sequences, IsSequence own := by
  induction strips with
  | nil => cases isBracket
  | @keep c rest kept alone strips _ =>
    cases isBracket
    exact ⟨[], rest, rfl, by simp⟩
  | @drop own rest kept isSequence strips inductionHypothesis =>
    obtain ⟨sequences, behind, rfl, areSequences⟩ := inductionHypothesis isBracket
    exact ⟨own :: sequences, behind, by simp, List.forall_mem_cons.mpr ⟨isSequence, areSequences⟩⟩
  | cut isOpen => cases isBracket

theorem Strips.rejoins {kept : List Char} (strips : Strips text kept)
    (hasSequence : HasSequence kept) : Rejoins text := by
  induction strips with
  | nil | cut isOpen => simp [HasSequence] at hasSequence
  | @keep c rest kept alone strips inductionHypothesis =>
    obtain isFront | isLater := List.infix_cons_iff.mp hasSequence
    · obtain ⟨rfl, ⟨behind, rfl⟩⟩ := List.cons_prefix_cons.mp isFront
      obtain ⟨sequences, behind, rfl, areSequences⟩ := strips.head rfl
      refine ⟨[], sequences, behind, rfl, ?_, ?_, areSequences⟩
      · rintro ⟨parameters, isEnd, -⟩
        simp at isEnd
      · rintro rfl
        exact alone rfl rfl
    · obtain ⟨front, sequences, behind, rfl, finished, some, areSequences⟩ :=
        inductionHypothesis isLater
      refine ⟨c :: front, sequences, behind, rfl, fun unfinished => finished ?_, some,
        areSequences⟩
      refine unfinished.of_cons fun isEscape => ?_
      have notBracket := alone isEscape
      cases front <;> simp_all
  | @drop own rest kept isSequence strips inductionHypothesis =>
    obtain ⟨front, sequences, behind, rfl, finished, some, areSequences⟩ :=
      inductionHypothesis hasSequence
    exact ⟨own ++ front, sequences, behind, by simp,
      fun unfinished => finished (unfinished.of_append isSequence), some, areSequences⟩

theorem Strips.strips_before {front kept : List Char} (strips : Strips front kept)
    (finished : ¬Unfinished front) (alone : rest.head? ≠ some '[') :
    stripFrom .plain (front ++ escapeChar :: rest) =
      kept ++ escapeChar :: stripFrom .plain rest := by
  induction strips with
  | nil => exact stripFrom_keep fun _ => alone
  | @keep c front kept aloneHere strips inductionHypothesis =>
    have finished : ¬Unfinished front := fun unfinished =>
      finished (unfinished.of_suffix (List.suffix_cons c front))
    have aloneStill : c = escapeChar → (front ++ escapeChar :: rest).head? ≠ some '[' := by
      intro isEscape
      have notBracket := aloneHere isEscape
      cases front with
      | nil => simp [escapeChar]
      | cons next front => exact notBracket
    rw [List.cons_append, stripFrom_keep aloneStill, inductionHypothesis finished]
    rfl
  | @drop own front kept isSequence strips inductionHypothesis =>
    have finished : ¬Unfinished front := fun unfinished =>
      finished (unfinished.of_suffix (List.suffix_append own front))
    rw [List.append_assoc, stripFrom_drop isSequence, inductionHypothesis finished]
  | cut isOpen => exact absurd ⟨_, List.suffix_rfl, isOpen⟩ finished

theorem stripFrom_flatten {sequences : List (List Char)}
    (areSequences : ∀ own ∈ sequences, IsSequence own) (rest : List Char) :
    stripFrom .plain (sequences.flatten ++ rest) = stripFrom .plain rest := by
  induction sequences with
  | nil => rfl
  | cons own sequences inductionHypothesis =>
    obtain ⟨isSequence, areSequences⟩ := List.forall_mem_cons.mp areSequences
    rw [List.flatten_cons, List.append_assoc, stripFrom_drop isSequence,
      inductionHypothesis areSequences]

/-- Without its control sequences a text opens one exactly where two characters rejoin. -/
theorem hasSequence_stripFrom_iff (text : List Char) :
    HasSequence (stripFrom .plain text) ↔ Rejoins text := by
  constructor
  · exact (strips_stripFrom text).rejoins
  · rintro ⟨front, sequences, behind, rfl, finished, some, areSequences⟩
    have alone : (sequences.flatten ++ '[' :: behind).head? ≠ Option.some '[' := by
      cases sequences with
      | nil => exact absurd rfl some
      | cons own sequences =>
        have isSequence := areSequences own List.mem_cons_self
        rw [List.flatten_cons, List.append_assoc, isSequence.head?]
        simp [escapeChar]
    rw [(strips_stripFrom front).strips_before finished alone, stripFrom_flatten areSequences,
      stripFrom_keep (by simp [escapeChar])]
    exact ⟨stripFrom .plain front, stripFrom .plain behind, by simp⟩

/-! ### Printed pieces -/

theorem stripFrom_plain_append {piece : List Char} (plain : escapeChar ∉ piece)
    (rest : List Char) : stripFrom .plain (piece ++ rest) = piece ++ stripFrom .plain rest := by
  induction piece with
  | nil => rfl
  | cons c piece inductionHypothesis =>
    obtain ⟨other, plain⟩ := not_or.mp (List.mem_cons.not.mp plain)
    rw [List.cons_append, stripFrom_keep fun isEscape => absurd isEscape.symm other,
      inductionHypothesis plain]
    rfl

theorem isSequence_style (style : Style) : IsSequence style.sequence.toList := by
  refine ⟨style.parameters.toList, 'm', ?_, ?_, rfl⟩
  · simp [Style.sequence, String.toList_append, escapeChar]
  · cases style <;> simp [Open, Style.parameters, isFinalLetter]

/-- A piece of text and a form in which it is printed: as it is, in a style, as a line in a
style, or with no more than the reset behind it. -/
inductive Prints : String -> String -> Prop where
  | plain (piece : String) : Prints piece piece
  | painted (style : Style) (piece : String) : Prints piece (style.paint piece)
  | line (style : Style) (piece : String) : Prints (piece ++ "\n") (style.paintLine piece)
  | unstyled (piece : String) : Prints piece (piece ++ Style.reset.sequence)

/-- A printed piece in front is given back. -/
theorem Prints.stripFrom {piece printed : String} (prints : Prints piece printed)
    (plain : escapeChar ∉ piece.toList) (rest : List Char) :
    Text.stripFrom .plain (printed.toList ++ rest) =
      piece.toList ++ Text.stripFrom .plain rest := by
  cases prints with
  | plain => exact stripFrom_plain_append plain rest
  | painted style piece =>
    simp only [Style.paint, String.toList_append, List.append_assoc]
    rw [stripFrom_drop (isSequence_style style), stripFrom_plain_append plain,
      stripFrom_drop (isSequence_style .reset)]
  | line style piece =>
    rw [String.toList_append, List.mem_append, not_or] at plain
    simp only [Style.paintLine, Style.paint, String.toList_append, List.append_assoc]
    rw [stripFrom_drop (isSequence_style style), stripFrom_plain_append plain.1,
      stripFrom_drop (isSequence_style .reset), stripFrom_plain_append plain.2]
  | unstyled =>
    rw [String.toList_append, List.append_assoc, stripFrom_plain_append plain,
      stripFrom_drop (isSequence_style .reset)]

/-- Printed pieces are given back in a row. -/
theorem strip_printed {pieces printed : List String}
    (plain : ∀ piece ∈ pieces, escapeChar ∉ piece.toList)
    (prints : List.Forall₂ Prints pieces printed) :
    stripStyles (String.join printed) = String.join pieces := by
  suffices same : stripFrom .plain (String.join printed).toList = (String.join pieces).toList by
    rw [stripStyles, same, String.ofList_toList]
  induction prints with
  | nil => rfl
  | cons first _ inductionHypothesis =>
    obtain ⟨plainFirst, plain⟩ := List.forall_mem_cons.mp plain
    rw [String.join_cons, String.join_cons, String.toList_append, String.toList_append,
      first.stripFrom plainFirst, inductionHypothesis plain]

/-! ### Listings -/

theorem not_hasSequence (plain : escapeChar ∉ text) : ¬HasSequence text :=
  fun hasSequence => plain (hasSequence.subset List.mem_cons_self)

theorem hasSequence_append {first second : List Char} (apart : second.head? ≠ some '[') :
    HasSequence (first ++ second) ↔ HasSequence first ∨ HasSequence second := by
  constructor
  · intro hasSequence
    obtain inFirst | inSecond | ⟨front, behind, split, atEnd, atStart⟩ :=
      List.infix_append_iff.mp hasSequence
    · exact .inl inFirst
    · exact .inr inSecond
    · obtain ⟨rfl, rfl⟩ | ⟨front, rfl, later⟩ := List.cons_eq_append_iff.mp split
      · exact .inr atStart.isInfix
      · obtain ⟨rfl, rfl⟩ | ⟨front, rfl, nothing⟩ := List.cons_eq_append_iff.mp later
        · obtain ⟨rest, rfl⟩ := atStart
          exact absurd rfl apart
        · obtain ⟨rfl, rfl⟩ := List.append_eq_nil_iff.mp nothing.symm
          exact .inl atEnd.isInfix
  · rintro (inFirst | inSecond)
    · exact inFirst.trans (List.infix_append_left)
    · exact inSecond.trans (List.infix_append_right)

end Text

namespace Listing

open Text

/-- The severity in words, in the form in which a headline shows it. -/
theorem prints_severity (severity : Severity) :
    Prints severity.text (Listing.severity severity) := by
  cases severity with
  | error | warning | bug => exact .painted _ _
  | other => exact .unstyled _

/-- A diagnostic that is shown without colors starts with its severity. -/
theorem strip_diagnostic (sources : Sources) (diagnostic : Diagnostic) : ∃ rest,
    (finish false (Listing.diagnostic sources diagnostic)).toList =
      diagnostic.severity.text.toList ++ rest := by
  have plain : escapeChar ∉ diagnostic.severity.text.toList := by
    cases diagnostic.severity <;> simp [Severity.text, escapeChar]
  simp only [finish, stripStyles, String.toList_ofList, Bool.false_eq_true, if_false,
    Listing.diagnostic, headline, String.toList_append, List.append_assoc]
  exact ⟨_, (prints_severity diagnostic.severity).stripFrom plain _⟩

/-- Diagnostics that are shown without colors are apart from what stands in front of them. -/
theorem head_diagnostics (sources : Sources) (diagnostics : List Diagnostic) :
    (String.join (diagnostics.map fun diagnostic =>
      finish false (Listing.diagnostic sources diagnostic))).toList.head? ≠ some '[' := by
  cases diagnostics with
  | nil => simp
  | cons diagnostic rest =>
    obtain ⟨shown, same⟩ := strip_diagnostic sources diagnostic
    rw [List.map_cons, String.join_cons, String.toList_append, same]
    cases diagnostic.severity <;> simp [Severity.text]

theorem plain_number (number : Nat) : escapeChar ∉ (toString number).toList := by
  intro isEscape
  have isDigit := Nat.isDigit_of_mem_toDigits (by decide) (by decide)
    (Nat.toList_repr ▸ isEscape : escapeChar ∈ Nat.toDigits 10 number)
  cases isDigit

/-- Words around a number. -/
theorem plain_around {front behind : String} (number : Nat) (plainFront : escapeChar ∉ front.toList)
    (plainBehind : escapeChar ∉ behind.toList) :
    escapeChar ∉ (front ++ toString number ++ behind).toList := by
  rw [String.toList_append, String.toList_append, List.mem_append, List.mem_append, not_or, not_or]
  exact ⟨⟨plainFront, plain_number number⟩, plainBehind⟩

/-- The closing line of a listing is printed in pieces without escape characters. -/
theorem prints_totals (bag : Bag) : ∃ pieces printed, totals bag = String.join printed ∧
    List.Forall₂ Prints pieces printed ∧ (∀ piece ∈ pieces, escapeChar ∉ piece.toList) ∧
      (String.join pieces).toList.head? ≠ some '[' := by
  by_cases failed : 0 < bag.failures
  · let warning := " and " ++ toString (bag.count .warning) ++ " warning(s)"
    refine ⟨["\nCompilation failed with " ++ toString bag.failures ++ " error(s)",
      if 0 < bag.count .warning then warning else "", "\n"],
      [Style.red.paint ("\nCompilation failed with " ++ toString bag.failures ++ " error(s)"),
        if 0 < bag.count .warning then Style.red.paint warning else "", "\n"], ?_, ?_, ?_, ?_⟩
    · simp [totals, failed, warning, String.append_assoc]
    · refine .cons (.painted _ _) (.cons ?_ (.cons (.plain _) .nil))
      split
      · exact .painted _ _
      · exact .plain _
    · have plainWarning : escapeChar ∉ warning.toList :=
        plain_around _ (by simp [escapeChar]) (by simp [escapeChar])
      have plainFailure : escapeChar ∉
          ("\nCompilation failed with " ++ toString bag.failures ++ " error(s)").toList :=
        plain_around _ (by simp [escapeChar]) (by simp [escapeChar])
      simp only [List.forall_mem_cons]
      refine ⟨plainFailure, ?_, by simp [escapeChar], by simp⟩
      split
      · exact plainWarning
      · simp
    · simp [String.toList_append]
  · by_cases warned : 0 < bag.count .warning
    · have plainWarning : escapeChar ∉
          ("\nCompilation succeeded with " ++ toString (bag.count .warning) ++ " warning(s)\n").toList :=
        plain_around _ (by simp [escapeChar]) (by simp [escapeChar])
      refine ⟨[_], [_], ?_, .cons (.painted .orange _) .nil,
        List.forall_mem_singleton.mpr plainWarning, ?_⟩
      · simp [totals, failed, warned]
      · simp [String.toList_append]
    · exact ⟨[], [], by simp [totals, failed, warned], .nil, by simp, by simp⟩

/-- The closing line opens no control sequence when it is shown without colors, and it is apart
from what stands in front of it. -/
theorem strip_totals (bag : Bag) : ¬HasSequence (finish false (totals bag)).toList ∧
    (finish false (totals bag)).toList.head? ≠ some '[' := by
  obtain ⟨pieces, printed, same, prints, plain, apart⟩ := prints_totals bag
  have shown : finish false (totals bag) = String.join pieces := by
    rw [same]
    exact strip_printed plain prints
  rw [shown]
  refine ⟨not_hasSequence ?_, apart⟩
  rw [String.toList_join]
  intro isEscape
  obtain ⟨piece, isPiece, inside⟩ := List.mem_flatMap.mp isEscape
  exact plain piece isPiece inside

end Listing

/-- Without colors a diagnostic opens a control sequence exactly if some of its characters
rejoin. -/
theorem Text.hasSequence_listing_iff (bag : Bag) (sources : Sources) :
    HasSequence (bag.listing sources false).toList ↔
      ∃ diagnostic ∈ bag.diagnostics, Rejoins (Listing.diagnostic sources diagnostic).toList := by
  obtain ⟨noTotals, apart⟩ := Listing.strip_totals bag
  rw [Bag.listing, String.toList_append, hasSequence_append apart, or_iff_left noTotals]
  induction bag.diagnostics with
  | nil => simp [HasSequence]
  | cons diagnostic rest inductionHypothesis =>
    rw [List.map_cons, String.join_cons, String.toList_append,
      hasSequence_append (Listing.head_diagnostics sources rest), inductionHypothesis,
      List.exists_mem_cons_iff, ← hasSequence_stripFrom_iff]
    simp [Listing.finish, stripStyles]

namespace Text

/-- A text without its control sequences opens one only where an escape character stood right
ahead of some and a bracket right behind them, and so does a listing without colors. Pieces
without escape characters are given back whatever the styles they are printed in. -/
theorem styles_stripped (text : String) (bag : Bag) (sources : Sources)
    (pieces printed : List String) (plain : ∀ piece ∈ pieces, escapeChar ∉ piece.toList)
    (prints : List.Forall₂ Prints pieces printed) :
    (HasSequence (stripStyles text).toList ↔ Rejoins text.toList) ∧
    (HasSequence (bag.listing sources false).toList ↔
      ∃ diagnostic ∈ bag.diagnostics, Rejoins (Listing.diagnostic sources diagnostic).toList) ∧
    stripStyles (String.join printed) = String.join pieces := by
  refine ⟨?_, hasSequence_listing_iff bag sources, strip_printed plain prints⟩
  rw [stripStyles, String.toList_ofList]
  exact hasSequence_stripFrom_iff text.toList

/-- A severity without a style, a line in a style and a plain piece are given back. -/
theorem styles_stripped_pieces :
    stripStyles (String.join ["unknown" ++ Style.reset.sequence, Style.bold.paintLine "[m", "x"]) =
      "unknown[m\nx" :=
  (styles_stripped "" ⟨"", []⟩ ⟨[], ⟨[]⟩⟩ ["unknown", "[m" ++ "\n", "x"] _
    (by simp [escapeChar]) (.cons (.unstyled _) (.cons (.line _ _) (.cons (.plain _) .nil)))).2.2

/-- A sequence that stands between an escape character and a bracket leaves another one. -/
theorem stripped_rejoins : HasSequence (stripStyles "\x1b\x1b[m[").toList :=
  ⟨[], [], by decide⟩

end Text
end UnitCheck
