import Mathlib.Data.List.Induction
import Mathlib.Order.Nat
import UnitCheck.Source.Span

/-!
# Points reached by reading

A point reached by reading a text from its start counts what was read: lines, characters
of the line and bytes (`counts_advance`). Of two such points of one text the one with
fewer bytes in front of it is the earlier one by line and column too
(`before_of_prefixes`).
-/

namespace UnitCheck.Position

/-- Moving past a character moves forward. -/
theorem index_lt_step (point : Position) (c : Char) :
    point.index < (point.step c).index := by
  have positive := Char.utf8Size_pos c
  unfold step
  split
  · exact Nat.lt_succ_self _
  · exact Nat.lt_add_of_pos_right positive

/-! ### Counting -/

/-- The point stands behind the text: its line is one more than the line feeds in it, its
column one more than the characters behind the last of them, its offset the bytes. -/
structure Counts (point : Position) (text : String) : Prop where
  line : point.line = 1 + text.toList.count '\n'
  column : point.column = 1 + (text.toList.reverse.takeWhile (· ≠ '\n')).length
  index : point.index = text.utf8ByteSize

/-- Reading a text from its start leads to the point behind it. -/
theorem counts_advance (text : List Char) : (start.advance text).Counts (String.ofList text) := by
  induction text using List.reverseRecOn with
  | nil => exact ⟨rfl, rfl, rfl⟩
  | append_singleton text c inductionHypothesis =>
    obtain ⟨line, column, index⟩ := inductionHypothesis
    have step : start.advance (text ++ [c]) = (start.advance text).step c := advance_append ..
    have size : (String.ofList (text ++ [c])).utf8ByteSize =
        (String.ofList text).utf8ByteSize + c.utf8Size := by
      rw [String.ofList_append, String.utf8ByteSize_append, ← String.utf8ByteSize_singleton]
      simp
    rw [String.toList_ofList] at line column
    by_cases feed : c = '\n'
    · subst feed
      have behind : (start.advance text).step '\n' =
          ⟨(start.advance text).line + 1, 1, (start.advance text).index + 1⟩ := rfl
      rw [step, behind]
      refine ⟨?_, by simp, ?_⟩
      · simp [line, Nat.add_assoc]
      · rw [size, index]
        rfl
    · have behind : (start.advance text).step c = ⟨(start.advance text).line,
          (start.advance text).column + 1, (start.advance text).index + c.utf8Size⟩ := if_neg feed
      rw [step, behind]
      refine ⟨?_, ?_, ?_⟩
      · simp [line, feed]
      · simp [column, feed, Nat.add_assoc]
      · rw [size, index]

/-! ### Order -/

theorem before_iff (left right : Position) : left.before right = true ↔
    left.line < right.line ∨ left.line = right.line ∧ left.column < right.column := by
  unfold before
  split <;> simp only [decide_eq_true_eq] <;> omega

theorem before_step (point : Position) (c : Char) : point.before (point.step c) = true := by
  rw [before_iff]
  unfold step
  split
  · exact .inl (Nat.lt_succ_self _)
  · exact .inr ⟨rfl, Nat.lt_succ_self _⟩

theorem before_trans {first second third : Position} (left : first.before second = true)
    (right : second.before third = true) : first.before third = true := by
  rw [before_iff] at *
  omega

theorem not_before_of_before {left right : Position} (isBefore : left.before right = true) :
    right.before left = false := by
  rw [← Bool.not_eq_true, before_iff]
  rw [before_iff] at isBefore
  omega

theorem not_before_self (point : Position) : point.before point = false := by
  rw [← Bool.not_eq_true, before_iff]
  omega

/-- Reading on leads forward, by both counts. -/
theorem before_advance (point : Position) {text : List Char} (nonempty : text ≠ []) :
    point.before (point.advance text) = true ∧ point.index < (point.advance text).index := by
  induction text generalizing point with
  | nil => exact absurd rfl nonempty
  | cons c rest inductionHypothesis =>
    have first := point.before_step c
    have forward := point.index_lt_step c
    rw [advance_cons]
    cases rest with
    | nil => exact ⟨first, forward⟩
    | cons next others =>
      obtain ⟨later, further⟩ := inductionHypothesis (point.step c) (by simp)
      exact ⟨before_trans first later, forward.trans further⟩

theorem index_le_advance (point : Position) (text : List Char) :
    point.index ≤ (point.advance text).index := by
  cases text with
  | nil => exact le_refl _
  | cons c rest => exact (point.before_advance (by simp)).2.le

/-- Of two points of one text the order by line and column is the order by bytes. -/
theorem before_of_prefixes {text first second : List Char} (isFirst : first <+: text)
    (isSecond : second <+: text) :
    (start.advance first).before (start.advance second) =
      decide ((start.advance first).index < (start.advance second).index) := by
  obtain ⟨more, rfl⟩ | ⟨more, rfl⟩ := List.prefix_or_prefix_of_prefix isFirst isSecond
  · rw [advance_append]
    by_cases empty : more = []
    · simp [empty, advance_nil, not_before_self]
    · obtain ⟨isBefore, forward⟩ := before_advance (start.advance first) empty
      simp [isBefore, forward]
  · rw [advance_append]
    by_cases empty : more = []
    · simp [empty, advance_nil, not_before_self]
    · obtain ⟨isBefore, forward⟩ := before_advance (start.advance second) empty
      simp [not_before_of_before isBefore, forward.le]

end UnitCheck.Position
