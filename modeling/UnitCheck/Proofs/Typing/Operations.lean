import Mathlib.Tactic.SplitIfs
import UnitCheck.Proofs.Session.Quiet
import UnitCheck.Proofs.Type.Conversions

/-!
# Operations without complaints

An operation about which nothing is said agrees with its typing rule, and whatever
is said about one is an objection.
-/

namespace UnitCheck

namespace Ty

/-- Integers are numbers. -/
theorem isNumeric_of_isInteger {type : Ty} (integer : type.isInteger = true) :
    type.isNumeric = true := by
  simp [isNumeric, integer]

end Ty

namespace Typing

/-! ### What is said is an objection -/

theorem objects_logicalOperand {op : String} {span : Span} {type : Ty} :
    ∀ found ∈ logicalOperand? op span type, found.isObjection = true := by
  intro found said
  unfold logicalOperand? at said
  split at said
  · cases said
  · cases said
    rfl

theorem objects_mismatch {span : Span} {found expected : Ty} :
    ∀ finding ∈ mismatch? span found expected, finding.isObjection = true := by
  intro finding said
  unfold mismatch? at said
  split at said
  · cases said
  · cases said
    rfl

theorem objects_comparison {op : BinaryOp} {span : Span} {left right : Ty} :
    ∀ found ∈ comparison? op span left right, found.isObjection = true := by
  intro found said
  unfold comparison? at said
  split_ifs at said <;> cases said <;> rfl

theorem objects_widened {op : BinaryOp} {span : Span} {left right : Ty} :
    ∀ found ∈ (widened op span left right).2, found.isObjection = true := by
  intro found said
  unfold widened at said
  split at said
  · cases said
  · cases said
    rfl

theorem objects_binaryType {op : BinaryOp} {span : Span} {left right : Ty} :
    ∀ found ∈ (binaryType op span left right).2, found.isObjection = true := by
  intro found said
  unfold binaryType at said
  split_ifs at said
  all_goals first
    | exact objects_comparison found said
    | exact objects_widened found said
    | cases said; try rfl

theorem objects_negateType {span operandSpan : Span} {type : Ty} :
    ∀ found ∈ (negateType span operandSpan type).2, found.isObjection = true := by
  intro found said
  unfold negateType at said
  split_ifs at said <;> cases said <;> rfl

theorem objects_complementType {operandSpan : Span} {type : Ty} :
    ∀ found ∈ (complementType operandSpan type).2, found.isObjection = true := by
  intro found said
  unfold complementType at said
  split_ifs at said <;> cases said
  rfl

theorem objects_elementType {base : Ty} {span : Span} {constant : Option (Literal × Int)} :
    ∀ found ∈ (elementType base span constant).2, found.isObjection = true := by
  intro found said
  unfold elementType at said
  split at said
  · cases said
  · split at said
    · split at said
      · split at said
        · cases said
          rfl
        · cases said
      · cases said
    · cases said
    · cases said
    · cases said
      rfl

theorem objects_overflow {span : Span} {value : Int} {type : Ty} :
    ∀ found ∈ overflow? span value type, found.isObjection = true := by
  intro found said
  unfold overflow? at said
  split at said
  · cases said
  · split at said
    · cases said
    · cases said
      rfl

theorem objects_literalType {defaultInt : Ty} {literal : Literal} {expected : Option Ty}
    {negated : Bool} :
    ∀ found ∈ (literalType defaultInt literal expected negated).2, found.isObjection = true := by
  intro found said
  unfold literalType at said
  split at said
  · unfold integerType at said
    simp only at said
    split at said
    · cases said
    · split at said
      · cases said
        rfl
      · exact objects_overflow found said
  · split at said <;> cases said
  · cases said
  · cases said
  · cases said
  · split at said <;> cases said

/-! ### Rules -/

/-- An operator, other than a logical one, about which nothing is said. -/
theorem binaryRule_of_binaryType {op : BinaryOp} {span : Span} {left right type : Ty}
    (notLogical : op.isLogical = false)
    (judged : binaryType op span left right = (type, none)) :
    BinaryRule op span left right type := by
  have widens (leftNumeric : left.isNumeric = true) (rightNumeric : right.isNumeric = true)
      (known : ¬(left.isUnknown || right.isUnknown) = true)
      (judged : widened op span left right = (type, none)) :
      left.wider? right = some type ∧ Allowed left type ∧ Allowed right type := by
    simp only [Bool.or_eq_true, not_or, Bool.not_eq_true] at known
    unfold widened at judged
    split at judged
    · rename_i wider
      cases judged
      exact ⟨wider, Ty.allowed_of_wider? known.1 known.2 wider⟩
    · cases judged
  unfold BinaryRule
  unfold binaryType at judged
  simp only [notLogical, Bool.false_eq_true, if_false]
  split
  · rename_i compares
    simp only [compares, if_true] at judged
    split at judged
    · rename_i unknown
      cases judged
      simp only [Bool.or_eq_true] at unknown
      exact ⟨rfl, unknown.imp_right .inl⟩
    · obtain ⟨rfl, silent⟩ := Prod.mk.inj judged
      exact ⟨rfl, .inr (.inr silent)⟩
  · rename_i compares
    simp only [compares] at judged
    split
    · rename_i unknown
      simp only [unknown, if_true] at judged
      cases judged
      rfl
    · rename_i known
      simp only [known] at judged
      by_cases bitwise : op.isBitwise = true
      · simp only [bitwise, if_true] at judged
        by_cases integers : (!left.isInteger || !right.isInteger) = true
        · simp only [integers, if_true] at judged
          cases judged
        · simp only [integers] at judged
          simp only [Bool.or_eq_true, Bool.not_eq_true', not_or, Bool.not_eq_false] at integers
          split
          · rename_i shifts
            simp only [shifts, if_true] at judged
            cases judged
            exact ⟨integers.1, integers.2, rfl⟩
          · rename_i shifts
            simp only [shifts] at judged
            have leftNumeric := Ty.isNumeric_of_isInteger integers.1
            have rightNumeric := Ty.isNumeric_of_isInteger integers.2
            obtain ⟨wider, allowed, allowedRight⟩ :=
              widens leftNumeric rightNumeric known judged
            exact ⟨wider, allowed, allowedRight, leftNumeric, rightNumeric, fun _ => integers⟩
      · simp only [bitwise] at judged
        have notShift : op.isShift = false := by
          cases op <;> first | rfl | exact absurd rfl bitwise
        by_cases numbers : (!left.isNumeric || !right.isNumeric) = true
        · simp only [numbers, if_true] at judged
          cases judged
        · simp only [numbers] at judged
          simp only [Bool.or_eq_true, Bool.not_eq_true', not_or, Bool.not_eq_false] at numbers
          obtain ⟨wider, allowed, allowedRight⟩ := widens numbers.1 numbers.2 known judged
          simp only [notShift, Bool.false_eq_true, if_false]
          exact ⟨wider, allowed, allowedRight, numbers.1, numbers.2,
            fun isBitwise => absurd isBitwise bitwise⟩

theorem negateRule_of_negateType {span operandSpan : Span} {operand type : Ty}
    (judged : negateType span operandSpan operand = (type, none)) : NegateRule operand type := by
  unfold negateType at judged
  unfold NegateRule
  split_ifs at judged ⊢ with unknown unsigned numeric
  · cases judged
    rfl
  · cases judged
  · cases judged
  · cases judged
    exact ⟨by simpa using numeric, by simpa using unsigned, rfl⟩

theorem complementRule_of_complementType {operandSpan : Span} {operand type : Ty}
    (judged : complementType operandSpan operand = (type, none)) :
    ComplementRule operand type := by
  unfold complementType at judged
  unfold ComplementRule
  split_ifs at judged ⊢ with unknown integer
  · cases judged
    rfl
  · cases judged
  · cases judged
    exact ⟨by simpa using integer, rfl⟩

/-- A logical operand about which nothing is said is a truth value. -/
theorem truth_of_logicalOperand {op : String} {span : Span} {type : Ty}
    (silent : logicalOperand? op span type = none) : Truth type := by
  unfold logicalOperand? at silent
  split at silent
  · rename_i fine
    simpa [Truth] using fine
  · cases silent

/-- A value about which nothing is said is allowed where it stands. -/
theorem allowed_of_mismatch {span : Span} {found expected : Ty}
    (silent : mismatch? span found expected = none) : Allowed found expected := by
  unfold mismatch? at silent
  split at silent
  · assumption
  · cases silent

end Typing
end UnitCheck
