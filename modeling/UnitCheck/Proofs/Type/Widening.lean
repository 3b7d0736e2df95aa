import Mathlib.Algebra.Ring.Int.Parity
import UnitCheck.Proofs.Type.Conversions
import UnitCheck.Proofs.Typing.LiteralTypes

/-!
# What widening keeps

An integer type is a range, and a float type represents the integers that are few enough
significant binary digits followed by zeros. A widening from an integer type keeps every
value if the target has a binary digit for each digit of the source. That is so for all
widenings but those of the two widest integer types to the wider float type, where from
some value on every odd integer is lost.
-/

namespace UnitCheck

namespace Prim

/-- The binary digits that a float type has for the significant digits of a value. -/
def precision : Prim -> Nat
  | .f32 => 24
  | .f64 => 53
  | _ => 0

/-- The integer is a value of the number type: one in its range, or one whose significant
binary digits a float has room for. -/
def Represents (name : Prim) (value : Int) : Prop :=
  if name.isFloat then
    ∃ (significand : Int) (exponent : Nat),
      |significand| < 2 ^ name.precision ∧ value = significand * 2 ^ exponent
  else name.Holds value

theorem represents_iff_holds {name : Prim} (notFloat : name.isFloat = false) (value : Int) :
    name.Represents value ↔ name.Holds value := by
  unfold Represents
  rw [notFloat, if_neg Bool.false_ne_true]

/-- The binary digits that an integer type has for the magnitude of a value. -/
def digits (name : Prim) : Nat :=
  if name.isSigned then name.bits - 1 else name.bits

/-- An integer type reaches as far below zero, if it reaches there, as above. -/
theorem holds_iff (name : Prim) (value : Int) : name.Holds value ↔
    (if name.isSigned then -(2 : Int) ^ name.digits else 0) ≤ value ∧
      value < (2 : Int) ^ name.digits := by
  unfold Holds digits
  split <;> rfl

theorem abs_le_of_holds {name : Prim} {value : Int} (holds : name.Holds value) :
    |value| ≤ 2 ^ name.digits := by
  obtain ⟨lower, upper⟩ := (holds_iff name value).mp holds
  have positive : (0 : Int) < 2 ^ name.digits := by positivity
  rw [abs_le]
  refine ⟨le_trans ?_ lower, upper.le⟩
  split <;> omega

/-- A range with at least the digits and the sign of another one includes it. -/
theorem holds_of_digits {narrow wide : Prim} {value : Int} (holds : narrow.Holds value)
    (sign : narrow.isSigned = true → wide.isSigned = true)
    (room : narrow.digits ≤ wide.digits) : wide.Holds value := by
  rw [holds_iff] at holds ⊢
  obtain ⟨lower, upper⟩ := holds
  have farther : (2 : Int) ^ narrow.digits ≤ 2 ^ wide.digits :=
    pow_le_pow_right₀ (by norm_num) room
  have positive : (0 : Int) < 2 ^ narrow.digits := by positivity
  refine ⟨le_trans ?_ lower, lt_of_lt_of_le upper farther⟩
  split
  · split <;> omega
  · rename_i wideUnsigned
    rw [if_neg fun narrowSigned => wideUnsigned (sign narrowSigned)]

/-- A float represents the integers whose digits it has room for. -/
theorem represents_of_abs_lt {float : Prim} (isFloat : float.isFloat = true) {value : Int}
    (small : |value| < 2 ^ float.precision) : float.Represents value := by
  unfold Represents
  rw [if_pos isFloat]
  exact ⟨value, 0, small, by simp⟩

/-- An odd integer has no zeros to leave out, so a float needs room for all its digits. -/
theorem abs_lt_of_represents {float : Prim} (isFloat : float.isFloat = true) {value : Int}
    (odd : Odd value) (represents : float.Represents value) : |value| < 2 ^ float.precision := by
  unfold Represents at represents
  rw [if_pos isFloat] at represents
  obtain ⟨significand, exponent, small, rfl⟩ := represents
  have noZeros : exponent = 0 := by
    by_contra zeros
    have even : Even ((2 : Int) ^ exponent) := even_two.pow_of_ne_zero zeros
    exact Int.not_even_iff_odd.mpr odd (even.mul_left significand)
  rw [noZeros, pow_zero, mul_one]
  exact small

/-! ### Widenings from integer types -/

/-- An integer type widens to integer types only that have its sign and its digits. -/
theorem digits_of_widenings {narrow wide : Prim} (widens : wide ∈ narrow.widenings)
    (notFloat : wide.isFloat = false) :
    (narrow.isSigned = true → wide.isSigned = true) ∧ narrow.digits ≤ wide.digits := by
  have kept : ∀ wide ∈ narrow.widenings, wide.isFloat = false →
      (narrow.isSigned = true → wide.isSigned = true) ∧ narrow.digits ≤ wide.digits := by
    cases narrow <;> decide
  exact kept wide widens notFloat

/-- The float that an integer type widens to has more digits, unless the integers are the
widest ones. -/
theorem digits_lt_precision_iff {narrow wide : Prim} (widens : wide ∈ narrow.widenings)
    (notFloat : narrow.isFloat = false) (isFloat : wide.isFloat = true) :
    narrow.digits < wide.precision ↔ narrow.bits ≠ 64 := by
  have kept : ∀ wide ∈ narrow.widenings, narrow.isFloat = false → wide.isFloat = true →
      (narrow.digits < wide.precision ↔ narrow.bits ≠ 64) := by
    cases narrow <;> decide
  exact kept wide widens notFloat isFloat

/-- An odd integer with more binary digits than any float type has room for. -/
def firstLost : Int := 2 ^ 53 + 1

theorem not_represents_firstLost {float : Prim} (isFloat : float.isFloat = true) :
    ¬float.Represents firstLost := by
  intro represents
  have small := abs_lt_of_represents isFloat ⟨2 ^ 52, by norm_num [firstLost]⟩ represents
  have digits : float.precision ≤ 53 := by cases float <;> decide
  have room : (2 : Int) ^ float.precision ≤ 2 ^ 53 := pow_le_pow_right₀ (by norm_num) digits
  have large : (2 : Int) ^ 53 ≤ |firstLost| := by norm_num [firstLost]
  omega

/-- The widest integer types reach beyond it. -/
theorem holds_firstLost {name : Prim} (notFloat : name.isFloat = false) (widest : name.bits = 64) :
    name.Holds firstLost := by
  have digits : 63 ≤ name.digits := by
    cases name <;> simp_all [bits, isFloat, Prim.digits, isSigned]
  have reach : (2 : Int) ^ 63 ≤ 2 ^ name.digits := pow_le_pow_right₀ (by norm_num) digits
  rw [holds_iff]
  unfold firstLost
  constructor
  · split <;> omega
  · omega

/-- Widening an integer type keeps all its values unless it is one of the widest and
widens to a float. -/
theorem represents_of_widenings_iff {narrow wide : Prim} (widens : wide ∈ narrow.widenings)
    (notFloat : narrow.isFloat = false) :
    (∀ value, narrow.Holds value → wide.Represents value) ↔
      ¬(narrow.bits = 64 ∧ wide.isFloat = true) := by
  constructor
  · rintro keeps ⟨widest, isFloat⟩
    exact not_represents_firstLost isFloat (keeps _ (holds_firstLost notFloat widest))
  · intro apart value holds
    cases isFloat : wide.isFloat with
    | true =>
      have room : narrow.digits < wide.precision :=
        (digits_lt_precision_iff widens notFloat isFloat).mpr fun widest =>
          apart ⟨widest, isFloat⟩
      refine represents_of_abs_lt isFloat (lt_of_le_of_lt (abs_le_of_holds holds) ?_)
      exact pow_lt_pow_right₀ (by norm_num) room
    | false =>
      obtain ⟨sign, room⟩ := digits_of_widenings widens isFloat
      exact (represents_iff_holds isFloat value).mpr (holds_of_digits holds sign room)

end Prim

namespace Ty

/-- The integer is a value of the number type, below its qualifiers. -/
def Represents (type : Ty) (value : Int) : Prop :=
  ∃ name, type.unwrap = .prim name ∧ name.Represents value

theorem represents_iff {type : Ty} {name : Prim} (below : type.unwrap = .prim name) (value : Int) :
    type.Represents value ↔ name.Represents value := by
  unfold Represents
  rw [below]
  constructor
  · rintro ⟨_, ⟨⟩, represents⟩
    exact represents
  · exact fun represents => ⟨name, rfl, represents⟩

theorem isPrim_of_unwrap {type : Ty} {name : Prim} (below : type.unwrap = .prim name)
    (property : Prim -> Bool) : type.isPrim property = property name := by
  unfold isPrim prim?
  rw [below]
  rfl

/-- An implicit widening from an integer type keeps every value, which is then in the range
of the target or represented by it exactly; only a widening from a 64-bit integer type to a
float does not. -/
theorem widening_keeps_values_iff (source target : Ty) (widens : source.widensTo target = true)
    (isInteger : source.isInteger = true) :
    (∀ value, source.Represents value → target.Represents value) ↔
      ¬((source.unwrap = .prim .s64 ∨ source.unwrap = .prim .u64) ∧ target.isFloat = true) := by
  obtain ⟨narrow, wide, sourceIs, targetIs, member⟩ := (widensTo_iff source target).mp widens
  unfold Ty.isInteger Ty.isSigned Ty.isUnsigned at isInteger
  unfold Ty.isFloat
  rw [isPrim_of_unwrap sourceIs, isPrim_of_unwrap sourceIs] at isInteger
  rw [isPrim_of_unwrap targetIs, sourceIs]
  have notFloat : narrow.isFloat = false := by
    revert isInteger
    cases narrow <;> decide
  have widest : narrow.bits = 64 ↔ Ty.prim narrow = .prim .s64 ∨ Ty.prim narrow = .prim .u64 := by
    cases narrow <;> simp_all [Prim.bits, Prim.isFloat]
  have kept : (∀ value, source.Represents value → target.Represents value) ↔
      ∀ value, narrow.Holds value → wide.Represents value := by
    refine forall_congr' fun value => ?_
    rw [represents_iff sourceIs, represents_iff targetIs, Prim.represents_iff_holds notFloat]
  rw [kept, Prim.represents_of_widenings_iff member notFloat, widest]

/-- A constant short word keeps its value as a float. -/
theorem widening_keeps_values_iff_short :
    (const (.prim .s16)).widensTo (.prim .f32) = true ∧ (const (.prim .s16)).isInteger = true ∧
      ∀ value, (const (.prim .s16)).Represents value → (prim .f32).Represents value := by
  refine ⟨by decide, by decide, (widening_keeps_values_iff _ _ (by decide) (by decide)).mpr ?_⟩
  rintro ⟨isWidest | isWidest, -⟩ <;> cases isWidest

/-- A word of 64 bits widens to the wider float without a cast, although it holds a value that
no float represents. -/
theorem widening_loses_value :
    (prim .s64).isInteger = true ∧ (prim .s64).widensTo (.prim .f64) = true ∧
      (prim .s64).compatibility (.prim .f64) = .lossless ∧
      (prim .s64).Represents Prim.firstLost ∧ ¬(prim .f64).Represents Prim.firstLost := by
  refine ⟨by decide, by decide, by decide, ?_, ?_⟩
  · have holds : Prim.s64.Holds Prim.firstLost := Prim.holds_firstLost rfl rfl
    exact (represents_iff rfl _).mpr ((Prim.represents_iff_holds rfl _).mpr holds)
  · intro represents
    exact Prim.not_represents_firstLost rfl ((represents_iff rfl _).mp represents)

end Ty
end UnitCheck
