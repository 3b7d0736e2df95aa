import Mathlib.Algebra.Group.Nat.Defs
import Mathlib.Algebra.Ring.Int.Defs
import Mathlib.Data.List.Forall2
import UnitCheck.Proofs.Type.Extent

/-!
# Sizes in words

A size that is counted in words is the exact one as long as nothing on the way to it is
larger than a word counts. Where the exact size fits a word, only the elements of an empty
array can be larger; if a word for them comes out negative, it is taken for that of a type
without a size.
-/

namespace UnitCheck

/-! ### Arithmetic that does not wrap -/

section Words

variable {left right : Int64} {one other : Nat}

/-- Numbers that a word counts are left alone by wrapping. -/
theorem bmod_of_fits {value : Nat} (fits : value < 2 ^ 63) :
    (value : Int).bmod (2 ^ 64) = value := by
  apply Int.bmod_eq_of_le <;> omega

theorem toInt_add_of_fits (isOne : left.toInt = one) (isOther : right.toInt = other)
    (fits : one + other < 2 ^ 63) : (left + right).toInt = (one + other : Nat) := by
  rw [Int64.toInt_add, isOne, isOther]
  exact_mod_cast bmod_of_fits fits

theorem toInt_mul_of_fits (isOne : left.toInt = one) (isOther : right.toInt = other)
    (fits : one * other < 2 ^ 63) : (left * right).toInt = (one * other : Nat) := by
  rw [Int64.toInt_mul, isOne, isOther]
  exact_mod_cast bmod_of_fits fits

/-- A factor may be any number, for what is lost of it by wrapping is lost of the product. -/
theorem toInt_mul_ofNat_of_fits (isOne : left.toInt = one) (fits : one * other < 2 ^ 63) :
    (left * Int64.ofNat other).toInt = (one * other : Nat) := by
  rw [Int64.toInt_mul, Int64.toInt_ofNat', isOne, Int.mul_bmod_bmod]
  exact_mod_cast bmod_of_fits fits

theorem toInt_div_of_fits (isOne : left.toInt = one) (isOther : right.toInt = other)
    (fits : one < 2 ^ 63) : (left / right).toInt = (one / other : Nat) := by
  rw [Int64.toInt_div, isOne, isOther, ← Int.ofNat_tdiv]
  exact bmod_of_fits (lt_of_le_of_lt (Nat.div_le_self _ _) fits)

/-- Words count up to a multiple of any alignment, so where a rounded number fits, what is
divided on the way to it does. -/
theorem toInt_roundUp (isOne : left.toInt = one) (isOther : right.toInt = other)
    (aligned : other ∣ 8) (fits : Extent.ceil one other < 2 ^ 63) :
    (roundUp left right).toInt = Extent.ceil one other := by
  have positive : 0 < other := Nat.pos_of_dvd_of_pos aligned (by decide)
  have above : one ≤ Extent.ceil one other := Extent.le_ceil positive
  have room : other ≤ 2 ^ 63 - Extent.ceil one other := by
    refine Nat.le_of_dvd (Nat.sub_pos_of_lt fits) (Nat.dvd_sub ?_ (Extent.dvd_ceil one other))
    exact Nat.dvd_trans aligned (by decide)
  have sum : (left + right - 1).toInt = (one + other - 1 : Nat) := by
    rw [Int64.toInt_sub, Int64.toInt_add, Int.bmod_sub_bmod, isOne, isOther, Int64.toInt_one]
    have whole : (one : Int) + other - 1 = (one + other - 1 : Nat) := by omega
    rw [whole]
    exact bmod_of_fits (by omega)
  have quotient := toInt_div_of_fits sum isOther (by omega)
  exact toInt_mul_of_fits quotient isOther fits

end Words

/-! ### Fields -/

/-- The words are the size and the alignment of the extent. -/
def Extent.Counted (extent : Extent) (words : Int64 × Int64) : Prop :=
  words.1.toInt = extent.size ∧ words.2.toInt = extent.alignment

section Fields

variable {layout : StructLayout} {size alignment : Int64} {fields : List (Int64 × Int64)}

/-- A struct with a field without a size has no size. -/
theorem placeFields_of_negative (negative : ∃ field ∈ fields, field.1 < 0) :
    placeFields layout size alignment fields = -1 := by
  induction fields generalizing size alignment with
  | nil => simp at negative
  | cons field rest inductionHypothesis =>
    unfold placeFields
    split
    · rfl
    · rename_i positive
      obtain ⟨other, isOther, negative⟩ := negative
      rcases List.mem_cons.mp isOther with rfl | isOther
      · exact absurd negative positive
      · cases layout <;> exact inductionHypothesis ⟨other, isOther, negative⟩

theorem not_negative_of_counted {word : Int64} {value : Nat} (counted : word.toInt = value) :
    ¬word < 0 := by
  rw [Int64.lt_iff_toInt_lt, counted, Int64.toInt_zero]
  omega

/-- Choosing the greater of two words. -/
theorem toInt_greater {left right : Int64} {one other : Nat} (isOne : left.toInt = one)
    (isOther : right.toInt = other) :
    (if left < right then right else left).toInt = (max one other : Nat) := by
  split
  · rename_i less
    rw [Int64.lt_iff_toInt_lt, isOne, isOther] at less
    rw [isOther, Nat.max_eq_right (by omega)]
  · rename_i notLess
    rw [Int64.lt_iff_toInt_lt, isOne, isOther] at notLess
    rw [isOne, Nat.max_eq_left (by omega)]

variable {extents : List Extent} {place least : Nat}

theorem pos_of_aligned {alignment : Nat} (aligned : alignment ∣ 8) : 0 < alignment :=
  Nat.pos_of_dvd_of_pos aligned (by decide)

/-- Fields whose sizes are exact are placed exactly, as long as a word counts where they end. -/
theorem toInt_placeFields (counted : List.Forall₂ Extent.Counted extents fields)
    (aligned : ∀ extent ∈ extents, extent.alignment ∣ 8) (isPlace : size.toInt = place)
    (isLeast : alignment.toInt = least) (leastAligned : least ∣ 8)
    (fits : Extent.next layout (Extent.endOf layout place extents) (Extent.greatest least extents)
      < 2 ^ 63) :
    (placeFields layout size alignment fields).toInt =
      Extent.next layout (Extent.endOf layout place extents) (Extent.greatest least extents) := by
  induction counted generalizing size alignment place least with
  | nil =>
    cases layout with
    | padded => exact toInt_roundUp isPlace isLeast leastAligned fits
    | packed => exact isPlace
  | @cons extent field extents fields isField _ inductionHypothesis =>
    obtain ⟨isSize, isAlignment⟩ := isField
    obtain ⟨first, others⟩ := List.forall_mem_cons.mp aligned
    have reach : Extent.next layout place extent.alignment + extent.size < 2 ^ 63 := by
      refine lt_of_le_of_lt (le_trans ?_ (Extent.le_next ?_)) fits
      · exact Extent.le_endOf (fun other isOther => pos_of_aligned (others other isOther)) _
      · exact lt_of_lt_of_le (pos_of_aligned leastAligned) (Extent.le_greatest least)
    unfold placeFields
    rw [if_neg (not_negative_of_counted isSize)]
    cases layout with
    | padded =>
      have rounded : (roundUp size field.2).toInt = Extent.ceil place extent.alignment :=
        toInt_roundUp isPlace isAlignment first (lt_of_le_of_lt (Nat.le_add_right _ _) reach)
      exact inductionHypothesis others (toInt_add_of_fits rounded isSize reach)
        (toInt_greater isLeast isAlignment) (Extent.max_dvd leastAligned first) fits
    | packed =>
      -- the alignment plays no part, so it may lag behind
      have placed := inductionHypothesis others (toInt_add_of_fits isPlace isSize reach) isLeast
        leastAligned fits
      exact placed

end Fields

/-! ### Types -/

namespace Definitions

variable {definitions : Definitions} {type : Ty} {extent : Extent}

theorem size_fixedArray (element : Ty) (length : Nat) :
    definitions.size (.fixedArray element length) =
      if definitions.size element < 0 then -1
      else definitions.size element * Int64.ofNat length := rfl

theorem counted_prim {name : Prim} (known : name ≠ .unknown) :
    name.extent.Counted (name.size, name.alignment) := by
  unfold Extent.Counted
  revert known
  cases name <;> decide

theorem toInt_greatest {alignment : StructField -> Int64} {extent : StructField -> Extent}
    {fields : List StructField} {start : Int64} {least : Nat} (isLeast : start.toInt = least)
    (same : ∀ field ∈ fields, (alignment field).toInt = (extent field).alignment) :
    (fields.foldl (fun greatest field =>
      if greatest < alignment field then alignment field else greatest) start).toInt =
      Extent.greatest least (fields.map extent) := by
  induction fields generalizing start least with
  | nil => exact isLeast
  | cons field rest inductionHypothesis =>
    obtain ⟨first, others⟩ := List.forall_mem_cons.mp same
    exact inductionHypothesis (toInt_greater isLeast first) others

/-- Alignments are small, so words count them. -/
theorem alignment_of_measures (founded : definitions.Founded)
    (measures : definitions.Measures type extent) :
    (definitions.alignment type).toInt = extent.alignment := by
  induction measures with
  | prim known => exact (counted_prim known).2
  | enum _ known => exact (counted_prim known).2
  | struct name extents _ inductionHypothesis =>
    rw [founded.alignment_struct]
    exact toInt_greatest Int64.toInt_one inductionHypothesis
  | opaquePointer | pointer | array | function => rfl
  | fixedArray _ _ inductionHypothesis | const _ inductionHypothesis
  | mutable _ inductionHypothesis => exact inductionHypothesis

/-- Some part of the type, or all of it, is larger than what a word counts. -/
def Oversized (definitions : Definitions) (type : Ty) : Prop :=
  ∃ part extent, Relation.ReflTransGen definitions.Part part type ∧
    definitions.Measures part extent ∧ 2 ^ 63 ≤ extent.size

theorem Oversized.whole {part : Ty} (oversized : definitions.Oversized part)
    (isPart : definitions.Part part type) : definitions.Oversized type := by
  obtain ⟨inner, extent, within, measures, large⟩ := oversized
  exact ⟨inner, extent, within.tail isPart, measures, large⟩

/-- The size of the type in words is the exact one, or there is none because some part is
too large. -/
def Sized (definitions : Definitions) (type : Ty) (extent : Extent) : Prop :=
  (definitions.size type).toInt = extent.size ∨
    definitions.size type = -1 ∧ definitions.Oversized type

theorem Sized.whole {part : Ty} (sized : definitions.Sized part extent)
    (isPart : definitions.Part part type) (same : definitions.size type = definitions.size part) :
    definitions.Sized type extent := by
  rcases sized with exact | ⟨unknown, oversized⟩
  · exact .inl (same ▸ exact)
  · exact .inr ⟨same ▸ unknown, oversized.whole isPart⟩

theorem sized_fixedArray {element : Ty} {length : Nat}
    (measures : definitions.Measures element extent)
    (sized : extent.size < 2 ^ 63 → definitions.Sized element extent)
    (fits : extent.size * length < 2 ^ 63) : definitions.Sized (.fixedArray element length)
      ⟨extent.size * length, extent.alignment⟩ := by
  unfold Sized
  rw [size_fixedArray]
  split
  · rename_i negative
    refine .inr ⟨rfl, Oversized.whole ?_ (.element element length)⟩
    by_cases elementFits : extent.size < 2 ^ 63
    · rcases sized elementFits with exact | ⟨-, oversized⟩
      · exact absurd negative (not_negative_of_counted exact)
      · exact oversized
    · exact ⟨element, extent, .refl, measures, Nat.le_of_not_lt elementFits⟩
  · rename_i known
    left
    rcases Nat.eq_zero_or_pos length with rfl | some
    · -- the elements may be too large, but there are none
      simp
    · have elementFits : extent.size < 2 ^ 63 :=
        Nat.lt_of_le_of_lt (Nat.le_mul_of_pos_right extent.size some) fits
      rcases sized elementFits with exact | ⟨unknown, -⟩
      · exact toInt_mul_ofNat_of_fits exact fits
      · rw [unknown] at known
        exact absurd (by decide) known

theorem size_struct_of_unknown (founded : definitions.Founded) {name : String} {id : TypeId}
    {field : StructField} (isField : field ∈ (definitions.struct id).fields)
    (unknown : definitions.size field.type = -1) : definitions.size (.struct name id) = -1 := by
  rw [founded.size_struct]
  refine placeFields_of_negative ⟨_, List.mem_map_of_mem isField, ?_⟩
  have negative : (-1 : Int64) < 0 := by decide
  rw [unknown]
  exact negative

theorem sized_struct (founded : definitions.Founded) (name : String) {id : TypeId}
    {extents : StructField -> Extent}
    (measures : ∀ field ∈ (definitions.struct id).fields,
      definitions.Measures field.type (extents field))
    (sized : ∀ field ∈ (definitions.struct id).fields,
      (extents field).size < 2 ^ 63 → definitions.Sized field.type (extents field))
    (fits : (Extent.ofFields (definitions.struct id).layout
      ((definitions.struct id).fields.map extents)).size < 2 ^ 63) :
    definitions.Sized (.struct name id) (.ofFields (definitions.struct id).layout
      ((definitions.struct id).fields.map extents)) := by
  have aligned : ∀ extent ∈ (definitions.struct id).fields.map extents, extent.alignment ∣ 8 := by
    intro extent isExtent
    obtain ⟨field, isField, rfl⟩ := List.mem_map.mp isExtent
    exact (measures field isField).dvd_eight
  have placeable : Extent.Placeable ((definitions.struct id).fields.map extents) :=
    fun extent isExtent => pos_of_aligned (aligned extent isExtent)
  by_cases unknown : ∃ field ∈ (definitions.struct id).fields, definitions.size field.type = -1
  · obtain ⟨field, isField, unknown⟩ := unknown
    refine .inr ⟨size_struct_of_unknown founded isField unknown, ?_⟩
    have fieldFits := Nat.lt_of_le_of_lt
      (Extent.size_le_ofFields placeable (List.mem_map_of_mem isField)) fits
    rcases sized field isField fieldFits with exact | ⟨-, oversized⟩
    · rw [unknown] at exact
      cases exact
    · exact oversized.whole (.field name id field isField)
  · left
    rw [founded.size_struct]
    refine toInt_placeFields ?_ aligned Int64.toInt_zero Int64.toInt_one (Nat.one_dvd 8) fits
    rw [List.forall₂_map_left_iff, List.forall₂_map_right_iff, List.forall₂_same]
    intro field isField
    refine ⟨?_, alignment_of_measures founded (measures field isField)⟩
    have fieldFits := Nat.lt_of_le_of_lt
      (Extent.size_le_ofFields placeable (List.mem_map_of_mem isField)) fits
    exact (sized field isField fieldFits).resolve_right fun ⟨isUnknown, _⟩ =>
      unknown ⟨field, isField, isUnknown⟩

/-- A type whose exact size a word counts has that size, unless a part of it is too large. -/
theorem sized_of_measures (founded : definitions.Founded)
    (measures : definitions.Measures type extent) (fits : extent.size < 2 ^ 63) :
    definitions.Sized type extent := by
  induction measures with
  | prim known => exact .inl (counted_prim known).1
  | enum _ known => exact .inl (counted_prim known).1
  | opaquePointer | pointer | array | function => exact .inl rfl
  | const _ inductionHypothesis => exact (inductionHypothesis fits).whole (.const _) rfl
  | mutable _ inductionHypothesis => exact (inductionHypothesis fits).whole (.mutable _) rfl
  | fixedArray length measures inductionHypothesis =>
    exact sized_fixedArray measures inductionHypothesis fits
  | struct name extents measures inductionHypothesis =>
    exact sized_struct founded name measures inductionHypothesis fits

/-- A type without an exact size has none in words. -/
theorem measures_or_unknown (founded : definitions.Founded) (type : Ty) :
    (∃ extent, definitions.Measures type extent) ∨ definitions.size type = -1 := by
  induction type using founded.wellFounded.induction with
  | _ type inductionHypothesis =>
    cases type with
    | prim name =>
      by_cases known : name = .unknown
      · exact .inr (known ▸ rfl)
      · exact .inl ⟨_, .prim known⟩
    | enum name id =>
      by_cases known : definitions.enumBase id = .unknown
      · right
        change (definitions.enumBase id).size = -1
        rw [known]
        rfl
      · exact .inl ⟨_, .enum name known⟩
    | opaquePointer => exact .inl ⟨_, .opaquePointer⟩
    | pointer element => exact .inl ⟨_, .pointer element⟩
    | array element => exact .inl ⟨_, .array element⟩
    | function params result convention variadic =>
      exact .inl ⟨_, .function params result convention variadic⟩
    | const inner =>
      exact (inductionHypothesis inner (.const inner)).imp_left fun ⟨_, measures⟩ =>
        ⟨_, .const measures⟩
    | mutable inner =>
      exact (inductionHypothesis inner (.mutable inner)).imp_left fun ⟨_, measures⟩ =>
        ⟨_, .mutable measures⟩
    | fixedArray element length =>
      rcases inductionHypothesis element (.element element length) with ⟨_, measures⟩ | unknown
      · exact .inl ⟨_, .fixedArray length measures⟩
      · right
        rw [size_fixedArray, unknown]
        rfl
    | struct name id =>
      by_cases known : ∀ field ∈ (definitions.struct id).fields,
          ∃ extent, definitions.Measures field.type extent
      · choose! extents measures using known
        exact .inl ⟨_, .struct name extents measures⟩
      · push Not at known
        obtain ⟨field, isField, unmeasured⟩ := known
        rcases inductionHypothesis field.type (.field name id field isField) with
          ⟨extent, measures⟩ | unknown
        · exact absurd measures (unmeasured extent)
        · exact .inr (size_struct_of_unknown founded isField unknown)

/-- The size in words is the exact one where a word counts the exact one, if there is one; or it
is unknown, because there is no exact one or because a part is too large. -/
theorem exact_or_unknown (founded : definitions.Founded)
    (fits : ∀ extent, definitions.Measures type extent → extent.size < 2 ^ 63) :
    (∃ extent, definitions.Measures type extent ∧ (definitions.size type).toInt = extent.size) ∨
      definitions.size type = -1 ∧
        ((∀ extent, ¬definitions.Measures type extent) ∨ definitions.Oversized type) := by
  by_cases measured : ∃ extent, definitions.Measures type extent
  · obtain ⟨extent, measures⟩ := measured
    rcases sized_of_measures founded measures (fits extent measures) with
      exact | ⟨unknown, oversized⟩
    · exact .inl ⟨extent, measures, exact⟩
    · exact .inr ⟨unknown, .inr oversized⟩
  · have unknown := (measures_or_unknown founded type).resolve_left measured
    exact .inr ⟨unknown, .inl fun extent measures => measured ⟨extent, measures⟩⟩

/-! ### Values side by side -/

/-- Values of the type that are placed side by side are all aligned. -/
def Tiles (definitions : Definitions) (type : Ty) : Prop :=
  (definitions.alignment type).toInt ∣ (definitions.size type).toInt

theorem tiles_of_exact (founded : definitions.Founded)
    (measures : definitions.Measures type extent)
    (exact : (definitions.size type).toInt = extent.size)
    (divides : extent.alignment ∣ extent.size) : definitions.Tiles type := by
  unfold Tiles
  rw [alignment_of_measures founded measures, exact]
  exact Int.natCast_dvd_natCast.mpr divides

end Definitions
end UnitCheck
