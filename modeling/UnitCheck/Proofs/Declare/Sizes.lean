import UnitCheck.Proofs.Declare.Founded
import UnitCheck.Proofs.Type.Sizes

/-!
# Sizes of the types of a unit

Behind the first pass a size in words is the exact one wherever a word counts the exact one,
apart from arrays of no elements, and every type then takes up a multiple of its alignment,
apart from packed structs and arrays of them: their fields are placed side by side, and the
alignments of the fields are asked for all the same.
-/

namespace UnitCheck.Declare

/-- What the named types of a unit are, behind the first pass. -/
def declared (unit : Option Module) (options : Options) : Definitions :=
  ((Session.start unit options).step .declare).definitions

variable (unit : Option Module) (options : Options) (type : Ty)

theorem founded_definitions : (declared unit options).Founded := by
  rw [declared, (cleared_declared unit options).1]
  exact founded_searched unit options

/-! ### Units to look at -/

/-- The types of the globals of a unit, behind the first pass. -/
def globalTypes : List Ty :=
  let session := (Session.start unit options).step .declare
  session.table.globals.filterMap fun symbol => (session.knownOf symbol.id).type

/-- A unit of one packed struct with two fields of the named types. -/
def packedPair (first second : String) : Module :=
  let middle := 21 + first.length
  let last := middle + 5 + second.length
  ⟨"unit", [.struct ⟨[⟨"packed", none, .ofLine 8 15⟩], some ⟨"P", .ofLine 16 17⟩,
    [⟨⟨"a", .ofLine 19 20⟩, .named first (.ofLine 21 middle), .ofLine 18 (middle + 1)⟩,
      ⟨⟨"b", .ofLine (middle + 3) (middle + 4)⟩, .named second (.ofLine (middle + 5) last),
        .ofLine (middle + 2) (last + 1)⟩],
    .ofLine 0 (last + 2)⟩], some (.ofLine 0 (last + 2))⟩

/-- What the struct of such a unit is, behind the first pass. -/
abbrev pairTypes (first second : String) : Definitions :=
  declared (some (packedPair first second)) .standard

/-- What a packed struct of two fields of builtin types takes up. -/
theorem measures_packedPair (definitions : Definitions) (id : TypeId) (first second : Prim)
    (known : first ≠ .unknown ∧ second ≠ .unknown)
    (packed : (definitions.struct id).layout = .packed)
    (fields : (definitions.struct id).fields.map (·.type.prim?) = [some first, some second])
    (name : String) : definitions.Measures (.struct name id)
      (.ofFields .packed [first.extent, second.extent]) := by
  have bothKnown : ∀ builtin ∈ [first, second], builtin ≠ .unknown := by simpa using known
  have measures := Definitions.measures_of_prims name bothKnown fields
  rw [packed] at measures
  exact measures

/-! ### Exact sizes -/

/-- Where a word counts the exact size of a type, if it has one, the size in words is the exact
one, or it is unknown: because the type has no exact size, or because the elements of an empty
array in it are too large. -/
theorem size_exact_or_unknown
    (fits : ∀ extent, (declared unit options).Measures type extent → extent.size < 2 ^ 63) :
    (∃ extent, (declared unit options).Measures type extent ∧
        ((declared unit options).size type).toInt = extent.size) ∨
      (declared unit options).size type = -1 ∧
        ((∀ extent, ¬(declared unit options).Measures type extent) ∨
          (declared unit options).Oversized type) :=
  Definitions.exact_or_unknown (founded_definitions unit options) fits

/-- Three packed pairs side by side take up what their fields do. -/
theorem size_exact_or_unknown_pairs :
    Module.decode "unit" "(struct @packed P (a u8) (b s32))" = .ok (packedPair "u8" "s32") ∧
      (∀ extent, (pairTypes "u8" "s32").Measures (.fixedArray (.struct "P" 0) 3) extent →
        extent.size < 2 ^ 63) ∧
      ∃ extent, (pairTypes "u8" "s32").Measures (.fixedArray (.struct "P" 0) 3) extent ∧
        ((pairTypes "u8" "s32").size (.fixedArray (.struct "P" 0) 3)).toInt = extent.size := by
  have pair := measures_packedPair (pairTypes "u8" "s32") 0 .u8 .s32 (by decide)
    (by decide +kernel) (by decide +kernel) "P"
  have fits : ∀ extent, (pairTypes "u8" "s32").Measures (.fixedArray (.struct "P" 0) 3) extent →
      extent.size < 2 ^ 63 := by
    intro extent measures
    rw [measures.unique (.fixedArray 3 pair)]
    decide
  refine ⟨Module.decode_chars (by cbv), fits, ?_⟩
  rcases size_exact_or_unknown (some (packedPair "u8" "s32")) .standard
    (.fixedArray (.struct "P" 0) 3) fits with exact | ⟨unknown, -⟩
  · exact exact
  · exact absurd unknown (by decide +kernel)

/-- Arrays of a builtin type have no names in them, so those built alike are equal. -/
theorem eq_of_same_fixedArray {type : Ty} {name : Prim} {length : Nat}
    (same : type.same (.fixedArray (.prim name) length) = true) :
    type = .fixedArray (.prim name) length := by
  cases type with
  | fixedArray element other =>
    obtain ⟨sameLength, sameElement⟩ := Bool.and_eq_true_iff.mp same
    cases element with
    | prim builtin => rw [of_decide_eq_true sameLength, of_decide_eq_true sameElement]
    | _ => cases sameElement
  | _ => cases same

/-- An array of as many words as fill the memory takes up nothing, in words. -/
theorem long_array_wraps :
    ∃ unit, Module.decode "unit" "(type T (array u64 2305843009213693952))" = .ok unit ∧
      .fixedArray (.prim .u64) 2305843009213693952 ∈ globalTypes (some unit) .standard ∧
      (declared (some unit) .standard).Measures
        (.fixedArray (.prim .u64) 2305843009213693952) ⟨2 ^ 64, 8⟩ ∧
      (declared (some unit) .standard).size (.fixedArray (.prim .u64) 2305843009213693952) = 0 := by
  have declares : ((Module.decode "unit" "(type T (array u64 2305843009213693952))").toOption.any
      fun unit => (globalTypes (some unit) .standard).any
        (·.same (.fixedArray (.prim .u64) 2305843009213693952))) = true := by
    decide +kernel
  cases decoded : Module.decode "unit" "(type T (array u64 2305843009213693952))" with
  | error fault =>
    rw [decoded] at declares
    cases declares
  | ok unit =>
    rw [decoded] at declares
    obtain ⟨type, isGlobal, isArray⟩ := List.any_eq_true.mp declares
    rw [eq_of_same_fixedArray isArray] at isGlobal
    refine ⟨unit, rfl, isGlobal, .fixedArray _ (.prim (by decide)), ?_⟩
    change (if (8 : Int64) < 0 then -1 else 8 * Int64.ofNat 2305843009213693952) = 0
    decide +kernel

/-! ### Alignments -/

/-- Where a word counts the exact size of a type and the type stores no ragged struct, its size
is a multiple of its alignment if it is known. -/
theorem tiles_of_not_ragged
    (fits : ∀ extent, (declared unit options).Measures type extent → extent.size < 2 ^ 63)
    (known : (declared unit options).size type ≠ -1)
    (even : ∀ id, type.Stores id → ¬(declared unit options).Ragged id) :
    (declared unit options).Tiles type := by
  have founded := founded_definitions unit options
  rcases Definitions.exact_or_unknown founded fits with ⟨extent, measures, exact⟩ | ⟨unknown, -⟩
  · exact Definitions.tiles_of_exact founded measures exact (measures.dvd_size even)
  · exact absurd unknown known

/-- A packed pair of short words is aligned like one of them, and takes up two. -/
theorem tiles_of_not_ragged_pairs :
    Module.decode "unit" "(struct @packed P (a u16) (b s16))" = .ok (packedPair "u16" "s16") ∧
      (pairTypes "u16" "s16").Tiles (.fixedArray (.struct "P" 0) 3) := by
  have pair := measures_packedPair (pairTypes "u16" "s16") 0 .u16 .s16 (by decide)
    (by decide +kernel) (by decide +kernel)
  refine ⟨Module.decode_chars (by cbv), tiles_of_not_ragged _ _ _ ?_ (by decide +kernel) ?_⟩
  · intro extent measures
    rw [measures.unique (.fixedArray 3 (pair "P"))]
    decide
  · rintro id stores ⟨-, name, extent, measures, indivisible⟩
    have isPair : id = 0 := by
      cases stores with
      | fixedArray _ stores => cases stores with | struct => rfl
    rw [isPair] at measures
    rw [measures.unique (pair name)] at indivisible
    exact indivisible (by decide)

/-- A packed pair of a byte and a word takes up five bytes and is aligned to four. -/
theorem packed_pair_not_tiles :
    Module.decode "unit" "(struct @packed P (a u8) (b s32))" = .ok (packedPair "u8" "s32") ∧
      .struct "P" 0 ∈ globalTypes (some (packedPair "u8" "s32")) .standard ∧
      (pairTypes "u8" "s32").Measures (.struct "P" 0) ⟨5, 4⟩ ∧
      (pairTypes "u8" "s32").size (.struct "P" 0) = 5 ∧
      ¬(pairTypes "u8" "s32").Tiles (.struct "P" 0) := by
  have pair := measures_packedPair (pairTypes "u8" "s32") 0 .u8 .s32 (by decide)
    (by decide +kernel) (by decide +kernel) "P"
  have isLast : (globalTypes (some (packedPair "u8" "s32")) .standard).getLast? =
      some (.struct "P" 0) := by
    rfl
  refine ⟨Module.decode_chars (by cbv), List.mem_of_getLast? isLast, pair, by decide +kernel, ?_⟩
  unfold Definitions.Tiles
  decide +kernel

end UnitCheck.Declare
