import Mathlib.Order.Bounds.Basic
import UnitCheck.Proofs.Type.Containment

/-!
# Exact sizes

What a type takes up when sizes are numbers of any size and not words: an array its
elements side by side, a padded struct its fields each at the next multiple of its
alignment and itself up to a multiple of the greatest one, a packed struct its fields side
by side. A type that has the unknown type in place takes up nothing that could be said.

Sizes in words are compared with these in `UnitCheck.Proofs.Type.Sizes`.
-/

namespace UnitCheck

/-- How many bytes the values of a type take up, and what the places of such values are
multiples of. -/
structure Extent where
  size : Nat
  alignment : Nat
deriving Repr, DecidableEq, Inhabited

namespace Extent

/-- The least multiple of the unit that is not below the size. -/
def ceil (size unit : Nat) : Nat := (size + unit - 1) / unit * unit

section Ceil

variable {size unit : Nat}

theorem dvd_ceil (size unit : Nat) : unit ∣ ceil size unit := Nat.dvd_mul_left _ _

theorem le_ceil (positive : 0 < unit) : size ≤ ceil size unit := by
  have rest := Nat.mod_lt (size + unit - 1) positive
  have whole := Nat.div_add_mod' (size + unit - 1) unit
  unfold ceil
  omega

/-- Rounding up is by less than the unit. -/
theorem ceil_lt (size : Nat) (positive : 0 < unit) : ceil size unit < size + unit := by
  have whole := Nat.div_mul_le_self (size + unit - 1) unit
  unfold ceil
  omega

theorem isLeast_ceil (positive : 0 < unit) :
    IsLeast {multiple | unit ∣ multiple ∧ size ≤ multiple} (ceil size unit) := by
  refine ⟨⟨dvd_ceil size unit, le_ceil positive⟩, ?_⟩
  rintro _ ⟨⟨factor, rfl⟩, bound⟩
  obtain ⟨other, isOther⟩ := dvd_ceil size unit
  have below := ceil_lt size positive
  rw [isOther] at below ⊢
  have fewer : unit * other < unit * (factor + 1) := by
    rw [Nat.mul_add_one]
    omega
  exact Nat.mul_le_mul_left unit (Nat.lt_succ_iff.mp (Nat.lt_of_mul_lt_mul_left fewer))

end Ceil

/-- The next place from a place on, where places are kept to the alignment or packed. -/
def next (layout : StructLayout) (place alignment : Nat) : Nat :=
  match layout with
  | .padded => ceil place alignment
  | .packed => place

/-- Where the last of the fields ends that are placed from a place on. -/
def endOf (layout : StructLayout) (place : Nat) : List Extent -> Nat
  | [] => place
  | field :: rest => endOf layout (next layout place field.alignment + field.size) rest

/-- The greatest alignment among the fields, and at least the given one. -/
def greatest (least : Nat) : List Extent -> Nat
  | [] => least
  | field :: rest => greatest (max least field.alignment) rest

/-- What a struct of these fields takes up, so that another one could follow. -/
def ofFields (layout : StructLayout) (fields : List Extent) : Extent where
  size := next layout (endOf layout 0 fields) (greatest 1 fields)
  alignment := greatest 1 fields

/-! ### Fields -/

section Fields

variable {layout : StructLayout} {fields : List Extent}

theorem le_next {place alignment : Nat} (positive : 0 < alignment) :
    place ≤ next layout place alignment := by
  cases layout with
  | padded => exact le_ceil positive
  | packed => exact Nat.le_refl place

theorem le_greatest (least : Nat) : least ≤ greatest least fields := by
  induction fields generalizing least with
  | nil => exact Nat.le_refl least
  | cons field rest inductionHypothesis =>
    exact Nat.le_trans (Nat.le_max_left _ _) (inductionHypothesis _)

theorem max_dvd {one other bound : Nat} (first : one ∣ bound) (second : other ∣ bound) :
    max one other ∣ bound := by
  rw [Nat.max_def]
  split <;> assumption

theorem greatest_dvd {least bound : Nat} (divides : least ∣ bound)
    (all : ∀ field ∈ fields, field.alignment ∣ bound) : greatest least fields ∣ bound := by
  induction fields generalizing least with
  | nil => exact divides
  | cons field rest inductionHypothesis =>
    obtain ⟨first, others⟩ := List.forall_mem_cons.mp all
    exact inductionHypothesis (max_dvd divides first) others

/-- Every field keeps its places to a multiple of some number. -/
def Placeable (fields : List Extent) : Prop :=
  ∀ field ∈ fields, 0 < field.alignment

theorem le_endOf (placeable : Placeable fields) (place : Nat) :
    place ≤ endOf layout place fields := by
  induction fields generalizing place with
  | nil => exact Nat.le_refl place
  | cons field rest inductionHypothesis =>
    obtain ⟨positive, others⟩ := List.forall_mem_cons.mp placeable
    calc
      place ≤ next layout place field.alignment := le_next positive
      _ ≤ next layout place field.alignment + field.size := Nat.le_add_right _ _
      _ ≤ endOf layout place (field :: rest) := inductionHypothesis others _

/-- Every field fits in front of the end. -/
theorem size_le_endOf (placeable : Placeable fields) (place : Nat) {field : Extent}
    (isField : field ∈ fields) : field.size ≤ endOf layout place fields := by
  induction fields generalizing place with
  | nil => cases isField
  | cons first rest inductionHypothesis =>
    obtain ⟨-, others⟩ := List.forall_mem_cons.mp placeable
    rcases List.mem_cons.mp isField with rfl | isField
    · exact Nat.le_trans (Nat.le_add_left _ _) (le_endOf others _)
    · exact inductionHypothesis others _ isField

/-- A struct is as large as any of its fields. -/
theorem size_le_ofFields (placeable : Placeable fields) {field : Extent}
    (isField : field ∈ fields) : field.size ≤ (ofFields layout fields).size :=
  Nat.le_trans (size_le_endOf placeable 0 isField) (le_next (le_greatest 1))

end Fields

end Extent

/-- The size of a builtin type in bytes. -/
def Prim.bytes : Prim -> Nat
  | .bool | .char => 1
  | .addr => 8
  | name => name.bits / 8

/-- A builtin type is aligned to its own size. -/
def Prim.extent (name : Prim) : Extent := ⟨name.bytes, max 1 name.bytes⟩

theorem Prim.dvd_extent (name : Prim) : name.extent.alignment ∣ name.extent.size := by
  cases name <;> decide

namespace Definitions

/-- The exact size and alignment of a type, where it has one. -/
inductive Measures (definitions : Definitions) : Ty -> Extent -> Prop
  | prim {name : Prim} (known : name ≠ .unknown) : Measures definitions (.prim name) name.extent
  | opaquePointer : Measures definitions .opaquePointer ⟨8, 8⟩
  | pointer (element : Ty) : Measures definitions (.pointer element) ⟨8, 8⟩
  /-- A pointer to the elements and their number. -/
  | array (element : Ty) : Measures definitions (.array element) ⟨16, 8⟩
  | function (params : List Ty) (result : Ty) (convention : String) (variadic : Bool) :
      Measures definitions (.function params result convention variadic) ⟨8, 8⟩
  | fixedArray {element : Ty} {extent : Extent} (length : Nat)
      (measures : Measures definitions element extent) :
      Measures definitions (.fixedArray element length) ⟨extent.size * length, extent.alignment⟩
  | const {inner : Ty} {extent : Extent} (measures : Measures definitions inner extent) :
      Measures definitions (.const inner) extent
  | mutable {inner : Ty} {extent : Extent} (measures : Measures definitions inner extent) :
      Measures definitions (.mutable inner) extent
  | enum (name : String) {id : TypeId} (known : definitions.enumBase id ≠ .unknown) :
      Measures definitions (.enum name id) (definitions.enumBase id).extent
  | struct (name : String) {id : TypeId} (extent : StructField -> Extent)
      (fields : ∀ field ∈ (definitions.struct id).fields,
        Measures definitions field.type (extent field)) :
      Measures definitions (.struct name id)
        (.ofFields (definitions.struct id).layout ((definitions.struct id).fields.map extent))

variable {definitions : Definitions} {type : Ty} {extent : Extent}

/-- A type has one exact size and alignment at most. -/
theorem Measures.unique {other : Extent} (measures : definitions.Measures type extent)
    (again : definitions.Measures type other) : extent = other := by
  induction measures generalizing other with
  | fixedArray length _ inductionHypothesis =>
    cases again with
    | fixedArray _ again => rw [inductionHypothesis again]
  | const _ inductionHypothesis =>
    cases again with
    | const again => exact inductionHypothesis again
  | mutable _ inductionHypothesis =>
    cases again with
    | mutable again => exact inductionHypothesis again
  | struct name extents fields inductionHypothesis =>
    cases again with
    | struct _ others again =>
      have same : ∀ field ∈ _, extents field = others field := fun field isField =>
        inductionHypothesis field isField (again field isField)
      rw [List.map_congr_left same]
  | _ => cases again; rfl

/-- Alignments are one, two, four and eight. -/
theorem Measures.dvd_eight (measures : definitions.Measures type extent) :
    extent.alignment ∣ 8 := by
  induction measures with
  | @prim name _ => cases name <;> decide
  | @enum _ id _ => cases definitions.enumBase id <;> decide
  | struct _ _ _ inductionHypothesis =>
    refine Extent.greatest_dvd (Nat.one_dvd 8) fun field isField => ?_
    obtain ⟨original, isOriginal, rfl⟩ := List.mem_map.mp isField
    exact inductionHypothesis original isOriginal
  | opaquePointer | pointer | array | function => exact Nat.dvd_refl 8
  | fixedArray _ _ inductionHypothesis | const _ inductionHypothesis
  | mutable _ inductionHypothesis => exact inductionHypothesis

/-- Qualifiers take up nothing. -/
theorem measures_of_prim? {name : Prim} (known : name ≠ .unknown) :
    (type : Ty) -> type.prim? = some name -> definitions.Measures type name.extent
  | .prim _, isPrim => by
    cases isPrim
    exact .prim known
  | .const inner, isPrim => .const (measures_of_prim? known inner isPrim)
  | .mutable inner, isPrim => .mutable (measures_of_prim? known inner isPrim)
  | .opaquePointer, isPrim | .pointer _, isPrim | .array _, isPrim | .fixedArray _ _, isPrim
  | .struct _ _, isPrim | .enum _ _, isPrim | .function _ _ _ _, isPrim => by cases isPrim

/-- A struct whose fields have builtin types. -/
theorem measures_of_prims {id : TypeId} {names : List Prim} (name : String)
    (known : ∀ name ∈ names, name ≠ .unknown)
    (fields : (definitions.struct id).fields.map (·.type.prim?) = names.map some) :
    definitions.Measures (.struct name id)
      (.ofFields (definitions.struct id).layout (names.map Prim.extent)) := by
  have extents : names.map Prim.extent = (definitions.struct id).fields.map fun field =>
      ((field.type.prim?).map Prim.extent).getD ⟨0, 1⟩ := by
    have mapped := congrArg (List.map fun name => (name.map Prim.extent).getD ⟨0, 1⟩) fields
    simpa [Function.comp_def] using mapped.symm
  rw [extents]
  refine .struct name _ fun field isField => ?_
  have isPrim : field.type.prim? ∈ names.map some := by
    rw [← fields]
    exact List.mem_map_of_mem isField
  obtain ⟨builtin, isName, same⟩ := List.mem_map.mp isPrim
  rw [← same]
  exact measures_of_prim? (known builtin isName) field.type same.symm

/-! ### Multiples of alignments -/

/-- A packed struct that takes up no multiple of its alignment. -/
def Ragged (definitions : Definitions) (id : TypeId) : Prop :=
  (definitions.struct id).layout = .packed ∧
    ∃ name extent, definitions.Measures (.struct name id) extent ∧
      ¬extent.alignment ∣ extent.size

/-- Where a type stores no ragged struct it takes up a multiple of its alignment: padded
structs are rounded up to theirs, and arrays multiply. -/
theorem Measures.dvd_size (measures : definitions.Measures type extent)
    (even : ∀ id, type.Stores id → ¬definitions.Ragged id) : extent.alignment ∣ extent.size := by
  induction measures with
  | prim _ => exact Prim.dvd_extent _
  | enum _ _ => exact Prim.dvd_extent _
  | opaquePointer | pointer | function => exact Nat.dvd_refl 8
  | array => exact ⟨2, rfl⟩
  | const _ inductionHypothesis =>
    exact inductionHypothesis fun id stores => even id (.const stores)
  | mutable _ inductionHypothesis =>
    exact inductionHypothesis fun id stores => even id (.mutable stores)
  | fixedArray length _ inductionHypothesis =>
    exact Nat.dvd_mul_right_of_dvd
      (inductionHypothesis fun id stores => even id (.fixedArray length stores)) length
  | @struct name id extents fields _ =>
    cases layout : (definitions.struct id).layout with
    | padded => exact Extent.dvd_ceil _ _
    | packed =>
      by_contra indivisible
      refine even id (.struct name) ⟨layout, name, _, .struct name extents fields, ?_⟩
      rwa [layout]

end Definitions
end UnitCheck
