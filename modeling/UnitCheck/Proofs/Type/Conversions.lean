import UnitCheck.Proofs.Type.Within
import UnitCheck.Proofs.Typing.Rules

/-!
# Implicit conversions as a preorder

Sameness of types is an equivalence, widening is a strict order on the builtin types,
and a use without a cast is one step of four: no change, a widening, a pointer that
becomes opaque, or an array that forgets its length. Two such steps in a row are one
again, and steps both ways are no change.

The unknown type is left out throughout: it goes with everything in both directions, so
a chain through it would connect any two types.
-/

namespace UnitCheck

namespace Ty

/-! ### Below the qualifiers -/

@[simp] theorem unwrap_unwrap (type : Ty) : type.unwrap.unwrap = type.unwrap := by
  fun_induction unwrap type with
  | case1 inner inductionHypothesis => exact inductionHypothesis
  | case2 inner inductionHypothesis => exact inductionHypothesis
  | case3 type notConst notMutable =>
    cases type with
    | const inner => exact absurd rfl (notConst inner)
    | mutable inner => exact absurd rfl (notMutable inner)
    | _ => rfl

@[simp] theorem prim?_unwrap (type : Ty) : type.unwrap.prim? = type.prim? := by
  simp only [prim?, unwrap_unwrap]

@[simp] theorem isPrim_unwrap (property : Prim -> Bool) (type : Ty) :
    isPrim property type.unwrap = isPrim property type := by
  simp only [isPrim, prim?_unwrap]

@[simp] theorem isNumeric_unwrap (type : Ty) : type.unwrap.isNumeric = type.isNumeric := by
  simp only [isNumeric, isInteger, isSigned, isUnsigned, isFloat, isPrim_unwrap]

@[simp] theorem isUnknown_unwrap (type : Ty) : type.unwrap.isUnknown = type.isUnknown :=
  isPrim_unwrap _ type

@[simp] theorem widensTo_unwrap (source target : Ty) :
    source.widensTo target.unwrap = source.widensTo target := by
  simp only [widensTo, prim?_unwrap]

/-- A type that has a property of builtin types is one. -/
theorem unwrap_of_isPrim {property : Prim -> Bool} {type : Ty}
    (has : type.isPrim property = true) : ∃ name, type.unwrap = .prim name := by
  unfold isPrim prim? at has
  split at has
  · exact ⟨_, ‹_›⟩
  · cases has

/-! ### Sameness is an equivalence -/

mutual

/-- A type is the same as itself. -/
@[simp] theorem same_self : (type : Ty) -> type.same type = true
  | .prim _ | .struct _ _ | .enum _ _ => by simp [same]
  | .opaquePointer => rfl
  | .pointer inner | .array inner | .const inner | .mutable inner => by
    simp [same, same_self inner]
  | .fixedArray inner _ => by simp [same, same_self inner]
  | .function params result _ _ => by simp [same, same_self result, sameAll_self params]

theorem sameAll_self : (types : List Ty) -> sameAll types types = true
  | [] => rfl
  | type :: rest => by simp [sameAll, same_self type, sameAll_self rest]

end

mutual

/-- Types that are the same are the same as the same types. -/
theorem same_congr : (left middle : Ty) -> left.same middle = true -> (right : Ty) ->
    left.same right = middle.same right
  | .prim name, middle, alike, right => by
    cases middle with
    | prim other =>
      obtain rfl : name = other := by simpa [same] using alike
      rfl
    | _ => simp [same] at alike
  | .opaquePointer, middle, alike, right => by
    cases middle with
    | opaquePointer => rfl
    | _ => simp [same] at alike
  | .pointer inner, middle, alike, right => by
    cases middle with
    | pointer other =>
      simp only [same] at alike
      cases right <;> simp [same, same_congr inner other alike]
    | _ => simp [same] at alike
  | .array inner, middle, alike, right => by
    cases middle with
    | array other =>
      simp only [same] at alike
      cases right <;> simp [same, same_congr inner other alike]
    | _ => simp [same] at alike
  | .fixedArray inner length, middle, alike, right => by
    cases middle with
    | fixedArray other otherLength =>
      simp only [same, Bool.and_eq_true, decide_eq_true_eq] at alike
      obtain ⟨rfl, alike⟩ := alike
      cases right <;> simp [same, same_congr inner other alike]
    | _ => simp [same] at alike
  | .struct name _, middle, alike, right => by
    cases middle with
    | struct other _ =>
      obtain rfl : name = other := by simpa [same] using alike
      cases right <;> simp [same]
    | _ => simp [same] at alike
  | .enum name _, middle, alike, right => by
    cases middle with
    | enum other _ =>
      obtain rfl : name = other := by simpa [same] using alike
      cases right <;> simp [same]
    | _ => simp [same] at alike
  | .function params result _ variadic, middle, alike, right => by
    cases middle with
    | function otherParams otherResult _ otherVariadic =>
      simp only [same, Bool.and_eq_true, decide_eq_true_eq] at alike
      obtain ⟨⟨rfl, results⟩, lists⟩ := alike
      cases right <;>
        simp [same, same_congr result otherResult results, sameAll_congr params otherParams lists]
    | _ => simp [same] at alike
  | .const inner, middle, alike, right => by
    cases middle with
    | const other =>
      simp only [same] at alike
      cases right <;> simp [same, same_congr inner other alike]
    | _ => simp [same] at alike
  | .mutable inner, middle, alike, right => by
    cases middle with
    | mutable other =>
      simp only [same] at alike
      cases right <;> simp [same, same_congr inner other alike]
    | _ => simp [same] at alike

theorem sameAll_congr : (left middle : List Ty) -> sameAll left middle = true ->
    (right : List Ty) -> sameAll left right = sameAll middle right
  | [], [], _, _ => rfl
  | [], _ :: _, alike, _ => by simp [sameAll] at alike
  | _ :: _, [], alike, _ => by simp [sameAll] at alike
  | left :: lefts, middle :: middles, alike, right => by
    simp only [sameAll, Bool.and_eq_true] at alike
    cases right with
    | nil => rfl
    | cons right rights =>
      simp [sameAll, same_congr left middle alike.1, sameAll_congr lefts middles alike.2]

end

theorem same_symm {left right : Ty} (alike : left.same right = true) :
    right.same left = true := by
  rw [<- same_congr left right alike, same_self]

theorem same_trans {left middle right : Ty} (first : left.same middle = true)
    (second : middle.same right = true) : left.same right = true := by
  rw [same_congr left middle first, second]

theorem same_comm (left right : Ty) : left.same right = right.same left :=
  Bool.eq_iff_iff.mpr ⟨same_symm, same_symm⟩

/-- Only a builtin type is the same as a builtin type. -/
theorem eq_prim_of_same {type : Ty} {name : Prim} (alike : type.same (.prim name) = true) :
    type = .prim name := by
  cases type <;> simp_all [same]

end Ty

/-! ### Widening is a strict order -/

namespace Prim

theorem widenings_trans {source middle target : Prim} (first : middle ∈ source.widenings)
    (second : target ∈ middle.widenings) : target ∈ source.widenings := by
  have closed : ∀ middle ∈ source.widenings, middle.widenings ⊆ source.widenings := by
    cases source <;> decide
  exact closed middle first second

theorem widenings_asymm {source target : Prim} (widens : target ∈ source.widenings) :
    source ∉ target.widenings := by
  have oneWay : ∀ target ∈ source.widenings, source ∉ target.widenings := by
    cases source <;> decide
  exact oneWay target widens

/-- Only numbers widen, and only to numbers. -/
theorem isNumeric_of_widenings {source target : Prim} (widens : target ∈ source.widenings) :
    (Ty.prim source).isNumeric = true ∧ (Ty.prim target).isNumeric = true := by
  have numbers : ∀ target ∈ source.widenings,
      (Ty.prim source).isNumeric = true ∧ (Ty.prim target).isNumeric = true := by
    cases source <;> decide
  exact numbers target widens

end Prim

/-! ### The ways to use a value without a cast -/

namespace Ty

/-- The ways in which a value of a type without qualifiers may be used as another such
type without a cast. -/
inductive Converts : Ty -> Ty -> Prop
  | unchanged {source target : Ty} (alike : source.same target = true) : Converts source target
  | widened {source target : Prim} (widens : target ∈ source.widenings) :
    Converts (.prim source) (.prim target)
  | forgotten (element : Ty) : Converts (.pointer element) .opaquePointer
  | decayed {source target : Ty} (length : Nat) (alike : source.same target = true) :
    Converts (.fixedArray source length) (.array target)

theorem widensTo_iff (source target : Ty) :
    source.widensTo target = true ↔ ∃ narrow wide, source.unwrap = .prim narrow ∧
      target.unwrap = .prim wide ∧ wide ∈ narrow.widenings := by
  unfold widensTo prim?
  cases source.unwrap <;> cases target.unwrap <;> simp

theorem isNumeric_of_widensTo {source target : Ty} (widens : source.widensTo target = true) :
    source.isNumeric = true ∧ target.isNumeric = true := by
  obtain ⟨narrow, wide, sourceIs, targetIs, member⟩ := (widensTo_iff source target).mp widens
  rw [<- isNumeric_unwrap source, <- isNumeric_unwrap target, sourceIs, targetIs]
  exact Prim.isNumeric_of_widenings member

/-- Types that are built alike are compatible. -/
theorem allowed_of_same {source target : Ty} (same : source.unwrap.same target.unwrap = true) :
    Typing.Allowed source target := by
  unfold Typing.Allowed compatibility
  split
  · rfl
  · rfl

/-- A number may stand where a type is wanted that it widens to. -/
theorem allowed_of_widensTo {source target : Ty} (sourceNumeric : source.isNumeric = true)
    (targetNumeric : target.isNumeric = true) (widens : source.widensTo target = true) :
    Typing.Allowed source target := by
  unfold Typing.Allowed compatibility
  simp only [sourceNumeric, targetNumeric, widens]
  split
  · rfl
  · split <;> rfl

theorem allowed_of_converts {source target : Ty}
    (converts : Converts source.unwrap target.unwrap) : Typing.Allowed source target := by
  generalize sourceIs : source.unwrap = bare at converts
  generalize targetIs : target.unwrap = bareTarget at converts
  cases converts with
  | unchanged alike =>
    rw [<- sourceIs, <- targetIs] at alike
    exact allowed_of_same alike
  | widened widens =>
    have wider : source.widensTo target = true :=
      (widensTo_iff source target).mpr ⟨_, _, sourceIs, targetIs, widens⟩
    obtain ⟨sourceNumeric, targetNumeric⟩ := isNumeric_of_widensTo wider
    exact allowed_of_widensTo sourceNumeric targetNumeric wider
  | forgotten element =>
    unfold Typing.Allowed compatibility
    simp [isUnknown, isNumeric, isInteger, isSigned, isUnsigned, isFloat, isPrim, prim?,
      sourceIs, targetIs, same, Compatibility.isAllowed]
  | decayed length alike =>
    unfold Typing.Allowed compatibility
    simp [isUnknown, isNumeric, isInteger, isSigned, isUnsigned, isFloat, isPrim, prim?,
      sourceIs, targetIs, same, alike, Compatibility.isAllowed]

theorem converts_of_allowed {source target : Ty} (sourceKnown : source.isUnknown = false)
    (targetKnown : target.isUnknown = false) (allowed : Typing.Allowed source target) :
    Converts source.unwrap target.unwrap := by
  unfold Typing.Allowed compatibility at allowed
  rw [sourceKnown, targetKnown, if_neg (by simp)] at allowed
  split at allowed
  · rename_i alike
    exact .unchanged alike
  split at allowed
  · split at allowed
    · rename_i widens
      obtain ⟨narrow, wide, sourceIs, targetIs, member⟩ := (widensTo_iff source target).mp widens
      rw [sourceIs, targetIs]
      exact .widened member
    · cases allowed
  split at allowed
  · rename_i element sourceIs targetIs
    rw [sourceIs, targetIs]
    exact .forgotten element
  · rename_i element length other sourceIs targetIs
    rw [sourceIs, targetIs]
    split at allowed
    · rename_i alike
      exact .decayed length alike
    · cases allowed
  · cases allowed

theorem Converts.trans {source middle target : Ty} (first : Converts source middle)
    (second : Converts middle target) : Converts source target := by
  cases first with
  | unchanged alike =>
    cases second with
    | unchanged again => exact .unchanged (same_trans alike again)
    | widened widens =>
      obtain rfl := eq_prim_of_same alike
      exact .widened widens
    | forgotten element => cases source <;> simp_all [same, Converts.forgotten]
    | decayed length again =>
      cases source with
      | fixedArray element otherLength =>
        simp only [same, Bool.and_eq_true] at alike
        exact .decayed otherLength (same_trans alike.2 again)
      | _ => simp [same] at alike
  | widened widens =>
    cases second with
    | unchanged alike =>
      obtain rfl := eq_prim_of_same (same_symm alike)
      exact .widened widens
    | widened again => exact .widened (Prim.widenings_trans widens again)
  | forgotten element =>
    cases second with
    | unchanged alike => cases target <;> simp_all [same, Converts.forgotten]
  | decayed length alike =>
    cases second with
    | unchanged again =>
      cases target with
      | array other =>
        simp only [same] at again
        exact .decayed length (same_trans alike again)
      | _ => simp [same] at again

/-- Conversions both ways change nothing: a number does not widen back, an opaque pointer
does not recall its element, and an array not its length. -/
theorem Converts.antisymm {left right : Ty} (forth : Converts left right)
    (back : Converts right left) : left.same right = true := by
  cases forth with
  | unchanged alike => exact alike
  | widened widens =>
    cases back with
    | unchanged alike => exact same_symm alike
    | widened again => exact absurd again (Prim.widenings_asymm widens)
  | forgotten element => cases back with | unchanged alike => cases alike
  | decayed length alike => cases back with | unchanged alike => cases alike

/-! ### The wider of two types -/

variable {left right : Ty}

theorem wider?_of_known (leftKnown : left.isUnknown = false) (rightKnown : right.isUnknown = false) :
    left.wider? right =
      if left.unwrap.same right.unwrap then some left.unwrap
      else if left.widensTo right then some right.unwrap
      else if right.widensTo left then some left.unwrap
      else none := by
  simp [wider?, leftKnown, rightKnown]

theorem widensTo_asymm (widens : left.widensTo right = true) : right.widensTo left = false := by
  rw [<- Bool.not_eq_true]
  intro back
  obtain ⟨narrow, wide, leftIs, rightIs, member⟩ := (widensTo_iff left right).mp widens
  obtain ⟨wide', narrow', rightIs', leftIs', backMember⟩ := (widensTo_iff right left).mp back
  obtain rfl : narrow = narrow' := Ty.prim.inj (leftIs.symm.trans leftIs')
  obtain rfl : wide = wide' := Ty.prim.inj (rightIs.symm.trans rightIs')
  exact Prim.widenings_asymm member backMember

/-- The wider of two types does not depend on their order. -/
theorem wider?_comm (leftKnown : left.isUnknown = false) (rightKnown : right.isUnknown = false) :
    Option.Rel (fun one other => one.same other = true) (left.wider? right)
      (right.wider? left) := by
  rw [wider?_of_known leftKnown rightKnown, wider?_of_known rightKnown leftKnown,
    same_comm right.unwrap]
  cases alike : left.unwrap.same right.unwrap with
  | true => exact .some alike
  | false =>
    cases forth : left.widensTo right with
    | true =>
      rw [widensTo_asymm forth]
      exact .some (same_self _)
    | false =>
      cases back : right.widensTo left with
      | true => exact .some (same_self _)
      | false => exact .none

/-- Both types may stand where the wider of them is wanted. -/
theorem allowed_of_wider? {type : Ty} (leftKnown : left.isUnknown = false)
    (rightKnown : right.isUnknown = false) (wider : left.wider? right = some type) :
    Typing.Allowed left type ∧ Typing.Allowed right type := by
  rw [wider?_of_known leftKnown rightKnown] at wider
  split at wider
  · rename_i alike
    cases wider
    refine ⟨allowed_of_same ?_, allowed_of_same ?_⟩
    · simp
    · simpa using same_symm alike
  split at wider
  · rename_i widens
    cases wider
    obtain ⟨leftNumeric, rightNumeric⟩ := isNumeric_of_widensTo widens
    refine ⟨allowed_of_widensTo leftNumeric ?_ ?_, allowed_of_same ?_⟩
    · rw [isNumeric_unwrap, rightNumeric]
    · rw [widensTo_unwrap, widens]
    · simp
  split at wider
  · rename_i widens
    cases wider
    obtain ⟨rightNumeric, leftNumeric⟩ := isNumeric_of_widensTo widens
    refine ⟨allowed_of_same ?_, allowed_of_widensTo rightNumeric ?_ ?_⟩
    · simp
    · rw [isNumeric_unwrap, leftNumeric]
    · rw [widensTo_unwrap, widens]
  · cases wider

end Ty

/-! ### The order of conversions -/

/-- A type other than the unknown one. -/
structure KnownType where
  type : Ty
  known : type.isUnknown = false

open Typing in
/-- Among known types the uses without a cast are a preorder that no qualifier takes part
in and that is antisymmetric up to sameness below the qualifiers. The wider of two types
is found in either order or in none, and is above both. -/
theorem implicit_conversion_preorder :
    (∀ type : KnownType, Allowed type.type type.type) ∧
    (∀ source middle target : KnownType, Allowed source.type middle.type →
      Allowed middle.type target.type → Allowed source.type target.type) ∧
    (∀ source target : Ty,
      (Allowed (.const source) target ↔ Allowed source target) ∧
      (Allowed (.mutable source) target ↔ Allowed source target) ∧
      (Allowed source (.const target) ↔ Allowed source target) ∧
      (Allowed source (.mutable target) ↔ Allowed source target)) ∧
    (∀ left right : KnownType, Allowed left.type right.type → Allowed right.type left.type →
      left.type.unwrap.same right.type.unwrap = true) ∧
    (∀ left right : KnownType, Option.Rel (fun one other => one.same other = true)
      (left.type.wider? right.type) (right.type.wider? left.type)) ∧
    (∀ (left right : KnownType) (type : Ty), left.type.wider? right.type = some type →
      Allowed left.type type ∧ Allowed right.type type) := by
  refine ⟨?reflexive, ?transitive, ?unqualified, ?antisymmetric, ?symmetric, ?above⟩
  case reflexive =>
    intro type
    exact Ty.allowed_of_same (Ty.same_self _)
  case transitive =>
    intro source middle target first second
    have toMiddle := Ty.converts_of_allowed source.known middle.known first
    have toTarget := Ty.converts_of_allowed middle.known target.known second
    exact Ty.allowed_of_converts (toMiddle.trans toTarget)
  case unqualified =>
    intro source target
    -- every part of the relation looks below the qualifiers first
    exact ⟨Iff.rfl, Iff.rfl, Iff.rfl, Iff.rfl⟩
  case antisymmetric =>
    intro left right forth back
    exact (Ty.converts_of_allowed left.known right.known forth).antisymm
      (Ty.converts_of_allowed right.known left.known back)
  case symmetric => exact fun left right => Ty.wider?_comm left.known right.known
  case above => exact fun left right type => Ty.allowed_of_wider? left.known right.known

/-- A constant array of bytes loses its `const` and then its length, and a byte may stand
where the wider of it and a signed word is wanted. -/
theorem implicit_conversion_preorder_applied :
    Typing.Allowed (.const (.fixedArray (.prim .u8) 3)) (.array (.prim .u8)) ∧
    Typing.Allowed (.prim .u8) (.prim .s32) ∧ Typing.Allowed (.prim .s32) (.prim .s32) := by
  obtain ⟨-, transitive, -, -, -, above⟩ := implicit_conversion_preorder
  refine ⟨?_, above ⟨.prim .u8, rfl⟩ ⟨.prim .s32, rfl⟩ (.prim .s32) rfl⟩
  exact transitive ⟨.const (.fixedArray (.prim .u8) 3), rfl⟩ ⟨.fixedArray (.prim .u8) 3, rfl⟩
    ⟨.array (.prim .u8), rfl⟩ (by unfold Typing.Allowed; decide +kernel)
    (by unfold Typing.Allowed; decide +kernel)

/-!
### Casts of what converts

A cast may spell out what happens to a value without one, that is, a use that changes
nothing, widens a number or makes a pointer opaque; and it may do what is refused for the
want of one, that is, narrow a number. The one conversion that no cast spells out is that
of an array that forgets its length.
-/

namespace Ty

/-- Below their qualifiers the source is an array of known length, and the target the array
of the same elements that knows its length at run time. -/
def Decays (source target : Ty) : Prop :=
  ∃ element length other, source.unwrap = .fixedArray element length ∧
    target.unwrap = .array other ∧ element.same other = true

/-- A value of the source is used as the target without a cast, or for the want of a cast
it is not. -/
def Convertible (source target : Ty) : Prop :=
  (source.compatibility target).isAllowed = true ∨ source.compatibility target = .lossy

variable {source target : Ty}

/-! ### Rules of casts -/

theorem castable_of_isUnknown (isUnknown : source.isUnknown = true ∨ target.isUnknown = true) :
    source.castable target = true := by
  unfold castable
  rcases isUnknown with isUnknown | isUnknown <;> simp [isUnknown]

theorem castable_of_same (alike : source.unwrap.same target.unwrap = true) :
    source.castable target = true := by
  simp [castable, alike]

theorem castable_of_isNumeric (sourceNumeric : source.isNumeric = true)
    (targetNumeric : target.isNumeric = true) : source.castable target = true := by
  simp [castable, isScalar, sourceNumeric, targetNumeric]

theorem castable_of_isPointer (sourcePointer : source.isPointer = true)
    (targetPointer : target.isPointer = true) : source.castable target = true := by
  simp [castable, sourcePointer, targetPointer]

/-- No rule of casts is about arrays of unknown length, so an array is cast to its own type
only. -/
theorem not_castable_of_decays (decays : source.Decays target) :
    source.castable target = false := by
  obtain ⟨element, length, other, sourceIs, targetIs, -⟩ := decays
  simp [castable, isScalar, isNumeric, isInteger, isSigned, isUnsigned, isFloat, isBool, isChar,
    isAddr, isUnknown, isPrim, prim?, isPointer, isEnum, sourceIs, targetIs, same]

/-! ### Conversions that have a cast -/

/-- Only a number is narrowed. -/
theorem isNumeric_of_lossy (lossy : source.compatibility target = .lossy) :
    source.isNumeric = true ∧ target.isNumeric = true := by
  unfold compatibility at lossy
  split at lossy
  · cases lossy
  split at lossy
  · cases lossy
  split at lossy
  · rename_i numeric
    exact Bool.and_eq_true_iff.mp numeric
  split at lossy
  · cases lossy
  · split at lossy <;> cases lossy
  · cases lossy

/-- A step of a conversion is spelled out by a cast unless it is the one of arrays. -/
theorem castable_of_converts (converts : Converts source.unwrap target.unwrap)
    (apart : ¬source.Decays target) : source.castable target = true := by
  generalize sourceIs : source.unwrap = bare at converts
  generalize targetIs : target.unwrap = bareTarget at converts
  cases converts with
  | unchanged alike =>
    rw [← sourceIs, ← targetIs] at alike
    exact castable_of_same alike
  | widened widens =>
    obtain ⟨sourceNumeric, targetNumeric⟩ := isNumeric_of_widensTo
      ((widensTo_iff source target).mpr ⟨_, _, sourceIs, targetIs, widens⟩)
    exact castable_of_isNumeric sourceNumeric targetNumeric
  | forgotten element =>
    apply castable_of_isPointer
    · rw [isPointer, sourceIs]
    · rw [isPointer, targetIs]
  | decayed length alike => exact absurd ⟨_, _, _, sourceIs, targetIs, alike⟩ apart

/-- What is converted without a cast, or not for the want of one, may be cast, apart from an
array that would forget its length, which may not. -/
theorem castable_iff_of_convertible (source target : Ty)
    (convertible : source.Convertible target) :
    source.castable target = true ↔ ¬source.Decays target := by
  constructor
  · intro castable decays
    rw [not_castable_of_decays decays] at castable
    cases castable
  · intro apart
    cases sourceKnown : source.isUnknown with
    | true => exact castable_of_isUnknown (.inl sourceKnown)
    | false =>
      cases targetKnown : target.isUnknown with
      | true => exact castable_of_isUnknown (.inr targetKnown)
      | false =>
        rcases convertible with allowed | lossy
        · exact castable_of_converts (converts_of_allowed sourceKnown targetKnown allowed) apart
        · obtain ⟨sourceNumeric, targetNumeric⟩ := isNumeric_of_lossy lossy
          exact castable_of_isNumeric sourceNumeric targetNumeric

/-- A float is not used as a byte for the want of a cast, and a cast makes it one. -/
theorem castable_iff_of_convertible_narrowed :
    (prim .f64).Convertible (.mutable (.prim .u8)) ∧
      (prim .f64).castable (.mutable (.prim .u8)) = true := by
  have convertible : (prim .f64).Convertible (.mutable (.prim .u8)) := .inr (by decide)
  refine ⟨convertible, (castable_iff_of_convertible _ _ convertible).mpr ?_⟩
  rintro ⟨_, _, _, isArray, -⟩
  cases isArray

/-- Three words are used as an array of words without a cast, and a cast that says so is
refused. -/
theorem decay_not_castable :
    ((fixedArray (.prim .s32) 3).compatibility (.array (.prim .s32))).isAllowed = true ∧
      (fixedArray (.prim .s32) 3).castable (.array (.prim .s32)) = false := by
  decide +kernel

end Ty
end UnitCheck
