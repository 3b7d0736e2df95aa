import UnitCheck.Proofs.Typing.Operations
import UnitCheck.Proofs.Typing.Secure

/-!
# Promises that operations keep

A promise about types is closed when taking types apart and putting them together
keeps it. The types that operations find for good operands are then good as well.
-/

namespace UnitCheck.Typing.Stage

/-- The promise passes from a type to its parts and back. Only an unknown type makes the
unknown type good. -/
structure Closed (stage : Stage) : Prop where
  unknown : ∀ type, stage.good type → type.isUnknown = true → stage.good .unknown
  prim : ∀ name, name ≠ .unknown → stage.good (.prim name)
  opaquePointer : stage.good .opaquePointer
  pointer : ∀ element, stage.good element → stage.good (.pointer element)
  fixedArray : ∀ element length, stage.good element → stage.good (.fixedArray element length)
  unwrap : ∀ type, stage.good type → stage.good type.unwrap
  inner : ∀ type element, stage.good type →
    (type.unwrap = .pointer element ∨ type.unwrap = .array element ∨
      ∃ length, type.unwrap = .fixedArray element length) → stage.good element
  function : ∀ type params result convention variadic, stage.good type →
    type.unwrap = .function params result convention variadic →
    stage.good result ∧ ∀ param ∈ params, stage.good param
  fields : ∀ name id, stage.good (.struct name id) →
    ∀ field ∈ (stage.start.definitions.struct id).fields, stage.good field.type

namespace Closed

variable {stage : Stage}

theorem bool (closed : stage.Closed) : stage.good .bool := closed.prim .bool (by decide)

/-- A hint for a literal is good when the type it is taken from is. -/
theorem hint (closed : stage.Closed) {type : Ty} (good : stage.good type) :
    ∀ hinted ∈ literalHint type, stage.good hinted := by
  intro hinted isHint
  unfold literalHint at isHint
  split at isHint
  · cases isHint
  · cases isHint
    exact closed.unwrap type good

/-- The default type of integers is no unknown type. -/
theorem integerType (closed : stage.Closed) (options : Options) :
    stage.good options.integerType := by
  unfold Options.integerType
  refine closed.prim _ ?_
  cases found : Prim.ofName? options.defaultInt with
  | none => decide
  | some name =>
    intro unknown
    have named := List.mem_of_find?_eq_some found
    rw [Option.getD_some] at unknown
    rw [unknown] at named
    exact absurd named (by decide)

theorem settleSign (closed : stage.Closed) {value : Int} {target : Ty}
    (good : stage.good target) : stage.good (Typing.settleSign value target) := by
  unfold Typing.settleSign
  split
  · unfold Ty.toSigned
    split
    · rename_i name _
      split
      · refine closed.prim _ ?_
        cases name <;> simp_all [Prim.isUnsigned, Prim.toSigned]
      · exact good
    · exact good
  · exact good

/-- A literal about which nothing is said has a good type where a good type is wanted. -/
theorem literal (closed : stage.Closed) {options : Options} {literal : Literal}
    {expected : Option Ty} {negated : Bool} {type : Ty}
    (wanted : ∀ hint ∈ expected, stage.good hint)
    (judged : literalType options.integerType literal expected negated = (type, none)) :
    stage.good type := by
  have targetGood : stage.good (integerTarget options.integerType expected) := by
    unfold integerTarget
    split
    · split
      · exact closed.unwrap _ (wanted _ rfl)
      · exact closed.integerType options
    · exact closed.integerType options
  unfold literalType at judged
  split at judged
  · unfold Typing.integerType at judged
    simp only at judged
    split at judged
    · cases judged
      exact targetGood
    · split at judged
      · cases judged
      · obtain ⟨rfl, -⟩ := Prod.mk.inj judged
        exact closed.settleSign targetGood
  · split at judged
    · cases judged
      split
      · exact closed.unwrap _ (wanted _ rfl)
      · exact closed.prim .f64 (by decide)
    · cases judged
      exact closed.prim .f64 (by decide)
  · cases judged
    exact closed.bool
  · cases judged
    exact closed.prim .char (by decide)
  · cases judged
    exact closed.pointer _ (closed.prim .u8 (by decide))
  · split at judged
    · cases judged
      split
      · exact closed.unwrap _ (wanted _ rfl)
      · exact closed.opaquePointer
    · cases judged
      exact closed.opaquePointer

theorem wider (closed : stage.Closed) {left right type : Ty} (goodLeft : stage.good left)
    (goodRight : stage.good right) (wider : left.wider? right = some type) :
    stage.good type := by
  unfold Ty.wider? at wider
  split_ifs at wider
  · cases wider
    exact goodRight
  · cases wider
    exact goodLeft
  · cases wider
    exact closed.unwrap _ goodLeft
  · cases wider
    exact closed.unwrap _ goodRight
  · cases wider
    exact closed.unwrap _ goodLeft

/-- An operation on good operands about which nothing is said has a good type. -/
theorem binary (closed : stage.Closed) {op : BinaryOp} {span : Span} {left right type : Ty}
    (goodLeft : stage.good left) (goodRight : stage.good right)
    (judged : binaryType op span left right = (type, none)) : stage.good type := by
  have widens (judged : widened op span left right = (type, none)) : stage.good type := by
    unfold widened at judged
    split at judged
    · rename_i isWider
      cases judged
      exact closed.wider goodLeft goodRight isWider
    · cases judged
  unfold binaryType at judged
  split at judged
  · rename_i unknown
    obtain ⟨rfl, -⟩ := Prod.mk.inj judged
    split
    · exact closed.bool
    · obtain unknown | unknown := Bool.or_eq_true_iff.mp unknown
      · exact closed.unknown left goodLeft unknown
      · exact closed.unknown right goodRight unknown
  · split_ifs at judged
    · obtain ⟨rfl, -⟩ := Prod.mk.inj judged
      exact closed.bool
    · cases judged
    · cases judged
      exact closed.unwrap _ goodLeft
    · exact widens judged
    · cases judged
    · exact widens judged

theorem negate (closed : stage.Closed) {span operandSpan : Span} {operand type : Ty}
    (good : stage.good operand) (judged : negateType span operandSpan operand = (type, none)) :
    stage.good type := by
  unfold negateType at judged
  split_ifs at judged with unknown
  · cases judged
    exact closed.unknown operand good unknown
  · cases judged
  · cases judged
  · cases judged
    exact closed.unwrap _ good

theorem complement (closed : stage.Closed) {operandSpan : Span} {operand type : Ty}
    (good : stage.good operand) (judged : complementType operandSpan operand = (type, none)) :
    stage.good type := by
  unfold complementType at judged
  split_ifs at judged with unknown
  · cases judged
    exact closed.unknown operand good unknown
  · cases judged
  · cases judged
    exact closed.unwrap _ good

/-- An element of a good type is good. -/
theorem element (closed : stage.Closed) {base type : Ty} {span : Span}
    {constant : Option (Literal × Int)} (good : stage.good base)
    (judged : elementType base span constant = (type, none)) : stage.good type := by
  unfold elementType at judged
  split at judged
  · rename_i unknown
    cases judged
    exact closed.unknown base good unknown
  · split at judged
    · rename_i isArray
      have goodElement := closed.inner base _ good (.inr (.inr ⟨_, isArray⟩))
      split at judged
      · split at judged
        · cases judged
        · cases judged
          exact goodElement
      · cases judged
        exact goodElement
    · rename_i isArray
      cases judged
      exact closed.inner base _ good (.inr (.inl isArray))
    · rename_i isPointer
      cases judged
      exact closed.inner base _ good (.inl isPointer)
    · cases judged

theorem expectedElement (closed : stage.Closed) {expected : Option Ty}
    (wanted : ∀ hint ∈ expected, stage.good hint) :
    ∀ element ∈ expectedElement? expected, stage.good element := by
  intro element isElement
  cases expected with
  | none => cases isElement
  | some type =>
    have good := wanted type rfl
    simp only [expectedElement?, Option.map_some] at isElement
    split at isElement
    · rename_i isArray
      cases isElement
      exact closed.inner type _ good (.inr (.inr ⟨_, Option.some.inj isArray⟩))
    · rename_i isArray
      cases isElement
      exact closed.inner type _ good (.inr (.inl (Option.some.inj isArray)))
    · cases isElement

/-- The struct that a good type is, below its qualifiers. -/
theorem struct (closed : stage.Closed) {type : Ty} {name : String} {id : TypeId}
    (good : stage.good type) (isStruct : type.struct? = some (name, id)) :
    stage.good (.struct name id) := by
  unfold Ty.struct? at isStruct
  split at isStruct
  · rename_i unwrapped
    cases isStruct
    rw [← unwrapped]
    exact closed.unwrap type good
  · cases isStruct

/-- The struct that a good type points to. -/
theorem pointeeStruct (closed : stage.Closed) {type : Ty} {name : String} {id : TypeId}
    (good : stage.good type) (isStruct : type.pointeeStruct? = some (name, id)) :
    stage.good (.struct name id) := by
  unfold Ty.pointeeStruct? at isStruct
  split at isStruct
  · rename_i isPointer
    exact closed.struct (closed.inner type _ good (.inl isPointer)) isStruct
  · cases isStruct

/-- The qualifiers that a hop looks through keep a type good. -/
theorem structOf (closed : stage.Closed) {mode : DerefMode} {type : Ty} {segment name : String}
    {id : TypeId} {deref : Bool} (good : stage.good type)
    (found : Member.structOf mode type segment = .ok (name, id, deref)) :
    stage.good (.struct name id) := by
  have chosen {base : Ty} (same : base.unwrap = type.unwrap)
      (isStruct : base.pointeeStruct? = some (name, id) ∨ base.struct? = some (name, id)) :
      stage.good (.struct name id) := by
    obtain pointed | direct := isStruct
    · refine closed.pointeeStruct good ?_
      unfold Ty.pointeeStruct? at pointed ⊢
      rwa [same] at pointed
    · refine closed.struct good ?_
      unfold Ty.struct? at direct ⊢
      rwa [same] at direct
  -- each way to a struct is through a type that unwraps to the same as the base does
  unfold Member.structOf at found
  split at found
  all_goals
    simp only at found
    repeat' split at found
  all_goals first
    | cases found; exact chosen rfl (.inl ‹_›)
    | cases found; exact chosen rfl (.inr ‹_›)
    | cases found

/-- The member that a path from a good type leads to has a good type. -/
theorem member (closed : stage.Closed) {mode : DerefMode} (path : List String) {base type : Ty}
    {steps : List MemberStep} (good : stage.good base)
    (walked : Member.walk stage.start.definitions mode base path = (.ok type, steps)) :
    stage.good type := by
  induction path generalizing base steps with
  | nil =>
    cases walked
    exact good
  | cons segment rest inductionHypothesis =>
    unfold Member.walk at walked
    split at walked
    · cases walked
    · rename_i step next hopped
      obtain ⟨outcome, -⟩ := Prod.mk.inj walked
      refine inductionHypothesis ?_ (Prod.ext outcome rfl)
      unfold Member.hop at hopped
      split at hopped
      · cases hopped
      · rename_i name id deref isStruct
        simp only at hopped
        split at hopped
        · cases hopped
        · split at hopped
          · rename_i field isField
            cases hopped
            exact closed.fields name id (closed.structOf good isStruct) field
              (List.mem_of_getElem? isField)
          · cases hopped

end Closed
end UnitCheck.Typing.Stage
