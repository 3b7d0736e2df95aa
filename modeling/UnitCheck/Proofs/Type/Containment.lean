import Mathlib.Data.List.Perm.Subperm
import Mathlib.Logic.Relation
import Mathlib.Order.WellFounded
import UnitCheck.Type.Size

/-!
# Structs that hold structs

A struct holds another one by value when a field has values of the other one in place: as
they are, below qualifiers, or as the elements of a fixed array. Where no struct holds
itself, however far down, a size is worked out from the sizes of parts and never from
itself, and the bound on the depth that sizes are computed with is never met.
-/

namespace UnitCheck

/-- Values of the type have values of the struct in place. -/
inductive Ty.Stores (id : TypeId) : Ty -> Prop where
  | struct (name : String) : Stores id (.struct name id)
  | fixedArray {element : Ty} (length : Nat) (stores : Stores id element) :
      Stores id (.fixedArray element length)
  | const {inner : Ty} (stores : Stores id inner) : Stores id (.const inner)
  | mutable {inner : Ty} (stores : Stores id inner) : Stores id (.mutable inner)

namespace Definitions

/-- Defining a struct defines that one only. -/
theorem struct_setStruct (definitions : Definitions) (id : TypeId) (body : StructBody)
    (other : TypeId) : (definitions.setStruct id body).struct other =
      if other = id then body else definitions.struct other := by
  unfold struct setStruct
  rw [List.lookup_cons]
  by_cases same : other = id
  · rw [if_pos same, beq_iff_eq.mpr same]
    rfl
  · rw [if_neg same, beq_false_of_ne same]

/-- The struct `outer` has a field that stores the struct `inner`. -/
def Contains (definitions : Definitions) (outer inner : TypeId) : Prop :=
  ∃ field ∈ (definitions.struct outer).fields, field.type.Stores inner

/-- No struct holds itself by value, however far down. -/
def Acyclic (definitions : Definitions) : Prop :=
  ∀ id, ¬Relation.TransGen definitions.Contains id id

/-- Whether structs hold themselves is settled by what they consist of. -/
theorem Acyclic.congr {one other : Definitions} (acyclic : one.Acyclic)
    (same : one.struct = other.struct) : other.Acyclic := by
  unfold Acyclic Contains at acyclic ⊢
  rwa [← same]

/-- The size and the alignment of the second type are worked out from those of the first. -/
inductive Part (definitions : Definitions) : Ty -> Ty -> Prop where
  | element (element : Ty) (length : Nat) : Part definitions element (.fixedArray element length)
  | const (inner : Ty) : Part definitions inner (.const inner)
  | mutable (inner : Ty) : Part definitions inner (.mutable inner)
  | field (name : String) (id : TypeId) (field : StructField)
      (isField : field ∈ (definitions.struct id).fields) :
      Part definitions field.type (.struct name id)
  | base (name : String) (id : TypeId) (body : EnumBody) (isBody : definitions.enum? id = some body) :
      Part definitions body.base (.enum name id)

/-- Every enumeration is stored as an integer. -/
def StoredAsIntegers (definitions : Definitions) : Prop :=
  ∀ id body, definitions.enum? id = some body → body.base.isInteger = true

/-- Sizes and alignments are worked out from parts, and working them out ends. -/
structure Founded (definitions : Definitions) : Prop where
  acyclic : definitions.Acyclic
  wellFounded : WellFounded definitions.Part
  size_struct : ∀ name id, definitions.size (.struct name id) =
    placeFields (definitions.struct id).layout 0 1 ((definitions.struct id).fields.map fun field =>
      (definitions.size field.type, definitions.alignment field.type))
  alignment_struct : ∀ name id, definitions.alignment (.struct name id) =
    (definitions.struct id).fields.foldl (fun greatest field =>
      if greatest < definitions.alignment field.type then definitions.alignment field.type
      else greatest) 1

variable {definitions : Definitions}

/-- Where no struct has another one in place, none holds itself. -/
theorem acyclic_of_not_contains (none : ∀ outer inner, ¬definitions.Contains outer inner) :
    definitions.Acyclic := by
  intro id cycle
  obtain ⟨_, contains, -⟩ := Relation.TransGen.head'_iff.mp cycle
  exact none _ _ contains

/-! ### Working sizes out ends -/

theorem acyclic_of_wellFounded (wellFounded : WellFounded (Function.swap definitions.Contains)) :
    definitions.Acyclic := by
  intro id cycle
  exact wellFounded.transGen.irrefl.irrefl id (Relation.transGen_swap.mp cycle)

/-- An integer has integers as parts only. -/
theorem acc_of_unwrap_prim {name : Prim} :
    (type : Ty) -> type.unwrap = .prim name -> Acc definitions.Part type
  | .const inner, isPrim | .mutable inner, isPrim => by
    constructor
    rintro _ ⟨⟩
    exact acc_of_unwrap_prim inner isPrim
  | .prim _, _ => by
    constructor
    rintro _ ⟨⟩
  | .opaquePointer, isPrim | .pointer _, isPrim | .array _, isPrim | .fixedArray _ _, isPrim
  | .struct _ _, isPrim | .enum _ _, isPrim | .function _ _ _ _, isPrim => by
    cases isPrim

theorem acc_of_isInteger {type : Ty} (isInteger : type.isInteger = true) :
    Acc definitions.Part type := by
  have isPrim : ∃ name, type.unwrap = .prim name := by
    unfold Ty.isInteger Ty.isSigned Ty.isUnsigned Ty.isPrim Ty.prim? at isInteger
    cases below : type.unwrap <;> simp [below] at isInteger
    exact ⟨_, rfl⟩
  obtain ⟨name, isPrim⟩ := isPrim
  exact acc_of_unwrap_prim type isPrim

/-- The parts of a type are those of the structs it stores, apart from its own forms. -/
theorem acc_of_stores (integers : definitions.StoredAsIntegers) :
    (type : Ty) ->
    (∀ id, type.Stores id → ∀ name, Acc definitions.Part (.struct name id)) ->
    Acc definitions.Part type
  | .struct name id, below => below id (.struct name) name
  | .fixedArray element length, below => by
    have accElement := acc_of_stores integers element fun id stores =>
      below id (.fixedArray length stores)
    constructor
    rintro _ ⟨⟩
    exact accElement
  | .const inner, below => by
    have accInner := acc_of_stores integers inner fun id stores => below id (.const stores)
    constructor
    rintro _ ⟨⟩
    exact accInner
  | .mutable inner, below => by
    have accInner := acc_of_stores integers inner fun id stores => below id (.mutable stores)
    constructor
    rintro _ ⟨⟩
    exact accInner
  | .enum name id, _ => by
    constructor
    rintro _ ⟨⟩
    exact acc_of_isInteger (integers id _ ‹_›)
  | .prim _, _ | .opaquePointer, _ | .pointer _, _ | .array _, _ | .function _ _ _ _, _ => by
    constructor
    rintro _ ⟨⟩

theorem wellFounded_part (wellFounded : WellFounded (Function.swap definitions.Contains))
    (integers : definitions.StoredAsIntegers) : WellFounded definitions.Part := by
  have accStruct (id : TypeId) : ∀ name, Acc definitions.Part (.struct name id) := by
    induction id using wellFounded.induction with
    | _ id inductionHypothesis =>
      intro name
      constructor
      rintro _ ⟨⟩
      exact acc_of_stores integers _ fun inner stores =>
        inductionHypothesis inner ⟨_, ‹_›, stores⟩
  exact ⟨fun type => acc_of_stores integers type fun id _ => accStruct id⟩

/-! ### The bound on the depth -/

/-- No chain of structs that hold each other, from the struct on, is longer. -/
def Shallow (definitions : Definitions) : (depth : Nat) -> TypeId -> Prop
  | 0, _ => False
  | depth + 1, id => ∀ inner, definitions.Contains id inner → Shallow definitions depth inner

/-- A struct that contains another one is defined. -/
theorem mem_of_contains {outer inner : TypeId} (contains : definitions.Contains outer inner) :
    outer ∈ definitions.structs.map Prod.fst := by
  obtain ⟨field, isField, -⟩ := contains
  by_contra isMissing
  have undefined : definitions.structs.lookup outer = none := by
    rw [List.lookup_eq_none_iff]
    intro entry isEntry
    have differs : outer ≠ entry.1 := fun same =>
      isMissing (List.mem_map.mpr ⟨entry, isEntry, same.symm⟩)
    simpa using differs
  rw [struct, undefined] at isField
  cases isField

/-- A chain that comes back to none of its structs is as long as there are structs at most. -/
theorem shallow_of_path (acyclic : definitions.Acyclic) {depth : Nat} {path : List TypeId}
    {id : TypeId} (nodup : path.Nodup) (defined : path ⊆ definitions.structs.map Prod.fst)
    (leads : ∀ outer ∈ path, Relation.TransGen definitions.Contains outer id)
    (deep : definitions.structs.length < depth + path.length) : definitions.Shallow depth id := by
  induction depth generalizing path id with
  | zero =>
    have short := (List.subperm_of_subset nodup defined).length_le
    rw [List.length_map] at short
    omega
  | succ depth inductionHypothesis =>
    intro inner contains
    have fresh : id ∉ path := fun onPath => acyclic id (leads id onPath)
    refine inductionHypothesis (List.nodup_cons.mpr ⟨fresh, nodup⟩) ?_ ?_ ?_
    · exact List.cons_subset.mpr ⟨mem_of_contains contains, defined⟩
    · intro outer onPath
      rcases List.mem_cons.mp onPath with rfl | onPath
      · exact .single contains
      · exact (leads outer onPath).tail contains
    · rw [List.length_cons]
      omega

theorem shallow_depthBound (acyclic : definitions.Acyclic) (id : TypeId) :
    definitions.Shallow definitions.depthBound id :=
  shallow_of_path acyclic List.nodup_nil (List.nil_subset _) (List.forall_mem_nil _)
    (Nat.lt_succ_self _)

end Definitions

namespace Ty

variable {one other enum : TypeId -> Int64}

/-- The size of a type depends on the sizes of the structs it stores. -/
theorem sizeWith_congr : (type : Ty) -> (∀ id, type.Stores id → one id = other id) ->
    type.sizeWith one enum = type.sizeWith other enum
  | .struct name id, same => same id (.struct name)
  | .fixedArray element length, same => by
    simp only [sizeWith]
    rw [sizeWith_congr element fun id stores => same id (.fixedArray length stores)]
  | .const inner, same => sizeWith_congr inner fun id stores => same id (.const stores)
  | .mutable inner, same => sizeWith_congr inner fun id stores => same id (.mutable stores)
  | .prim _, _ | .opaquePointer, _ | .pointer _, _ | .array _, _ | .enum _ _, _
  | .function _ _ _ _, _ => rfl

/-- The alignment of a type depends on the alignments of the structs it stores. -/
theorem alignmentWith_congr : (type : Ty) -> (∀ id, type.Stores id → one id = other id) ->
    type.alignmentWith one enum = type.alignmentWith other enum
  | .struct name id, same => same id (.struct name)
  | .fixedArray element length, same =>
    alignmentWith_congr element fun id stores => same id (.fixedArray length stores)
  | .const inner, same => alignmentWith_congr inner fun id stores => same id (.const stores)
  | .mutable inner, same => alignmentWith_congr inner fun id stores => same id (.mutable stores)
  | .prim _, _ | .opaquePointer, _ | .pointer _, _ | .array _, _ | .enum _ _, _
  | .function _ _ _ _, _ => rfl

end Ty

namespace Definitions

variable {definitions : Definitions}

/-- Alignments computed to two depths differ in structs only whose fields' do. -/
theorem structAlignment_congr {first second : Nat} {id : TypeId}
    (same : ∀ inner, definitions.Contains id inner →
      definitions.structAlignment first inner = definitions.structAlignment second inner) :
    definitions.structAlignment (first + 1) id = definitions.structAlignment (second + 1) id := by
  unfold structAlignment
  refine List.foldl_ext _ _ _ fun greatest field isField => ?_
  rw [Ty.alignmentWith_congr field.type fun inner stores => same inner ⟨field, isField, stores⟩]

theorem structSize_congr {first second : Nat} {id : TypeId}
    (sameSize : ∀ inner, definitions.Contains id inner →
      definitions.structSize first inner = definitions.structSize second inner)
    (sameAlignment : ∀ inner, definitions.Contains id inner →
      definitions.structAlignment first inner = definitions.structAlignment second inner) :
    definitions.structSize (first + 1) id = definitions.structSize (second + 1) id := by
  unfold structSize
  simp only
  congr 1
  apply List.map_congr_left
  intro field isField
  rw [Ty.sizeWith_congr field.type fun inner stores => sameSize inner ⟨field, isField, stores⟩,
    Ty.alignmentWith_congr field.type fun inner stores =>
      sameAlignment inner ⟨field, isField, stores⟩]

theorem structAlignment_of_shallow {depth : Nat} {id : TypeId}
    (shallow : definitions.Shallow depth id) :
    definitions.structAlignment depth id = definitions.structAlignment (depth + 1) id := by
  induction depth generalizing id with
  | zero => exact shallow.elim
  | succ depth inductionHypothesis =>
    exact structAlignment_congr fun inner contains => inductionHypothesis (shallow inner contains)

/-- Looking deeper than the structs go finds the same size. -/
theorem structSize_of_shallow {depth : Nat} {id : TypeId} (shallow : definitions.Shallow depth id) :
    definitions.structSize depth id = definitions.structSize (depth + 1) id := by
  induction depth generalizing id with
  | zero => exact shallow.elim
  | succ depth inductionHypothesis =>
    refine structSize_congr (fun inner contains => inductionHypothesis (shallow inner contains)) ?_
    intro inner contains
    exact structAlignment_of_shallow (shallow inner contains)

theorem size_struct (acyclic : definitions.Acyclic) (name : String) (id : TypeId) :
    definitions.size (.struct name id) = placeFields (definitions.struct id).layout 0 1
      ((definitions.struct id).fields.map fun field =>
        (definitions.size field.type, definitions.alignment field.type)) := by
  have shallow := shallow_depthBound acyclic id
  change definitions.structSize definitions.depthBound id = _
  rw [structSize_of_shallow shallow]
  rfl

theorem alignment_struct (acyclic : definitions.Acyclic) (name : String) (id : TypeId) :
    definitions.alignment (.struct name id) =
      (definitions.struct id).fields.foldl (fun greatest field =>
        if greatest < definitions.alignment field.type then definitions.alignment field.type
        else greatest) 1 := by
  have shallow := shallow_depthBound acyclic id
  change definitions.structAlignment definitions.depthBound id = _
  rw [structAlignment_of_shallow shallow]
  rfl

/-- Where working sizes out ends, they are worked out from parts. -/
theorem founded_of_wellFounded (wellFounded : WellFounded (Function.swap definitions.Contains))
    (integers : definitions.StoredAsIntegers) : definitions.Founded := by
  have acyclic := acyclic_of_wellFounded wellFounded
  exact ⟨acyclic, wellFounded_part wellFounded integers, size_struct acyclic,
    alignment_struct acyclic⟩

end Definitions
end UnitCheck
