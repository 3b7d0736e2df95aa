/-!
# Types

The types that values have. Structs and enumerations are named: a type holds
the name and the identity of their declaration, and what the declaration says
is kept apart, so a struct may point to itself. Two types are the same when
they are built alike, where structs and enumerations of one name count as one.

The definitions of structs and enumerations go by the identity of their
declarations. A definition that is given again replaces the earlier one.
-/

namespace UnitCheck

/-- The builtin types. The unknown type stands for whatever failed to get a type,
so that one error does not lead to others. -/
inductive Prim where
  | s8 | s16 | s32 | s64
  | u8 | u16 | u32 | u64
  | f32 | f64
  | bool | char | void | addr
  | unknown
deriving Repr, DecidableEq, Inhabited

namespace Prim

/-- The type's spelling. -/
def text : Prim -> String
  | .s8 => "s8"
  | .s16 => "s16"
  | .s32 => "s32"
  | .s64 => "s64"
  | .u8 => "u8"
  | .u16 => "u16"
  | .u32 => "u32"
  | .u64 => "u64"
  | .f32 => "f32"
  | .f64 => "f64"
  | .bool => "bool"
  | .char => "char"
  | .void => "void"
  | .addr => "addr"
  | .unknown => "unknown"

/-- The builtin types that a unit can name; the unknown type is not among them. -/
def named : List Prim :=
  [.s8, .s16, .s32, .s64, .u8, .u16, .u32, .u64, .f32, .f64, .bool, .char, .void, .addr]

/-- The builtin type that a unit calls `name`. -/
def ofName? (name : String) : Option Prim :=
  named.find? (·.text = name)

/-- Whether `name` is reserved for a builtin type. -/
def isReserved (name : String) : Bool :=
  (ofName? name).isSome

/-- The width of a number in bits; zero for what is no number. -/
def bits : Prim -> Nat
  | .s8 | .u8 => 8
  | .s16 | .u16 => 16
  | .s32 | .u32 | .f32 => 32
  | .s64 | .u64 | .f64 => 64
  | _ => 0

/-- Signed integers. -/
def isSigned : Prim -> Bool
  | .s8 | .s16 | .s32 | .s64 => true
  | _ => false

/-- Unsigned integers. -/
def isUnsigned : Prim -> Bool
  | .u8 | .u16 | .u32 | .u64 => true
  | _ => false

/-- Floats. -/
def isFloat : Prim -> Bool
  | .f32 | .f64 => true
  | _ => false

/-- The signed integer as wide as an unsigned one; other types stay as they are. -/
def toSigned : Prim -> Prim
  | .u8 => .s8
  | .u16 => .s16
  | .u32 => .s32
  | .u64 => .s64
  | other => other

end Prim

/-- The identity of the declaration of a struct or an enumeration. -/
abbrev TypeId := Nat

/-- A type. -/
inductive Ty where
  | prim (name : Prim)
  /-- The pointer to nothing in particular. -/
  | opaquePointer
  | pointer (element : Ty)
  /-- An array that knows its length at run time. -/
  | array (element : Ty)
  | fixedArray (element : Ty) (length : Nat)
  | struct (name : String) (id : TypeId)
  | enum (name : String) (id : TypeId)
  | function (params : List Ty) (result : Ty) (convention : String) (variadic : Bool)
  | const (inner : Ty)
  | mutable (inner : Ty)
deriving Inhabited

namespace Ty

/-- The unknown type. -/
abbrev unknown : Ty := .prim .unknown

/-- The type without values. -/
abbrev void : Ty := .prim .void

/-- The type of truth values. -/
abbrev bool : Ty := .prim .bool

mutual

/-- The type as it is spelled in messages. -/
def render : Ty -> String
  | .prim name => name.text
  | .opaquePointer => "ptr"
  | .pointer element => "ptr[" ++ render element ++ "]"
  | .array element => "array[" ++ render element ++ "]"
  | .fixedArray element length => "array[" ++ render element ++ "; " ++ toString length ++ "]"
  | .struct name _ => name
  | .enum name _ => name
  | .function params result _ variadic =>
    "fn(" ++ ", ".intercalate (renderAll params ++ (if variadic then ["..."] else [])) ++
      ") -> " ++ render result
  | .const inner => "const " ++ render inner
  | .mutable inner => "mut " ++ render inner

/-- The spellings of several types. -/
def renderAll : List Ty -> List String
  | [] => []
  | type :: rest => render type :: renderAll rest

end

mutual

/-- Whether two types are the same: built alike, named types by their names. The
calling convention takes no part. -/
def same : Ty -> Ty -> Bool
  | .prim left, .prim right => left = right
  | .opaquePointer, .opaquePointer => true
  | .pointer left, .pointer right => same left right
  | .array left, .array right => same left right
  | .fixedArray left leftLength, .fixedArray right rightLength =>
    leftLength = rightLength && same left right
  | .struct left _, .struct right _ => left = right
  | .enum left _, .enum right _ => left = right
  | .function leftParams leftResult _ leftVariadic,
      .function rightParams rightResult _ rightVariadic =>
    leftVariadic = rightVariadic && same leftResult rightResult && sameAll leftParams rightParams
  | .const left, .const right => same left right
  | .mutable left, .mutable right => same left right
  | _, _ => false

/-- Whether two lists hold the same types in the same order. -/
def sameAll : List Ty -> List Ty -> Bool
  | [], [] => true
  | left :: lefts, right :: rights => same left right && sameAll lefts rights
  | _, _ => false

end

mutual

/-- Whether two types are one and the same, names, identities and conventions included. -/
def equals : Ty -> Ty -> Bool
  | .prim left, .prim right => left = right
  | .opaquePointer, .opaquePointer => true
  | .pointer left, .pointer right | .array left, .array right | .const left, .const right
  | .mutable left, .mutable right => equals left right
  | .fixedArray left leftLength, .fixedArray right rightLength =>
    leftLength = rightLength && equals left right
  | .struct left leftId, .struct right rightId | .enum left leftId, .enum right rightId =>
    left = right && leftId = rightId
  | .function leftParams leftResult leftConvention leftVariadic,
      .function rightParams rightResult rightConvention rightVariadic =>
    leftConvention = rightConvention && leftVariadic = rightVariadic &&
      equals leftResult rightResult && equalsAll leftParams rightParams
  | _, _ => false

/-- `equals` for several types. -/
def equalsAll : List Ty -> List Ty -> Bool
  | [], [] => true
  | left :: lefts, right :: rights => equals left right && equalsAll lefts rights
  | _, _ => false

end

mutual

theorem equals_iff : (left right : Ty) -> (left.equals right = true ↔ left = right)
  | .prim _, right => by
    cases right <;> simp [equals]
  | .opaquePointer, right => by
    cases right <;> simp [equals]
  | .pointer left, right | .array left, right | .const left, right | .mutable left, right => by
    cases right <;> simp [equals, equals_iff left]
  | .fixedArray left _, right => by
    cases right <;> simp [equals, equals_iff left, and_comm]
  | .struct _ _, right | .enum _ _, right => by
    cases right <;> simp [equals]
  | .function params result _ _, right => by
    cases right with
    | function => grind [equals, equals_iff result, equalsAll_iff params]
    | _ => simp [equals]

theorem equalsAll_iff : (lefts rights : List Ty) -> (equalsAll lefts rights = true ↔ lefts = rights)
  | [], rights => by
    cases rights <;> simp [equalsAll]
  | left :: lefts, rights => by
    cases rights <;> simp [equalsAll, equals_iff left, equalsAll_iff lefts]

end

instance : DecidableEq Ty := fun left right => decidable_of_decidable_of_iff (equals_iff left right)

/-- The type without the `const` and `mut` around it. -/
def unwrap : Ty -> Ty
  | .const inner => unwrap inner
  | .mutable inner => unwrap inner
  | type => type

/-- The builtin type below the qualifiers. -/
def prim? (type : Ty) : Option Prim :=
  match type.unwrap with
  | .prim name => some name
  | _ => none

/-- Whether the type is, below its qualifiers, a builtin type with a property. -/
def isPrim (property : Prim -> Bool) (type : Ty) : Bool :=
  type.prim?.any property

/-- Signed integers. -/
def isSigned : Ty -> Bool := isPrim Prim.isSigned

/-- Unsigned integers. -/
def isUnsigned : Ty -> Bool := isPrim Prim.isUnsigned

/-- Integers. -/
def isInteger (type : Ty) : Bool := type.isSigned || type.isUnsigned

/-- Floats. -/
def isFloat : Ty -> Bool := isPrim Prim.isFloat

/-- Integers and floats. -/
def isNumeric (type : Ty) : Bool := type.isInteger || type.isFloat

/-- Truth values. -/
def isBool : Ty -> Bool := isPrim (· = .bool)

/-- Characters. -/
def isChar : Ty -> Bool := isPrim (· = .char)

/-- The type without values. -/
def isVoid : Ty -> Bool := isPrim (· = .void)

/-- Raw addresses. -/
def isAddr : Ty -> Bool := isPrim (· = .addr)

/-- The unknown type. -/
def isUnknown : Ty -> Bool := isPrim (· = .unknown)

/-- Pointers, to something or to nothing in particular. -/
def isPointer (type : Ty) : Bool :=
  match type.unwrap with
  | .opaquePointer | .pointer _ => true
  | _ => false

/-- Pointers and raw addresses. -/
def isPointerLike (type : Ty) : Bool := type.isPointer || type.isAddr

/-- Enumerations. -/
def isEnum (type : Ty) : Bool :=
  match type.unwrap with
  | .enum _ _ => true
  | _ => false

/-- The struct that the type is, below its qualifiers. -/
def struct? (type : Ty) : Option (String × TypeId) :=
  match type.unwrap with
  | .struct name id => some (name, id)
  | _ => none

/-- The struct that the type points to. -/
def pointeeStruct? (type : Ty) : Option (String × TypeId) :=
  match type.unwrap with
  | .pointer element => element.struct?
  | _ => none

/-- The signed integer as wide as an unsigned one; other types stay as they are. -/
def toSigned (type : Ty) : Ty :=
  match type.prim? with
  | some name => if name.isUnsigned then .prim name.toSigned else type
  | none => type

/-- The place of a builtin type in the order that picks the element type of an
array; what has no place comes first. -/
def primRank : Prim -> Nat
  | .bool => 1
  | .char => 2
  | .u8 => 3
  | .s8 => 4
  | .u16 => 5
  | .s16 => 6
  | .u32 => 7
  | .s32 => 8
  | .u64 => 9
  | .s64 => 10
  | .f32 => 11
  | .f64 => 12
  | .addr => 13
  | .void | .unknown => 0

/-- The place of a type in the order that picks the element type of an array. -/
def rank (type : Ty) : Nat :=
  match type.unwrap with
  | .prim name => primRank name
  | .opaquePointer => 14
  | .pointer element => if element.struct?.isSome then 16 else 15
  | .array _ => 17
  | .fixedArray _ _ => 18
  | .enum _ _ => 19
  | .struct _ _ => 20
  | .function _ _ _ _ => 21
  | .const _ | .mutable _ => 0

end Ty

/-! ### Definitions -/

/-- How the fields of a struct are laid out. -/
inductive StructLayout where
  | padded | packed
deriving Repr, DecidableEq, Inhabited

/-- The layout's name. -/
def StructLayout.text : StructLayout -> String
  | .padded => "default"
  | .packed => "packed"

/-- A field of a struct. -/
structure StructField where
  name : String
  type : Ty
deriving DecidableEq, Inhabited

/-- What a struct consists of. -/
structure StructBody where
  fields : List StructField
  layout : StructLayout
deriving Inhabited

namespace StructBody

/-- A struct before its fields are known. -/
def empty : StructBody := ⟨[], .padded⟩

/-- The place of the first field called `name`. -/
def indexOf? (body : StructBody) (name : String) : Option Nat :=
  body.fields.findIdx? (·.name = name)

/-- The struct spelled out, one level deep. -/
def describe (body : StructBody) (name : String) : String :=
  "struct " ++ name ++ " \x7b " ++
    ", ".intercalate (body.fields.map fun field => field.name ++ ": " ++ field.type.render) ++
    " \x7d"

end StructBody

/-- What an enumeration consists of: the type it is stored as and its variants. -/
structure EnumBody where
  base : Ty
  variants : List String
deriving Inhabited

/-- The definitions of named types, the latest first. -/
structure Definitions where
  structs : List (TypeId × StructBody)
  enums : List (TypeId × EnumBody)
deriving Inhabited

namespace Definitions

/-- No definitions. -/
def empty : Definitions := ⟨[], []⟩

/-- What the struct `id` consists of; nothing as long as it is undefined. -/
def struct (definitions : Definitions) (id : TypeId) : StructBody :=
  (definitions.structs.lookup id).getD .empty

/-- What the enumeration `id` consists of. -/
def enum? (definitions : Definitions) (id : TypeId) : Option EnumBody :=
  definitions.enums.lookup id

/-- Defines a struct. -/
def setStruct (definitions : Definitions) (id : TypeId) (body : StructBody) : Definitions :=
  { definitions with structs := (id, body) :: definitions.structs }

/-- Defines an enumeration. -/
def setEnum (definitions : Definitions) (id : TypeId) (body : EnumBody) : Definitions :=
  { definitions with enums := (id, body) :: definitions.enums }

/-- The builtin type an enumeration is stored as. -/
def enumBase (definitions : Definitions) (id : TypeId) : Prim :=
  ((definitions.enum? id).bind (·.base.prim?)).getD .s32

end Definitions
end UnitCheck
