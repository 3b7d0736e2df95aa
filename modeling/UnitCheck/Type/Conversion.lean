import UnitCheck.Type.Basic

/-!
# Conversions between types

How a value of one type may be used where another type is expected: without
change, by widening a number, or only through a cast. Qualifiers take no part,
and the unknown type goes with everything.
-/

namespace UnitCheck

/-- How a type relates to the type that is expected. -/
inductive Compatibility where
  | incompatible
  | identical
  /-- Usable without a conversion. -/
  | assignable
  /-- A widening that keeps every value. -/
  | lossless
  /-- A narrowing that needs a cast. -/
  | lossy
deriving Repr, DecidableEq, Inhabited

namespace Compatibility

/-- The relation's name. -/
def text : Compatibility -> String
  | .incompatible => "incompatible"
  | .identical => "identical"
  | .assignable => "assignable"
  | .lossless => "lossless convertible"
  | .lossy => "lossy convertible"

/-- Whether the relation permits a use without a cast. -/
def isAllowed : Compatibility -> Bool
  | .identical | .assignable | .lossless => true
  | .incompatible | .lossy => false

end Compatibility

/-- The builtin types that a builtin type widens to without a cast. -/
def Prim.widenings : Prim -> List Prim
  | .s8 => [.s16, .s32, .s64, .f32, .f64]
  | .s16 => [.s32, .s64, .f32, .f64]
  | .s32 => [.s64, .f64]
  | .s64 => [.f64]
  | .u8 => [.u16, .u32, .u64, .s16, .s32, .s64, .f32, .f64]
  | .u16 => [.u32, .u64, .s32, .s64, .f32, .f64]
  | .u32 => [.u64, .s64, .f64]
  | .u64 => [.f64]
  | .f32 => [.f64]
  | _ => []

namespace Ty

/-- Whether a number type widens to another. -/
def widensTo (source target : Ty) : Bool :=
  match source.prim?, target.prim? with
  | some source, some target => source.widenings.contains target
  | _, _ => false

/-- How a value of type `source` may be used where `target` is expected. -/
def compatibility (source target : Ty) : Compatibility :=
  if source.isUnknown || target.isUnknown then .assignable
  else if source.unwrap.same target.unwrap then .identical
  else if source.isNumeric && target.isNumeric then
    if source.widensTo target then .lossless else .lossy
  else match source.unwrap, target.unwrap with
    -- any pointer goes where the opaque pointer is expected
    | .pointer _, .opaquePointer => .assignable
    | .fixedArray source _, .array target =>
      if source.same target then .assignable else .incompatible
    | _, _ => .incompatible

/-- The type that both operands widen to, if one of them widens to the other. -/
def wider? (left right : Ty) : Option Ty :=
  if left.isUnknown then some right
  else if right.isUnknown then some left
  else if left.unwrap.same right.unwrap then some left.unwrap
  else if left.widensTo right then some right.unwrap
  else if right.widensTo left then some left.unwrap
  else none

/-- Types whose values a cast may turn into numbers. -/
def isScalar (type : Ty) : Bool :=
  type.isNumeric || type.isBool || type.isChar

/-- Whether a cast from `source` to `target` is allowed. -/
def castable (source target : Ty) : Bool :=
  source.isUnknown || target.isUnknown ||
  source.unwrap.same target.unwrap ||
  (source.isScalar && target.isNumeric) ||
  (source.isInteger && target.isChar) ||
  (source.isPointer && target.isPointer) ||
  (source.isAddr && (target.isPointer || target.isInteger)) ||
  (target.isAddr && (source.isPointer || source.isInteger)) ||
  (source.isEnum && target.isInteger)

/-- What is said when `source` cannot be used where `target` is expected. -/
def conversionComplaint (source target : Ty) (relation : Compatibility) : String :=
  match relation with
  | .incompatible => "cannot use type '" ++ source.render ++ "' as type '" ++ target.render ++ "'"
  | .lossy =>
    "cannot implicitly convert '" ++ source.render ++ "' to '" ++ target.render ++
      "' (may lose precision)"
  | .identical | .assignable | .lossless => ""

/-- The values an integer type holds, in words. -/
def rangeText (type : Ty) : String :=
  match type.prim? with
  | some .s8 => "-128 to 127"
  | some .s16 => "-32,768 to 32,767"
  | some .s32 => "-2,147,483,648 to 2,147,483,647"
  | some .s64 => "-9,223,372,036,854,775,808 to 9,223,372,036,854,775,807"
  | some .u8 => "0 to 255"
  | some .u16 => "0 to 65,535"
  | some .u32 => "0 to 4,294,967,295"
  | some .u64 => "0 to 18,446,744,073,709,551,615"
  | _ => "unknown range"

end Ty
end UnitCheck
