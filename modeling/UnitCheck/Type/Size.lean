import UnitCheck.Type.Basic

/-!
# Sizes

Sizes are counted in bytes in signed 64-bit words; a negative size means that
the size is not known. The fields of a padded struct are aligned and the whole
is rounded up to its alignment; a packed struct puts its fields side by side.
-/

namespace UnitCheck

namespace Prim

/-- The size of a builtin type; the unknown type has none. -/
def size : Prim -> Int64
  | .s8 | .u8 | .bool | .char => 1
  | .s16 | .u16 => 2
  | .s32 | .u32 | .f32 => 4
  | .s64 | .u64 | .f64 | .addr => 8
  | .void => 0
  | .unknown => -1

/-- A builtin type with a size from one to eight is aligned to it. -/
def alignment (name : Prim) : Int64 :=
  if 0 < name.size && name.size ≤ 8 then name.size else 1

end Prim

/-- The least multiple of `unit` that is not below `size`, in wrapping arithmetic. -/
def roundUp (size unit : Int64) : Int64 :=
  (size + unit - 1) / unit * unit

/-- The size of a struct from the sizes and alignments of its fields; `size` and
`alignment` are those of the fields already placed. -/
def placeFields (layout : StructLayout) (size alignment : Int64) :
    List (Int64 × Int64) -> Int64
  | [] =>
    match layout with
    | .padded => roundUp size alignment
    | .packed => size
  | (fieldSize, fieldAlignment) :: rest =>
    if fieldSize < 0 then -1
    else match layout with
      | .padded =>
        placeFields layout (roundUp size fieldAlignment + fieldSize)
          (if alignment < fieldAlignment then fieldAlignment else alignment) rest
      | .packed => placeFields layout (size + fieldSize) alignment rest

namespace Ty

/-- The size of a type, given the sizes of the named types in it. -/
def sizeWith (structSize enumSize : TypeId -> Int64) : Ty -> Int64
  | .prim name => name.size
  | .opaquePointer | .pointer _ => 8
  | .array _ => 16
  | .fixedArray element length =>
    let size := sizeWith structSize enumSize element
    if size < 0 then -1 else size * Int64.ofNat length
  | .struct _ id => structSize id
  | .enum _ id => enumSize id
  | .function _ _ _ _ => 8
  | .const inner | .mutable inner => sizeWith structSize enumSize inner

/-- The alignment of a type, given the alignments of the named types in it. -/
def alignmentWith (structAlignment enumAlignment : TypeId -> Int64) : Ty -> Int64
  | .prim name => name.alignment
  | .opaquePointer | .pointer _ | .array _ | .function _ _ _ _ => 8
  | .fixedArray element _ => alignmentWith structAlignment enumAlignment element
  | .struct _ id => structAlignment id
  | .enum _ id => enumAlignment id
  | .const inner | .mutable inner => alignmentWith structAlignment enumAlignment inner

end Ty

namespace Definitions

/-- The size of an enumeration. -/
def enumSize (definitions : Definitions) (id : TypeId) : Int64 :=
  (definitions.enumBase id).size

/-- The alignment of an enumeration. -/
def enumAlignment (definitions : Definitions) (id : TypeId) : Int64 :=
  (definitions.enumBase id).alignment

/-- The alignment of a struct: the greatest among its fields, and at least one.
`depth` bounds how deep structs hold structs. -/
def structAlignment (definitions : Definitions) : (depth : Nat) -> TypeId -> Int64
  | 0, _ => 1
  | depth + 1, id =>
    (definitions.struct id).fields.foldl (fun greatest field =>
      let alignment := field.type.alignmentWith (definitions.structAlignment depth)
        definitions.enumAlignment
      if greatest < alignment then alignment else greatest) 1

/-- The size of a struct; `depth` bounds how deep structs hold structs. -/
def structSize (definitions : Definitions) : (depth : Nat) -> TypeId -> Int64
  | 0, _ => -1
  | depth + 1, id =>
    let body := definitions.struct id
    placeFields body.layout 0 1 (body.fields.map fun field =>
      (field.type.sizeWith (definitions.structSize depth) definitions.enumSize,
        field.type.alignmentWith (definitions.structAlignment depth) definitions.enumAlignment))

/-- No chain of structs that hold each other by value is longer than this, unless
a struct holds itself. -/
def depthBound (definitions : Definitions) : Nat :=
  definitions.structs.length + 1

/-- The alignment of a type. -/
def alignment (definitions : Definitions) (type : Ty) : Int64 :=
  type.alignmentWith (definitions.structAlignment definitions.depthBound)
    definitions.enumAlignment

/-- The size of a type. -/
def size (definitions : Definitions) (type : Ty) : Int64 :=
  type.sizeWith (definitions.structSize definitions.depthBound) definitions.enumSize

end Definitions
end UnitCheck
