import UnitCheck.Finding.Basic

/-!
# Types of literals and operations

An integer takes the expected integer or float type, or else the default one; a
float takes the expected float type; null takes the expected pointer type. A
negative integer aimed at an unsigned type is given the signed type of the same
width, and an integer has to fit the type it ends up with.

An operation has its type from the types of its operands. An operand of unknown
type silences every complaint about the operation.
-/

namespace UnitCheck.Typing

/-- The type of an expression and what is to be said about it. -/
abbrev Judged := Ty × Option Finding

/-- The type that an integer literal aims at. -/
def integerTarget (defaultInt : Ty) (expected : Option Ty) : Ty :=
  match expected with
  | some type => if type.isInteger || type.isFloat then type.unwrap else defaultInt
  | none => defaultInt

/-- The type that an integer value gets when it aims at a type. -/
def settleSign (value : Int) (target : Ty) : Ty :=
  if value < 0 && target.isUnsigned then target.toSigned else target

/-- What is to be said about an integer value of a type. -/
def overflow? (span : Span) (value : Int) (type : Ty) : Option Finding :=
  match type.prim? with
  | none => none
  | some name =>
    if Numeral.fits value name.bits name.isSigned then none
    else some (.literalOverflow span value name)

/-- The type of an integer literal; `negated` says that it is the operand of a minus. -/
def integerType (defaultInt : Ty) (literal : Literal) (expected : Option Ty) (negated : Bool) :
    Judged :=
  let target := integerTarget defaultInt expected
  if target.isFloat then (target, none)
  else match Numeral.integer? literal.text with
    | none => (.unknown, some (.notNumber literal.span literal.text))
    | some magnitude =>
      let value := if negated then -magnitude else magnitude
      let type := settleSign value target
      (type, overflow? literal.span value type)

/-- The type of a literal where `expected` is wanted. -/
def literalType (defaultInt : Ty) (literal : Literal) (expected : Option Ty) (negated : Bool) :
    Judged :=
  match literal.kind with
  | .integer => integerType defaultInt literal expected negated
  | .float =>
    match expected with
    | some type => (if type.isFloat then type.unwrap else .prim .f64, none)
    | none => (.prim .f64, none)
  | .boolean => (.bool, none)
  | .char => (.prim .char, none)
  -- a string is a sequence of bytes that ends with a zero
  | .string => (.pointer (.prim .u8), none)
  | .null =>
    match expected with
    | some type => (if type.isPointerLike then type.unwrap else .opaquePointer, none)
    | none => (.opaquePointer, none)

/-! ### Operations -/

/-- The type that the literal side of an operation is wanted to have. -/
def literalHint (type : Ty) : Option Ty :=
  if type.isUnknown then none else some type.unwrap

/-- What is to be said about an operand of a logical operator. -/
def logicalOperand? (op : String) (span : Span) (type : Ty) : Option Finding :=
  if type.isUnknown || type.isBool then none else some (.invalidOperand span op type .bool)

/-- What is to be said about a comparison of two known types. -/
def comparison? (op : BinaryOp) (span : Span) (left right : Ty) : Option Finding :=
  if left.isNumeric && right.isNumeric then
    if (left.unwrap.wider? right.unwrap).isNone then
      some (.operandMismatch span op left right .noWidening)
    else none
  else if left.isPointerLike || right.isPointerLike then
    if !op.isEquality then some (.pointerOrder span op)
    else if left.unwrap.same right.unwrap then none
    else some (.operandMismatch span op left right .differentPointers)
  else if left.isBool || left.isChar || left.isEnum then
    if !left.unwrap.same right.unwrap then
      some (.operandMismatch span op left right .differentTypes)
    else if !op.isEquality then some (.unordered span left.unwrap)
    else none
  else some (.operandMismatch span op left right .incomparable)

/-- The type both operands of an arithmetic or bitwise operator widen to. -/
def widened (op : BinaryOp) (span : Span) (left right : Ty) : Judged :=
  match left.wider? right with
  | some type => (type, none)
  | none => (.unknown, some (.operandMismatch span op left right .noWidening))

/-- The type of an operation, other than a logical one, on operands of these types. -/
def binaryType (op : BinaryOp) (span : Span) (left right : Ty) : Judged :=
  if left.isUnknown || right.isUnknown then
    (if op.isComparison then .bool else .unknown, none)
  else if op.isComparison then (.bool, comparison? op span left right)
  else if op.isBitwise then
    if !left.isInteger || !right.isInteger then
      (.unknown, some (.operandMismatch span op left right .needIntegers))
    else if op.isShift then (left.unwrap, none)
    else widened op span left right
  else if !left.isNumeric || !right.isNumeric then
    (.unknown, some (.operandMismatch span op left right .needNumbers))
  else widened op span left right

/-- The type of a negated value. -/
def negateType (span operandSpan : Span) (type : Ty) : Judged :=
  if type.isUnknown then (.unknown, none)
  else if type.isUnsigned then (.unknown, some (.negatedUnsigned span type))
  else if !type.isNumeric then
    (.unknown, some (.invalidOperand operandSpan UnaryOp.negate.text type .number))
  else (type.unwrap, none)

/-- The type of a value with its bits complemented. -/
def complementType (operandSpan : Span) (type : Ty) : Judged :=
  if type.isUnknown then (.unknown, none)
  else if !type.isInteger then
    (.unknown, some (.invalidOperand operandSpan UnaryOp.complement.text type .integer))
  else (type.unwrap, none)

/-- What is to be said about a value of type `found` where `expected` is wanted. -/
def mismatch? (span : Span) (found expected : Ty) : Option Finding :=
  if (found.compatibility expected).isAllowed then none else some (.mismatch span expected found)

/-- The type of an element reached by an index, given the type of the base. The
index is a literal's spelling and value when it is one. -/
def elementType (base : Ty) (baseSpan : Span) (constant : Option (Literal × Int)) : Judged :=
  if base.isUnknown then (.unknown, none)
  else match base.unwrap with
    | .fixedArray element length =>
      match constant with
      | some (literal, value) =>
        if value < 0 || (length : Int) ≤ value || (Numeral.power 2 63 : Int) ≤ value then
          (element, some (.indexOutOfBounds literal.span literal.text
            (.fixedArray element length) length))
        else (element, none)
      | none => (element, none)
    | .array element => (element, none)
    | .pointer element => (element, none)
    | _ => (.unknown, some (.notIndexable baseSpan base))

/-- The value of an index that is an integer literal. -/
def constantIndex? : Expr -> Option (Literal × Int)
  | .literal literal =>
    match literal.kind with
    | .integer => (Numeral.integer? literal.text).map (literal, ·)
    | _ => none
  | _ => none

/-- The better candidate for the element type of an array: the first one of the
highest rank, without its qualifiers. -/
def better (best : Option Ty) (type : Ty) : Option Ty :=
  if type.isUnknown then best
  else match best with
    | none => some type.unwrap
    | some current => if current.rank < type.rank then some type.unwrap else some current

end UnitCheck.Typing
