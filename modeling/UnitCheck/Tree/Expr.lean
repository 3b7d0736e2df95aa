import UnitCheck.Source.Span

/-!
# Written types and expressions

A `TypeForm` is a type as the unit spells it, before any name in it is looked
up. Nodes of a unit are told apart by where they start: no two data of one text
start at the same byte, so the start of its datum identifies a node.

The operators in expressions are closed types: what is not an operator never
becomes an expression.
-/

namespace UnitCheck

/-- The identity of a node: the byte offset where its datum starts. -/
abbrev NodeId := Nat

/-- The identity of the node read from a span. -/
def Span.node (span : Span) : NodeId := span.start.index

/-- A name as it is written somewhere. -/
structure Ident where
  name : String
  span : Span
deriving Repr, DecidableEq, Inhabited

/-- A type as it is written. -/
inductive TypeForm where
  | named (name : String) (span : Span)
  /-- The pointer to nothing in particular. -/
  | opaquePointer (span : Span)
  | pointer (element : TypeForm) (span : Span)
  | address (span : Span)
  | array (element : TypeForm) (span : Span)
  | fixedArray (element : TypeForm) (length : Nat) (span : Span)
  | const (inner : TypeForm) (span : Span)
  | mutable (inner : TypeForm) (span : Span)
  | function (params : List TypeForm) (result : TypeForm) (variadic : Bool) (span : Span)
deriving Inhabited

namespace TypeForm

/-- Where the type is written. -/
def span : TypeForm -> Span
  | .named _ span | .opaquePointer span | .pointer _ span | .address span | .array _ span
  | .fixedArray _ _ span | .const _ span | .mutable _ span | .function _ _ _ span => span

/-- The identity of the type's node. -/
def node (form : TypeForm) : NodeId := form.span.node

mutual

/-- The names mentioned in a written type, from left to right. -/
def mentions : TypeForm -> List Ident
  | .named name span => [⟨name, span⟩]
  | .opaquePointer _ | .address _ => []
  | .pointer element _ | .array element _ | .fixedArray element _ _ => mentions element
  | .const inner _ | .mutable inner _ => mentions inner
  | .function params result _ _ => mentionsAll params ++ mentions result

/-- The names mentioned in several written types. -/
def mentionsAll : List TypeForm -> List Ident
  | [] => []
  | form :: rest => mentions form ++ mentionsAll rest

end
end TypeForm

/-! ### Expressions -/

/-- The kinds of literals. -/
inductive LiteralKind where
  | integer | float | boolean | char | string | null
deriving Repr, DecidableEq, Inhabited

/-- The kind's name. -/
def LiteralKind.text : LiteralKind -> String
  | .integer => "integer"
  | .float => "float"
  | .boolean => "boolean"
  | .char => "char"
  | .string => "string"
  | .null => "null"

/-- A literal by its spelling, without quotes for strings and characters. -/
structure Literal where
  kind : LiteralKind
  text : String
  span : Span
deriving Repr, DecidableEq, Inhabited

/-- The operators with two operands. -/
inductive BinaryOp where
  | add | sub | mul | div | rem
  | eq | ne | lt | le | gt | ge
  | and | or
  | bitAnd | bitOr | bitXor | shiftLeft | shiftRight
deriving Repr, DecidableEq, Inhabited

namespace BinaryOp

/-- The operator's spelling. -/
def text : BinaryOp -> String
  | .add => "+"
  | .sub => "-"
  | .mul => "*"
  | .div => "/"
  | .rem => "%"
  | .eq => "=="
  | .ne => "!="
  | .lt => "<"
  | .le => "<="
  | .gt => ">"
  | .ge => ">="
  | .and => "&&"
  | .or => "||"
  | .bitAnd => "&"
  | .bitOr => "|"
  | .bitXor => "^"
  | .shiftLeft => "<<"
  | .shiftRight => ">>"

/-- All operators with two operands. -/
def all : List BinaryOp :=
  [.add, .sub, .mul, .div, .rem, .eq, .ne, .lt, .le, .gt, .ge, .and, .or,
    .bitAnd, .bitOr, .bitXor, .shiftLeft, .shiftRight]

/-- The operator spelled `text`. -/
def ofText? (text : String) : Option BinaryOp :=
  all.find? (·.text = text)

/-- Operators on two truth values. -/
def isLogical : BinaryOp -> Bool
  | .and | .or => true
  | _ => false

/-- Operators that compare. -/
def isComparison : BinaryOp -> Bool
  | .eq | .ne | .lt | .le | .gt | .ge => true
  | _ => false

/-- Comparisons that only ask whether the operands are equal. -/
def isEquality : BinaryOp -> Bool
  | .eq | .ne => true
  | _ => false

/-- Operators on the bits of integers. -/
def isBitwise : BinaryOp -> Bool
  | .bitAnd | .bitOr | .bitXor | .shiftLeft | .shiftRight => true
  | _ => false

/-- Shifts, whose result has the type of the shifted operand. -/
def isShift : BinaryOp -> Bool
  | .shiftLeft | .shiftRight => true
  | _ => false

end BinaryOp

/-- The operators with one operand. -/
inductive UnaryOp where
  | negate | not | complement
deriving Repr, DecidableEq, Inhabited

namespace UnaryOp

/-- The operator's spelling. -/
def text : UnaryOp -> String
  | .negate => "-"
  | .not => "!"
  | .complement => "~"

/-- The operator spelled `text`. -/
def ofText? (text : String) : Option UnaryOp :=
  if text = "-" then some .negate
  else if text = "!" then some .not
  else if text = "~" then some .complement
  else none

end UnaryOp

/-- An expression. -/
inductive Expr where
  | literal (value : Literal)
  | name (ident : Ident)
  | binary (op : BinaryOp) (left right : Expr) (span : Span)
  | unary (op : UnaryOp) (operand : Expr) (span : Span)
  /-- A call by name. -/
  | call (callee : Ident) (args : List Expr) (span : Span)
  /-- A call of a function value. -/
  | callValue (function : Expr) (args : List Expr) (span : Span)
  | field (base : Expr) (path : List String) (span : Span)
  | index (base position : Expr) (span : Span)
  | cast (type : TypeForm) (operand : Expr) (span : Span)
  | array (element : Option TypeForm) (items : List Expr) (span : Span)
  | addressOf (operand : Expr) (span : Span)
  | load (type : TypeForm) (operand : Expr) (span : Span)
  | alloc (type : TypeForm) (span : Span)
  /-- A place where no expression could be read. -/
  | bad (span : Span)
deriving Inhabited

namespace Expr

/-- Where the expression is written. -/
def span : Expr -> Span
  | .literal value => value.span
  | .name ident => ident.span
  | .binary _ _ _ span | .unary _ _ span | .call _ _ span | .callValue _ _ span
  | .field _ _ span | .index _ _ span | .cast _ _ span | .array _ _ span
  | .addressOf _ span | .load _ _ span | .alloc _ span | .bad span => span

/-- The identity of the expression's node. -/
def node (expr : Expr) : NodeId := expr.span.node

/-- Whether the expression is a number or a null whose type still depends on its
context, possibly behind minus signs. -/
def isUntypedLiteral : Expr -> Bool
  | .literal value =>
    match value.kind with
    | .integer | .float | .null => true
    | _ => false
  | .unary .negate operand _ => isUntypedLiteral operand
  | _ => false

/-- Instructions that work on raw memory. -/
def isLowLevel : Expr -> Bool
  | .addressOf _ _ | .load _ _ _ | .alloc _ _ => true
  | _ => false

end Expr
end UnitCheck
