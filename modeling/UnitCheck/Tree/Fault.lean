import UnitCheck.Datum.Reader

/-!
# Why a text is not a unit

Reading a unit fails when its text is not a sequence of data, when a datum is
not one of the forms its place allows, or when an empty list stands where a
type is expected.
-/

namespace UnitCheck

/-- What is wrong with a datum for its place. -/
inductive Fault where
  | attributeValues
  | parameterList (got : Datum)
  | parameter (got : Datum)
  | functionBody
  | entryBody
  | structField (got : Datum)
  | enumVariant (got : Datum)
  | notType (got : Datum)
  | elementType (head : String)
  | arrayLength
  | functionType
  | unknownType (got : Datum)
  | notBlock (got : Datum)
  | assignment
  | whileLoop
  | loop
  | write
  | binding
  | conditional
  | elseBranch
  | forLoop
  | invalidNumber (text : String)
  | notLiteral (got : Datum)
  | emptyExpression
  | operands (op : String)
  | callee
  | calleeValue
  | fieldAccess
  | pathSegment
  | index
  | cast
  | arrayElement
  | addressOf
  | load
  | alloc
  | unknownExpression (got : Datum)

/-- The wording of each fault. -/
def Fault.message : Fault -> String
  | .attributeValues => "attribute takes at most one value"
  | .parameterList got => "expected parameter list, got " ++ got.render
  | .parameter got => "expected (name type) parameter, got " ++ got.render
  | .functionBody => "function takes a single (block ...) body"
  | .entryBody => "entry takes a single (block ...) body"
  | .structField got => "expected (field type), got " ++ got.render
  | .enumVariant got => "expected (variant [value]), got " ++ got.render
  | .notType got => "expected type, got " ++ got.render
  | .elementType head => head ++ " needs an element type"
  | .arrayLength => "array length must be a non-negative integer"
  | .functionType => "expected (fn (params...) ret)"
  | .unknownType got => "unknown type form " ++ got.render
  | .notBlock got => "expected (block ...), got " ++ got.render
  | .assignment => "set takes a target and a value"
  | .whileLoop => "expected (while cond (block ...))"
  | .loop => "expected (loop (block ...))"
  | .write => "expected (write target value)"
  | .binding => "expected name and type"
  | .conditional => "expected (if cond (block ...) [else])"
  | .elseBranch => "else must be (if ...) or (block ...)"
  | .forLoop => "expected (for init cond post (block ...))"
  | .invalidNumber text => "invalid number " ++ text
  | .notLiteral got => "expected literal, got " ++ got.render
  | .emptyExpression => "empty expression"
  | .operands op => op ++ " takes two operands"
  | .callee => "call needs a callee name"
  | .calleeValue => "icall needs a callee"
  | .fieldAccess => "field access needs a value and a path"
  | .pathSegment => "field path segment must be a name or an index"
  | .index => "index takes a value and an index"
  | .cast => "expected (cast type value)"
  | .arrayElement => "arr-of needs an element type"
  | .addressOf => "address takes one operand"
  | .load => "expected (load type value)"
  | .alloc => "expected (alloc type)"
  | .unknownExpression got => "unknown expression form " ++ got.render

/-- Why a text is not a unit. -/
inductive DecodeError where
  /-- The text is not a sequence of data. -/
  | unreadable (error : ReadError)
  /-- A datum is not one of the forms its place allows. -/
  | malformed (point : Position) (fault : Fault)
  /-- An empty list stands where a type is expected. -/
  | emptyType (point : Position)

/-- The error as it is written out, behind the name of the file. -/
def DecodeError.message (file : String) : DecodeError -> String
  | .unreadable error => file ++ ": " ++ error.message
  | .malformed point fault =>
    file ++ ": " ++ point.renderShort ++ ": malformed AST: " ++ fault.message
  | .emptyType point => file ++ ": " ++ point.renderShort ++ ": empty type form"

end UnitCheck
