import UnitCheck.Session.WrittenType
import UnitCheck.Typing.Operator
import UnitCheck.Typing.Place

/-!
# Types of expressions

Types flow from the operands up, while the type that the context expects is
handed down so that literals can take it. Every type found is recorded. What
fails to get a type gets the unknown type and the walk goes on.

The type of a global without a written type is found when it is first read;
`demand` is what finds it.
-/

namespace UnitCheck.Typing

/-- Finds the type of a symbol whose type is not known yet. -/
abbrev Demand := Symbol -> Check Ty

/-- Reports a finding, if there is one. -/
def tell (finding : Option Finding) : Check Unit :=
  match finding with
  | some finding => Check.report finding
  | none => return

/-- Reports what is to be said and hands the type on. -/
def accept (judged : Judged) : Check Ty := do
  tell judged.2
  return judged.1

/-- Records the type of an expression and hands it on. -/
def record (node : NodeId) (type : Ty) : Check Ty := do
  Check.recordExpr node type
  return type

/-- The type of what a symbol stands for. -/
def symbolType (demand : Demand) (symbol : Symbol) : Check Ty := do
  match ((<- get).knownOf symbol.id).type with
  | some type => return type
  | none => demand symbol

/-- The type of a name. Names without a symbol and names of types were reported when
they were resolved. -/
def nameType (demand : Demand) (name : Ident) : Check Ty := do
  match (<- get).facts.refs.find? name.span.node with
  | none => return .unknown
  | some symbol => if symbol.isType then return .unknown else symbolType demand symbol

/-- The type of a literal in the session. -/
def checkLiteral (literal : Literal) (expected : Option Ty) (negated : Bool) : Check Ty := do
  accept (literalType (<- get).options.integerType literal expected negated)

/-- What a call invokes. -/
structure Callee where
  name : String
  params : List Ty
  result : Ty
  variadic : Bool

/-- What a call by name invokes; the name of a struct constructs one from its fields. -/
def calleeOf (demand : Demand) (symbol : Symbol) : Check (Option Callee) := do
  let session <- get
  let known := session.knownOf symbol.id
  if symbol.kind = .struct then
    match known.type with
    | some (.struct name id) =>
      let params := (session.definitions.struct id).fields.map (·.type)
      return some ⟨name, params, .struct name id, false⟩
    | _ => return none
  else if symbol.isType then return none
  else
    match (<- symbolType demand symbol).unwrap with
    | .function params result _ variadic =>
      return some ⟨symbol.name, params, result, variadic || known.variadic⟩
    | _ => return none

/-- Whether a call with this many arguments fits what it invokes. -/
def Callee.accepts (callee : Callee) (count : Nat) : Bool :=
  count = callee.params.length || (callee.variadic && callee.params.length < count)

/-- Reports a wrong number of arguments. -/
def reportArity (callee : Callee) (span : Span) (count : Nat) : Check Unit := do
  Check.report (.argumentCount span callee.name callee.params.length count)
  Check.report (.argumentOrder span callee.name callee.params)

/-- The type of a variant of an enumeration. -/
def variantType (symbol : Symbol) (name : Ident) (path : List String) (span : Span) :
    Check Ty := do
  let session <- get
  match (session.knownOf symbol.id).type with
  | some (.enum enumName id) =>
    Check.recordExpr name.span.node (.enum enumName id)
    let variants := match session.definitions.enum? id with
      | some body => body.variants
      | none => []
    match path with
    | [variant] =>
      if variants.contains variant then return .enum enumName id
      else
        Check.report (.unknownVariant span enumName path variants)
        return .unknown
    | _ =>
      Check.report (.unknownVariant span enumName path variants)
      return .unknown
  | _ => return .unknown

/-- The enumeration that the base of a field access names. -/
def enumBase? (base : Expr) : Check (Option (Symbol × Ident)) := do
  match base with
  | .name name =>
    match (<- get).facts.refs.find? name.span.node with
    | some symbol => return if symbol.kind = .enum then some (symbol, name) else none
    | none => return none
  | _ => return none

/-- The type of the field that a path leads to. -/
def fieldType (base : Ty) (path : List String) (span : Span) : Check Ty := do
  if base.isUnknown then return .unknown
  else
    let session <- get
    match Member.walk session.definitions session.options.derefMode base path with
    | (.ok type, steps) =>
      Check.recordMembers span.node steps
      return type
    | (.error error, _) =>
      Check.report (.fieldAccess span error)
      return .unknown

/-- The element type that a context expects of an array. -/
def expectedElement? (expected : Option Ty) : Option Ty :=
  match expected.map Ty.unwrap with
  | some (.fixedArray element _) => some element
  | some (.array element) => some element
  | _ => none

/-- Compares the recorded types of elements with the element type. -/
def compareItems (element : Ty) : List Expr -> Check Unit
  | [] => return
  | item :: rest => do
    let found := ((<- get).facts.exprs.find? item.node).getD .unknown
    tell (mismatch? item.span found element)
    compareItems element rest

/-- The literal directly below a minus that is typed together with it. -/
def negatedLiteral? : Expr -> Option Literal
  | .literal literal =>
    match literal.kind with
    | .integer | .float => some literal
    | _ => none
  | _ => none

mutual

/-- The type of an expression where `expected` is wanted; it is recorded. -/
def checkExpr (demand : Demand) : (expr : Expr) -> (expected : Option Ty) -> Check Ty
  | .literal literal, expected => do
    record literal.span.node (<- checkLiteral literal expected false)
  | .name name, _ => do record name.span.node (<- nameType demand name)
  | .binary op left right span, expected => do
    if op.isLogical then
      let leftType <- checkExpr demand left (some .bool)
      let rightType <- checkExpr demand right (some .bool)
      tell (logicalOperand? op.text left.span leftType)
      tell (logicalOperand? op.text right.span rightType)
      record span.node .bool
    else
      -- a comparison says nothing about the types of its operands
      let hint := if op.isComparison then none else expected
      if left.isUntypedLiteral && !right.isUntypedLiteral then
        let rightType <- checkExpr demand right hint
        let leftType <- checkExpr demand left (literalHint rightType)
        record span.node (<- accept (binaryType op span leftType rightType))
      else
        let leftType <- checkExpr demand left hint
        let rightType <- checkExpr demand right (literalHint leftType)
        record span.node (<- accept (binaryType op span leftType rightType))
  | .unary .negate operand span, expected => do
    match negatedLiteral? operand with
    | some literal =>
      let type <- checkLiteral literal expected true
      Check.recordExpr literal.span.node type
      record span.node type
    | none =>
      let type <- checkExpr demand operand expected
      record span.node (<- accept (negateType span operand.span type))
  | .unary .not operand span, _ => do
    let type <- checkExpr demand operand (some .bool)
    tell (logicalOperand? UnaryOp.not.text operand.span type)
    record span.node .bool
  | .unary .complement operand span, expected => do
    let type <- checkExpr demand operand expected
    record span.node (<- accept (complementType operand.span type))
  | .call name args span, _ => do
    match (<- get).facts.refs.find? name.span.node with
    | none =>
      checkAll demand args
      record span.node .unknown
    | some symbol =>
      match <- calleeOf demand symbol with
      | none =>
        Check.report (.notCallable name symbol.kind)
        checkAll demand args
        record span.node .unknown
      | some callee =>
        Check.recordExpr name.span.node (<- symbolType demand symbol)
        if callee.accepts args.length then
          checkArgs demand callee.params args
        else
          reportArity callee span args.length
          checkAll demand args
        record span.node callee.result
  | .callValue function args span, _ => do
    let type <- checkExpr demand function none
    if type.isUnknown then
      checkAll demand args
      record span.node .unknown
    else
      match type.unwrap with
      | .function params result _ variadic =>
        let callee : Callee := ⟨"function value", params, result, variadic⟩
        if callee.accepts args.length then
          checkArgs demand params args
        else
          reportArity callee span args.length
          checkAll demand args
        record span.node result
      | _ =>
        Check.report (.valueNotCallable function.span type)
        checkAll demand args
        record span.node .unknown
  | .field base path span, _ => do
    match <- enumBase? base with
    | some (symbol, name) => record span.node (<- variantType symbol name path span)
    | none =>
      let type <- checkExpr demand base none
      record span.node (<- fieldType type path span)
  | .index base position span, _ => do
    let baseType <- checkExpr demand base none
    let positionType <- checkExpr demand position (some (.prim .u64))
    if !positionType.isUnknown && !positionType.isInteger then
      Check.report (.indexNotInteger position.span positionType)
    record span.node (<- accept (elementType baseType base.span (constantIndex? position)))
  | .cast form operand span, _ => do
    let target <- Check.recordedType form
    let source <- checkExpr demand operand none
    if !source.castable target then
      Check.report (.invalidCast span source target)
    record span.node target
  | .array form items span, expected => do
    let element <- match form with
      | some form => do pure (some (<- Check.recordedType form))
      | none => pure (expectedElement? expected)
    match element with
    | some element =>
      checkItems demand element items
      record span.node (.fixedArray element items.length)
    | none =>
      let hint <- checkTypedItems demand none items
      let best <- checkLiteralItems demand hint hint items
      match best with
      | some element =>
        compareItems element items
        record span.node (.fixedArray element items.length)
      | none =>
        Check.report (.emptyArray span)
        record span.node (.fixedArray .unknown 0)
  | .addressOf operand span, _ => do
    let _ <- checkExpr demand operand none
    if !isAddressable (<- get).facts operand then
      Check.report (.notAddressable operand.span)
    record span.node (.prim .addr)
  | .load form operand span, _ => do
    let target <- Check.recordedType form
    let source <- checkExpr demand operand none
    if !source.isUnknown && !source.isPointerLike then
      Check.report (.loadOperand operand.span source)
    record span.node target
  | .alloc form span, _ => do
    record span.node (.pointer (<- Check.recordedType form))
  | .bad span, _ => record span.node .unknown

/-- Types expressions of which nothing is expected. -/
def checkAll (demand : Demand) : List Expr -> Check Unit
  | [] => return
  | expr :: rest => do
    let _ <- checkExpr demand expr none
    checkAll demand rest

/-- Types arguments and compares them with the parameters; arguments behind the last
parameter are only typed. -/
def checkArgs (demand : Demand) : (params : List Ty) -> List Expr -> Check Unit
  | _, [] => return
  | [], expr :: rest => do
    let _ <- checkExpr demand expr none
    checkArgs demand [] rest
  | param :: params, expr :: rest => do
    let found <- checkExpr demand expr (some param)
    tell (mismatch? expr.span found param)
    checkArgs demand params rest

/-- Types the elements of an array of a given element type. -/
def checkItems (demand : Demand) (element : Ty) : List Expr -> Check Unit
  | [] => return
  | expr :: rest => do
    let found <- checkExpr demand expr (some element)
    tell (mismatch? expr.span found element)
    checkItems demand element rest

/-- Types the elements that are no untyped literals and picks the best of their types. -/
def checkTypedItems (demand : Demand) : (best : Option Ty) -> List Expr -> Check (Option Ty)
  | best, [] => return best
  | best, expr :: rest => do
    if expr.isUntypedLiteral then
      checkTypedItems demand best rest
    else
      let type <- checkExpr demand expr none
      checkTypedItems demand (better best type) rest

/-- Types the elements that are untyped literals. They take the hint if there is one;
otherwise the best of their types is picked. -/
def checkLiteralItems (demand : Demand) (hint : Option Ty) :
    (best : Option Ty) -> List Expr -> Check (Option Ty)
  | best, [] => return best
  | best, expr :: rest => do
    if expr.isUntypedLiteral then
      let type <- checkExpr demand expr hint
      checkLiteralItems demand hint (if hint.isNone then better best type else best) rest
    else
      checkLiteralItems demand hint best rest

end
end UnitCheck.Typing
