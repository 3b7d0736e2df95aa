import UnitCheck.Typing.Expr

/-!
# Types in statements

Each statement types its expressions and compares them with what their place
expects: the declared type of a binding, a truth value for a condition, the
result type for a returned value.
-/

namespace UnitCheck.Typing

/-- Sets the type of the symbol that a node declares, if it declares one. -/
def setDeclType (node : NodeId) (type : Ty) : Check Unit := do
  match (<- get).facts.decls.find? node with
  | some symbol => Check.setType symbol.id type
  | none => return

/-- The type that a binding declares; a written `void` is reported and counts as
unknown. -/
def declaredType (name : Option Ident) : Option TypeForm -> Check (Option Ty)
  | none => return none
  | some form => do
    let type <- Check.recordedType form
    if type.isVoid then
      Check.report (.voidBinding form.span (name.map (·.name)))
      return some .unknown
    else return some type

/-- The type that a binding gets from its value, given the type it declares. -/
def valueType (demand : Demand) (name : Option Ident) (declared : Option Ty) :
    Option Expr -> Check Ty
  | none => return declared.getD .unknown
  | some value => do
    let found <- checkExpr demand value declared
    match declared with
    | some type =>
      tell (mismatch? value.span found type)
      return type
    | none =>
      if found.isVoid then
        Check.report (.voidBinding value.span (name.map (·.name)))
        return .unknown
      else return found

/-- Types a binding. Its declared type wins; without one it takes the type of its
value, and without either it is unknown. -/
def checkBinding (demand : Demand) (node : NodeId) (name : Option Ident)
    (form : Option TypeForm) (value : Option Expr) : Check Ty := do
  let declared <- declaredType name form
  let type <- valueType demand name declared value
  setDeclType node type
  return type

/-- Types a local binding, which needs a type or a value. -/
def checkLocal (demand : Demand) (binding : BindingDecl) : Check Unit := do
  if binding.type.isNone && binding.value.isNone then
    Check.report (.missingInitializer binding.span (.binding binding.name.name))
    setDeclType binding.span.node .unknown
  else
    let _ <- checkBinding demand binding.span.node (some binding.name) binding.type binding.value

/-- Types a constant, which needs a value. -/
def checkConst (demand : Demand) (decl : ConstDecl) : Check Ty := do
  match decl.value with
  | some _ => checkBinding demand decl.span.node decl.name decl.type decl.value
  | none =>
    Check.report (.missingInitializer decl.span .constant)
    let type <- match decl.type with
      | some form => Check.recordedType form
      | none => pure .unknown
    setDeclType decl.span.node type
    return type

/-- Types a static, which needs a type or a value. -/
def checkStatic (demand : Demand) (decl : StaticDecl) : Check Ty := do
  if decl.type.isNone && decl.value.isNone then
    Check.report (.missingInitializer decl.span .static)
    setDeclType decl.span.node .unknown
    return .unknown
  else checkBinding demand decl.span.node decl.name decl.type decl.value

/-- Types a condition, which has to be a truth value. -/
def checkCondition (demand : Demand) (test : Expr) : Check Unit := do
  let type <- checkExpr demand test (some .bool)
  if !type.isUnknown && !type.isBool then
    Check.report (.conditionNotBool test.span type)

/-- Types a returned value and compares it with the result type. -/
def checkReturn (demand : Demand) (result : Ty) (value : Option Expr) (span : Span) :
    Check Unit := do
  match value with
  | none =>
    if !result.isVoid && !result.isUnknown then
      Check.report (.missingReturnValue span result)
  | some value =>
    if result.isVoid then
      let _ <- checkExpr demand value none
      Check.report (.unexpectedReturnValue value.span)
    else
      let found <- checkExpr demand value (some result)
      if !(found.compatibility result).isAllowed then
        Check.report (.returnMismatch value.span result found)

/-- What is to be said about an assignment to a target. -/
def assignProblem? (span : Span) : Mutability -> Option Finding
  | .allowed => none
  | .notPlace => some (.notAssignable span)
  | .constType => some (.constTarget span)
  | .constant symbol => some (.constantTarget span symbol)
  | .immutable symbol => some (.immutableTarget span symbol)

/-- Types an assignment. The value is compared with the target only when the target
may be assigned. -/
def checkAssign (demand : Demand) (target value : Expr) : Check Unit := do
  let targetType <- checkExpr demand target none
  let valueType <- checkExpr demand value (some targetType)
  match assignProblem? target.span (mutability (<- get).facts target targetType) with
  | some problem => Check.report problem
  | none => tell (mismatch? value.span valueType targetType)

/-- Types a write through a pointer. -/
def checkWrite (demand : Demand) (target value : Expr) : Check Unit := do
  let targetType <- checkExpr demand target none
  match targetType.unwrap with
  | .pointer element =>
    let found <- checkExpr demand value (some element)
    tell (mismatch? value.span found element)
  | _ =>
    let _ <- checkExpr demand value none
    if !targetType.isUnknown && !targetType.isPointerLike then
      Check.report (.writeOperand target.span targetType)

mutual

/-- Types a statement of a body with a result type. -/
def checkStmt (demand : Demand) (result : Ty) : Stmt -> Check Unit
  | .block body _ => checkStmts demand result body
  | .expr value => do let _ <- checkExpr demand value none
  | .letIn binding => checkLocal demand binding
  | .instr binding => do
    let _ <- checkBinding demand binding.span.node (some binding.name) binding.type binding.value
  | .const decl => do let _ <- checkConst demand decl
  | .struct _ => return
  | .assign target value _ => checkAssign demand target value
  | .write target value _ => checkWrite demand target value
  | .cond test body _ otherwise _ => do
    checkCondition demand test
    checkStmts demand result body
    checkStmt? demand result otherwise
  | .whileLoop test body _ _ => do
    checkCondition demand test
    checkStmts demand result body
  | .loop body _ _ => checkStmts demand result body
  | .forLoop first test after body _ _ => do
    checkStmt? demand result first
    match test with
    | some test => checkCondition demand test
    | none => pure ()
    checkStmt? demand result after
    checkStmts demand result body
  | .ret value span => checkReturn demand result value span
  | .brk _ | .cont _ | .bad _ => return

/-- Types a statement that may be missing. -/
def checkStmt? (demand : Demand) (result : Ty) : Option Stmt -> Check Unit
  | none => return
  | some stmt => checkStmt demand result stmt

/-- Types several statements in turn. -/
def checkStmts (demand : Demand) (result : Ty) : List Stmt -> Check Unit
  | [] => return
  | stmt :: rest => do
    checkStmt demand result stmt
    checkStmts demand result rest

end
end UnitCheck.Typing
