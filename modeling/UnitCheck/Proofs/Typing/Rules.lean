import UnitCheck.Proofs.Tree.Parts
import UnitCheck.Typing.Globals

/-!
# Typing rules

What it means that types form a derivation. Each expression is held against the
types of its immediate operands, each statement against the types of the
expressions it holds, and nothing is said about how the types were found. The
rules read the types from a relation between nodes and types, so they speak about
any table of types.
-/

namespace UnitCheck.Typing

section Rules

variable (session : Session) (has : NodeId -> Ty -> Prop)

/-- A value of one type may stand where another is wanted. -/
def Allowed (found wanted : Ty) : Prop := (found.compatibility wanted).isAllowed = true

/-- The expression has a type that may stand where another is wanted. -/
def Fits (expr : Expr) (wanted : Ty) : Prop :=
  ∃ found, has expr.node found ∧ Allowed found wanted

/-- The type is a truth value, or unknown. -/
def Truth (type : Ty) : Prop := type.isUnknown = true ∨ type.isBool = true

/-- The call passes as many arguments as it has to, and those for the parameters fit. -/
def Applies (callee : Callee) (args : List Expr) : Prop :=
  callee.accepts args.length = true ∧ ∀ pair ∈ args.zip callee.params, Fits has pair.1 pair.2

/-- What a call by name invokes when its name has this type. -/
def Invokes (symbol : Symbol) (type : Ty) (callee : Callee) : Prop :=
  if symbol.kind = .struct then
    ∃ name id, type = .struct name id ∧
      callee = ⟨name, (session.definitions.struct id).fields.map (·.type), type, false⟩
  else
    ∃ params result convention variadic,
      type.unwrap = .function params result convention variadic ∧
      callee = ⟨symbol.name, params, result,
        variadic || (session.knownOf symbol.id).variadic⟩

/-- An operation on operands of these types has this type. -/
def BinaryRule (op : BinaryOp) (span : Span) (left right type : Ty) : Prop :=
  if op.isLogical then type = .bool ∧ Truth left ∧ Truth right
  else if op.isComparison then
    type = .bool ∧
      (left.isUnknown = true ∨ right.isUnknown = true ∨ comparison? op span left right = none)
  else if left.isUnknown || right.isUnknown then type = .unknown
  else if op.isShift then
    left.isInteger = true ∧ right.isInteger = true ∧ type = left.unwrap
  else
    left.wider? right = some type ∧ Allowed left type ∧ Allowed right type ∧
      left.isNumeric = true ∧ right.isNumeric = true ∧
      (op.isBitwise = true → left.isInteger = true ∧ right.isInteger = true)

/-- A negated value of this type has that type. -/
def NegateRule (operand type : Ty) : Prop :=
  if operand.isUnknown then type = .unknown
  else operand.isNumeric = true ∧ operand.isUnsigned = false ∧ type = operand.unwrap

/-- A complemented value of this type has that type. -/
def ComplementRule (operand type : Ty) : Prop :=
  if operand.isUnknown then type = .unknown
  else operand.isInteger = true ∧ type = operand.unwrap

/-- The literal may have this type. -/
def LiteralRule (literal : Literal) (type : Ty) : Prop :=
  ∃ expected negated,
    literalType session.options.integerType literal expected negated = (type, none)

/-- The name of an enumeration in front of a variant. -/
def NamesEnum (expr : Expr) (symbol : Symbol) : Prop :=
  ∃ name, expr = .name name ∧ session.facts.refs.find? name.span.node = some symbol ∧
    symbol.kind = .enum

/-- A variant of an enumeration has this type. -/
def VariantRule (base : Expr) (path : List String) (type : Ty) : Prop :=
  type = .unknown ∨
    ∃ name id body variant, has base.node (.enum name id) ∧ type = .enum name id ∧
      session.definitions.enum? id = some body ∧ path = [variant] ∧ variant ∈ body.variants

/-- A member of a value has this type. -/
def MemberRule (base : Expr) (path : List String) (type : Ty) : Prop :=
  ∃ found, has base.node found ∧
    if found.isUnknown then type = .unknown
    else ∃ steps,
      Member.walk session.definitions session.options.derefMode found path = (.ok type, steps)

/-- The expression may have this type, by the types of its immediate operands. -/
def ExprRule : Expr -> Ty -> Prop
  | .literal literal, type => LiteralRule session literal type
  | .name name, type =>
    type = .unknown ∨
      ∃ symbol known, session.facts.refs.find? name.span.node = some symbol ∧
        (symbol.id, known) ∈ session.known ∧ known.type = some type
  | .binary op left right span, type =>
    ∃ leftType rightType, has left.node leftType ∧ has right.node rightType ∧
      BinaryRule op span leftType rightType type
  | .unary .negate operand _, type =>
    ∃ found, has operand.node found ∧
      (NegateRule found type ∨ found = type ∧ (negatedLiteral? operand).isSome = true)
  | .unary .not operand _, type => ∃ found, has operand.node found ∧ Truth found ∧ type = .bool
  | .unary .complement operand _, type =>
    ∃ found, has operand.node found ∧ ComplementRule found type
  | .call name args _, type =>
    (session.facts.refs.find? name.span.node = none ∧ type = .unknown) ∨
      ∃ symbol found callee, session.facts.refs.find? name.span.node = some symbol ∧
        has name.span.node found ∧ Invokes session symbol found callee ∧
        Applies has callee args ∧ type = callee.result
  | .callValue function args _, type =>
    ∃ found, has function.node found ∧
      if found.isUnknown then type = .unknown
      else ∃ params result convention variadic,
        found.unwrap = .function params result convention variadic ∧
        Applies has ⟨"function value", params, result, variadic⟩ args ∧ type = result
  | .field base path _, type =>
    (∃ symbol, NamesEnum session base symbol) ∧ VariantRule session has base path type ∨
      MemberRule session has base path type
  | .index base position _, type =>
    ∃ found place, has base.node found ∧ has position.node place ∧
      (place.isUnknown = true ∨ place.isInteger = true) ∧
      elementType found base.span (constantIndex? position) = (type, none)
  | .cast form operand _, type =>
    ∃ found, has operand.node found ∧ session.facts.forms.find? form.node = some type ∧
      found.castable type = true
  | .array form items _, type =>
    ∃ element, type = .fixedArray element items.length ∧
      (∀ written ∈ form, session.facts.forms.find? written.node = some element) ∧
      ∀ item ∈ items, Fits has item element
  | .addressOf operand _, type => ∃ found, has operand.node found ∧ type = .prim .addr
  | .load form operand _, type =>
    ∃ found, has operand.node found ∧ session.facts.forms.find? form.node = some type ∧
      (found.isUnknown = true ∨ found.isPointerLike = true)
  | .alloc form _, type =>
    ∃ element, session.facts.forms.find? form.node = some element ∧ type = .pointer element
  | .bad _, type => type = .unknown

/-- An initializer is allowed for the declared type; without a declared type it is a value. -/
def BindingRule (form : Option TypeForm) (value : Option Expr) : Prop :=
  ∀ expr ∈ value, match form with
    | some written =>
      ∃ declared, session.facts.forms.find? written.node = some declared ∧ Fits has expr declared
    | none => ∃ found, has expr.node found ∧ found.isVoid = false

/-- A condition is a truth value, unless its type is unknown. -/
def ConditionRule (test : Expr) : Prop := ∃ found, has test.node found ∧ Truth found

/-- A statement in a body with a result type agrees with the types of its expressions. -/
def StmtRule (result : Ty) : Stmt -> Prop
  | .letIn binding | .instr binding => BindingRule session has binding.type binding.value
  | .const decl => BindingRule session has decl.type decl.value
  | .assign target value _ =>
    ∃ place, has target.node place ∧ Fits has value place
  | .write target value _ =>
    ∃ place, has target.node place ∧
      (place.isUnknown = true ∨ place.isPointerLike = true) ∧
      ∀ element, place.unwrap = .pointer element → Fits has value element
  | .cond test _ _ _ _ => ConditionRule has test
  | .whileLoop test _ _ _ => ConditionRule has test
  | .forLoop _ test _ _ _ _ => ∀ expr ∈ test, ConditionRule has expr
  | .ret value _ =>
    match value with
    | some value => result.isVoid = false ∧ Fits has value result
    | none => result.isVoid = true ∨ result.isUnknown = true
  | .expr _ | .block _ _ | .struct _ | .loop _ _ _ | .brk _ | .cont _ | .bad _ => True

/-- The result type of a body. -/
def bodyResult : Item -> Ty
  | .function decl => ((resultType decl.span.node).run session).1
  | _ => .void

/-- The values of an enumeration are allowed for the type it is stored as. -/
def EnumRule (decl : EnumDecl) : Prop :=
  ∀ value ∈ decl.variants.filterMap (·.value),
    Fits has value ((enumValueType decl).run session).1

/-- An item agrees with the types of its expressions. -/
def ItemRule (item : Item) : Prop :=
  (∀ stmt ∈ Stmt.partsAll item.body, StmtRule session has (bodyResult session item) stmt) ∧
    match item with
    | .const decl => BindingRule session has decl.type decl.value
    | .static decl => BindingRule session has decl.type decl.value
    | .enum decl => EnumRule session has decl
    | _ => True

end Rules

/-! ### What the rules read off a session -/

section Congruence

variable {one other : Session} {node : NodeId}

/-- The result type of a function is read off the type of its symbol. -/
theorem resultType_congr (decls : one.facts.decls.find? node = other.facts.decls.find? node)
    (known : ∀ symbol ∈ other.facts.decls.find? node,
      (one.knownOf symbol.id).type = (other.knownOf symbol.id).type) :
    (resultType node).run one = (((resultType node).run other).1, one) := by
  unfold resultType
  simp only [StateT.run_bind, StateT.run_get, pure_bind, decls]
  cases found : other.facts.decls.find? node with
  | none => rfl
  | some symbol =>
    simp only [known symbol found]
    split <;> rfl

/-- The type an enumeration is stored as is read off its definition. -/
theorem enumValueType_congr {decl : EnumDecl}
    (decls : one.facts.decls.find? decl.span.node = other.facts.decls.find? decl.span.node)
    (known : ∀ symbol ∈ other.facts.decls.find? decl.span.node,
      (one.knownOf symbol.id).type = (other.knownOf symbol.id).type)
    (definitions : one.definitions = other.definitions) :
    (enumValueType decl).run one = (((enumValueType decl).run other).1, one) := by
  unfold enumValueType
  simp only [StateT.run_bind, StateT.run_get, pure_bind, decls, definitions]
  cases found : other.facts.decls.find? decl.span.node with
  | none => rfl
  | some symbol =>
    simp only [known symbol found]
    split <;> rfl

end Congruence

end UnitCheck.Typing
