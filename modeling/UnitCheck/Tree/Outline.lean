import UnitCheck.Tree.Item

/-!
# Outlines

An outline lists the nodes of a unit flat, each node in front of its parts and
the parts from left to right. A row says what a node is, where it is written and
which table of facts describes it.
-/

namespace UnitCheck

/-- The table of facts that describes a node. -/
inductive NodeRole where
  | plain | expr | type | decl
deriving Repr, DecidableEq, Inhabited

/-- One node of an outline. -/
structure Row where
  depth : Nat
  kind : String
  /-- The node's text; a declaration without a name has none. -/
  text : Option String
  span : Span
  role : NodeRole
  nameSpan : Option Span
  details : Option (List String)
  isLowLevel : Bool
deriving Repr, DecidableEq

namespace Outline

/-- A row without a name, details or flags. -/
def row (depth : Nat) (kind text : String) (span : Span) (role : NodeRole) : Row :=
  ⟨depth, kind, some text, span, role, none, none, false⟩

/-- The row of a written type. -/
def typeRow (depth : Nat) (kind text : String) (span : Span) : Row :=
  row depth kind text span .type

/-- The row of an expression. -/
def exprRow (depth : Nat) (kind text : String) (span : Span) : Row :=
  row depth kind text span .expr

/-- The row of an instruction that works on raw memory. -/
def lowLevelRow (depth : Nat) (kind : String) (span : Span) : Row :=
  { exprRow depth kind "" span with isLowLevel := true }

mutual

/-- The rows of a written type. -/
def typeForm (depth : Nat) : TypeForm -> List Row
  | .named name span => [typeRow depth "NamedType" name span]
  | .opaquePointer span => [typeRow depth "PtrType" "" span]
  | .pointer element span =>
    typeRow depth "PtrType" "" span :: typeForm (depth + 1) element
  | .address span => [typeRow depth "AddrType" "" span]
  | .array element span =>
    typeRow depth "ArrayType" "" span :: typeForm (depth + 1) element
  | .fixedArray element length span =>
    typeRow depth "FixedArrayType" (toString length) span ::
      typeForm (depth + 1) element
  | .const inner span =>
    typeRow depth "ConstType" "" span :: typeForm (depth + 1) inner
  | .mutable inner span =>
    typeRow depth "MutType" "" span :: typeForm (depth + 1) inner
  | .function params result variadic span =>
    typeRow depth "FnType" (if variadic then "..." else "") span ::
      (typeForms (depth + 1) params ++ typeForm (depth + 1) result)

/-- The rows of several written types. -/
def typeForms (depth : Nat) : List TypeForm -> List Row
  | [] => []
  | form :: rest => typeForm depth form ++ typeForms depth rest

end

/-- The rows of a written type that may be missing. -/
def optionalType (depth : Nat) : Option TypeForm -> List Row
  | none => []
  | some form => typeForm depth form

/-- The row of a literal. -/
def literal (depth : Nat) (value : Literal) : Row :=
  { exprRow depth "BasicLit" value.text value.span with details := some [value.kind.text] }

/-- The row of a name in an expression. -/
def ident (depth : Nat) (name : Ident) : Row :=
  exprRow depth "IdentifierExpr" name.name name.span

mutual

/-- The rows of an expression. -/
def expr (depth : Nat) : Expr -> List Row
  | .literal value => [literal depth value]
  | .name name => [ident depth name]
  | .binary op left right span =>
    exprRow depth "BinaryExpr" op.text span ::
      (expr (depth + 1) left ++ expr (depth + 1) right)
  | .unary op operand span =>
    exprRow depth "UnaryExpr" op.text span :: expr (depth + 1) operand
  | .call callee args span =>
    exprRow depth "CallExpr" "" span ::
      ident (depth + 1) callee :: exprs (depth + 1) args
  | .callValue function args span =>
    exprRow depth "IndirectCallExpr" "" span ::
      (expr (depth + 1) function ++ exprs (depth + 1) args)
  | .field base path span =>
    exprRow depth "FieldAccessExpr" (".".intercalate path) span ::
      expr (depth + 1) base
  | .index base position span =>
    exprRow depth "IndexExpr" "" span ::
      (expr (depth + 1) base ++ expr (depth + 1) position)
  | .cast type operand span =>
    exprRow depth "CastExpr" "" span ::
      (typeForm (depth + 1) type ++ expr (depth + 1) operand)
  | .array element items span =>
    exprRow depth "ArrayLit" "" span ::
      (optionalType (depth + 1) element ++ exprs (depth + 1) items)
  | .addressOf operand span =>
    lowLevelRow depth "AddressOfExpr" span :: expr (depth + 1) operand
  | .load type operand span =>
    lowLevelRow depth "LoadExpr" span ::
      (typeForm (depth + 1) type ++ expr (depth + 1) operand)
  | .alloc type span =>
    lowLevelRow depth "AllocExpr" span :: typeForm (depth + 1) type
  | .bad span => [exprRow depth "BadExpr" "" span]

/-- The rows of several expressions. -/
def exprs (depth : Nat) : List Expr -> List Row
  | [] => []
  | first :: rest => expr depth first ++ exprs depth rest

end

/-- The rows of an expression that may be missing. -/
def optionalExpr (depth : Nat) : Option Expr -> List Row
  | none => []
  | some value => expr depth value

/-- The rows of an attribute. -/
def attributeRows (depth : Nat) (a : Attribute) : List Row :=
  row depth "Attribute" a.name a.span .plain ::
    match a.payload with
    | none => []
    | some value => [literal (depth + 1) value]

/-- The row of a declaration with an optional name. -/
def decl (depth : Nat) (kind : String) (name : Option Ident) (span : Span) (role : NodeRole)
    (details : Option (List String)) : Row :=
  { row depth kind "" span role with
    text := name.map (·.name), nameSpan := name.map (·.span), details := details }

/-- The rows of a struct. -/
def struct (depth : Nat) (s : StructDecl) : List Row :=
  decl depth "StructDecl" s.name s.span .decl none ::
    (s.attributes.flatMap (attributeRows (depth + 1)) ++
      s.fields.flatMap fun field =>
        decl (depth + 1) "FieldDecl" (some field.name) field.span .plain none ::
          typeForm (depth + 2) field.type)

/-- The rows of a constant. -/
def const (depth : Nat) (c : ConstDecl) : List Row :=
  decl depth "ConstDecl" c.name c.span .decl none ::
    (c.attributes.flatMap (attributeRows (depth + 1)) ++ optionalType (depth + 1) c.type ++
      optionalExpr (depth + 1) c.value)

/-- The flag of a mutable binding, or nothing. -/
def mutDetail (isMutable : Bool) : Option (List String) :=
  if isMutable then some ["mut"] else none

/-- The rows of a binding. -/
def binding (depth : Nat) (kind : String) (b : BindingDecl) : List Row :=
  decl depth kind (some b.name) b.span .decl (mutDetail b.isMutable) ::
    (optionalType (depth + 1) b.type ++ optionalExpr (depth + 1) b.value)

/-- The row of a node without a text of its own. -/
def plain (depth : Nat) (kind : String) (span : Span) : Row :=
  row depth kind "" span .plain

/-- The letters of the clauses a `for` has. -/
def clauseLetters (first : Option Stmt) (test : Option Expr) (after : Option Stmt) : String :=
  (if first.isSome then "i" else "") ++ (if test.isSome then "c" else "") ++
    (if after.isSome then "p" else "")

mutual

/-- The rows of a statement. -/
def stmt (depth : Nat) : Stmt -> List Row
  | .block body span => plain depth "Block" span :: stmts (depth + 1) body
  | .expr value => plain depth "ExprStmt" value.span :: expr (depth + 1) value
  | .letIn b => binding depth "LocalDecl" b
  | .instr b => binding depth "InstrDecl" b
  | .const c => const depth c
  | .struct s => struct depth s
  | .assign target value span =>
    plain depth "AssignStmt" span :: (expr (depth + 1) target ++ expr (depth + 1) value)
  | .write target value span =>
    plain depth "WriteStmt" span :: (expr (depth + 1) target ++ expr (depth + 1) value)
  | .cond test body bodySpan otherwise span =>
    plain depth "IfStmt" span ::
      (expr (depth + 1) test ++ plain (depth + 1) "Block" bodySpan :: stmts (depth + 2) body ++
        optionalStmt (depth + 1) otherwise)
  | .whileLoop test body bodySpan span =>
    plain depth "WhileStmt" span ::
      (expr (depth + 1) test ++ plain (depth + 1) "Block" bodySpan :: stmts (depth + 2) body)
  | .loop body bodySpan span =>
    plain depth "LoopStmt" span :: plain (depth + 1) "Block" bodySpan :: stmts (depth + 2) body
  | .forLoop first test after body bodySpan span =>
    row depth "ForStmt" (clauseLetters first test after) span .plain ::
      (optionalStmt (depth + 1) first ++ optionalExpr (depth + 1) test ++
        optionalStmt (depth + 1) after ++
        plain (depth + 1) "Block" bodySpan :: stmts (depth + 2) body)
  | .ret value span => plain depth "ReturnStmt" span :: optionalExpr (depth + 1) value
  | .brk span => [plain depth "BreakStmt" span]
  | .cont span => [plain depth "ContinueStmt" span]
  | .bad span => [plain depth "BadStmt" span]

/-- The rows of a statement that may be missing. -/
def optionalStmt (depth : Nat) : Option Stmt -> List Row
  | none => []
  | some s => stmt depth s

/-- The rows of several statements. -/
def stmts (depth : Nat) : List Stmt -> List Row
  | [] => []
  | first :: rest => stmt depth first ++ stmts depth rest

end

/-- The rows of a body. -/
def body (depth : Nat) (b : Body) : List Row :=
  plain depth "Block" b.span :: stmts (depth + 1) b.stmts

/-- The rows of a parameter. -/
def param (depth : Nat) (p : Param) : List Row :=
  decl depth "Param" (some p.name) p.span .decl (mutDetail p.isMutable) ::
    typeForm (depth + 1) p.type

/-- The rows of a variant. -/
def variant (depth : Nat) (v : VariantDecl) : List Row :=
  decl depth "EnumVariant" (some v.name) v.span .plain none :: optionalExpr (depth + 1) v.value

/-- The flags of a static, in a fixed order. -/
def staticDetails (s : StaticDecl) : List String :=
  (if s.isMutable then ["mut"] else []) ++ (if s.isVolatile then ["volatile"] else []) ++
    (if s.isThreadLocal then ["threadlocal"] else []) ++ (if s.isAtomic then ["atomic"] else [])

/-- The rows of an item at depth zero. -/
def item : Item -> List Row
  | .function f =>
    decl 0 "FuncDecl" f.name f.span .decl none ::
      (f.attributes.flatMap (attributeRows 1) ++ f.params.flatMap (param 1) ++
        optionalType 1 f.result ++ (f.body.map (body 1)).getD [])
  | .asm f =>
    decl 0 "AsmFuncDecl" f.name f.span .decl (some [f.assembly, f.constraints]) ::
      (f.attributes.flatMap (attributeRows 1) ++ f.params.flatMap (param 1) ++
        optionalType 1 f.result)
  | .entry e =>
    plain 0 "EntrypointDecl" e.span :: (e.attributes.flatMap (attributeRows 1) ++ body 1 e.body)
  | .struct s => struct 0 s
  | .enum e =>
    decl 0 "EnumDecl" e.name e.span .decl none ::
      (e.attributes.flatMap (attributeRows 1) ++ optionalType 1 e.base ++
        e.variants.flatMap (variant 1))
  | .const c => const 0 c
  | .static s =>
    decl 0 "StaticDecl" s.name s.span .decl (some (staticDetails s)) ::
      (s.attributes.flatMap (attributeRows 1) ++ optionalType 1 s.type ++ optionalExpr 1 s.value)
  | .typeAlias a =>
    decl 0 "TypeAliasDecl" a.name a.span .decl none ::
      (a.attributes.flatMap (attributeRows 1) ++ optionalType 1 a.target)
  | .stray s => stmt 0 s

end Outline

/-- The outline of a unit. -/
def Module.outline (unit : Module) : List Row :=
  unit.items.flatMap Outline.item

end UnitCheck
