import UnitCheck.Tree.Expr

/-!
# Statements and items of a unit

A body is the list of its statements together with the span of the block around
them.

A unit is a sequence of items: declarations, and stray statements that no
declaration holds.
-/

namespace UnitCheck

/-- An attribute of a declaration, with its value when it has one. -/
structure Attribute where
  name : String
  payload : Option Literal
  span : Span
deriving Repr, DecidableEq, Inhabited

/-- A field of a struct. -/
structure FieldDecl where
  name : Ident
  type : TypeForm
  span : Span

/-- A struct. -/
structure StructDecl where
  attributes : List Attribute
  name : Option Ident
  fields : List FieldDecl
  span : Span

/-- A constant. A missing type is that of the value. -/
structure ConstDecl where
  attributes : List Attribute
  name : Option Ident
  type : Option TypeForm
  value : Option Expr
  span : Span

/-- A binding inside a body, of a local or of a low-level value. A missing type is
that of the value. -/
structure BindingDecl where
  name : Ident
  type : Option TypeForm
  value : Option Expr
  isMutable : Bool
  span : Span

/-- A statement. -/
inductive Stmt where
  | block (body : List Stmt) (span : Span)
  | expr (value : Expr)
  | letIn (binding : BindingDecl)
  | instr (binding : BindingDecl)
  | const (decl : ConstDecl)
  | struct (decl : StructDecl)
  | assign (target value : Expr) (span : Span)
  | write (target value : Expr) (span : Span)
  | cond (test : Expr) (body : List Stmt) (bodySpan : Span) (otherwise : Option Stmt)
      (span : Span)
  | whileLoop (test : Expr) (body : List Stmt) (bodySpan : Span) (span : Span)
  | loop (body : List Stmt) (bodySpan : Span) (span : Span)
  | forLoop (first : Option Stmt) (test : Option Expr) (after : Option Stmt)
      (body : List Stmt) (bodySpan : Span) (span : Span)
  | ret (value : Option Expr) (span : Span)
  | brk (span : Span)
  | cont (span : Span)
  /-- A place where no statement could be read. -/
  | bad (span : Span)

namespace Stmt

/-- Where the statement is written. -/
def span : Stmt -> Span
  | .expr value => value.span
  | .letIn binding | .instr binding => binding.span
  | .const decl => decl.span
  | .struct decl => decl.span
  | .block _ span | .assign _ _ span | .write _ _ span | .cond _ _ _ _ span
  | .whileLoop _ _ _ span | .loop _ _ span | .forLoop _ _ _ _ _ span
  | .ret _ span | .brk span | .cont span | .bad span => span

end Stmt

/-- A body: the statements of a block and the span of the block. -/
structure Body where
  stmts : List Stmt
  span : Span

/-! ### Items -/

/-- A parameter of a function. -/
structure Param where
  name : Ident
  type : TypeForm
  isMutable : Bool
  span : Span

/-- A function. Without a result type it returns nothing. -/
structure FunctionDecl where
  attributes : List Attribute
  name : Option Ident
  params : List Param
  result : Option TypeForm
  body : Option Body
  span : Span

/-- A function written in assembler. -/
structure AsmDecl where
  attributes : List Attribute
  name : Option Ident
  params : List Param
  result : Option TypeForm
  assembly : String
  constraints : String
  span : Span

/-- The entrypoint. -/
structure EntryDecl where
  attributes : List Attribute
  body : Body
  span : Span

/-- A variant of an enumeration, with its value when it is written. -/
structure VariantDecl where
  name : Ident
  value : Option Expr
  span : Span

/-- An enumeration, with the type it is stored as when it is written. -/
structure EnumDecl where
  attributes : List Attribute
  name : Option Ident
  base : Option TypeForm
  variants : List VariantDecl
  span : Span

/-- A static variable. -/
structure StaticDecl where
  attributes : List Attribute
  name : Option Ident
  type : Option TypeForm
  value : Option Expr
  isMutable : Bool
  isVolatile : Bool
  isThreadLocal : Bool
  isAtomic : Bool
  span : Span

/-- A second name for a type. -/
structure AliasDecl where
  attributes : List Attribute
  name : Option Ident
  target : Option TypeForm
  span : Span

/-- An item of a unit. -/
inductive Item where
  | function (decl : FunctionDecl)
  | asm (decl : AsmDecl)
  | entry (decl : EntryDecl)
  | struct (decl : StructDecl)
  | enum (decl : EnumDecl)
  | const (decl : ConstDecl)
  | static (decl : StaticDecl)
  | typeAlias (decl : AliasDecl)
  | stray (stmt : Stmt)

/-- Where the item is written. -/
def Item.span : Item -> Span
  | .function decl => decl.span
  | .asm decl => decl.span
  | .entry decl => decl.span
  | .struct decl => decl.span
  | .enum decl => decl.span
  | .const decl => decl.span
  | .static decl => decl.span
  | .typeAlias decl => decl.span
  | .stray stmt => stmt.span

/-- A compilation unit: the file it was read from and its items in order. An empty
file has no span. -/
structure Module where
  file : String
  items : List Item
  span : Option Span

end UnitCheck
