import UnitCheck.Session.WrittenType

/-!
# Resolving names

Bodies are walked with one frame per block. Parameters and locals are declared
as they are met, so a local is visible only behind its declaration. Every name
gets the symbol it refers to; names without one are reported and the walk goes
on.
-/

namespace UnitCheck.Resolve

/-- Opens a frame. -/
def beginScope : Check Unit := do
  Check.setTable (<- get).table.beginScope

/-- Closes the innermost frame; `span` is what the walk is leaving. -/
def endScope (span : Span) : Check Unit := do
  match (<- get).table.endScope with
  | .ok table => Check.setTable table
  | .error _ => Check.report (.scopeUnderflow span)

/-- Binds a local in the innermost frame, or says why not. -/
def bindLocal (node : NodeId) (symbol : Symbol) (known : SymbolType) :
    Check (Option TableError) := do
  match (<- get).table.declareLocal symbol with
  | .error error => return some error
  | .ok table =>
    Check.setTable table
    Check.setKnown symbol.id known
    Check.recordDecl node symbol
    return none

/-- Binds a local that a statement declares. -/
def declareLocal (node : NodeId) (name : Ident) (symbol : Symbol) (known : SymbolType) :
    Check Unit := do
  match <- bindLocal node symbol known with
  | none => return
  | some (.duplicate _ previous) => Check.report (.duplicateLocal name previous.site)
  | some _ => Check.report (.localOutsideScope name)

/-- Looks a name up and records what it refers to. -/
def resolveName (name : Ident) : Check (Option Symbol) := do
  match (<- get).table.resolve? name.name with
  | some symbol =>
    Check.recordRef name.span.node symbol
    return some symbol
  | none =>
    Check.report (.undeclared name)
    return none

/-- Resolves a name used as a value. -/
def resolveValue (name : Ident) : Check Unit := do
  match <- resolveName name with
  | some symbol => if symbol.isType then Check.report (.typeAsValue name symbol.kind)
  | none => return

/-- Resolves the name of a call. Functions are global and locals never hide them; the
name of a type constructs a value of it. -/
def resolveCallee (name : Ident) : Check Unit := do
  let table := (<- get).table
  match table.resolveFunction? name.name <|> table.resolveType? name.name with
  | some symbol => Check.recordRef name.span.node symbol
  | none => let _ <- resolveName name

/-- The enumeration that a name refers to. -/
def enumNamed? (name : Ident) : Check (Option Symbol) := do
  match (<- get).table.resolve? name.name with
  | some symbol => return if symbol.kind = .enum then some symbol else none
  | none => return none

/-- Resolves a written type for the facts it leaves. -/
def resolveType (form : TypeForm) : Check Unit := do
  let _ <- Check.typeOf form

mutual

/-- Resolves the names of an expression. -/
def resolveExpr : Expr -> Check Unit
  | .literal _ | .bad _ => return
  | .name name => resolveValue name
  | .binary _ left right _ => do
    resolveExpr left
    resolveExpr right
  | .unary _ operand _ => resolveExpr operand
  | .call callee args _ => do
    resolveCallee callee
    resolveExprs args
  | .callValue function args _ => do
    resolveExpr function
    resolveExprs args
  | .field base _ _ => do
    -- the name of an enumeration in front of a variant
    match base with
    | .name name =>
      match <- enumNamed? name with
      | some symbol => Check.recordRef name.span.node symbol
      | none => resolveValue name
    | base => resolveExpr base
  | .index base position _ => do
    resolveExpr base
    resolveExpr position
  | .cast type operand _ => do
    resolveExpr operand
    resolveType type
  | .array element items _ => do
    match element with
    | some type => resolveType type
    | none => pure ()
    resolveExprs items
  | .addressOf operand _ => resolveExpr operand
  | .load type operand _ => do
    resolveType type
    resolveExpr operand
  | .alloc type _ => resolveType type

/-- Resolves the names of several expressions in turn. -/
def resolveExprs : List Expr -> Check Unit
  | [] => return
  | expr :: rest => do
    resolveExpr expr
    resolveExprs rest

end

/-- Resolves the names of an expression that may be missing. -/
def resolveExpr? : Option Expr -> Check Unit
  | none => return
  | some expr => resolveExpr expr

/-- Declares a local or low-level binding. The value is resolved first, so it sees
what the name meant before. -/
def resolveBinding (kind : SymbolKind) (binding : BindingDecl) : Check Unit := do
  resolveExpr? binding.value
  let type <- Check.typeOf? binding.type
  let symbol : Symbol :=
    { Symbol.plain (.node binding.span.node) binding.name.name kind (some binding.name.span) with
      isMutable := binding.isMutable }
  declareLocal binding.span.node binding.name symbol (.ofType type)

/-- Declares a constant inside a body. -/
def resolveConst (decl : ConstDecl) : Check Unit := do
  resolveExpr? decl.value
  let type <- Check.typeOf? decl.type
  match decl.name with
  | none => return
  | some name =>
    let symbol : Symbol :=
      { Symbol.plain (.node decl.span.node) name.name .constant (some name.span) with
        attributes := decl.attributes }
    declareLocal decl.span.node name symbol (.ofType type)

/-- The fields of a struct inside a body, from a place on. A field called `_` is named
by its place. -/
def localFields (index : Nat) : List FieldDecl -> Check (List StructField)
  | [] => return []
  | field :: rest => do
    let type <- Check.typeOf field.type
    let name := if field.name.name = "_" then toString index else field.name.name
    return ⟨name, type⟩ :: (<- localFields (index + 1) rest)

/-- Declares a struct inside a body. Its fields may point to the struct itself. -/
def resolveStruct (decl : StructDecl) : Check Unit := do
  match decl.name with
  | none => return
  | some name =>
    let id := decl.span.node
    let symbol : Symbol :=
      { Symbol.plain (.node id) name.name .struct (some name.span) with
        attributes := decl.attributes }
    declareLocal id name symbol (.ofType (some (.struct name.name id)))
    let fields <- localFields 0 decl.fields
    let layout := if decl.attributes.any (·.name = "packed") then .packed else .padded
    Check.define (·.setStruct id ⟨fields, layout⟩)

mutual

/-- Resolves the names of a statement. -/
def resolveStmt : Stmt -> Check Unit
  | .block body span => do
    beginScope
    resolveStmts body
    endScope span
  | .expr value => resolveExpr value
  | .letIn binding => resolveBinding .localVar binding
  | .instr binding => resolveBinding .lowLevel binding
  | .const decl => resolveConst decl
  | .struct decl => resolveStruct decl
  | .assign target value _ => do
    resolveExpr target
    resolveExpr value
  | .write target value _ => do
    resolveExpr target
    resolveExpr value
  | .cond test body bodySpan otherwise _ => do
    resolveExpr test
    beginScope
    resolveStmts body
    endScope bodySpan
    resolveStmt? otherwise
  | .whileLoop test body bodySpan _ => do
    resolveExpr test
    beginScope
    resolveStmts body
    endScope bodySpan
  | .loop body bodySpan _ => do
    beginScope
    resolveStmts body
    endScope bodySpan
  | .forLoop first test after body bodySpan span => do
    -- what the first clause declares is visible in the other clauses and the body
    beginScope
    resolveStmt? first
    resolveExpr? test
    resolveStmt? after
    beginScope
    resolveStmts body
    endScope bodySpan
    endScope span
  | .ret value _ => resolveExpr? value
  | .brk _ | .cont _ | .bad _ => return

/-- Resolves the names of a statement that may be missing. -/
def resolveStmt? : Option Stmt -> Check Unit
  | none => return
  | some stmt => resolveStmt stmt

/-- Resolves the names of several statements in turn. -/
def resolveStmts : List Stmt -> Check Unit
  | [] => return
  | stmt :: rest => do
    resolveStmt stmt
    resolveStmts rest

end

/-- Declares the parameters of a function, given the parameter types of its symbol;
a function without a symbol has its parameter types resolved here. -/
def resolveParams : (types : List Ty) -> List Param -> Check Unit
  | _, [] => return
  | types, param :: rest => do
    let type <- match types with
      | type :: _ => pure type
      | [] => Check.typeOf param.type
    let symbol : Symbol :=
      { Symbol.plain (.node param.span.node) param.name.name .parameter (some param.name.span) with
        isMutable := param.isMutable }
    match <- bindLocal param.span.node symbol (.ofType (some type)) with
    | none => pure ()
    | some (.duplicate _ previous) => Check.report (.duplicateParameter param.name previous.site)
    | some _ => Check.report (.localOutsideScope param.name)
    resolveParams types.tail rest

/-- Resolves the names of a function. Its parameters and the statements of its body
share one frame, so a local cannot silently declare a parameter again. -/
def resolveFunction (span : Span) (params : List Param) (body : Option Body) : Check Unit := do
  let session <- get
  let types := match session.facts.decls.find? span.node with
    | some symbol => (session.knownOf symbol.id).params
    | none => []
  beginScope
  resolveParams types params
  match body with
  | some body => resolveStmts body.stmts
  | none => pure ()
  endScope span

/-- Resolves the names of an item. -/
def resolveItem : Item -> Check Unit
  | .function decl => resolveFunction decl.span decl.params decl.body
  | .asm decl => resolveFunction decl.span decl.params none
  | .entry decl => resolveStmt (.block decl.body.stmts decl.body.span)
  | .const decl => resolveExpr? decl.value
  | .static decl => resolveExpr? decl.value
  | .enum decl => decl.variants.forM fun variant => resolveExpr? variant.value
  | .struct _ | .typeAlias _ => return
  | .stray stmt => resolveStmt stmt

/-- The walk of the second pass. -/
def walk : Check Unit := do
  (<- get).items.forM resolveItem
  let depth := (<- get).table.depth
  if depth ≠ 0 then Check.report (.scopesLeftOpen depth)

/-- The second pass: binds every name of the unit to its declaration. -/
def pass : Check Unit :=
  Check.runPass .scope walk

end UnitCheck.Resolve
