import UnitCheck.Finding.Basic
import UnitCheck.Flow.Returns
import UnitCheck.Session.Basic

/-!
# Control flow of a unit

Returns belong into bodies, jumps into loops, low-level instructions into bodies
and never into the initializer of a constant. Nothing may follow a statement that
ends its list.

The last pass looks at the placement of statements and instructions in every
body and initializer, and at the functions that can end without their result.
The stray statements of a unit count as one list outside of all bodies.
-/

namespace UnitCheck.Lint

/-- What surrounds a statement or an expression. -/
structure Site where
  /-- The body of a function or an entrypoint is around it. -/
  inBody : Bool
  /-- A loop of that body is around it. -/
  inLoop : Bool
deriving Repr, DecidableEq, Inhabited

namespace Site

/-- Outside of all bodies. -/
def outside : Site := ⟨false, false⟩

/-- The start of a body. -/
def body : Site := ⟨true, false⟩

/-- Inside a loop. -/
def loop (site : Site) : Site := { site with inLoop := true }

end Site

/-- What the checks of placement depend on. -/
structure View where
  /-- The types found for expressions. -/
  types : FactLog Ty
  /-- Whether code that control cannot reach is an error. -/
  strict : Bool

/-- A low-level instruction outside of a body is reported. -/
def requireBody (site : Site) (span : Span) (instruction : String) : List Finding :=
  if site.inBody then [] else [.lowLevelOutside span instruction]

/-- Taking the address of a raw address is reported. -/
def addressFindings (view : View) (span : Span) (operand : Expr) : List Finding :=
  match view.types.find? operand.node with
  | some type => if type.isAddr then [.addressOfAddress span operand.span] else []
  | none => []

mutual

/-- What is to be said about the low-level instructions in an expression. The operand
of a misplaced instruction is not looked at. -/
def exprFindings (view : View) (site : Site) : Expr -> List Finding
  | .addressOf operand span =>
    if site.inBody then addressFindings view span operand ++ exprFindings view site operand
    else requireBody site span "address"
  | .load _ operand span =>
    if site.inBody then exprFindings view site operand
    else requireBody site span "load"
  | .alloc _ span => requireBody site span "alloc"
  | .binary _ left right _ => exprFindings view site left ++ exprFindings view site right
  | .unary _ operand _ => exprFindings view site operand
  | .call _ args _ => exprsFindings view site args
  | .callValue function args _ =>
    exprFindings view site function ++ exprsFindings view site args
  | .field base _ _ => exprFindings view site base
  | .index base position _ => exprFindings view site base ++ exprFindings view site position
  | .cast _ operand _ => exprFindings view site operand
  | .array _ items _ => exprsFindings view site items
  | .literal _ | .name _ | .bad _ => []

/-- What is to be said about several expressions. -/
def exprsFindings (view : View) (site : Site) : List Expr -> List Finding
  | [] => []
  | expr :: rest => exprFindings view site expr ++ exprsFindings view site rest

end

/-- What is to be said about an expression that may be missing. -/
def exprFindings? (view : View) (site : Site) : Option Expr -> List Finding
  | none => []
  | some expr => exprFindings view site expr

/-- The kind of statement that ends a list, whether or not it may stand there. -/
def terminator? : Stmt -> Option Terminator
  | .ret _ _ => some .ret
  | .brk _ => some .brk
  | .cont _ => some .cont
  | _ => none

/-- How a statement closes its list. One that may not stand there closes nothing. -/
def closes? (site : Site) (stmt : Stmt) : Option Terminator :=
  match terminator? stmt with
  | some .ret => if site.inBody then some .ret else none
  | some .brk => if site.inLoop then some .brk else none
  | some .cont => if site.inLoop then some .cont else none
  | none => none

/-- What is to be said about the statements behind the one that closed the list: the
first of its kind repeats it, and nothing else can be reached. -/
def deadFindings (strict : Bool) (closer : Terminator) : List Stmt -> List Finding
  | [] => []
  | stmt :: rest =>
    if terminator? stmt = some closer then
      .duplicateTerminator stmt.span closer :: rest.map fun later => .unreachable later.span strict
    else .unreachable stmt.span strict :: deadFindings strict closer rest

mutual

/-- What is to be said about a statement that control reaches. -/
def stmtFindings (view : View) (site : Site) : Stmt -> List Finding
  | .ret value span =>
    exprFindings? view site value ++ (if site.inBody then [] else [.returnOutsideFunction span])
  | .brk span => if site.inLoop then [] else [.breakOutsideLoop span]
  | .cont span => if site.inLoop then [] else [.continueOutsideLoop span]
  | .block body _ => stmtsFindings view site body
  | .cond test body _ otherwise _ =>
    exprFindings view site test ++ stmtsFindings view site body ++
      stmtFindings? view site otherwise
  | .whileLoop test body _ _ =>
    exprFindings view site test ++ stmtsFindings view site.loop body
  | .loop body _ _ => stmtsFindings view site.loop body
  | .forLoop first test after body _ _ =>
    stmtFindings? view site first ++ exprFindings? view site test ++
      stmtFindings? view site.loop after ++ stmtsFindings view site.loop body
  | .expr value => exprFindings view site value
  | .letIn binding => exprFindings? view site binding.value
  | .const decl => exprFindings? view .outside decl.value
  | .assign target value _ => exprFindings view site target ++ exprFindings view site value
  | .instr binding =>
    requireBody site binding.span "instr" ++ exprFindings? view site binding.value
  | .write target value span =>
    requireBody site span "write" ++ exprFindings view site target ++
      exprFindings view site value
  | .struct _ | .bad _ => []

/-- What is to be said about a statement that may be missing. -/
def stmtFindings? (view : View) (site : Site) : Option Stmt -> List Finding
  | none => []
  | some stmt => stmtFindings view site stmt

/-- What is to be said about a list of statements. -/
def stmtsFindings (view : View) (site : Site) : List Stmt -> List Finding
  | [] => []
  | stmt :: rest =>
    stmtFindings view site stmt ++
      match closes? site stmt with
      | some closer => deadFindings view.strict closer rest
      | none => stmtsFindings view site rest

end

/-! ### Units -/

/-- The result that a body owes: nothing for a function without a signature, without a
result or with a result that is not known. -/
def owedResult? (session : Session) (decl : FunctionDecl) : Option (Symbol × Ty) :=
  match session.facts.decls.find? decl.span.node with
  | none => none
  | some symbol =>
    match (session.knownOf symbol.id).type with
    | some (.function _ result _ _) =>
      if result.isVoid || result.isUnknown then none else some (symbol, result)
    | _ => none

/-- The branches of a graph through which control falls off the end, with their places. -/
def missingPlaces (graph : Flow.Graph) : List (BranchKind × Span) :=
  graph.missingBranches.filterMap fun block =>
    match block.branch, block.place with
    | some kind, some place => some (kind, place)
    | _, _ => none

/-- What is to be said about a function that can end without its result. -/
def missingReturn? (session : Session) (decl : FunctionDecl) (body : Body) : Option Finding :=
  match owedResult? session decl with
  | none => none
  | some (symbol, result) =>
    let graph := Flow.graph (some body) decl.span
    if graph.allReturn then none
    else
      let place := match decl.name with
        | some name => name.span
        | none => decl.span
      some (.missingReturn place symbol.name result (missingPlaces graph))

/-- What is to be said about an item on its own. -/
def itemFindings (session : Session) (view : View) : Item -> List Finding
  | .function decl =>
    match decl.body with
    | some body =>
      stmtsFindings view .body body.stmts ++ (missingReturn? session decl body).toList
    | none => []
  | .entry decl => stmtsFindings view .body decl.body.stmts
  | .const decl => exprFindings? view .outside decl.value
  | .static decl => exprFindings? view .outside decl.value
  | .enum decl => decl.variants.flatMap fun variant => exprFindings? view .outside variant.value
  | .asm _ | .struct _ | .typeAlias _ | .stray _ => []

/-- The stray statements of a unit. -/
def strays (items : List Item) : List Stmt :=
  items.filterMap fun
    | .stray stmt => some stmt
    | _ => none

/-- Everything to be said about the control flow of a unit. -/
def findings (session : Session) : List Finding :=
  let view : View := ⟨session.facts.exprs, session.options.strict⟩
  session.items.flatMap (itemFindings session view) ++
    stmtsFindings view .outside (strays session.items)

/-- The fifth pass: checks where statements and instructions stand and whether functions
return. -/
def pass : Check Unit :=
  Check.runPass .lint do
    (findings (<- get)).forM Check.report

end UnitCheck.Lint
