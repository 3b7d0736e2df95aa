import UnitCheck.Proofs.Declare.Isolation
import UnitCheck.Proofs.Finding.Places
import UnitCheck.Proofs.Flow.Completion
import UnitCheck.Proofs.Lint.Isolation
import UnitCheck.Proofs.Tree.Respelling

/-!
# Passes that look at no spelling

Names, attributes and the flow of control do not depend on how numbers are spelled. Where
an item is respelled the second pass does the same, the fourth finds the same, and the last
finds the same but for where a respelled expression ends, which shows in no stamp.
-/

namespace UnitCheck

open Finding (stamp stamps stamps_append stamps_cons)

variable {spell : Literal -> Option Spelling}

/-! ### Declarations -/

namespace Declare

mutual

theorem skipNested_respell : (stmt : Stmt) -> skipNested (stmt.respell spell) = skipNested stmt
  | .block body _ => by
    unfold Stmt.respell skipNested
    exact skipNestedAll_respell body
  | .const _ | .struct _ | .expr _ | .letIn _ | .instr _ | .assign _ _ _ | .write _ _ _
  | .cond _ _ _ _ _ | .whileLoop _ _ _ _ | .loop _ _ _ | .forLoop _ _ _ _ _ _ | .ret _ _
  | .brk _ | .cont _ | .bad _ => by
    unfold Stmt.respell
    rfl

theorem skipNestedAll_respell :
    (body : List Stmt) -> skipNestedAll (Stmt.respellAll spell body) = skipNestedAll body
  | [] => rfl
  | stmt :: rest => by
    unfold Stmt.respellAll skipNestedAll
    rw [skipNested_respell stmt, skipNestedAll_respell rest]

end

theorem enumVariants_respell (variants : List VariantDecl) (seen : List Ident) :
    enumVariants seen (variants.map (VariantDecl.respell spell)) = enumVariants seen variants := by
  induction variants generalizing seen with
  | nil => rfl
  | cons variant rest inductionHypothesis =>
    have name : (variant.respell spell).name = variant.name := rfl
    rw [List.map_cons]
    unfold enumVariants
    simp only [name, inductionHypothesis]

/-- Declaring looks at no values. -/
theorem unseen_respell : Unseen (Item.respell spell) where
  header item := by
    cases item <;> rfl
  span item _ declares := by
    cases item <;> cases declares <;> rfl
  symbol item _ declares _ := by
    cases item <;> cases declares <;> rfl
  aliased item _ := by
    cases item <;> simp [Item.respell]
  struct item _ := by
    cases item <;> simp [Item.respell]
  define _ item := by
    cases item with
    | enum decl =>
      simp only [Item.respell, defineType, enumVariants_respell]
      rfl
    | _ => rfl
  resolve _ item := by
    cases item <;> rfl

end Declare

/-! ### Names -/

namespace Resolve

mutual

theorem resolveExpr_respell : (expr : Expr) -> resolveExpr (expr.respell spell) = resolveExpr expr
  | .literal value => by
    obtain stays | ⟨_, _, _, _, same⟩ := Expr.respell_literal spell value
    · rw [stays]
    · rw [same]
      simp only [resolveExpr]
  | .name _ | .alloc _ _ | .bad _ => by
    unfold Expr.respell
    rfl
  | .binary _ left right _ | .index left right _ => by
    unfold Expr.respell resolveExpr
    rw [resolveExpr_respell left, resolveExpr_respell right]
  | .unary _ operand _ | .addressOf operand _ | .cast _ operand _ | .load _ operand _ => by
    unfold Expr.respell resolveExpr
    rw [resolveExpr_respell operand]
  | .call _ args _ | .array _ args _ => by
    unfold Expr.respell resolveExpr
    rw [resolveExprs_respell args]
  | .callValue function args _ => by
    unfold Expr.respell resolveExpr
    rw [resolveExpr_respell function, resolveExprs_respell args]
  | .field base path span => by
    have inner := resolveExpr_respell base
    cases base with
    | literal value =>
      obtain stays | ⟨_, _, _, _, same⟩ := Expr.respell_literal spell value
      · rw [Expr.respell, stays]
      · rw [Expr.respell, same]
        simp only [resolveExpr]
    | name _ => rfl
    | bad _ => rfl
    | alloc _ _ => rfl
    | _ => simpa only [Expr.respell, resolveExpr] using inner

theorem resolveExprs_respell :
    (exprs : List Expr) -> resolveExprs (Expr.respellAll spell exprs) = resolveExprs exprs
  | [] => rfl
  | expr :: rest => by
    unfold Expr.respellAll resolveExprs
    rw [resolveExpr_respell expr, resolveExprs_respell rest]

end

theorem resolveExpr?_respell (expr : Option Expr) :
    resolveExpr? (expr.map (Expr.respell spell)) = resolveExpr? expr := by
  cases expr with
  | none => rfl
  | some expr => exact resolveExpr_respell expr

theorem resolveBinding_respell (kind : SymbolKind) (binding : BindingDecl) :
    resolveBinding kind (binding.respell spell) = resolveBinding kind binding := by
  unfold resolveBinding BindingDecl.respell
  simp only [resolveExpr?_respell]

theorem resolveConst_respell (decl : ConstDecl) :
    resolveConst (decl.respell spell) = resolveConst decl := by
  unfold resolveConst ConstDecl.respell
  simp only [resolveExpr?_respell]

mutual

theorem resolveStmt_respell : (stmt : Stmt) -> resolveStmt (stmt.respell spell) = resolveStmt stmt
  | .block body _ | .loop body _ _ => by
    unfold Stmt.respell resolveStmt
    rw [resolveStmts_respell body]
  | .expr value => by
    unfold Stmt.respell resolveStmt
    rw [resolveExpr_respell value]
  | .letIn binding | .instr binding => by
    unfold Stmt.respell resolveStmt
    rw [resolveBinding_respell]
  | .const decl => by
    unfold Stmt.respell resolveStmt
    rw [resolveConst_respell]
  | .assign target value _ | .write target value _ => by
    unfold Stmt.respell resolveStmt
    rw [resolveExpr_respell target, resolveExpr_respell value]
  | .cond test body _ otherwise _ => by
    unfold Stmt.respell resolveStmt
    rw [resolveExpr_respell test, resolveStmts_respell body, resolveStmt?_respell otherwise]
  | .whileLoop test body _ _ => by
    unfold Stmt.respell resolveStmt
    rw [resolveExpr_respell test, resolveStmts_respell body]
  | .forLoop first test after body _ _ => by
    unfold Stmt.respell resolveStmt
    rw [resolveStmt?_respell first, resolveExpr?_respell, resolveStmt?_respell after,
      resolveStmts_respell body]
  | .ret value _ => by
    unfold Stmt.respell resolveStmt
    rw [resolveExpr?_respell]
  | .struct _ | .brk _ | .cont _ | .bad _ => by
    unfold Stmt.respell
    rfl

theorem resolveStmt?_respell :
    (stmt : Option Stmt) -> resolveStmt? (Stmt.respell? spell stmt) = resolveStmt? stmt
  | none => rfl
  | some stmt => by
    unfold Stmt.respell? resolveStmt?
    rw [resolveStmt_respell stmt]

theorem resolveStmts_respell :
    (body : List Stmt) -> resolveStmts (Stmt.respellAll spell body) = resolveStmts body
  | [] => rfl
  | stmt :: rest => by
    unfold Stmt.respellAll resolveStmts
    rw [resolveStmt_respell stmt, resolveStmts_respell rest]

end

/-- Resolving an item looks at no spelling. -/
theorem resolveItem_respell (item : Item) :
    resolveItem (item.respell spell) = resolveItem item := by
  cases item with
  | function decl =>
    obtain ⟨attributes, name, params, result, body, span⟩ := decl
    cases body with
    | none => rfl
    | some body =>
      simp only [Item.respell, Option.map_some, Body.respell, resolveItem, resolveFunction,
        resolveStmts_respell]
  | entry decl =>
    simp only [Item.respell, Body.respell, resolveItem, resolveStmt, resolveStmts_respell]
  | const decl => exact resolveExpr?_respell decl.value
  | static decl => exact resolveExpr?_respell decl.value
  | enum decl =>
    have mapped : (decl.variants.map (VariantDecl.respell spell)).forM
        (fun variant => resolveExpr? variant.value) =
        decl.variants.forM fun variant => resolveExpr? (variant.respell spell).value :=
      List.forM_map (m := Check)
    simp only [Item.respell, resolveItem, mapped, VariantDecl.respell, resolveExpr?_respell]
  | stray stmt => exact resolveStmt_respell stmt
  | _ => rfl

end Resolve

/-! ### Attributes -/

namespace Attributes

mutual

theorem stmtFindings_respell :
    (stmt : Stmt) -> stmtFindings (stmt.respell spell) = stmtFindings stmt
  | .block body _ | .loop body _ _ | .whileLoop _ body _ _ | .forLoop _ _ _ body _ _ => by
    unfold Stmt.respell stmtFindings
    rw [stmtsFindings_respell body]
  | .cond _ body _ otherwise _ => by
    unfold Stmt.respell stmtFindings
    rw [stmtsFindings_respell body, stmtFindings?_respell otherwise]
  | .const _ | .expr _ | .letIn _ | .instr _ | .struct _ | .assign _ _ _ | .write _ _ _
  | .ret _ _ | .brk _ | .cont _ | .bad _ => by
    unfold Stmt.respell
    rfl

theorem stmtFindings?_respell :
    (stmt : Option Stmt) -> stmtFindings? (Stmt.respell? spell stmt) = stmtFindings? stmt
  | none => rfl
  | some stmt => by
    unfold Stmt.respell? stmtFindings?
    rw [stmtFindings_respell stmt]

theorem stmtsFindings_respell :
    (body : List Stmt) -> stmtsFindings (Stmt.respellAll spell body) = stmtsFindings body
  | [] => rfl
  | stmt :: rest => by
    unfold Stmt.respellAll stmtsFindings
    rw [stmtFindings_respell stmt, stmtsFindings_respell rest]

end

/-- Attributes are judged alike. -/
theorem itemFindings_respell (item : Item) :
    itemFindings (item.respell spell) = itemFindings item := by
  cases item with
  | function decl =>
    obtain ⟨attributes, name, params, result, body, span⟩ := decl
    cases body with
    | none => rfl
    | some body =>
      have sameProblem (seen : List Attribute) : bodyProblem? seen
          ⟨attributes, name, params, result, some (body.respell spell), span⟩ =
          bodyProblem? seen ⟨attributes, name, params, result, some body, span⟩ := by
        unfold bodyProblem?
        cases seen.find? (·.name = "extern") <;> rfl
      simp only [Item.respell, itemFindings, Option.map_some, declFindings, Option.bind_some,
        sameProblem]
      simp only [Body.respell, stmtsFindings_respell]
  | entry decl =>
    simp only [Item.respell, itemFindings, Body.respell, stmtsFindings_respell]
  | stray stmt => exact stmtFindings_respell stmt
  | _ => rfl

end Attributes

/-! ### The flow of control -/

namespace Flow

mutual

theorem completes_respell : (stmt : Stmt) -> completes (stmt.respell spell) = completes stmt
  | .block body _ => by
    unfold Stmt.respell completes
    rw [completesAll_respell body]
  | .cond _ body _ otherwise _ => by
    unfold Stmt.respell completes
    rw [completesAll_respell body, completesElse_respell otherwise]
  | .loop body _ _ => by
    unfold Stmt.respell completes
    rw [breaksAll_respell body]
  | .forLoop _ test _ body _ _ => by
    unfold Stmt.respell completes
    rw [breaksAll_respell body, Option.isSome_map]
  | .whileLoop _ _ _ _ | .const _ | .expr _ | .letIn _ | .instr _ | .struct _ | .assign _ _ _
  | .write _ _ _ | .ret _ _ | .brk _ | .cont _ | .bad _ => by
    unfold Stmt.respell
    rfl

theorem completesElse_respell :
    (stmt : Option Stmt) -> completesElse (Stmt.respell? spell stmt) = completesElse stmt
  | none => rfl
  | some stmt => by
    unfold Stmt.respell? completesElse
    rw [completes_respell stmt]

theorem completesAll_respell :
    (body : List Stmt) -> completesAll (Stmt.respellAll spell body) = completesAll body
  | [] => rfl
  | stmt :: rest => by
    unfold Stmt.respellAll completesAll
    rw [completes_respell stmt, completesAll_respell rest]

theorem breaks_respell : (stmt : Stmt) -> breaks (stmt.respell spell) = breaks stmt
  | .block body _ => by
    unfold Stmt.respell breaks
    rw [breaksAll_respell body]
  | .cond _ body _ otherwise _ => by
    unfold Stmt.respell breaks
    rw [breaksAll_respell body, breaksElse_respell otherwise]
  | .loop _ _ _ | .forLoop _ _ _ _ _ _ | .whileLoop _ _ _ _ | .const _ | .expr _ | .letIn _
  | .instr _ | .struct _ | .assign _ _ _ | .write _ _ _ | .ret _ _ | .brk _ | .cont _
  | .bad _ => by
    unfold Stmt.respell
    rfl

theorem breaksElse_respell :
    (stmt : Option Stmt) -> breaksElse (Stmt.respell? spell stmt) = breaksElse stmt
  | none => rfl
  | some stmt => by
    unfold Stmt.respell? breaksElse
    rw [breaks_respell stmt]

theorem breaksAll_respell :
    (body : List Stmt) -> breaksAll (Stmt.respellAll spell body) = breaksAll body
  | [] => rfl
  | stmt :: rest => by
    unfold Stmt.respellAll breaksAll
    rw [breaks_respell stmt, completes_respell stmt, breaksAll_respell rest]

end

/-- Whether a body returns on all paths does not depend on its spelling. -/
theorem allReturn_respell (body : Body) (place : Span) :
    (graph (some (body.respell spell)) place).allReturn = (graph (some body) place).allReturn := by
  have returns (body : Body) : (graph (some body) place).allReturn = true ↔
      ¬completesAll body.stmts = true := by
    obtain ⟨inside, start⟩ := graph_closed body place
    rw [Graph.allReturn_iff inside start, visited_exit_iff]
  apply Bool.eq_iff_iff.mpr
  rw [returns, returns, Body.respell, completesAll_respell]

end Flow

/-! ### Placement -/

namespace Lint

variable {view : View}

theorem stamps_addressFindings (anchored : Anchored spell) (span : Span) (operand : Expr) :
    stamps (addressFindings view span (operand.respell spell)) =
      stamps (addressFindings view span operand) := by
  unfold addressFindings
  rw [Expr.node_respell anchored]
  split
  · split <;> rfl
  · rfl

mutual

theorem stamps_exprFindings (anchored : Anchored spell) (site : Site) : (expr : Expr) ->
    stamps (exprFindings view site (expr.respell spell)) = stamps (exprFindings view site expr)
  | .literal value => by
    obtain stays | ⟨_, _, _, _, same⟩ := Expr.respell_literal spell value
    · rw [stays]
    · rw [same]
      simp only [exprFindings]
  | .addressOf operand span => by
    unfold Expr.respell exprFindings
    split
    · simp only [stamps_append, stamps_addressFindings anchored,
        stamps_exprFindings anchored site operand]
    · rfl
  | .load _ operand _ => by
    unfold Expr.respell exprFindings
    split
    · exact stamps_exprFindings anchored site operand
    · rfl
  | .binary _ left right _ | .index left right _ => by
    unfold Expr.respell exprFindings
    simp only [stamps_append, stamps_exprFindings anchored site left,
      stamps_exprFindings anchored site right]
  | .unary _ operand _ | .field operand _ _ | .cast _ operand _ => by
    unfold Expr.respell exprFindings
    exact stamps_exprFindings anchored site operand
  | .call _ args _ | .array _ args _ => by
    unfold Expr.respell exprFindings
    exact stamps_exprsFindings anchored site args
  | .callValue function args _ => by
    unfold Expr.respell exprFindings
    simp only [stamps_append, stamps_exprFindings anchored site function,
      stamps_exprsFindings anchored site args]
  | .name _ | .alloc _ _ | .bad _ => by
    unfold Expr.respell
    rfl

theorem stamps_exprsFindings (anchored : Anchored spell) (site : Site) : (exprs : List Expr) ->
    stamps (exprsFindings view site (Expr.respellAll spell exprs)) =
      stamps (exprsFindings view site exprs)
  | [] => rfl
  | expr :: rest => by
    unfold Expr.respellAll exprsFindings
    simp only [stamps_append, stamps_exprFindings anchored site expr,
      stamps_exprsFindings anchored site rest]

end

theorem stamps_exprFindings? (anchored : Anchored spell) (site : Site) (expr : Option Expr) :
    stamps (exprFindings? view site (expr.map (Expr.respell spell))) =
      stamps (exprFindings? view site expr) := by
  cases expr with
  | none => rfl
  | some expr => exact stamps_exprFindings anchored site expr

theorem terminator?_respell (stmt : Stmt) :
    terminator? (stmt.respell spell) = terminator? stmt := by
  cases stmt <;> rfl

theorem closes?_respell (site : Site) (stmt : Stmt) :
    closes? site (stmt.respell spell) = closes? site stmt := by
  unfold closes?
  rw [terminator?_respell]

/-- A statement that cannot be reached gets the same stamp wherever it ends. -/
theorem stamps_deadFindings (strict : Bool) (closer : Terminator) (body : List Stmt) :
    stamps (deadFindings strict closer (Stmt.respellAll spell body)) =
      stamps (deadFindings strict closer body) := by
  have behind (rest : List Stmt) :
      stamps ((Stmt.respellAll spell rest).map fun later => .unreachable later.span strict) =
        stamps (rest.map fun later => .unreachable later.span strict) := by
    induction rest with
    | nil => rfl
    | cons stmt rest inductionHypothesis =>
      unfold Stmt.respellAll
      simp only [List.map_cons, stamps_cons, inductionHypothesis]
      cases strict <;> rfl
  induction body with
  | nil => rfl
  | cons stmt rest inductionHypothesis =>
    unfold Stmt.respellAll deadFindings
    rw [terminator?_respell]
    split
    · simp only [stamps_cons, behind]
      cases closer <;> rfl
    · simp only [stamps_cons, inductionHypothesis]
      cases strict <;> rfl

mutual

theorem stamps_stmtFindings (anchored : Anchored spell) (site : Site) : (stmt : Stmt) ->
    stamps (stmtFindings view site (stmt.respell spell)) = stamps (stmtFindings view site stmt)
  | .ret value span => by
    unfold Stmt.respell stmtFindings
    simp only [stamps_append, stamps_exprFindings? anchored]
  | .block body _ => by
    unfold Stmt.respell stmtFindings
    exact stamps_stmtsFindings anchored site body
  | .loop body _ _ => by
    unfold Stmt.respell stmtFindings
    exact stamps_stmtsFindings anchored site.loop body
  | .cond test body _ otherwise _ => by
    unfold Stmt.respell stmtFindings
    simp only [stamps_append, stamps_exprFindings anchored, stamps_stmtsFindings anchored site body,
      stamps_stmtFindings? anchored site otherwise]
  | .whileLoop test body _ _ => by
    unfold Stmt.respell stmtFindings
    simp only [stamps_append, stamps_exprFindings anchored,
      stamps_stmtsFindings anchored site.loop body]
  | .forLoop first test after body _ _ => by
    unfold Stmt.respell stmtFindings
    simp only [stamps_append, stamps_stmtFindings? anchored site first,
      stamps_exprFindings? anchored,
      stamps_stmtFindings? anchored site.loop after, stamps_stmtsFindings anchored site.loop body]
  | .expr value => by
    unfold Stmt.respell stmtFindings
    exact stamps_exprFindings anchored site value
  | .letIn binding => stamps_exprFindings? anchored site binding.value
  | .const decl => stamps_exprFindings? anchored .outside decl.value
  | .instr binding => by
    unfold Stmt.respell stmtFindings BindingDecl.respell
    simp only [stamps_append, stamps_exprFindings? anchored]
  | .assign target value _ | .write target value _ => by
    unfold Stmt.respell stmtFindings
    simp only [stamps_append, stamps_exprFindings anchored]
  | .struct _ | .brk _ | .cont _ | .bad _ => by
    unfold Stmt.respell
    rfl

theorem stamps_stmtFindings? (anchored : Anchored spell) (site : Site) : (stmt : Option Stmt) ->
    stamps (stmtFindings? view site (Stmt.respell? spell stmt)) =
      stamps (stmtFindings? view site stmt)
  | none => rfl
  | some stmt => by
    unfold Stmt.respell? stmtFindings?
    exact stamps_stmtFindings anchored site stmt

theorem stamps_stmtsFindings (anchored : Anchored spell) (site : Site) : (body : List Stmt) ->
    stamps (stmtsFindings view site (Stmt.respellAll spell body)) =
      stamps (stmtsFindings view site body)
  | [] => rfl
  | stmt :: rest => by
    unfold Stmt.respellAll stmtsFindings
    rw [closes?_respell]
    simp only [stamps_append, stamps_stmtFindings anchored site stmt]
    split
    · rw [stamps_deadFindings]
    · rw [stamps_stmtsFindings anchored site rest]

end

variable (spell) in
/-- A function that can end without its result can do so in either spelling. -/
theorem stamps_missingReturn? (session : Session) (decl : FunctionDecl) (body : Body) :
    stamps (missingReturn? session { decl with body := some (body.respell spell) }
        (body.respell spell)).toList =
      stamps (missingReturn? session { decl with body := some body } body).toList := by
  have owed : owedResult? session { decl with body := some (body.respell spell) } =
      owedResult? session { decl with body := some body } := rfl
  unfold missingReturn?
  rw [owed]
  split
  · rfl
  · simp only [Flow.allReturn_respell]
    split <;> rfl

/-- What is found at an item bears the same stamps in either spelling. -/
theorem stamps_itemFindings (anchored : Anchored spell) (session : Session) (item : Item) :
    stamps (itemFindings session view (item.respell spell)) =
      stamps (itemFindings session view item) := by
  cases item with
  | function decl =>
    obtain ⟨attributes, name, params, result, body, span⟩ := decl
    cases body with
    | none => rfl
    | some body =>
      have missing := stamps_missingReturn? spell session
        ⟨attributes, name, params, result, none, span⟩ body
      simp only [Item.respell, Option.map_some, itemFindings, stamps_append, missing]
      rw [Body.respell, stamps_stmtsFindings anchored]
  | entry decl => exact stamps_stmtsFindings anchored .body decl.body.stmts
  | const decl => exact stamps_exprFindings? anchored .outside decl.value
  | static decl => exact stamps_exprFindings? anchored .outside decl.value
  | enum decl =>
    simp only [Item.respell, itemFindings, List.flatMap_map]
    induction decl.variants with
    | nil => rfl
    | cons variant rest inductionHypothesis =>
      simp only [List.flatMap_cons, stamps_append, inductionHypothesis]
      rw [VariantDecl.respell, stamps_exprFindings? anchored]
  | _ => rfl

theorem strays_respell (items : List Item) :
    strays (items.map (Item.respell spell)) = Stmt.respellAll spell (strays items) := by
  induction items with
  | nil => rfl
  | cons item rest inductionHypothesis =>
    cases item with
    | stray stmt => exact congrArg (stmt.respell spell :: ·) inductionHypothesis
    | _ => exact inductionHypothesis

end Lint
end UnitCheck
