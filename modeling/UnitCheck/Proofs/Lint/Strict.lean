import UnitCheck.Proofs.Lint.Isolation
import UnitCheck.Proofs.Session.Quiet

/-!
# What strictness changes

How strict a check is decides about the severity of code that control cannot reach. The last
pass finds the same either way, in the same order.
-/

namespace UnitCheck

/-- The finding as a check finds it that is as strict as given. -/
def Finding.under (strict : Bool) : Finding -> Finding
  | .unreachable span _ => .unreachable span strict
  | finding => finding

/-- The diagnostic as it is worded for a check that is as strict as given. -/
def Diagnostic.under (strict : Bool) (diagnostic : Diagnostic) : Diagnostic :=
  if diagnostic.code = "C0004" then
    { diagnostic with severity := if strict then .error else .warning }
  else diagnostic

namespace Finding

theorem under_of_ordinary {finding : Finding} (ordinary : finding.isUnreachable = false)
    (strict : Bool) : finding.under strict = finding := by
  unfold under
  split
  · cases ordinary
  · rfl

/-- The code of unreachable code is its own. -/
theorem code_ne_of_ordinary {finding : Finding} (ordinary : finding.isUnreachable = false)
    (file : String) : (finding.diagnostic file).code ≠ "C0004" := by
  cases finding with
  | unreachable => cases ordinary
  | missingInitializer span what =>
    cases what <;> simp [diagnostic, missingInitializerDiagnostic, error]
  | fieldAccess span problem =>
    obtain ⟨reason, segment, type⟩ := problem
    cases reason <;> simp [diagnostic, fieldAccessDiagnostic, error]
  | duplicateTerminator span what => cases what <;> simp [diagnostic, error, Terminator.code]
  | _ => simp [diagnostic, error, bug]

/-- Findings and diagnostics depend on strictness alike. -/
theorem diagnostic_under (finding : Finding) (strict : Bool) (file : String) :
    (finding.under strict).diagnostic file = (finding.diagnostic file).under strict := by
  by_cases ordinary : finding.isUnreachable = false
  · rw [under_of_ordinary ordinary]
    exact (if_neg (code_ne_of_ordinary ordinary file)).symm
  · cases finding with
    | unreachable span => rfl
    | _ => exact absurd rfl ordinary

end Finding

namespace Lint

/-- The view of a check that is as strict as given. -/
def View.under (view : View) (strict : Bool) : View := { view with strict := strict }

variable (view : View) (strict : Bool)

/-! ### Expressions -/

theorem requireBody_under (site : Site) (span : Span) (instruction : String) :
    requireBody site span instruction =
      (requireBody site span instruction).map (.under strict) := by
  unfold requireBody
  split <;> rfl

theorem addressFindings_under (span : Span) (operand : Expr) :
    addressFindings (view.under strict) span operand =
      (addressFindings view span operand).map (.under strict) := by
  unfold addressFindings View.under
  cases view.types.find? operand.node with
  | none => rfl
  | some type =>
    simp only
    split <;> rfl

mutual

theorem exprFindings_under (site : Site) : (expr : Expr) ->
    exprFindings (view.under strict) site expr =
      (exprFindings view site expr).map (.under strict)
  | .addressOf operand span => by
    simp only [exprFindings]
    split
    · rw [List.map_append, addressFindings_under, exprFindings_under site operand]
    · exact requireBody_under strict site span "address"
  | .load _ operand span => by
    simp only [exprFindings]
    split
    · exact exprFindings_under site operand
    · exact requireBody_under strict site span "load"
  | .alloc _ span => requireBody_under strict site span "alloc"
  | .binary _ left right _ | .index left right _ => by
    simp only [exprFindings, List.map_append, exprFindings_under site left,
      exprFindings_under site right]
  | .callValue function args _ => by
    simp only [exprFindings, List.map_append, exprFindings_under site function,
      exprsFindings_under site args]
  | .unary _ operand _ | .field operand _ _ | .cast _ operand _ => by
    simp only [exprFindings, exprFindings_under site operand]
  | .call _ args _ | .array _ args _ => by
    simp only [exprFindings, exprsFindings_under site args]
  | .literal _ | .name _ | .bad _ => rfl

theorem exprsFindings_under (site : Site) : (exprs : List Expr) ->
    exprsFindings (view.under strict) site exprs =
      (exprsFindings view site exprs).map (.under strict)
  | [] => rfl
  | expr :: rest => by
    simp only [exprsFindings, List.map_append, exprFindings_under site expr,
      exprsFindings_under site rest]

end

theorem exprFindings?_under (site : Site) : (expr : Option Expr) ->
    exprFindings? (view.under strict) site expr =
      (exprFindings? view site expr).map (.under strict)
  | none => rfl
  | some expr => exprFindings_under view strict site expr

/-! ### Statements -/

theorem deadFindings_under (before : Bool) (closer : Terminator) (body : List Stmt) :
    deadFindings strict closer body = (deadFindings before closer body).map (.under strict) := by
  induction body with
  | nil => rfl
  | cons stmt rest inductionHypothesis =>
    unfold deadFindings
    split
    · rw [List.map_cons, List.map_map]
      rfl
    · rw [List.map_cons, inductionHypothesis]
      rfl

mutual

theorem stmtFindings_under (site : Site) : (stmt : Stmt) ->
    stmtFindings (view.under strict) site stmt =
      (stmtFindings view site stmt).map (.under strict)
  | .ret value span => by
    have place : (if site.inBody then [] else [Finding.returnOutsideFunction span]) =
        (if site.inBody then [] else [Finding.returnOutsideFunction span]).map
          (.under strict) := by
      split <;> rfl
    simp only [stmtFindings, List.map_append, exprFindings?_under]
    rw [← place]
  | .brk span | .cont span => by
    simp only [stmtFindings]
    split <;> rfl
  | .block body _ => stmtsFindings_under site body
  | .cond test body _ otherwise _ => by
    simp only [stmtFindings, List.map_append, exprFindings_under, stmtsFindings_under site body,
      stmtFindings?_under site otherwise]
  | .whileLoop test body _ _ => by
    simp only [stmtFindings, List.map_append, exprFindings_under,
      stmtsFindings_under site.loop body]
  | .loop body _ _ => stmtsFindings_under site.loop body
  | .forLoop first test after body _ _ => by
    simp only [stmtFindings, List.map_append, exprFindings?_under, stmtFindings?_under site first,
      stmtFindings?_under site.loop after, stmtsFindings_under site.loop body]
  | .expr value => exprFindings_under view strict site value
  | .letIn binding => exprFindings?_under view strict site binding.value
  | .const decl => exprFindings?_under view strict .outside decl.value
  | .assign target value _ => by
    simp only [stmtFindings, List.map_append, exprFindings_under]
  | .instr binding => by
    simp only [stmtFindings, List.map_append, exprFindings?_under]
    rw [← requireBody_under]
  | .write target value span => by
    simp only [stmtFindings, List.map_append, exprFindings_under]
    rw [← requireBody_under]
  | .struct _ | .bad _ => rfl

theorem stmtFindings?_under (site : Site) : (stmt : Option Stmt) ->
    stmtFindings? (view.under strict) site stmt =
      (stmtFindings? view site stmt).map (.under strict)
  | none => rfl
  | some stmt => stmtFindings_under site stmt

theorem stmtsFindings_under (site : Site) : (body : List Stmt) ->
    stmtsFindings (view.under strict) site body =
      (stmtsFindings view site body).map (.under strict)
  | [] => rfl
  | stmt :: rest => by
    unfold stmtsFindings
    rw [List.map_append, ← stmtFindings_under site stmt]
    cases closes? site stmt with
    | some closer => exact congrArg _ (deadFindings_under strict view.strict closer rest)
    | none => exact congrArg _ (stmtsFindings_under site rest)

end

/-! ### Units -/

theorem itemFindings_under (session : Session) (item : Item) :
    itemFindings session (view.under strict) item =
      (itemFindings session view item).map (.under strict) := by
  cases item with
  | function decl =>
    simp only [itemFindings]
    cases decl.body with
    | none => rfl
    | some body =>
      have missing : (missingReturn? session decl body).toList =
          (missingReturn? session decl body).toList.map (.under strict) := by
        unfold missingReturn?
        split
        · rfl
        · simp only
          split <;> rfl
      simp only [List.map_append, stmtsFindings_under]
      rw [← missing]
  | entry decl => exact stmtsFindings_under view strict .body decl.body.stmts
  | const decl => exact exprFindings?_under view strict .outside decl.value
  | static decl => exact exprFindings?_under view strict .outside decl.value
  | enum decl =>
    simp only [itemFindings, List.map_flatMap, exprFindings?_under]
  | asm | struct | typeAlias | stray => rfl

/-- Strictness changes nothing else about what the last pass finds. -/
theorem findings_under (session : Session) :
    findings { session with options := { session.options with strict := strict } } =
      (findings session).map (.under strict) := by
  have items : session.items.flatMap (itemFindings session ((viewOf session).under strict)) =
      (session.items.flatMap (itemFindings session (viewOf session))).map (.under strict) := by
    rw [List.map_flatMap]
    exact congrArg (List.flatMap · session.items)
      (funext fun item => itemFindings_under _ strict session item)
  have others := stmtsFindings_under (viewOf session) strict .outside (strays session.items)
  rw [findings_eq session, List.map_append, ← items, ← others]
  rfl

end Lint
end UnitCheck
