import UnitCheck.Proofs.Session.Quiet
import UnitCheck.Proofs.Typing.Frame
import UnitCheck.Proofs.Typing.Operations

/-!
# Typing is aloof

The third pass looks at two options. One is the type of integer literals of which nothing is
expected. The other is whether field accesses look through `mut`: where they do, they find at
least what they find where they do not, and find it by the same hops. What they miss where
they do not is reported and fatal.
-/

namespace UnitCheck

/-! ### Looking through `mut` -/

namespace Member

variable {definitions : Definitions} {type : Ty} {segment : String}

/-- A struct that is found without looking through `mut` is found looking through it. -/
theorem structOf_viaMut {chosen : String × TypeId × Bool}
    (found : structOf .pointerOnly type segment = .ok chosen) :
    structOf .viaMut type segment = .ok chosen := by
  unfold structOf at found ⊢
  simp only at found ⊢
  split at found
  · split at found
    · cases found
    · simpa using found
  · exact found

theorem hop_viaMut {taken : MemberStep × Ty}
    (found : hop definitions .pointerOnly type segment = .ok taken) :
    hop definitions .viaMut type segment = .ok taken := by
  unfold hop at found ⊢
  cases chosen : structOf .pointerOnly type segment with
  | error error =>
    rw [chosen] at found
    cases found
  | ok struct =>
    rw [chosen] at found
    rw [structOf_viaMut chosen]
    exact found

/-- A path that leads somewhere without looking through `mut` leads there, by the same hops,
looking through it. -/
theorem walk_viaMut {path : List String} {found : Ty} {steps : List MemberStep}
    (walked : walk definitions .pointerOnly type path = (.ok found, steps)) :
    walk definitions .viaMut type path = (.ok found, steps) := by
  induction path generalizing type steps with
  | nil => exact walked
  | cons segment rest inductionHypothesis =>
    unfold walk at walked ⊢
    cases hopped : hop definitions .pointerOnly type segment with
    | error error =>
      rw [hopped] at walked
      cases walked
    | ok taken =>
      rw [hopped] at walked
      rw [hop_viaMut hopped]
      obtain ⟨isFound, isSteps⟩ := Prod.mk.inj walked
      rw [← isSteps]
      simp only
      rw [inductionHypothesis (Prod.ext isFound rfl)]

end Member

namespace Typing

/-! ### Expressions -/

/-- An objection says nothing about reachability. -/
theorem isUnreachable_of_isObjection {finding : Finding}
    (isObjection : finding.isObjection = true) : finding.isUnreachable = false := by
  cases finding <;> first | rfl | cases isObjection

theorem aloof_tell {finding : Option Finding}
    (objects : ∀ found ∈ finding, found.isObjection = true) : Aloof (tell finding) := by
  cases finding with
  | none => exact .pure _
  | some found => exact Check.aloof_report found (isUnreachable_of_isObjection (objects found rfl))

theorem aloof_accept {judged : Judged} (objects : ∀ found ∈ judged.2, found.isObjection = true) :
    Aloof (accept judged) :=
  .bind (aloof_tell objects) fun _ => .pure _

theorem aloof_record (node : NodeId) (type : Ty) : Aloof (record node type) :=
  .bind (Check.aloof_recordExpr _ _) fun _ => .pure _

theorem aloof_checkLiteral (literal : Literal) (expected : Option Ty) (negated : Bool) :
    Aloof (checkLiteral literal expected negated) := by
  refine .read (fun session guise suits => ?_) fun session =>
    aloof_accept objects_literalType
  exact congrArg (fun type => accept (literalType type literal expected negated)) suits.integerType

theorem aloof_reportArity (callee : Callee) (span : Span) (count : Nat) :
    Aloof (reportArity callee span count) :=
  .bind (Check.aloof_report _ rfl) fun _ => Check.aloof_report _ rfl

theorem aloof_chosenVariant (enumName : String) (id : TypeId) (variants path : List String)
    (span : Span) : Aloof (chosenVariant enumName id variants path span) := by
  unfold chosenVariant
  split
  · split
    · exact .pure _
    · exact .bind (Check.aloof_report _ rfl) fun _ => .pure _
  · exact .bind (Check.aloof_report _ rfl) fun _ => .pure _

theorem aloof_variantType (symbol : Symbol) (name : Ident) (path : List String) (span : Span) :
    Aloof (variantType symbol name path span) := by
  refine .read (fun _ _ _ => rfl) fun session => ?_
  split
  · exact .bind (Check.aloof_recordExpr _ _) fun _ => aloof_chosenVariant _ _ _ path span
  · exact .pure _

theorem aloof_enumBase? (base : Expr) : Aloof (enumBase? base) := by
  unfold enumBase?
  split
  · refine .read (fun _ _ _ => rfl) fun session => ?_
    split <;> exact .pure _
  · exact .pure _

/-- The type that a path has led to, or a report that it leads nowhere. -/
def reached (span : Span) : Except FieldError Ty × List MemberStep -> Check Ty
  | (.ok type, steps) => do
    Check.recordMembers span.node steps
    return type
  | (.error error, _) => do
    Check.report (.fieldAccess span error)
    return .unknown

/-- A path that leads nowhere is fatal, so only the mode that looks through `mut` may find
more. -/
theorem aloof_reached (base : Ty) (path : List String) (span : Span) : Aloof (do
    let session <- get
    reached span (Member.walk session.definitions session.options.derefMode base path)) := by
  refine .readWhere (fun session guise suits trusted => ?_) fun session => ?_
  · have seen : Member.walk session.definitions guise.options.derefMode base path =
        Member.walk session.definitions session.options.derefMode base path := by
      rcases suits.derefMode with same | throughMut
      · rw [same]
      · rw [throughMut] at trusted ⊢
        cases mode : session.options.derefMode with
        | viaMut => rfl
        | pointerOnly =>
          rw [mode] at trusted
          have quiet := trusted.resolve_left nofun
          cases walked : Member.walk session.definitions .pointerOnly base path with
          | mk outcome steps =>
            cases outcome with
            | ok type => exact Member.walk_viaMut walked
            | error error =>
              rw [walked] at quiet
              exact absurd quiet
                (Session.not_quiet_report (Finding.isFatal_fieldAccess span error))
    exact congrArg (reached span) seen
  · unfold reached
    split
    · exact .bind (Check.aloof_recordMembers _ _) fun _ => .pure _
    · exact .bind (Check.aloof_report _ rfl) fun _ => .pure _

theorem aloof_fieldType (base : Ty) (path : List String) (span : Span) :
    Aloof (fieldType base path span) := by
  unfold fieldType
  split
  · exact .pure _
  · exact aloof_reached base path span

theorem aloof_compareItems (element : Ty) (items : List Expr) :
    Aloof (compareItems element items) := by
  induction items with
  | nil => exact .pure _
  | cons item rest inductionHypothesis =>
    exact .read (fun _ _ _ => rfl) fun _ => .bind (aloof_tell objects_mismatch) fun _ =>
      inductionHypothesis

theorem aloof_pickedArray (items : List Expr) (span : Span) (best : Option Ty) :
    Aloof (pickedArray items span best) := by
  cases best with
  | some element => exact .bind (aloof_compareItems _ _) fun _ => aloof_record _ _
  | none => exact .bind (Check.aloof_report _ rfl) fun _ => aloof_record _ _

theorem aloof_givenElement (form : Option TypeForm) (expected : Option Ty) :
    Aloof (givenElement form expected) := by
  unfold givenElement
  cases form with
  | some form => exact .bind (Check.aloof_recordedType form) fun _ => .pure _
  | none => exact .pure _

/-- Arguments, or a complaint about their number. -/
theorem aloof_arguments {callee : Callee} {span : Span} {count : Nat}
    {checkArgs checkAll : Check Unit} (aloofArgs : Aloof checkArgs) (aloofAll : Aloof checkAll)
    (result : Ty) (node : NodeId) : Aloof (do
      if callee.accepts count then checkArgs
      else
        reportArity callee span count
        checkAll
      record node result) := by
  simp only
  split
  · exact .bind aloofArgs fun _ => aloof_record _ _
  · exact .bind (aloof_reportArity _ _ _) fun _ => .bind aloofAll fun _ => aloof_record _ _

theorem aloof_setDeclType (node : NodeId) (type : Ty) : Aloof (setDeclType node type) := by
  refine .read (fun _ _ _ => rfl) fun session => ?_
  split
  · exact Check.aloof_setType _ _
  · exact .pure _

theorem aloof_declaredType (name : Option Ident) :
    (form : Option TypeForm) -> Aloof (declaredType name form)
  | none => .pure _
  | some form => by
    refine .bind (Check.aloof_recordedType form) fun type => ?_
    split
    · exact .bind (Check.aloof_report _ rfl) fun _ => .pure _
    · exact .pure _

theorem ordinary_assignProblem? {span : Span} {mutability : Mutability} {problem : Finding}
    (isProblem : assignProblem? span mutability = some problem) :
    problem.isUnreachable = false := by
  cases mutability <;> cases isProblem <;> rfl

-- the walks need their hypothesis only through each other
set_option linter.unusedSectionVars false

section Asks

variable {demand : Demand} (asks : ∀ symbol, Aloof (demand symbol))

include asks

theorem aloof_symbolType (symbol : Symbol) : Aloof (symbolType demand symbol) := by
  refine .read (fun _ _ _ => rfl) fun session => ?_
  split
  · exact .pure _
  · exact asks symbol

theorem aloof_nameType (name : Ident) : Aloof (nameType demand name) := by
  refine .read (fun _ _ _ => rfl) fun session => ?_
  split
  · exact .pure _
  · split
    · exact .pure _
    · exact aloof_symbolType asks _

theorem aloof_calleeOf (symbol : Symbol) : Aloof (calleeOf demand symbol) := by
  refine .read (fun _ _ _ => rfl) fun session => ?_
  simp only
  split
  · split <;> exact .pure _
  · split
    · exact .pure _
    · refine .bind (aloof_symbolType asks symbol) fun type => ?_
      split <;> exact .pure _

mutual

theorem aloof_checkExpr : (expr : Expr) -> (expected : Option Ty) ->
    Aloof (checkExpr demand expr expected)
  | .literal literal, expected => by
    unfold checkExpr
    exact .bind (aloof_checkLiteral _ _ _) fun _ => aloof_record _ _
  | .name name, expected => by
    unfold checkExpr
    exact .bind (aloof_nameType asks name) fun _ => aloof_record _ _
  | .binary op left right span, expected => by
    have aloofLeft := aloof_checkExpr left
    have aloofRight := aloof_checkExpr right
    unfold checkExpr
    split
    · exact .bind (aloofLeft _) fun _ => .bind (aloofRight _) fun _ =>
        .bind (aloof_tell objects_logicalOperand) fun _ =>
        .bind (aloof_tell objects_logicalOperand) fun _ => aloof_record _ _
    · simp only
      split
      · exact .bind (aloofRight _) fun _ => .bind (aloofLeft _) fun _ =>
          .bind (aloof_accept objects_binaryType) fun _ => aloof_record _ _
      · exact .bind (aloofLeft _) fun _ => .bind (aloofRight _) fun _ =>
          .bind (aloof_accept objects_binaryType) fun _ => aloof_record _ _
  | .unary .negate operand span, expected => by
    unfold checkExpr
    split
    · exact .bind (aloof_checkLiteral _ _ _) fun _ => .bind (Check.aloof_recordExpr _ _) fun _ =>
        aloof_record _ _
    · exact .bind (aloof_checkExpr operand _) fun _ =>
        .bind (aloof_accept objects_negateType) fun _ => aloof_record _ _
  | .unary .not operand span, expected => by
    unfold checkExpr
    exact .bind (aloof_checkExpr operand _) fun _ =>
      .bind (aloof_tell objects_logicalOperand) fun _ => aloof_record _ _
  | .unary .complement operand span, expected => by
    unfold checkExpr
    exact .bind (aloof_checkExpr operand _) fun _ =>
      .bind (aloof_accept objects_complementType) fun _ => aloof_record _ _
  | .call name args span, expected => by
    have aloofAll := aloof_checkAll args
    unfold checkExpr
    refine .read (fun _ _ _ => rfl) fun session => ?_
    split
    · exact .bind aloofAll fun _ => aloof_record _ _
    · refine .bind (aloof_calleeOf asks _) fun callee => ?_
      split
      · exact .bind (Check.aloof_report _ rfl) fun _ => .bind aloofAll fun _ => aloof_record _ _
      · exact .bind (aloof_symbolType asks _) fun _ => .bind (Check.aloof_recordExpr _ _) fun _ =>
          aloof_arguments (aloof_checkArgs args _) aloofAll _ _
  | .callValue function args span, expected => by
    have aloofAll := aloof_checkAll args
    unfold checkExpr
    refine .bind (aloof_checkExpr function _) fun type => ?_
    split
    · exact .bind aloofAll fun _ => aloof_record _ _
    · split
      · exact aloof_arguments (aloof_checkArgs args _) aloofAll _ _
      · exact .bind (Check.aloof_report _ rfl) fun _ => .bind aloofAll fun _ => aloof_record _ _
  | .field base path span, expected => by
    unfold checkExpr
    refine .bind (aloof_enumBase? base) fun found => ?_
    split
    · exact .bind (aloof_variantType _ _ _ _) fun _ => aloof_record _ _
    · exact .bind (aloof_checkExpr base _) fun _ => .bind (aloof_fieldType _ _ _) fun _ =>
        aloof_record _ _
  | .index base position span, expected => by
    unfold checkExpr
    refine .bind (aloof_checkExpr base _) fun _ =>
      .bind (aloof_checkExpr position _) fun _ => ?_
    simp only
    split
    · exact .bind (Check.aloof_report _ rfl) fun _ =>
        .bind (aloof_accept objects_elementType) fun _ => aloof_record _ _
    · exact .bind (aloof_accept objects_elementType) fun _ => aloof_record _ _
  | .cast form operand span, expected => by
    unfold checkExpr
    refine .bind (Check.aloof_recordedType form) fun _ =>
      .bind (aloof_checkExpr operand _) fun _ => ?_
    simp only
    split
    · exact .bind (Check.aloof_report _ rfl) fun _ => aloof_record _ _
    · exact aloof_record _ _
  | .array form items span, expected => by
    rw [checkExpr_array]
    refine .bind (aloof_givenElement form expected) fun element => ?_
    cases element with
    | some element => exact .bind (aloof_checkItems items _) fun _ => aloof_record _ _
    | none =>
      exact .bind (aloof_checkTypedItems items _) fun _ =>
        .bind (aloof_checkLiteralItems items _ _) fun _ => aloof_pickedArray _ _ _
  | .addressOf operand span, expected => by
    unfold checkExpr
    refine .bind (aloof_checkExpr operand _) fun _ =>
      .read (fun _ _ _ => rfl) fun session => ?_
    simp only
    split
    · exact .bind (Check.aloof_report _ rfl) fun _ => aloof_record _ _
    · exact aloof_record _ _
  | .load form operand span, expected => by
    unfold checkExpr
    refine .bind (Check.aloof_recordedType form) fun _ =>
      .bind (aloof_checkExpr operand _) fun _ => ?_
    simp only
    split
    · exact .bind (Check.aloof_report _ rfl) fun _ => aloof_record _ _
    · exact aloof_record _ _
  | .alloc form span, expected => by
    unfold checkExpr
    exact .bind (Check.aloof_recordedType form) fun _ => aloof_record _ _
  | .bad span, expected => by
    unfold checkExpr
    exact aloof_record _ _

theorem aloof_checkAll : (exprs : List Expr) -> Aloof (checkAll demand exprs)
  | [] => by
    unfold checkAll
    exact .pure _
  | expr :: rest => by
    unfold checkAll
    exact .bind (aloof_checkExpr expr _) fun _ => aloof_checkAll rest

theorem aloof_checkArgs : (exprs : List Expr) -> (params : List Ty) ->
    Aloof (checkArgs demand params exprs)
  | [], params => by
    unfold checkArgs
    exact .pure _
  | expr :: rest, [] => by
    unfold checkArgs
    exact .bind (aloof_checkExpr expr _) fun _ => aloof_checkArgs rest _
  | expr :: rest, param :: params => by
    unfold checkArgs
    exact .bind (aloof_checkExpr expr _) fun _ => .bind (aloof_tell objects_mismatch) fun _ =>
      aloof_checkArgs rest _

theorem aloof_checkItems : (exprs : List Expr) -> (element : Ty) ->
    Aloof (checkItems demand element exprs)
  | [], element => by
    unfold checkItems
    exact .pure _
  | expr :: rest, element => by
    unfold checkItems
    exact .bind (aloof_checkExpr expr _) fun _ => .bind (aloof_tell objects_mismatch) fun _ =>
      aloof_checkItems rest _

theorem aloof_checkTypedItems : (exprs : List Expr) -> (best : Option Ty) ->
    Aloof (checkTypedItems demand best exprs)
  | [], best => by
    unfold checkTypedItems
    exact .pure _
  | expr :: rest, best => by
    unfold checkTypedItems
    split
    · exact aloof_checkTypedItems rest _
    · exact .bind (aloof_checkExpr expr _) fun _ => aloof_checkTypedItems rest _

theorem aloof_checkLiteralItems : (exprs : List Expr) -> (hint best : Option Ty) ->
    Aloof (checkLiteralItems demand hint best exprs)
  | [], hint, best => by
    unfold checkLiteralItems
    exact .pure _
  | expr :: rest, hint, best => by
    unfold checkLiteralItems
    split
    · exact .bind (aloof_checkExpr expr _) fun _ => aloof_checkLiteralItems rest _ _
    · exact aloof_checkLiteralItems rest _ _

end

theorem aloof_valueType (name : Option Ident) (declared : Option Ty) :
    (value : Option Expr) -> Aloof (valueType demand name declared value)
  | none => .pure _
  | some value => by
    refine .bind (aloof_checkExpr asks value _) fun found => ?_
    split
    · exact .bind (aloof_tell objects_mismatch) fun _ => .pure _
    · split
      · exact .bind (Check.aloof_report _ rfl) fun _ => .pure _
      · exact .pure _

theorem aloof_checkBinding (node : NodeId) (name : Option Ident) (form : Option TypeForm)
    (value : Option Expr) : Aloof (checkBinding demand node name form value) :=
  .bind (aloof_declaredType name form) fun _ => .bind (aloof_valueType asks name _ value) fun _ =>
    .bind (aloof_setDeclType _ _) fun _ => .pure _

theorem aloof_checkLocal (binding : BindingDecl) : Aloof (checkLocal demand binding) := by
  unfold checkLocal
  split
  · exact .bind (Check.aloof_report _ rfl) fun _ => aloof_setDeclType _ _
  · exact .bind (aloof_checkBinding asks _ _ _ _) fun _ => .pure _

theorem aloof_checkConst (decl : ConstDecl) : Aloof (checkConst demand decl) := by
  unfold checkConst
  split
  · exact aloof_checkBinding asks _ _ _ _
  · have rest (type : Ty) : Aloof (do
        setDeclType decl.span.node type
        return type : Check Ty) :=
      .bind (aloof_setDeclType _ _) fun _ => .pure _
    refine .bind (Check.aloof_report _ rfl) fun _ => ?_
    split
    · exact .bind (Check.aloof_recordedType _) rest
    · exact rest _

theorem aloof_checkStatic (decl : StaticDecl) : Aloof (checkStatic demand decl) := by
  unfold checkStatic
  split
  · exact .bind (Check.aloof_report _ rfl) fun _ => .bind (aloof_setDeclType _ _) fun _ => .pure _
  · exact aloof_checkBinding asks _ _ _ _

theorem aloof_checkCondition (test : Expr) : Aloof (checkCondition demand test) := by
  refine .bind (aloof_checkExpr asks test _) fun type => ?_
  split
  · exact Check.aloof_report _ rfl
  · exact .pure _

theorem aloof_checkReturn (result : Ty) (value : Option Expr) (span : Span) :
    Aloof (checkReturn demand result value span) := by
  unfold checkReturn
  cases value with
  | none =>
    simp only
    split
    · exact Check.aloof_report _ rfl
    · exact .pure _
  | some value =>
    simp only
    split
    · exact .bind (aloof_checkExpr asks value _) fun _ => Check.aloof_report _ rfl
    · refine .bind (aloof_checkExpr asks value _) fun found => ?_
      split
      · exact Check.aloof_report _ rfl
      · exact .pure _

theorem aloof_checkAssign (target value : Expr) : Aloof (checkAssign demand target value) := by
  refine .bind (aloof_checkExpr asks target _) fun _ =>
    .bind (aloof_checkExpr asks value _) fun _ => .read (fun _ _ _ => rfl) fun session => ?_
  split
  · rename_i problem isProblem
    exact Check.aloof_report problem (ordinary_assignProblem? isProblem)
  · exact aloof_tell objects_mismatch

theorem aloof_checkWrite (target value : Expr) : Aloof (checkWrite demand target value) := by
  refine .bind (aloof_checkExpr asks target _) fun type => ?_
  split
  · exact .bind (aloof_checkExpr asks value _) fun _ => aloof_tell objects_mismatch
  · refine .bind (aloof_checkExpr asks value _) fun _ => ?_
    split
    · exact Check.aloof_report _ rfl
    · exact .pure _

mutual

theorem aloof_checkStmt (result : Ty) : (stmt : Stmt) -> Aloof (checkStmt demand result stmt)
  | .block body span => by
    unfold checkStmt
    exact aloof_checkStmts result body
  | .expr value => by
    unfold checkStmt
    exact .bind (aloof_checkExpr asks value _) fun _ => .pure _
  | .letIn binding => by
    unfold checkStmt
    exact aloof_checkLocal asks binding
  | .instr binding => by
    unfold checkStmt
    exact .bind (aloof_checkBinding asks _ _ _ _) fun _ => .pure _
  | .const decl => by
    unfold checkStmt
    exact .bind (aloof_checkConst asks decl) fun _ => .pure _
  | .assign target value span => by
    unfold checkStmt
    exact aloof_checkAssign asks target value
  | .write target value span => by
    unfold checkStmt
    exact aloof_checkWrite asks target value
  | .cond test body bodySpan otherwise span => by
    unfold checkStmt
    exact .bind (aloof_checkCondition asks test) fun _ =>
      .bind (aloof_checkStmts result body) fun _ => aloof_checkStmt? result otherwise
  | .whileLoop test body bodySpan span => by
    unfold checkStmt
    exact .bind (aloof_checkCondition asks test) fun _ => aloof_checkStmts result body
  | .loop body bodySpan span => by
    unfold checkStmt
    exact aloof_checkStmts result body
  | .forLoop first test after body bodySpan span => by
    have rest : Aloof (do
        checkStmt? demand result after
        checkStmts demand result body) :=
      .bind (aloof_checkStmt? result after) fun _ => aloof_checkStmts result body
    unfold checkStmt
    refine .bind (aloof_checkStmt? result first) fun _ => ?_
    cases test with
    | none => exact rest
    | some test => exact .bind (aloof_checkCondition asks test) fun _ => rest
  | .ret value span => by
    unfold checkStmt
    exact aloof_checkReturn asks result value span
  | .struct _ | .brk _ | .cont _ | .bad _ => by
    unfold checkStmt
    exact .pure _

theorem aloof_checkStmt? (result : Ty) :
    (stmt : Option Stmt) -> Aloof (checkStmt? demand result stmt)
  | none => by
    unfold checkStmt?
    exact .pure _
  | some stmt => by
    unfold checkStmt?
    exact aloof_checkStmt result stmt

theorem aloof_checkStmts (result : Ty) : (body : List Stmt) -> Aloof (checkStmts demand result body)
  | [] => by
    unfold checkStmts
    exact .pure _
  | stmt :: rest => by
    unfold checkStmts
    exact .bind (aloof_checkStmt result stmt) fun _ => aloof_checkStmts result rest

end

theorem aloof_checkedGlobal : (global : Global) -> Aloof (global.check demand)
  | .const decl => aloof_checkConst asks decl
  | .static decl => aloof_checkStatic asks decl

theorem aloof_checkVariants (base : Ty) (variants : List VariantDecl) :
    Aloof (checkVariants demand base variants) := by
  induction variants with
  | nil => exact .pure _
  | cons variant rest inductionHypothesis =>
    unfold checkVariants
    cases variant.value with
    | none => exact inductionHypothesis
    | some value =>
      exact .bind (aloof_checkExpr asks value _) fun _ => .bind (aloof_tell objects_mismatch) fun _ =>
        inductionHypothesis

end Asks

/-! ### Globals and items -/

variable {demand : Demand}

theorem aloof_declType (node : NodeId) : Aloof (declType node) := by
  refine .read (fun _ _ _ => rfl) fun session => ?_
  split <;> exact .pure _

theorem aloof_checkGlobal (all : List Global) (fuel : Nat) (path : List NodeId) (global : Global) :
    Aloof (checkGlobal all fuel path global) := by
  induction fuel generalizing path global with
  | zero => exact .pure _
  | succ fuel inductionHypothesis =>
    unfold checkGlobal
    refine .read (fun _ _ _ => rfl) fun session => ?_
    split
    · exact aloof_declType _
    · split
      · exact .bind (Check.aloof_report _ rfl) fun _ =>
          .bind (aloof_setDeclType _ _) fun _ => .pure _
      · have marks : Aloof (markChecked global.node) := .modify (fun _ => rfl) fun _ _ => rfl
        refine .bind (aloof_checkedGlobal ?_ global) fun _ => .bind marks fun _ => .pure _
        intro symbol
        split
        · exact inductionHypothesis _ _
        · exact .pure _

theorem aloof_demandGlobal (all : List Global) (symbol : Symbol) :
    Aloof (demandGlobal all symbol) := by
  unfold demandGlobal
  split
  · exact aloof_checkGlobal all _ _ _
  · exact .pure _

theorem aloof_enumValueType (decl : EnumDecl) : Aloof (enumValueType decl) := by
  refine .read (fun _ _ _ => rfl) fun session => ?_
  split
  · exact .pure _
  · split <;> exact .pure _

theorem aloof_resultType (node : NodeId) : Aloof (resultType node) := by
  refine .read (fun _ _ _ => rfl) fun session => ?_
  split
  · exact .pure _
  · split <;> exact .pure _

theorem aloof_checkGlobalItem (all : List Global) (item : Item) :
    Aloof (checkGlobalItem all item) := by
  cases item with
  | const decl => exact .bind (aloof_checkGlobal all _ _ _) fun _ => .pure _
  | static decl => exact .bind (aloof_checkGlobal all _ _ _) fun _ => .pure _
  | enum decl =>
    exact .bind (aloof_enumValueType decl) fun base =>
      aloof_checkVariants (aloof_demandGlobal all) base _
  | _ => exact .pure _

theorem aloof_checkBodyItem (all : List Global) (item : Item) : Aloof (checkBodyItem all item) := by
  have asks := aloof_demandGlobal all
  cases item with
  | function decl =>
    simp only [checkBodyItem]
    cases decl.body with
    | none => exact .pure _
    | some body => exact .bind (aloof_resultType _) fun _ => aloof_checkStmts asks _ _
  | entry decl => exact aloof_checkStmts asks _ _
  | _ => exact .pure _

/-- The third pass is aloof. -/
theorem aloof_walk : Aloof walk := by
  have forgets : Aloof (modify fun session : Session => { session with checked := [] }) :=
    .modify (fun _ => rfl) fun _ _ => rfl
  refine .bind forgets fun _ => .read (fun _ _ _ => rfl) fun session => ?_
  exact .bind (.forM _ fun item _ => aloof_checkGlobalItem _ item) fun _ =>
    .forM _ fun item _ => aloof_checkBodyItem _ item

end Typing
end UnitCheck
