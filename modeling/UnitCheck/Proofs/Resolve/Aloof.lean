import UnitCheck.Proofs.Resolve.Frame
import UnitCheck.Proofs.Session.Quiet

/-!
# Resolving names is aloof

The second pass goes by its items, by the frames that are open and by what has been found
out about symbols.
-/

namespace UnitCheck.Resolve

theorem aloof_beginScope : Aloof beginScope :=
  .read (fun _ _ _ => rfl) fun _ => Check.aloof_setTable _

theorem aloof_endScope (span : Span) : Aloof (endScope span) := by
  refine .read (fun _ _ _ => rfl) fun session => ?_
  cases session.table.endScope with
  | ok table => exact Check.aloof_setTable table
  | error _ => exact Check.aloof_report _ rfl

theorem aloof_bindLocal (node : NodeId) (symbol : Symbol) (known : SymbolType) :
    Aloof (bindLocal node symbol known) := by
  refine .read (fun _ _ _ => rfl) fun session => ?_
  cases session.table.declareLocal symbol with
  | error _ => exact .pure _
  | ok table =>
    exact .bind (Check.aloof_setTable table) fun _ => .bind (Check.aloof_setKnown _ _) fun _ =>
      .bind (Check.aloof_recordDecl _ _) fun _ => .pure _

theorem aloof_declareLocal (node : NodeId) (name : Ident) (symbol : Symbol) (known : SymbolType) :
    Aloof (declareLocal node name symbol known) := by
  refine .bind (aloof_bindLocal node symbol known) fun refused => ?_
  split
  · exact .pure _
  · exact Check.aloof_report _ rfl
  · exact Check.aloof_report _ rfl

/-! ### Expressions -/

theorem aloof_resolveName (name : Ident) : Aloof (resolveName name) := by
  refine .read (fun _ _ _ => rfl) fun session => ?_
  cases session.table.resolve? name.name with
  | some symbol => exact .bind (Check.aloof_recordRef _ _) fun _ => .pure _
  | none => exact .bind (Check.aloof_report _ rfl) fun _ => .pure _

theorem aloof_resolveValue (name : Ident) : Aloof (resolveValue name) := by
  refine .bind (aloof_resolveName name) fun found => ?_
  cases found with
  | none => exact .pure _
  | some symbol =>
    simp only
    split
    · exact Check.aloof_report _ rfl
    · exact .pure _

theorem aloof_resolveCallee (name : Ident) : Aloof (resolveCallee name) := by
  refine .read (fun _ _ _ => rfl) fun session => ?_
  simp only
  split
  · exact Check.aloof_recordRef _ _
  · exact .bind (aloof_resolveName name) fun _ => .pure _

theorem aloof_enumNamed? (name : Ident) : Aloof (enumNamed? name) := by
  refine .read (fun _ _ _ => rfl) fun session => ?_
  split <;> exact .pure _

theorem aloof_resolveType (form : TypeForm) : Aloof (resolveType form) :=
  .bind (Check.aloof_typeOf form) fun _ => .pure _

mutual

theorem aloof_resolveExpr : (expr : Expr) -> Aloof (resolveExpr expr)
  | .literal _ | .bad _ => by
    unfold resolveExpr
    exact .pure _
  | .name name => by
    unfold resolveExpr
    exact aloof_resolveValue name
  | .binary _ left right _ | .index left right _ => by
    unfold resolveExpr
    exact .bind (aloof_resolveExpr left) fun _ => aloof_resolveExpr right
  | .unary _ operand _ | .addressOf operand _ => by
    unfold resolveExpr
    exact aloof_resolveExpr operand
  | .call callee args _ => by
    unfold resolveExpr
    exact .bind (aloof_resolveCallee callee) fun _ => aloof_resolveExprs args
  | .callValue function args _ => by
    unfold resolveExpr
    exact .bind (aloof_resolveExpr function) fun _ => aloof_resolveExprs args
  | .field base _ _ => by
    unfold resolveExpr
    split
    · rename_i name
      refine .bind (aloof_enumNamed? name) fun found => ?_
      cases found with
      | some symbol => exact Check.aloof_recordRef _ _
      | none => exact aloof_resolveValue name
    · exact aloof_resolveExpr base
  | .cast type operand _ => by
    unfold resolveExpr
    exact .bind (aloof_resolveExpr operand) fun _ => aloof_resolveType type
  | .array element items _ => by
    unfold resolveExpr
    cases element with
    | some type => exact .bind (aloof_resolveType type) fun _ => aloof_resolveExprs items
    | none => exact aloof_resolveExprs items
  | .load type operand _ => by
    unfold resolveExpr
    exact .bind (aloof_resolveType type) fun _ => aloof_resolveExpr operand
  | .alloc type _ => by
    unfold resolveExpr
    exact aloof_resolveType type

theorem aloof_resolveExprs : (exprs : List Expr) -> Aloof (resolveExprs exprs)
  | [] => by
    unfold resolveExprs
    exact .pure _
  | expr :: rest => by
    unfold resolveExprs
    exact .bind (aloof_resolveExpr expr) fun _ => aloof_resolveExprs rest

end

theorem aloof_resolveExpr? : (expr : Option Expr) -> Aloof (resolveExpr? expr)
  | none => .pure _
  | some expr => aloof_resolveExpr expr

/-! ### Declarations inside bodies -/

theorem aloof_resolveBinding (kind : SymbolKind) (binding : BindingDecl) :
    Aloof (resolveBinding kind binding) :=
  .bind (aloof_resolveExpr? binding.value) fun _ =>
    .bind (Check.aloof_typeOf? binding.type) fun _ => aloof_declareLocal _ _ _ _

theorem aloof_resolveConst (decl : ConstDecl) : Aloof (resolveConst decl) := by
  refine .bind (aloof_resolveExpr? decl.value) fun _ =>
    .bind (Check.aloof_typeOf? decl.type) fun _ => ?_
  cases decl.name with
  | none => exact .pure _
  | some name => exact aloof_declareLocal _ _ _ _

theorem aloof_localFields (fields : List FieldDecl) (index : Nat) :
    Aloof (localFields index fields) := by
  induction fields generalizing index with
  | nil => exact .pure _
  | cons field rest inductionHypothesis =>
    exact .bind (Check.aloof_typeOf _) fun _ => .bind (inductionHypothesis _) fun _ => .pure _

theorem aloof_resolveStruct (decl : StructDecl) : Aloof (resolveStruct decl) := by
  unfold resolveStruct
  cases decl.name with
  | none => exact .pure _
  | some name =>
    exact .bind (aloof_declareLocal _ _ _ _) fun _ => .bind (aloof_localFields _ _) fun _ =>
      Check.aloof_define _

/-! ### Statements -/

mutual

theorem aloof_resolveStmt : (stmt : Stmt) -> Aloof (resolveStmt stmt)
  | .block body span => by
    unfold resolveStmt
    exact .bind aloof_beginScope fun _ => .bind (aloof_resolveStmts body) fun _ =>
      aloof_endScope span
  | .expr value => by
    unfold resolveStmt
    exact aloof_resolveExpr value
  | .letIn binding | .instr binding => by
    unfold resolveStmt
    exact aloof_resolveBinding _ binding
  | .const decl => by
    unfold resolveStmt
    exact aloof_resolveConst decl
  | .struct decl => by
    unfold resolveStmt
    exact aloof_resolveStruct decl
  | .assign target value _ | .write target value _ => by
    unfold resolveStmt
    exact .bind (aloof_resolveExpr target) fun _ => aloof_resolveExpr value
  | .cond test body bodySpan otherwise _ => by
    unfold resolveStmt
    exact .bind (aloof_resolveExpr test) fun _ => .bind aloof_beginScope fun _ =>
      .bind (aloof_resolveStmts body) fun _ => .bind (aloof_endScope bodySpan) fun _ =>
      aloof_resolveStmt? otherwise
  | .whileLoop test body bodySpan _ => by
    unfold resolveStmt
    exact .bind (aloof_resolveExpr test) fun _ => .bind aloof_beginScope fun _ =>
      .bind (aloof_resolveStmts body) fun _ => aloof_endScope bodySpan
  | .loop body bodySpan _ => by
    unfold resolveStmt
    exact .bind aloof_beginScope fun _ => .bind (aloof_resolveStmts body) fun _ =>
      aloof_endScope bodySpan
  | .forLoop first test after body bodySpan span => by
    unfold resolveStmt
    exact .bind aloof_beginScope fun _ => .bind (aloof_resolveStmt? first) fun _ =>
      .bind (aloof_resolveExpr? test) fun _ => .bind (aloof_resolveStmt? after) fun _ =>
      .bind aloof_beginScope fun _ => .bind (aloof_resolveStmts body) fun _ =>
      .bind (aloof_endScope bodySpan) fun _ => aloof_endScope span
  | .ret value _ => by
    unfold resolveStmt
    exact aloof_resolveExpr? value
  | .brk _ | .cont _ | .bad _ => by
    unfold resolveStmt
    exact .pure _

theorem aloof_resolveStmt? : (stmt : Option Stmt) -> Aloof (resolveStmt? stmt)
  | none => by
    unfold resolveStmt?
    exact .pure _
  | some stmt => by
    unfold resolveStmt?
    exact aloof_resolveStmt stmt

theorem aloof_resolveStmts : (body : List Stmt) -> Aloof (resolveStmts body)
  | [] => by
    unfold resolveStmts
    exact .pure _
  | stmt :: rest => by
    unfold resolveStmts
    exact .bind (aloof_resolveStmt stmt) fun _ => aloof_resolveStmts rest

end

/-! ### Items -/

theorem aloof_declareParam (param : Param) (type : Ty) : Aloof (declareParam param type) := by
  refine .bind (aloof_bindLocal _ _ _) fun refused => ?_
  split
  · exact .pure _
  · exact Check.aloof_report _ rfl
  · exact Check.aloof_report _ rfl

theorem aloof_resolveParams (params : List Param) (types : List Ty) :
    Aloof (resolveParams types params) := by
  induction params generalizing types with
  | nil =>
    unfold resolveParams
    exact .pure _
  | cons param rest inductionHypothesis =>
    have typed : Aloof (types.head?.elim (Check.typeOf param.type) pure) := by
      cases types with
      | nil => exact Check.aloof_typeOf param.type
      | cons type others => exact .pure type
    rw [resolveParams_cons]
    exact .bind typed fun type => .bind (aloof_declareParam param type) fun _ =>
      inductionHypothesis types.tail

theorem aloof_resolveFunction (span : Span) (params : List Param) (body : Option Body) :
    Aloof (resolveFunction span params body) := by
  rw [resolveFunction_eq]
  exact .read (fun _ _ _ => rfl) fun session => .bind aloof_beginScope fun _ =>
    .bind (aloof_resolveParams _ _) fun _ => .bind (aloof_resolveStmts _) fun _ =>
    aloof_endScope span

theorem aloof_resolveItem (item : Item) : Aloof (resolveItem item) := by
  unfold resolveItem
  cases item with
  | function decl => exact aloof_resolveFunction _ _ _
  | asm decl => exact aloof_resolveFunction _ _ _
  | entry decl => exact aloof_resolveStmt _
  | const decl => exact aloof_resolveExpr? _
  | static decl => exact aloof_resolveExpr? _
  | enum decl => exact .forM _ fun _ _ => aloof_resolveExpr? _
  | struct decl => exact .pure _
  | typeAlias decl => exact .pure _
  | stray stmt => exact aloof_resolveStmt stmt

/-- The second pass is aloof. -/
theorem aloof_walk : Aloof walk := by
  refine .read (fun _ _ _ => rfl) fun session =>
    .bind (.forM _ fun item _ => aloof_resolveItem item) fun _ =>
    .read (fun _ _ _ => rfl) fun after => ?_
  simp only
  split
  · exact Check.aloof_report _ rfl
  · exact .pure _

end UnitCheck.Resolve
