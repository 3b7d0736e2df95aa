import UnitCheck.Proofs.Resolve.Binding
import UnitCheck.Proofs.Resolve.Frame
import UnitCheck.Proofs.Session.Itemwise
import UnitCheck.Proofs.Session.Lockstep

/-!
# Resolving looks at what is in scope

What resolving an item does depends on the globals that it names, on what is known of the
types among them, and on the item itself. From sessions that agree about these, resolving an item
stays in step.

Every item is resolved from outside of all blocks and with the global declarations alone.
What the second pass finds in an item and leaves behind for it is therefore the same
whatever the other items hold, and in whatever order they come.
-/

namespace UnitCheck.Resolve

variable {outlook : Outlook} {pairing : Pairing outlook}

/-! ### Frames and locals -/

section Frames

variable (opens : outlook.opens)

include opens

theorem steps_beginScope : pairing.Steps beginScope fun _ => True := by
  refine .read fun one other alike => ?_
  have agree := pairing.agree alike
  have outcome (session : Session) :
      ((Check.setTable session.table.beginScope).run session).2 =
        Act.apply session (.locals session.table.locals
          (session.table.locals.length :: session.table.frames)) := rfl
  refine ⟨rfl, trivial, ?_⟩
  rw [outcome, outcome, ← agree.locals, ← agree.frames]
  exact pairing.act alike ⟨opens, (pairing.enclosed alike).locals⟩

theorem steps_endScope (span : Span) : pairing.Steps (endScope span) fun _ => True := by
  refine .read fun one other alike => ?_
  have agree := pairing.agree alike
  unfold Table.endScope
  rw [← agree.frames]
  cases one.table.frames with
  | nil => exact Pairing.steps_report _ one other alike
  | cons start outer =>
    have outcome (session : Session) : ((Check.setTable { session.table with
          locals := session.table.locals.drop (session.table.locals.length - start)
          frames := outer }).run session).2 =
        Act.apply session (.locals
          (session.table.locals.drop (session.table.locals.length - start)) outer) := rfl
    refine ⟨rfl, trivial, ?_⟩
    rw [outcome, outcome, ← agree.locals]
    refine pairing.act alike ⟨opens, fun symbol isLocal => ?_⟩
    exact (pairing.enclosed alike).locals symbol (List.mem_of_mem_drop isLocal)

theorem steps_bindLocal {node : NodeId} {symbol : Symbol} {known : SymbolType}
    (visible : outlook.visible node) (owned : outlook.owns node) (own : symbol.id = .node node)
    (within : known.Within outlook.visible) :
    pairing.Steps (bindLocal node symbol known) fun _ => True := by
  have proper : outlook.Proper symbol := by
    refine ⟨?_, fun _ => ?_⟩
    · rw [own]
      exact visible
    · rw [own]
      exact outlook.steady_of_owns node owned
  refine .read fun one other alike => ?_
  have agree := pairing.agree alike
  unfold Table.declareLocal Table.localsSince
  rw [← agree.frames, ← agree.locals]
  cases one.table.frames with
  | nil => exact Pairing.InStep.pure trivial one other alike
  | cons start outer =>
    simp only
    cases (one.table.locals.take (one.table.locals.length - start)).find? _ with
    | some previous => exact Pairing.InStep.pure trivial one other alike
    | none =>
      have outcome (session : Session) : ((Check.setTable
            ⟨session.table.globals, symbol :: one.table.locals, start :: outer⟩).run session).2 =
          Act.apply session (.locals (symbol :: one.table.locals) (start :: outer)) := rfl
      have placed : pairing.alike
          ((Check.setTable
            ⟨one.table.globals, symbol :: one.table.locals, start :: outer⟩).run one).2
          ((Check.setTable
            ⟨other.table.globals, symbol :: one.table.locals, start :: outer⟩).run other).2 := by
        rw [outcome, outcome]
        exact pairing.act alike
          ⟨opens, List.forall_mem_cons.mpr ⟨proper, (pairing.enclosed alike).locals⟩⟩
      have rest : pairing.Steps (do
          Check.setKnown symbol.id known
          Check.recordDecl node symbol
          return none : Check (Option TableError)) fun _ => True :=
        .bind (Pairing.steps_setKnown owned own within) fun _ _ =>
          .bind (Pairing.steps_recordDecl owned proper own) fun _ _ => .pure trivial
      exact rest _ _ placed

theorem steps_declareLocal {node : NodeId} {symbol : Symbol} {known : SymbolType}
    (visible : outlook.visible node) (owned : outlook.owns node) (own : symbol.id = .node node)
    (within : known.Within outlook.visible) (name : Ident) :
    pairing.Steps (declareLocal node name symbol known) fun _ => True := by
  refine .bind (steps_bindLocal opens visible owned own within) fun outcome _ => ?_
  split
  · exact .pure trivial
  · exact Pairing.steps_report _
  · exact Pairing.steps_report _

end Frames

/-! ### Expressions -/

/-- The name may be resolved: functions may be looked up by it, and the type of whatever it
refers to may be asked for. -/
def Resolvable (outlook : Outlook) (name : Ident) : Prop :=
  outlook.calls name.name ∧ ∀ symbol, outlook.asks symbol

/-- The names in some expressions may be resolved. -/
def Calls (outlook : Outlook) (parts : List Expr) : Prop :=
  ∀ part ∈ parts, ∀ name ∈ part.ownNames, Resolvable outlook name

@[simp] theorem calls_cons {part : Expr} {rest : List Expr} :
    Calls outlook (part :: rest) ↔
      (∀ name ∈ part.ownNames, Resolvable outlook name) ∧ Calls outlook rest := by
  simp [Calls]

@[simp] theorem calls_append {first second : List Expr} :
    Calls outlook (first ++ second) ↔ Calls outlook first ∧ Calls outlook second :=
  List.forall_mem_append

theorem steps_resolveName {name : Ident} (owned : outlook.owns name.span.node)
    (called : Resolvable outlook name) : pairing.Steps (resolveName name) fun _ => True := by
  refine .read fun one other alike => ?_
  rw [← (pairing.agree alike).resolve? called.1]
  cases found : one.table.resolve? name.name with
  | some symbol =>
    have proper := (pairing.enclosed alike).resolve? found
    exact (Pairing.InStep.bind (Pairing.steps_recordRef owned proper (called.2 _)) fun _ _ =>
      .pure trivial) one other alike
  | none =>
    exact (Pairing.InStep.bind (Pairing.steps_report _) fun _ _ => .pure trivial) one other alike

theorem steps_resolveValue {name : Ident} (owned : outlook.owns name.span.node)
    (called : Resolvable outlook name) : pairing.Steps (resolveValue name) fun _ => True := by
  refine .bind (steps_resolveName owned called) fun found _ => ?_
  cases found with
  | none => exact .pure trivial
  | some symbol =>
    simp only
    split
    · exact Pairing.steps_report _
    · exact .pure trivial

theorem steps_resolveCallee {name : Ident} (owned : outlook.owns name.span.node)
    (called : Resolvable outlook name) : pairing.Steps (resolveCallee name) fun _ => True := by
  refine .read fun one other alike => ?_
  have agree := pairing.agree alike
  have enclosed := pairing.enclosed alike
  simp only
  rw [← agree.resolveFunction? called.1, ← agree.resolveType?]
  cases found : one.table.resolveFunction? name.name <|> one.table.resolveType? name.name with
  | some symbol =>
    have proper := (eq_some_of_orElse found).elim enclosed.global? enclosed.resolveType?
    exact Pairing.steps_recordRef owned proper (called.2 _) one other alike
  | none =>
    exact (Pairing.InStep.bind (steps_resolveName owned called) fun _ _ =>
      .pure trivial) one other alike

theorem steps_enumNamed? {name : Ident} (called : Resolvable outlook name) :
    pairing.Steps (enumNamed? name) fun found => ∀ symbol ∈ found, outlook.Proper symbol := by
  refine .read fun one other alike => ?_
  rw [← (pairing.agree alike).resolve? called.1]
  cases found : one.table.resolve? name.name with
  | some symbol =>
    refine Pairing.InStep.pure ?_ one other alike
    intro enum isEnum
    split at isEnum
    · cases isEnum
      exact (pairing.enclosed alike).resolve? found
    · cases isEnum
  | none =>
    exact Pairing.InStep.pure (fun _ impossible => by cases impossible) one other alike

theorem steps_resolveType (form : TypeForm) (owned : ∀ node ∈ form.nodes, outlook.owns node) :
    pairing.Steps (resolveType form) fun _ => True :=
  .bind (Pairing.steps_typeOf form owned) fun _ _ => .pure trivial

mutual

theorem steps_resolveExpr :
    (expr : Expr) -> (∀ node ∈ expr.sites, outlook.owns node) -> Calls outlook expr.parts ->
    pairing.Steps (resolveExpr expr) fun _ => True
  | .literal _, _, _ | .bad _, _, _ => by
    unfold resolveExpr
    exact .pure trivial
  | .name name, owned, called => by
    unfold resolveExpr
    exact steps_resolveValue (by simpa using owned)
      (called (.name name) (Expr.self_mem_parts _) name List.mem_cons_self)
  | .binary _ left right _, owned, called | .index left right _, owned, called => by
    simp only [Expr.sites_binary, Expr.sites_index, List.forall_mem_cons,
      List.forall_mem_append] at owned
    simp only [Expr.parts, calls_cons, calls_append] at called
    unfold resolveExpr
    exact .bind (steps_resolveExpr left owned.2.1 called.2.1) fun _ _ =>
      steps_resolveExpr right owned.2.2 called.2.2
  | .unary _ operand _, owned, called | .addressOf operand _, owned, called => by
    simp only [Expr.sites_unary, Expr.sites_addressOf, List.forall_mem_cons] at owned
    simp only [Expr.parts, calls_cons] at called
    unfold resolveExpr
    exact steps_resolveExpr operand owned.2 called.2
  | .call callee args _, owned, called => by
    simp only [Expr.sites_call, List.forall_mem_cons] at owned
    simp only [Expr.parts, calls_cons] at called
    unfold resolveExpr
    exact .bind (steps_resolveCallee owned.1 (called.1 callee List.mem_cons_self)) fun _ _ =>
      steps_resolveExprs args owned.2.2 called.2
  | .callValue function args _, owned, called => by
    simp only [Expr.sites_callValue, List.forall_mem_cons, List.forall_mem_append] at owned
    simp only [Expr.parts, calls_cons, calls_append] at called
    unfold resolveExpr
    exact .bind (steps_resolveExpr function owned.2.1 called.2.1) fun _ _ =>
      steps_resolveExprs args owned.2.2 called.2.2
  | .field base path span, owned, called => by
    simp only [Expr.sites_field, List.forall_mem_cons] at owned
    simp only [Expr.parts, calls_cons] at called
    unfold resolveExpr
    split
    · rename_i name
      have own : outlook.owns name.span.node := by simpa using owned.2
      have isCalled := called.2 (.name name) (Expr.self_mem_parts _) name List.mem_cons_self
      refine .bind (steps_enumNamed? isCalled) fun found proper => ?_
      cases found with
      | some symbol => exact Pairing.steps_recordRef own (proper symbol rfl) (isCalled.2 _)
      | none => exact steps_resolveValue own isCalled
    · exact steps_resolveExpr base owned.2 called.2
  | .cast type operand _, owned, called => by
    simp only [Expr.sites_cast, List.forall_mem_cons, List.forall_mem_append] at owned
    simp only [Expr.parts, calls_cons] at called
    unfold resolveExpr
    exact .bind (steps_resolveExpr operand owned.2.2 called.2) fun _ _ =>
      steps_resolveType type owned.2.1
  | .array element items _, owned, called => by
    simp only [Expr.sites_array, List.forall_mem_cons, List.forall_mem_append] at owned
    simp only [Expr.parts, calls_cons] at called
    unfold resolveExpr
    cases element with
    | some type =>
      exact .bind (steps_resolveType type (by simpa using owned.2.1)) fun _ _ =>
        steps_resolveExprs items owned.2.2 called.2
    | none => exact steps_resolveExprs items owned.2.2 called.2
  | .load type operand _, owned, called => by
    simp only [Expr.sites_load, List.forall_mem_cons, List.forall_mem_append] at owned
    simp only [Expr.parts, calls_cons] at called
    unfold resolveExpr
    exact .bind (steps_resolveType type owned.2.1) fun _ _ =>
      steps_resolveExpr operand owned.2.2 called.2
  | .alloc type _, owned, _ => by
    simp only [Expr.sites_alloc, List.forall_mem_cons] at owned
    unfold resolveExpr
    exact steps_resolveType type owned.2

theorem steps_resolveExprs :
    (exprs : List Expr) -> (∀ node ∈ Expr.sitesAll exprs, outlook.owns node) ->
    Calls outlook (Expr.partsAll exprs) -> pairing.Steps (resolveExprs exprs) fun _ => True
  | [], _, _ => by
    unfold resolveExprs
    exact .pure trivial
  | expr :: rest, owned, called => by
    simp only [Expr.sitesAll_cons, List.forall_mem_append] at owned
    simp only [Expr.partsAll, calls_append] at called
    unfold resolveExprs
    exact .bind (steps_resolveExpr expr owned.1 called.1) fun _ _ =>
      steps_resolveExprs rest owned.2 called.2

end

theorem steps_resolveExpr? :
    (expr : Option Expr) -> (∀ node ∈ expr.toList.flatMap Expr.sites, outlook.owns node) ->
    (∀ value ∈ expr.toList, Calls outlook value.parts) ->
    pairing.Steps (resolveExpr? expr) fun _ => True
  | none, _, _ => .pure trivial
  | some expr, owned, called =>
    steps_resolveExpr expr (by simpa using owned) (called expr List.mem_cons_self)

/-! ### Declarations inside bodies -/

/-- What is known of a symbol with a type that may be met. -/
theorem within_ofType {type : Option Ty} (holds : ∀ found ∈ type, outlook.Holds found) :
    (SymbolType.ofType type).Within outlook.visible :=
  ⟨holds, List.forall_mem_nil _⟩

section Declarations

variable (opens : outlook.opens)

include opens

theorem steps_resolveBinding (kind : SymbolKind) (binding : BindingDecl)
    (visible : outlook.visible binding.span.node) (owned : outlook.owns binding.span.node)
    (valueOwned : ∀ node ∈ binding.value.toList.flatMap Expr.sites, outlook.owns node)
    (typeOwned : ∀ node ∈ binding.type.toList.flatMap TypeForm.nodes, outlook.owns node)
    (called : ∀ value ∈ binding.value.toList, Calls outlook value.parts) :
    pairing.Steps (resolveBinding kind binding) fun _ => True :=
  .bind (steps_resolveExpr? _ valueOwned called) fun _ _ =>
    .bind (Pairing.steps_typeOf? _ typeOwned) fun _ holds =>
    steps_declareLocal opens visible owned rfl (within_ofType holds) _

theorem steps_resolveConst (decl : ConstDecl) (visible : outlook.visible decl.span.node)
    (owned : outlook.owns decl.span.node)
    (valueOwned : ∀ node ∈ decl.value.toList.flatMap Expr.sites, outlook.owns node)
    (typeOwned : ∀ node ∈ decl.type.toList.flatMap TypeForm.nodes, outlook.owns node)
    (called : ∀ value ∈ decl.value.toList, Calls outlook value.parts) :
    pairing.Steps (resolveConst decl) fun _ => True := by
  refine .bind (steps_resolveExpr? _ valueOwned called) fun _ _ =>
    .bind (Pairing.steps_typeOf? _ typeOwned) fun _ holds => ?_
  cases decl.name with
  | none => exact .pure trivial
  | some name => exact steps_declareLocal opens visible owned rfl (within_ofType holds) name

omit opens in
theorem steps_localFields (fields : List FieldDecl)
    (owned : ∀ field ∈ fields, ∀ node ∈ field.type.nodes, outlook.owns node) (index : Nat) :
    pairing.Steps (localFields index fields)
      fun found => ∀ field ∈ found, outlook.Holds field.type := by
  induction fields generalizing index with
  | nil => exact .pure (List.forall_mem_nil _)
  | cons field rest inductionHypothesis =>
    obtain ⟨fieldOwned, restOwned⟩ := List.forall_mem_cons.mp owned
    exact .bind (Pairing.steps_typeOf _ fieldOwned) fun _ holds =>
      .bind (inductionHypothesis restOwned _) fun _ restHolds =>
        .pure (List.forall_mem_cons.mpr ⟨holds, restHolds⟩)

theorem steps_resolveStruct (decl : StructDecl) (visible : outlook.visible decl.span.node)
    (owned : outlook.owns decl.span.node)
    (fieldsOwned : ∀ field ∈ decl.fields, ∀ node ∈ field.type.nodes, outlook.owns node) :
    pairing.Steps (resolveStruct decl) fun _ => True := by
  unfold resolveStruct
  cases decl.name with
  | none => exact .pure trivial
  | some name =>
    have within : (SymbolType.ofType (some (.struct name.name decl.span.node))).Within
        outlook.visible := by
      refine within_ofType ?_
      rintro _ ⟨⟩
      exact visible
    refine .bind (steps_declareLocal opens visible owned rfl within name) fun _ _ =>
      .bind (steps_localFields _ fieldsOwned _) fun fields holds => ?_
    exact Pairing.steps_act (.struct decl.span.node ⟨fields, _⟩) (fun _ => rfl) ⟨owned, holds⟩

end Declarations

/-! ### Statements -/

/-- The names in some statements may be looked up. -/
def StmtsCall (outlook : Outlook) (stmts : List Stmt) : Prop :=
  ∀ stmt ∈ stmts, ∀ expr ∈ stmt.ownExprs, Calls outlook expr.parts

@[simp] theorem stmtsCall_cons {stmt : Stmt} {rest : List Stmt} :
    StmtsCall outlook (stmt :: rest) ↔
      (∀ expr ∈ stmt.ownExprs, Calls outlook expr.parts) ∧ StmtsCall outlook rest := by
  simp [StmtsCall]

@[simp] theorem stmtsCall_append {first second : List Stmt} :
    StmtsCall outlook (first ++ second) ↔ StmtsCall outlook first ∧ StmtsCall outlook second :=
  List.forall_mem_append

mutual

theorem steps_resolveStmt (opens : outlook.opens) :
    (stmt : Stmt) -> Binds outlook.visible outlook.owns stmt.parts -> StmtsCall outlook stmt.parts ->
    pairing.Steps (resolveStmt stmt) fun _ => True
  | .block body span, bound, called => by
    simp only [Stmt.parts, binds_cons] at bound
    simp only [Stmt.parts, stmtsCall_cons] at called
    unfold resolveStmt
    exact .bind (steps_beginScope opens) fun _ _ =>
      .bind (steps_resolveStmts opens body bound.2 called.2) fun _ _ => steps_endScope opens span
  | .expr value, bound, called => by
    simp only [Stmt.parts, binds_cons, forall_ownSites] at bound
    simp only [Stmt.parts, stmtsCall_cons] at called
    unfold resolveStmt
    exact steps_resolveExpr value (by simpa [Stmt.ownExprs] using bound.1.2.2.1)
      (called.1 value List.mem_cons_self)
  | .letIn binding, bound, called | .instr binding, bound, called => by
    simp only [Stmt.parts, binds_cons, forall_ownSites] at bound
    simp only [Stmt.parts, stmtsCall_cons] at called
    unfold resolveStmt
    exact steps_resolveBinding opens _ binding (bound.1.1 _ List.mem_cons_self)
      (bound.1.2.1 _ List.mem_cons_self) bound.1.2.2.1 bound.1.2.2.2 called.1
  | .const decl, bound, called => by
    simp only [Stmt.parts, binds_cons, forall_ownSites] at bound
    simp only [Stmt.parts, stmtsCall_cons] at called
    unfold resolveStmt
    exact steps_resolveConst opens decl (bound.1.1 _ List.mem_cons_self)
      (bound.1.2.1 _ List.mem_cons_self) bound.1.2.2.1 bound.1.2.2.2 called.1
  | .struct decl, bound, _ => by
    simp only [Stmt.parts, binds_cons, forall_ownSites] at bound
    unfold resolveStmt
    refine steps_resolveStruct opens decl (bound.1.1 _ List.mem_cons_self)
      (bound.1.2.1 _ List.mem_cons_self) ?_
    intro field isField node isNode
    refine bound.1.2.2.2 node (List.mem_flatMap.mpr ⟨field.type, ?_, isNode⟩)
    exact List.mem_map.mpr ⟨field, isField, rfl⟩
  | .assign target value _, bound, called | .write target value _, bound, called => by
    simp only [Stmt.parts, binds_cons, forall_ownSites, Stmt.ownExprs, List.flatMap_cons,
      List.flatMap_nil, List.append_nil, List.forall_mem_append] at bound
    simp only [Stmt.parts, stmtsCall_cons, Stmt.ownExprs, List.forall_mem_cons] at called
    unfold resolveStmt
    exact .bind (steps_resolveExpr target bound.1.2.2.1.1 called.1.1) fun _ _ =>
      steps_resolveExpr value bound.1.2.2.1.2 called.1.2.1
  | .cond test body bodySpan otherwise _, bound, called => by
    simp only [Stmt.parts, binds_cons, binds_append, forall_ownSites] at bound
    simp only [Stmt.parts, stmtsCall_cons, stmtsCall_append] at called
    unfold resolveStmt
    exact .bind (steps_resolveExpr test (by simpa [Stmt.ownExprs] using bound.1.2.2.1)
        (called.1 test List.mem_cons_self)) fun _ _ =>
      .bind (steps_beginScope opens) fun _ _ =>
      .bind (steps_resolveStmts opens body bound.2.1 called.2.1) fun _ _ =>
      .bind (steps_endScope opens bodySpan) fun _ _ =>
        steps_resolveStmt? opens otherwise bound.2.2 called.2.2
  | .whileLoop test body bodySpan _, bound, called => by
    simp only [Stmt.parts, binds_cons, forall_ownSites] at bound
    simp only [Stmt.parts, stmtsCall_cons] at called
    unfold resolveStmt
    exact .bind (steps_resolveExpr test (by simpa [Stmt.ownExprs] using bound.1.2.2.1)
        (called.1 test List.mem_cons_self)) fun _ _ =>
      .bind (steps_beginScope opens) fun _ _ =>
      .bind (steps_resolveStmts opens body bound.2 called.2) fun _ _ =>
        steps_endScope opens bodySpan
  | .loop body bodySpan _, bound, called => by
    simp only [Stmt.parts, binds_cons] at bound
    simp only [Stmt.parts, stmtsCall_cons] at called
    unfold resolveStmt
    exact .bind (steps_beginScope opens) fun _ _ =>
      .bind (steps_resolveStmts opens body bound.2 called.2) fun _ _ =>
        steps_endScope opens bodySpan
  | .forLoop first test after body bodySpan span, bound, called => by
    simp only [Stmt.parts, binds_cons, binds_append, forall_ownSites] at bound
    simp only [Stmt.parts, stmtsCall_cons, stmtsCall_append] at called
    unfold resolveStmt
    exact .bind (steps_beginScope opens) fun _ _ =>
      .bind (steps_resolveStmt? opens first bound.2.1.1 called.2.1.1) fun _ _ =>
      .bind (steps_resolveExpr? test bound.1.2.2.1 called.1) fun _ _ =>
      .bind (steps_resolveStmt? opens after bound.2.1.2 called.2.1.2) fun _ _ =>
      .bind (steps_beginScope opens) fun _ _ =>
      .bind (steps_resolveStmts opens body bound.2.2 called.2.2) fun _ _ =>
      .bind (steps_endScope opens bodySpan) fun _ _ => steps_endScope opens span
  | .ret value _, bound, called => by
    simp only [Stmt.parts, binds_cons, forall_ownSites] at bound
    simp only [Stmt.parts, stmtsCall_cons] at called
    unfold resolveStmt
    exact steps_resolveExpr? value bound.1.2.2.1 called.1
  | .brk _, _, _ | .cont _, _, _ | .bad _, _, _ => by
    unfold resolveStmt
    exact .pure trivial

theorem steps_resolveStmt? (opens : outlook.opens) :
    (stmt : Option Stmt) -> Binds outlook.visible outlook.owns (Stmt.parts? stmt) ->
    StmtsCall outlook (Stmt.parts? stmt) -> pairing.Steps (resolveStmt? stmt) fun _ => True
  | none, _, _ => by
    unfold resolveStmt?
    exact .pure trivial
  | some stmt, bound, called => by
    unfold resolveStmt?
    exact steps_resolveStmt opens stmt (by simpa [Stmt.parts?] using bound)
      (by simpa [Stmt.parts?] using called)

theorem steps_resolveStmts (opens : outlook.opens) :
    (body : List Stmt) -> Binds outlook.visible outlook.owns (Stmt.partsAll body) ->
    StmtsCall outlook (Stmt.partsAll body) -> pairing.Steps (resolveStmts body) fun _ => True
  | [], _, _ => by
    unfold resolveStmts
    exact .pure trivial
  | stmt :: rest, bound, called => by
    simp only [Stmt.partsAll, binds_append] at bound
    simp only [Stmt.partsAll, stmtsCall_append] at called
    unfold resolveStmts
    exact .bind (steps_resolveStmt opens stmt bound.1 called.1) fun _ _ =>
      steps_resolveStmts opens rest bound.2 called.2

end

/-! ### Items -/

section Items

variable (opens : outlook.opens)

include opens

theorem steps_declareParam {param : Param} (visible : outlook.visible param.span.node)
    (owned : outlook.owns param.span.node) {type : Ty} (holds : outlook.Holds type) :
    pairing.Steps (declareParam param type) fun _ => True := by
  have within : (SymbolType.ofType (some type)).Within outlook.visible := by
    refine within_ofType ?_
    rintro _ ⟨⟩
    exact holds
  refine .bind (steps_bindLocal opens visible owned rfl within) fun outcome _ => ?_
  split
  · exact .pure trivial
  · exact Pairing.steps_report _
  · exact Pairing.steps_report _

theorem steps_resolveParams (params : List Param)
    (visible : ∀ param ∈ params, outlook.visible param.span.node)
    (owned : ∀ param ∈ params, outlook.owns param.span.node)
    (formsOwned : ∀ param ∈ params, ∀ node ∈ param.type.nodes, outlook.owns node)
    (types : List Ty) (hold : ∀ type ∈ types, outlook.Holds type) :
    pairing.Steps (resolveParams types params) fun _ => True := by
  induction params generalizing types with
  | nil => exact .pure trivial
  | cons param rest inductionHypothesis =>
    have later := inductionHypothesis
      (fun other isLater => visible other (List.mem_cons_of_mem _ isLater))
      (fun other isLater => owned other (List.mem_cons_of_mem _ isLater))
      (fun other isLater => formsOwned other (List.mem_cons_of_mem _ isLater)) types.tail
      fun type isType => hold type (List.mem_of_mem_tail isType)
    rw [resolveParams_cons]
    have typed : pairing.Steps (types.head?.elim (Check.typeOf param.type) pure) outlook.Holds := by
      cases types with
      | cons type others => exact .pure (hold type List.mem_cons_self)
      | nil => exact Pairing.steps_typeOf _ (formsOwned param List.mem_cons_self)
    exact .bind typed fun type holds =>
      .bind (steps_declareParam opens (visible param List.mem_cons_self)
        (owned param List.mem_cons_self) holds) fun _ _ => later

theorem steps_resolveFunction {span : Span} {params : List Param} {body : Option Body}
    (inside : outlook.inside span.node) (steady : outlook.steady (.node span.node))
    (visible : ∀ param ∈ params, outlook.visible param.span.node)
    (owned : ∀ param ∈ params, outlook.owns param.span.node)
    (formsOwned : ∀ param ∈ params, ∀ node ∈ param.type.nodes, outlook.owns node)
    (bound : ∀ stmts ∈ body.map Body.stmts,
      Binds outlook.visible outlook.owns (Stmt.partsAll stmts))
    (called : ∀ stmts ∈ body.map Body.stmts, StmtsCall outlook (Stmt.partsAll stmts)) :
    pairing.Steps (resolveFunction span params body) fun _ => True := by
  have walked : pairing.Steps (resolveStmts (body.elim [] Body.stmts)) fun _ => True := by
    cases body with
    | none => exact .pure trivial
    | some body => exact steps_resolveStmts opens body.stmts (bound _ rfl) (called _ rfl)
  have rest (types : List Ty) (hold : ∀ type ∈ types, outlook.Holds type) : pairing.Steps (do
      beginScope
      resolveParams types params
      resolveStmts (body.elim [] Body.stmts)
      endScope span) fun _ => True :=
    .bind (steps_beginScope opens) fun _ _ =>
      .bind (steps_resolveParams opens params visible owned formsOwned types hold) fun _ _ =>
        .bind walked fun _ _ => steps_endScope opens span
  rw [resolveFunction_eq]
  refine .read fun one other alike => ?_
  have same : one.facts.decls.find? span.node = other.facts.decls.find? span.node :=
    congrArg Entry.decl ((pairing.agree alike).entries span.node inside)
  rw [← same]
  cases found : one.facts.decls.find? span.node with
  | none => exact rest [] (List.forall_mem_nil _) one other alike
  | some symbol =>
    obtain ⟨proper, own⟩ := ((pairing.enclosed alike).entries span.node inside).decl symbol found
    simp only [Option.elim_some, ← (pairing.agree alike).known symbol.id (own ▸ steady)]
    exact rest _ ((pairing.enclosed alike).known symbol.id proper.met).params one other alike

/-- Resolving an item that the outlook owns stays in step. -/
theorem steps_resolveItem (item : Item) (own : outlook.Anchors item)
    (visible : ∀ node ∈ item.locals, outlook.visible node)
    (owned : ∀ node ∈ item.inner, outlook.owns node)
    (called : ∀ expr ∈ Stmt.exprs item.stmts ++ item.values, Calls outlook expr.parts) :
    pairing.Steps (resolveItem item) fun _ => True := by
  have visibleParams : ∀ param ∈ item.params, outlook.visible param.span.node := by
    intro param isParam
    exact visible _ (List.mem_append_left _ (List.mem_map_of_mem isParam))
  have ownedParams : ∀ param ∈ item.params, outlook.owns param.span.node := by
    intro param isParam
    have isSite : param.span.node ∈ item.params.map (·.span.node) := List.mem_map_of_mem isParam
    exact owned _ (by simp [Item.inner, isSite])
  have bound := binds_of_item visible owned
  obtain ⟨bodyCalled, valuesCalled⟩ := List.forall_mem_append.mp called
  have stmtsCalled : StmtsCall outlook (Stmt.partsAll item.stmts) := fun stmt isPart expr isOwn =>
    bodyCalled expr (List.mem_flatMap.mpr ⟨stmt, isPart, isOwn⟩)
  cases item with
  | function decl =>
    have self := own decl.span.node List.mem_cons_self
    have body_eq {stmts : List Stmt} (isBody : stmts ∈ decl.body.map Body.stmts) :
        (Item.function decl).stmts = stmts := by
      cases written : decl.body with
      | none => simp [written] at isBody
      | some body =>
        simp only [written, Option.map_some, Option.mem_some_iff] at isBody
        simp only [Item.stmts, Item.body, written, isBody]
    refine steps_resolveFunction opens self.1 self.2 visibleParams ownedParams
      (fun param isParam => within_of_forms owned _ ?_) (fun stmts isBody => ?_)
      fun stmts isBody => ?_
    · exact List.mem_append_left _ (List.mem_map.mpr ⟨param, isParam, rfl⟩)
    · exact body_eq isBody ▸ bound
    · exact body_eq isBody ▸ stmtsCalled
  | asm decl =>
    have self := own decl.span.node List.mem_cons_self
    refine steps_resolveFunction opens self.1 self.2 visibleParams ownedParams
      (fun param isParam => within_of_forms owned _ ?_) (fun _ impossible => ?_)
      fun _ impossible => ?_
    · exact List.mem_append_left _ (List.mem_map.mpr ⟨param, isParam, rfl⟩)
    · cases impossible
    · cases impossible
  | entry decl =>
    refine steps_resolveStmt opens _ (binds_cons.mpr ⟨⟨?_, ?_⟩, bound⟩)
      (stmtsCall_cons.mpr ⟨List.forall_mem_nil _, stmtsCalled⟩)
    · simp [Stmt.ownDecls, Stmt.ownValues]
    · simp [Stmt.ownSites, Stmt.ownDecls, Stmt.ownValues, Stmt.ownExprs, Stmt.allForms,
        Stmt.ownForms]
  | const decl =>
    exact steps_resolveExpr? _
      (within_of_value? owned fun _ isExpr => Option.mem_toList.mpr isExpr) valuesCalled
  | static decl =>
    exact steps_resolveExpr? _
      (within_of_value? owned fun _ isExpr => Option.mem_toList.mpr isExpr) valuesCalled
  | enum decl =>
    refine .forM _ fun variant isVariant => ?_
    have isValue : ∀ expr ∈ variant.value, expr ∈ (Item.enum decl).values :=
      fun expr isExpr => List.mem_filterMap.mpr ⟨variant, isVariant, isExpr⟩
    exact steps_resolveExpr? _ (within_of_value? owned isValue) fun expr isExpr =>
      valuesCalled expr (isValue expr (Option.mem_toList.mp isExpr))
  | struct _ => exact .pure trivial
  | typeAlias _ => exact .pure trivial
  | stray stmt =>
    refine steps_resolveStmt opens stmt ?_ ?_
    · simpa [Item.stmts, Stmt.partsAll] using bound
    · simpa [Item.stmts, Stmt.partsAll] using stmtsCalled

end Items

/-- Whether a block is left open is seen in step. -/
theorem steps_closing : pairing.Steps (do
    let depth := (<- get).table.depth
    if depth ≠ 0 then Check.report (.scopesLeftOpen depth)) fun _ => True := by
  refine .read fun first second alike => ?_
  unfold Table.depth
  rw [← (pairing.agree alike).frames]
  simp only
  split
  · exact Pairing.steps_report _ first second alike
  · exact Pairing.InStep.pure trivial first second alike

end UnitCheck.Resolve

namespace UnitCheck.Resolve

variable {declared : NodeId -> Prop} {items : List Item} {base : Session} {item : Item}

/-- Outside of all blocks an item leaves the table as it is. -/
theorem table_resolveItem {session : Session} (locals : session.table.locals = [])
    (frames : session.table.frames = []) (item : Item) :
    (session.after (resolveItem item)).table = session.table := by
  have table : session.table = Lexical.Scope.table ⟨session.table.globals, []⟩ := by
    cases shown : session.table
    simp_all [Lexical.Scope.table, Lexical.starts]
  have hidden : ∀ node ∈ Lexical.signatureNodes [item], True := fun _ _ => trivial
  have met := Lexical.meets_resolveItem session.table.globals item hidden session table
  exact met.table.trans table.symm

/-- Resolving an item keeps within the item. -/
theorem inStep_item (spread : Spread declared items) (isItem : item ∈ items)
    (pairing : Pairing (item.outlook declared)) :
    pairing.Steps (resolveItem item) fun _ => True := by
  refine steps_resolveItem trivial item (fun node isOwn => ?_) (fun node => .inr) (fun node => id)
    fun _ _ _ _ _ _ => ⟨trivial, fun _ => trivial⟩
  have isDeclared := spread.own item isItem node isOwn
  refine ⟨.inl isDeclared, ?_⟩
  rintro _ ⟨⟩
  exact .inl isDeclared

/-- From a housed session the second pass does at every item what it does there alone. -/
theorem visited_round (spread : Spread declared items) (housed : Housed declared items base) :
    Visited base resolveItem Item.inner items (base.after (items.forM resolveItem)) ∧
      base.findsEach resolveItem items = items.map fun item => base.finds (resolveItem item) :=
  visited_items spread housed
    (fun item isItem session _ => inStep_item spread isItem
      (.tracked (item.outlook declared) session base))
    fun item _ session table => table_resolveItem (by rw [table, housed.locals])
      (by rw [table, housed.frames]) item

/-- Behind the items no block is left open to be reported. -/
theorem visited_walk (spread : Spread declared items) (housed : Housed declared items base)
    (isUnit : base.items = items) : Visited base resolveItem Item.inner items (base.after walk) := by
  have visited := (visited_round spread housed).1
  have depth : (base.after (items.forM resolveItem)).table.depth = 0 := by
    rw [visited.table, Table.depth, housed.frames]
    rfl
  have outcome : base.after walk = (base.after (base.items.forM resolveItem)).after (do
      let depth := (<- get).table.depth
      if depth ≠ 0 then Check.report (.scopesLeftOpen depth)) := rfl
  rw [outcome, isUnit]
  generalize base.after (items.forM resolveItem) = session at depth visited
  have checked : session.after (do
      let depth := (<- get).table.depth
      if depth ≠ 0 then Check.report (.scopesLeftOpen depth)) =
      session.after (if session.table.depth ≠ 0 then
        Check.report (.scopesLeftOpen session.table.depth) else pure ()) := rfl
  rw [checked, if_neg (not_not_intro depth)]
  exact visited

/-- The second pass leaves a housed session behind. -/
theorem housed_walk (spread : Spread declared items) (housed : Housed declared items base)
    (isUnit : base.items = items) : Housed declared items (base.after walk) :=
  (visited_walk spread housed isUnit).housed spread housed fun _ isItem =>
    inStep_item spread isItem _

/-- From sessions that look alike from some items, the second pass finds the same there and
leaves sessions behind that look alike from there. -/
theorem lookAlike_walk {shared others : List Item} {other : Session}
    (alike : LookAlike declared shared base other) (spread : Spread declared items)
    (spreadOther : Spread declared others) (housed : Housed declared items base)
    (housedOther : Housed declared others other) (isUnit : base.items = items)
    (isUnitOther : other.items = others) (inItems : shared ⊆ items) (inOthers : shared ⊆ others) :
    LookAlike declared shared (base.after walk) (other.after walk) ∧
      ∀ item ∈ shared, base.finds (resolveItem item) = other.finds (resolveItem item) :=
  alike.visits (visited_walk spread housed isUnit)
    (visited_walk spreadOther housedOther isUnitOther) spread spreadOther housed inItems inOthers
    fun _ isShared => inStep_item spread (inItems isShared) _

end UnitCheck.Resolve
