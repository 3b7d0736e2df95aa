import UnitCheck.Proofs.Session.Quiet
import UnitCheck.Proofs.Session.Passes

/-!
# Every written type gets its meaning

The second pass asks for the meaning of every written type in the bodies and the
values of a unit, so that typing finds it recorded.
-/

namespace UnitCheck

/-- The written types have their meanings. -/
def Written (forms : List TypeForm) (session : Session) : Prop :=
  ∀ form ∈ forms, (session.facts.forms.find? form.node).isSome

@[simp] theorem written_nil {session : Session} : Written [] session := List.forall_mem_nil _

@[simp] theorem written_cons {form : TypeForm} {rest : List TypeForm} {session : Session} :
    Written (form :: rest) session ↔
      (session.facts.forms.find? form.node).isSome ∧ Written rest session :=
  List.forall_mem_cons

@[simp] theorem written_append {first second : List TypeForm} {session : Session} :
    Written (first ++ second) session ↔ Written first session ∧ Written second session :=
  List.forall_mem_append

/-- A meaning may be replaced but is never lost. -/
theorem lasting_written (forms : List TypeForm) : Lasting (Written forms) := by
  refine lasting_forall fun form act session holds => ?_
  cases act with
  | written node type =>
    change (List.lookup form.node ((node, type) :: session.facts.forms)).isSome
    rw [List.lookup_cons]
    split
    · rfl
    · exact holds
  | _ => exact holds

theorem Written.of_facts {forms : List TypeForm} {before after : Session}
    (written : Written forms before) (same : after.facts = before.facts) : Written forms after := by
  unfold Written
  rw [same]
  exact written

namespace Check

/-- What is recorded for a written type at its own node is its meaning. -/
theorem ensures_recordForm {form : TypeForm} {node : NodeId} {type : Ty} (same : form.node = node)
    {pre : Session -> Prop} :
    Ensures pre (recordForm node type) fun session _ => Written [form] session := by
  refine ⟨obeys_recordForm trivial, fun session _ _ => ?_⟩
  rw [written_cons]
  refine ⟨?_, written_nil⟩
  change (List.lookup form.node ((node, type) :: session.facts.forms)).isSome
  rw [same, List.lookup_cons_self]
  rfl

/-- Resolving a written type ends with recording its meaning. -/
theorem ensures_resolveForm (form : TypeForm) :
    Ensures (fun _ => True) (resolveForm form) fun session _ => Written [form] session := by
  have free := (mayResolve_free fun _ => True).mayRead
  have recorded {type : Ty} {missing : List Ident} {node : NodeId} (same : form.node = node) :
      Ensures (fun _ => True) (do
        recordForm node type
        return (type, missing)) fun session _ => Written [form] session :=
    (ensures_recordForm same).bind fun _ => .stay fun _ holds => holds
  cases form with
  | named name span =>
    unfold resolveForm
    exact (Ensures.ofObeys (obeys_namedType free name trivial)).bind fun _ => recorded rfl
  | opaquePointer span | address span =>
    unfold resolveForm
    exact recorded rfl
  | pointer inner span | array inner span | fixedArray inner length span | const inner span
  | mutable inner span =>
    unfold resolveForm
    exact (Ensures.ofObeys (obeys_resolveForm free inner fun _ _ => trivial)).bind fun _ => recorded rfl
  | function params result variadic span =>
    unfold resolveForm
    exact (Ensures.ofObeys (obeys_resolveForms free params fun _ _ => trivial)).bind fun _ =>
      (Ensures.ofObeys (obeys_resolveForm free result fun _ _ => trivial)).bind fun _ => recorded rfl

theorem ensures_typeOf (form : TypeForm) :
    Ensures (fun _ => True) (typeOf form) fun session _ => Written [form] session := by
  unfold typeOf
  refine ((ensures_resolveForm form).andThen (lasting_written _) fun _ =>
    (Ensures.ofObeys (.bind (.forM _ fun _ _ => obeys_report trivial) fun _ => .pure _))).mono
    (fun _ holds => holds) fun _ _ holds => holds.1

theorem ensures_typeOf? (form : Option TypeForm) :
    Ensures (fun _ => True) (typeOf? form) fun session _ => Written form.toList session := by
  cases form with
  | none => exact .stay fun _ _ => written_nil
  | some form => exact (ensures_typeOf form).bind fun _ => .stay fun _ holds => holds

end Check

namespace Resolve

theorem ensures_resolveType (form : TypeForm) :
    Ensures (fun _ => True) (resolveType form) fun session _ => Written [form] session :=
  (Check.ensures_typeOf form).bind fun _ => .stay fun _ holds => holds

/-- What is left behind another walk. -/
theorem ensures_behind {α β : Type} {walk : Check α} {next : α -> Check β}
    {forms others : List TypeForm}
    (first : Ensures (fun _ => True) walk fun session _ => Written forms session)
    (second : ∀ value, Ensures (fun _ => True) (next value) fun session _ =>
      Written others session) :
    Ensures (fun _ => True) (walk >>= next) fun session _ => Written (forms ++ others) session :=
  (first.andThen (lasting_written forms) second).mono (fun _ holds => holds)
    fun _ _ holds => written_append.mpr holds

/-- A walk that has no written types to ask for. -/
theorem ensures_nothing {α : Type} {walk : Check α} (grows : Regime.free.Obeys walk) :
    Ensures (fun _ => True) walk fun session _ => Written [] session :=
  (Ensures.ofObeys grows).mono (fun _ holds => holds) fun _ _ _ => written_nil

/-- The order in which written types are asked for does not matter. -/
theorem ensures_reordered {α : Type} {walk : Check α} {forms others : List TypeForm}
    (ensures : Ensures (fun _ => True) walk fun session _ => Written forms session)
    (fewer : others ⊆ forms) :
    Ensures (fun _ => True) walk fun session _ => Written others session :=
  ensures.mono (fun _ holds => holds) fun _ _ holds form isForm => holds form (fewer isForm)

section Exprs

attribute [local simp] Expr.forms Expr.parts Expr.partsAll Expr.ownForms

mutual

/-- Resolving an expression asks for the written types in it. -/
theorem ensures_resolveExpr : (expr : Expr) ->
    Ensures (fun _ => True) (resolveExpr expr) fun session _ => Written expr.forms session
  | .literal _ | .bad _ => by
    unfold resolveExpr
    exact ensures_nothing (.pure _)
  | .name name => by
    unfold resolveExpr
    exact ensures_nothing (obeys_resolveValue mayBind_free trivial)
  | .binary _ left right _ => by
    unfold resolveExpr
    refine ensures_reordered (ensures_behind (ensures_resolveExpr left) fun _ =>
      ensures_resolveExpr right) ?_
    simp
  | .unary _ operand _ => by
    unfold resolveExpr
    exact ensures_reordered (ensures_resolveExpr operand) (by simp)
  | .call callee args _ => by
    unfold resolveExpr
    refine ensures_reordered (ensures_behind
      (ensures_nothing (obeys_resolveCallee mayBind_free trivial)) fun _ =>
      ensures_resolveExprs args) ?_
    simp
  | .callValue function args _ => by
    unfold resolveExpr
    refine ensures_reordered (ensures_behind (ensures_resolveExpr function) fun _ =>
      ensures_resolveExprs args) ?_
    simp
  | .field base path span => by
    unfold resolveExpr
    split
    · rename_i name
      refine ensures_reordered (ensures_nothing ?_) (by simp)
      have obeys := obeys_resolveExpr mayBind_free (.field (.name name) path span)
        fun _ _ => trivial
      unfold resolveExpr at obeys
      exact obeys
    · exact ensures_reordered (ensures_resolveExpr base) (by simp)
  | .index base position _ => by
    unfold resolveExpr
    refine ensures_reordered (ensures_behind (ensures_resolveExpr base) fun _ =>
      ensures_resolveExpr position) ?_
    simp
  | .cast type operand _ => by
    unfold resolveExpr
    refine ensures_reordered (ensures_behind (ensures_resolveExpr operand) fun _ =>
      ensures_resolveType type) ?_
    simp
  | .array element items _ => by
    unfold resolveExpr
    cases element with
    | some type =>
      refine ensures_reordered (ensures_behind (ensures_resolveType type) fun _ =>
        ensures_resolveExprs items) ?_
      simp
    | none => exact ensures_reordered (ensures_resolveExprs items) (by simp)
  | .addressOf operand _ => by
    unfold resolveExpr
    exact ensures_reordered (ensures_resolveExpr operand) (by simp)
  | .load type operand _ => by
    unfold resolveExpr
    refine ensures_reordered (ensures_behind (ensures_resolveType type) fun _ =>
      ensures_resolveExpr operand) ?_
    simp
  | .alloc type _ => by
    unfold resolveExpr
    exact ensures_reordered (ensures_resolveType type) (by simp)

theorem ensures_resolveExprs : (exprs : List Expr) ->
    Ensures (fun _ => True) (resolveExprs exprs)
      fun session _ => Written ((Expr.partsAll exprs).flatMap Expr.ownForms) session
  | [] => by
    unfold resolveExprs
    exact ensures_nothing (.pure _)
  | expr :: rest => by
    unfold resolveExprs
    refine ensures_reordered (ensures_behind (ensures_resolveExpr expr) fun _ =>
      ensures_resolveExprs rest) ?_
    simp

end

end Exprs

theorem ensures_resolveExpr? : (expr : Option Expr) ->
    Ensures (fun _ => True) (resolveExpr? expr)
      fun session _ => Written (expr.toList.flatMap Expr.forms) session
  | none => ensures_nothing (.pure _)
  | some expr => ensures_reordered (ensures_resolveExpr expr) (by simp)

theorem ensures_resolveBinding (kind : SymbolKind) (binding : BindingDecl) :
    Ensures (fun _ => True) (resolveBinding kind binding) fun session _ =>
      Written (binding.value.toList.flatMap Expr.forms ++ binding.type.toList) session := by
  refine ensures_reordered (ensures_behind (ensures_resolveExpr? binding.value) fun _ =>
    ensures_behind (Check.ensures_typeOf? binding.type) fun type => ensures_nothing ?_) ?_
  · exact obeys_declareLocal mayBind_free trivial rfl _ _
  · simp

theorem ensures_resolveConst (decl : ConstDecl) :
    Ensures (fun _ => True) (resolveConst decl) fun session _ =>
      Written (decl.value.toList.flatMap Expr.forms ++ decl.type.toList) session := by
  refine ensures_reordered (ensures_behind (ensures_resolveExpr? decl.value) fun _ =>
    ensures_behind (Check.ensures_typeOf? decl.type) fun type => ensures_nothing ?_) ?_
  · split
    · exact .pure _
    · exact obeys_declareLocal mayBind_free trivial rfl _ _
  · simp

/-- The written types that a statement by itself asks for when it is typed. -/
def written (stmt : Stmt) : List TypeForm :=
  stmt.ownForms ++ stmt.ownExprs.flatMap Expr.forms

section Stmts

attribute [local simp] Stmt.parts Stmt.parts? Stmt.partsAll Stmt.ownForms Stmt.ownExprs written

theorem opens : Ensures (fun _ => True) beginScope fun session _ => Written [] session :=
  ensures_nothing (obeys_beginScope mayBind_free)

theorem closes (span : Span) :
    Ensures (fun _ => True) (endScope span) fun session _ => Written [] session :=
  ensures_nothing (obeys_endScope mayBind_free span)

theorem ensures_scoped {body : Check Unit} {forms : List TypeForm} (span : Span)
    (ensures : Ensures (fun _ => True) body fun session _ => Written forms session) :
    Ensures (fun _ => True) (do
      beginScope
      body
      endScope span) fun session _ => Written forms session :=
  ensures_reordered (ensures_behind opens fun _ => ensures_behind ensures fun _ => closes span)
    (by simp)

mutual

/-- Resolving a statement asks for the written types in it. -/
theorem ensures_resolveStmt : (stmt : Stmt) ->
    Ensures (fun _ => True) (resolveStmt stmt)
      fun session _ => Written (stmt.parts.flatMap written) session
  | .block body span => by
    unfold resolveStmt
    exact ensures_reordered (ensures_scoped span (ensures_resolveStmts body)) (by simp)
  | .expr value => by
    unfold resolveStmt
    exact ensures_reordered (ensures_resolveExpr value) (by simp)
  | .letIn binding | .instr binding => by
    unfold resolveStmt
    exact ensures_reordered (ensures_resolveBinding _ binding) (by simp)
  | .const decl => by
    unfold resolveStmt
    exact ensures_reordered (ensures_resolveConst decl) (by simp)
  | .struct decl => by
    have grows := obeys_resolveStmt mayBind_free (.struct decl)
      fun _ _ => ⟨fun _ _ => trivial, fun _ _ => trivial⟩
    exact ensures_reordered (ensures_nothing grows) (by simp)
  | .assign target value _ | .write target value _ => by
    unfold resolveStmt
    exact ensures_reordered (ensures_behind (ensures_resolveExpr target) fun _ =>
      ensures_resolveExpr value) (by simp)
  | .cond test body bodySpan otherwise _ => by
    unfold resolveStmt
    exact ensures_reordered (ensures_behind (ensures_resolveExpr test) fun _ =>
      ensures_behind opens fun _ => ensures_behind (ensures_resolveStmts body) fun _ =>
      ensures_behind (closes bodySpan) fun _ => ensures_resolveStmt? otherwise) (by simp)
  | .whileLoop test body bodySpan _ => by
    unfold resolveStmt
    exact ensures_reordered (ensures_behind (ensures_resolveExpr test) fun _ =>
      ensures_scoped bodySpan (ensures_resolveStmts body)) (by simp)
  | .loop body bodySpan _ => by
    unfold resolveStmt
    exact ensures_reordered (ensures_scoped bodySpan (ensures_resolveStmts body)) (by simp)
  | .forLoop first test after body bodySpan span => by
    unfold resolveStmt
    refine ensures_reordered (ensures_behind opens fun _ =>
      ensures_behind (ensures_resolveStmt? first) fun _ =>
      ensures_behind (ensures_resolveExpr? test) fun _ =>
      ensures_behind (ensures_resolveStmt? after) fun _ =>
      ensures_behind opens fun _ => ensures_behind (ensures_resolveStmts body) fun _ =>
      ensures_behind (closes bodySpan) fun _ => closes span) ?_
    intro form
    simp only [Stmt.parts, List.flatMap_cons, List.flatMap_append, List.mem_append, written,
      Stmt.ownForms, Stmt.ownExprs]
    grind
  | .ret value _ => by
    unfold resolveStmt
    exact ensures_reordered (ensures_resolveExpr? value) (by simp)
  | .brk _ | .cont _ | .bad _ => by
    unfold resolveStmt
    exact ensures_nothing (.pure _)

theorem ensures_resolveStmt? : (stmt : Option Stmt) ->
    Ensures (fun _ => True) (resolveStmt? stmt)
      fun session _ => Written ((Stmt.parts? stmt).flatMap written) session
  | none => by
    unfold resolveStmt?
    exact ensures_nothing (.pure _)
  | some stmt => by
    unfold resolveStmt?
    exact ensures_reordered (ensures_resolveStmt stmt) (by simp)

theorem ensures_resolveStmts : (body : List Stmt) ->
    Ensures (fun _ => True) (resolveStmts body)
      fun session _ => Written ((Stmt.partsAll body).flatMap written) session
  | [] => by
    unfold resolveStmts
    exact ensures_nothing (.pure _)
  | stmt :: rest => by
    unfold resolveStmts
    exact ensures_reordered (ensures_behind (ensures_resolveStmt stmt) fun _ =>
      ensures_resolveStmts rest) (by simp)

end

end Stmts

/-- The written types that typing an item asks for, apart from those of its signature. -/
def itemWritten (item : Item) : List TypeForm :=
  (Stmt.partsAll item.body).flatMap written ++ item.values.flatMap Expr.forms

theorem ensures_resolveParams (types : List Ty) (params : List Param) :
    Ensures (fun _ => True) (resolveParams types params) fun session _ => Written [] session :=
  ensures_nothing (obeys_resolveParams mayBind_free params (fun _ _ => trivial)
    (fun _ _ _ _ => trivial) types)

/-- Resolving a function asks for the written types in its body. -/
theorem ensures_resolveFunction (span : Span) (params : List Param) (body : Option Body) :
    Ensures (fun _ => True) (resolveFunction span params body) fun session _ =>
      Written ((Stmt.partsAll (body.elim [] Body.stmts)).flatMap written) session := by
  refine .read fun session => Ensures.mono ?_ (fun _ _ => trivial) fun _ _ holds => holds
  refine ensures_behind opens fun _ => ensures_behind (ensures_resolveParams _ params) fun _ => ?_
  cases body with
  | none => exact closes span
  | some body =>
    exact ensures_reordered (ensures_behind (ensures_resolveStmts body.stmts) fun _ => closes span)
      (by simp [List.flatMap_def])

theorem ensures_resolveItem (item : Item) :
    Ensures (fun _ => True) (resolveItem item) fun session _ => Written (itemWritten item) session := by
  cases item with
  | function decl =>
    refine ensures_reordered (ensures_resolveFunction decl.span decl.params decl.body) ?_
    cases written : decl.body <;> simp [itemWritten, Item.body, Item.values, written]
  | asm decl => exact ensures_resolveFunction decl.span decl.params none
  | entry decl =>
    refine ensures_reordered (ensures_resolveStmt (.block decl.body.stmts decl.body.span)) ?_
    simp [itemWritten, Item.body, Item.values, Stmt.parts]
  | const decl => exact ensures_resolveExpr? decl.value
  | static decl => exact ensures_resolveExpr? decl.value
  | enum decl =>
    refine (Ensures.forM decl.variants (fun _ => lasting_written _)
      fun variant _ => ensures_resolveExpr? variant.value).mono (fun _ holds => holds) ?_
    intro session _ holds form isForm
    obtain ⟨value, isValue, inside⟩ := List.mem_flatMap.mp isForm
    obtain ⟨variant, isVariant, same⟩ := List.mem_filterMap.mp isValue
    exact holds variant isVariant form (List.mem_flatMap.mpr ⟨value, by simp [same], inside⟩)
  | struct _ => exact ensures_nothing (.pure _)
  | typeAlias _ => exact ensures_nothing (.pure _)
  | stray stmt =>
    exact ensures_reordered (ensures_resolveStmt stmt) (List.nil_subset _)

/-- The second pass asks for every written type in bodies and values. -/
theorem written_walk {session : Session} (quiet : (session.after walk).Quiet) :
    ∀ item ∈ session.items, Written (itemWritten item) (session.after walk) := by
  have ensures : Ensures (fun _ => True) (do
      session.items.forM resolveItem
      let depth := (<- get).table.depth
      if depth ≠ 0 then Check.report (.scopesLeftOpen depth) : Check Unit)
      fun after _ => (∀ item ∈ session.items, Written (itemWritten item) after) ∧ True := by
    refine (Ensures.forM session.items (fun _ => lasting_written _)
      fun item _ => ensures_resolveItem item).andThen
      (lasting_forall fun _ => lasting_written _) fun _ => .ofObeys (.read fun after => ?_)
    simp only
    split
    · exact Check.obeys_report trivial
    · exact .pure _
  exact (ensures.ensures session trivial quiet).1

end Resolve
end UnitCheck
