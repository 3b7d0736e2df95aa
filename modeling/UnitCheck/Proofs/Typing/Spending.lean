import UnitCheck.Proofs.Typing.Budget
import UnitCheck.Proofs.Typing.Units

/-!
# What typing statements and items costs

A statement is paid for by its slots and an enumeration by the nodes of its values. What
finding the type of a global costs is kept apart from settling it, since what a budget
keeps may only hold again when the global has been settled and marked.
-/

namespace UnitCheck.Typing

/-- The type that a binding gets. -/
def bindingType (demand : Demand) (name : Option Ident) (form : Option TypeForm)
    (value : Option Expr) : Check Ty := do
  let declared <- declaredType name form
  valueType demand name declared value

/-- Sets the type of what a node declares and hands it on. -/
def settled (node : NodeId) (type : Ty) : Check Ty := do
  setDeclType node type
  return type

/-- A binding is settled with the type it gets. -/
theorem checkBinding_eq (demand : Demand) (node : NodeId) (name : Option Ident)
    (form : Option TypeForm) (value : Option Expr) :
    checkBinding demand node name form value =
      bindingType demand name form value >>= settled node := by
  simp only [checkBinding, bindingType, bind_assoc]
  rfl

namespace Global

/-- The type that a global gets. -/
def given (demand : Demand) : Global -> Check Ty
  | .const decl =>
    match decl.value with
    | some _ => bindingType demand decl.name decl.type decl.value
    | none => do
      Check.report (.missingInitializer decl.span .constant)
      match decl.type with
      | some form => Check.recordedType form
      | none => pure .unknown
  | .static decl =>
    if decl.type.isNone && decl.value.isNone then do
      Check.report (.missingInitializer decl.span .static)
      return .unknown
    else bindingType demand decl.name decl.type decl.value

/-- A global is settled with the type it gets. -/
theorem check_eq (demand : Demand) (global : Global) :
    global.check demand = global.given demand >>= settled global.node := by
  cases global with
  | const decl =>
    simp only [check, given, checkConst]
    cases isValue : decl.value with
    | some value =>
      simp only [checkBinding_eq]
      rfl
    | none =>
      cases decl.type <;>
        rfl
  | static decl =>
    simp only [check, given, checkStatic, checkBinding_eq]
    split <;> rfl

end Global

variable {budget : Budget} {grounds : Grounds} {demand : Demand}

section Bindings

variable (allows : Allows budget grounds demand)

include allows

theorem keeps_declaredType (name : Option Ident) {form : Option TypeForm}
    (forms : ∀ written ∈ form, grounds.form written) :
    budget.Keeps [] (declaredType name form) := by
  cases form with
  | none => exact .pure _
  | some form =>
    refine .behind (allows.form form (forms form rfl)) fun type => ?_
    split
    · exact .behind (allows.report _ rfl) fun _ => .pure _
    · exact .pure _

/-- The type of a binding is paid for by the nodes of its value. -/
theorem keeps_bindingType (name : Option Ident) {form : Option TypeForm} {value : Option Expr}
    (taken : grounds.TakesBinding form value) :
    budget.Keeps (value.toList.flatMap Expr.nodes) (bindingType demand name form value) := by
  refine .behind (keeps_declaredType allows name taken.forms) fun declared => ?_
  cases value with
  | none => exact .pure _
  | some value =>
    rw [Option.toList_some, List.flatMap_singleton]
    refine .ahead (keeps_checkExpr allows value (taken.exprs value rfl) declared) fun found => ?_
    split
    · exact .behind (keeps_tell allows spared_mismatch) fun _ => .pure _
    · split
      · exact .behind (allows.report _ rfl) fun _ => .pure _
      · exact .pure _

/-- The type of a global is paid for by the nodes of its initializer. -/
theorem keeps_given {global : Global}
    (taken : grounds.TakesBinding global.form global.value) :
    budget.Keeps (Stage.globalNodes global) (global.given demand) := by
  have nothing {slots : List NodeId} {walk : Check Ty} (keeps : budget.Keeps [] walk) :
      budget.Keeps slots walk := keeps.mono fun _ => Nat.zero_le _
  cases global with
  | const decl =>
    have keeps : budget.Keeps (Stage.globalNodes (.const decl))
        (bindingType demand decl.name decl.type decl.value) :=
      keeps_bindingType allows decl.name taken
    simp only [Global.given]
    cases isValue : decl.value with
    | some value =>
      rw [isValue] at keeps
      exact keeps
    | none =>
      refine nothing (.behind (allows.report _ rfl) fun _ => ?_)
      cases isForm : decl.type with
      | some form => exact allows.form form (taken.forms form isForm)
      | none => exact .pure _
  | static decl =>
    simp only [Global.given]
    split
    · exact nothing (.behind (allows.report _ rfl) fun _ => .pure _)
    · exact keeps_bindingType allows decl.name taken

theorem keeps_settled {node : NodeId} (isValue : grounds.value node) (type : Ty) :
    budget.Keeps [] (settled node type) :=
  .behind (allows.settle node type isValue) fun _ => .pure _

theorem keeps_checkBinding {node : NodeId} (isValue : grounds.value node) (name : Option Ident)
    {form : Option TypeForm} {value : Option Expr} (taken : grounds.TakesBinding form value) :
    budget.Keeps (value.toList.flatMap Expr.nodes) (checkBinding demand node name form value) := by
  rw [checkBinding_eq]
  exact .ahead (keeps_bindingType allows name taken) fun _ => keeps_settled allows isValue _

theorem keeps_checkLocal (binding : BindingDecl) (isValue : grounds.value binding.span.node)
    (taken : grounds.TakesBinding binding.type binding.value) :
    budget.Keeps (binding.value.toList.flatMap Expr.nodes) (checkLocal demand binding) := by
  unfold checkLocal
  split
  · exact Budget.Keeps.mono (Budget.Keeps.behind (allows.report _ rfl) fun _ =>
      allows.settle _ _ isValue) fun _ => Nat.zero_le _
  · exact .ahead (keeps_checkBinding allows isValue _ taken) fun _ => .pure _

theorem keeps_checkConst (decl : ConstDecl) (isValue : grounds.value decl.span.node)
    (taken : grounds.TakesBinding decl.type decl.value) :
    budget.Keeps (decl.value.toList.flatMap Expr.nodes) (checkConst demand decl) := by
  change budget.Keeps _ ((Global.const decl).check demand)
  rw [Global.check_eq]
  exact .ahead (keeps_given allows taken) fun _ => keeps_settled allows isValue _

/-! ### Statements -/

theorem keeps_checkCondition {test : Expr} (taken : grounds.Takes test.visits) :
    budget.Keeps test.nodes (checkCondition demand test) := by
  refine .ahead (keeps_checkExpr allows test taken _) fun type => ?_
  split
  · exact allows.report _ rfl
  · exact .pure _

theorem keeps_checkReturn (result : Ty) {value : Option Expr} (span : Span)
    (taken : ∀ expr ∈ value, grounds.Takes expr.visits) :
    budget.Keeps (value.toList.flatMap Expr.nodes) (checkReturn demand result value span) := by
  unfold checkReturn
  cases value with
  | none =>
    simp only
    split
    · exact allows.report _ rfl
    · exact .pure _
  | some value =>
    have keepsValue := keeps_checkExpr allows value (taken value rfl)
    rw [Option.toList_some, List.flatMap_singleton]
    simp only
    split
    · exact .ahead (keepsValue _) fun _ => allows.report _ rfl
    · refine .ahead (keepsValue _) fun found => ?_
      split
      · exact allows.report _ rfl
      · exact .pure _

theorem keeps_checkAssign {target value : Expr} (takenTarget : grounds.Takes target.visits)
    (takenValue : grounds.Takes value.visits) :
    budget.Keeps (target.nodes ++ value.nodes) (checkAssign demand target value) := by
  refine (keeps_checkExpr allows target takenTarget _).bind fun _ =>
    .ahead (keeps_checkExpr allows value takenValue _) fun _ => .read fun session _ => ?_
  split
  · rename_i problem isProblem
    exact allows.report problem (spared_assignProblem problem isProblem)
  · exact keeps_tell allows spared_mismatch

theorem keeps_checkWrite {target value : Expr} (takenTarget : grounds.Takes target.visits)
    (takenValue : grounds.Takes value.visits) :
    budget.Keeps (target.nodes ++ value.nodes) (checkWrite demand target value) := by
  refine (keeps_checkExpr allows target takenTarget _).bind fun type => ?_
  have keepsValue := keeps_checkExpr allows value takenValue
  split
  · exact .ahead (keepsValue _) fun _ => keeps_tell allows spared_mismatch
  · refine .ahead (keepsValue _) fun _ => ?_
    split
    · exact allows.report _ rfl
    · exact .pure _

/-- A statement without statements inside it is paid for by its expressions. -/
theorem keeps_leafStmt (result : Ty) {stmt : Stmt} (leaf : stmt.isLeaf = true)
    (taken : grounds.TakesStmt stmt) :
    budget.Keeps stmt.slots (checkStmt demand result stmt) := by
  suffices keeps : budget.Keeps (stmt.ownExprs.flatMap Expr.nodes) (checkStmt demand result stmt) by
    refine keeps.mono fun node => ?_
    rw [Stmt.slots, Stmt.parts_of_isLeaf leaf, List.flatMap_singleton, Stmt.ownSlots,
      List.count_append]
    omega
  have exprs := taken.exprs
  cases stmt with
  | expr value =>
    unfold checkStmt
    rw [Stmt.ownExprs, List.flatMap_singleton]
    exact .ahead (keeps_checkExpr allows value (exprs value List.mem_cons_self) none)
      fun _ => .pure _
  | letIn binding =>
    unfold checkStmt
    exact keeps_checkLocal allows binding (taken.values _ List.mem_cons_self)
      (taken.binding rfl rfl)
  | instr binding =>
    unfold checkStmt
    exact .ahead (keeps_checkBinding allows (taken.values _ List.mem_cons_self) _
      (taken.binding rfl rfl)) fun _ => .pure _
  | const decl =>
    unfold checkStmt
    exact .ahead (keeps_checkConst allows decl (taken.values _ List.mem_cons_self)
      (taken.binding rfl rfl)) fun _ => .pure _
  | assign target value span =>
    unfold checkStmt
    refine (keeps_checkAssign allows (exprs target List.mem_cons_self)
      (exprs value (List.mem_cons_of_mem _ List.mem_cons_self))).mono fun node => ?_
    simp [Stmt.ownExprs]
  | write target value span =>
    unfold checkStmt
    refine (keeps_checkWrite allows (exprs target List.mem_cons_self)
      (exprs value (List.mem_cons_of_mem _ List.mem_cons_self))).mono fun node => ?_
    simp [Stmt.ownExprs]
  | ret value span =>
    unfold checkStmt
    exact keeps_checkReturn allows result span fun expr isExpr =>
      exprs expr (Option.mem_toList.mpr isExpr)
  | struct _ | brk _ | cont _ | bad _ =>
    unfold checkStmt
    exact .pure _
  | block _ _ | cond _ _ _ _ _ | whileLoop _ _ _ _ | loop _ _ _ | forLoop _ _ _ _ _ _ => cases leaf

end Bindings

mutual

/-- Typing a statement is paid for by its slots. -/
theorem keeps_checkStmt (allows : Allows budget grounds demand) (result : Ty) :
    (stmt : Stmt) -> (∀ part ∈ stmt.parts, grounds.TakesStmt part) ->
    budget.Keeps stmt.slots (checkStmt demand result stmt)
  | .block body span, taken => by
    simp only [Stmt.parts, List.forall_mem_cons] at taken
    unfold checkStmt
    rw [Stmt.slots_block]
    exact keeps_checkStmts allows result body taken.2
  | .cond test body bodySpan otherwise span, taken => by
    simp only [Stmt.parts, List.forall_mem_cons, List.forall_mem_append] at taken
    unfold checkStmt
    rw [Stmt.slots_cond, List.append_assoc]
    exact (keeps_checkCondition allows (taken.1.exprs test (by simp [Stmt.ownExprs]))).bind fun _ =>
      (keeps_checkStmts allows result body taken.2.1).bind fun _ =>
      keeps_checkStmt? allows result otherwise taken.2.2
  | .whileLoop test body bodySpan span, taken => by
    simp only [Stmt.parts, List.forall_mem_cons] at taken
    unfold checkStmt
    rw [Stmt.slots_whileLoop]
    exact (keeps_checkCondition allows (taken.1.exprs test (by simp [Stmt.ownExprs]))).bind fun _ =>
      keeps_checkStmts allows result body taken.2
  | .loop body bodySpan span, taken => by
    simp only [Stmt.parts, List.forall_mem_cons] at taken
    unfold checkStmt
    rw [Stmt.slots_loop]
    exact keeps_checkStmts allows result body taken.2
  | .forLoop first test after body bodySpan span, taken => by
    simp only [Stmt.parts, List.forall_mem_cons, List.forall_mem_append] at taken
    have rest : budget.Keeps (after.toList.flatMap Stmt.slots ++ Stmt.slotsAll body) (do
        checkStmt? demand result after
        checkStmts demand result body) :=
      (keeps_checkStmt? allows result after taken.2.1.2).bind fun _ =>
        keeps_checkStmts allows result body taken.2.2
    unfold checkStmt
    rw [Stmt.slots_forLoop]
    cases test with
    | none =>
      refine ((keeps_checkStmt? allows result first taken.2.1.1).bind fun _ => rest).mono
        fun node => ?_
      simp
    | some test =>
      have keepsTest := keeps_checkCondition allows
        (taken.1.exprs test (by simp [Stmt.ownExprs]))
      refine ((keeps_checkStmt? allows result first taken.2.1.1).bind fun _ =>
        keepsTest.bind fun _ => rest).mono fun node => ?_
      simp
      omega
  | .expr value, taken => by
    simp only [Stmt.parts, List.forall_mem_singleton] at taken
    exact keeps_leafStmt allows result rfl taken
  | .letIn binding, taken | .instr binding, taken => by
    simp only [Stmt.parts, List.forall_mem_singleton] at taken
    exact keeps_leafStmt allows result rfl taken
  | .const decl, taken => by
    simp only [Stmt.parts, List.forall_mem_singleton] at taken
    exact keeps_leafStmt allows result rfl taken
  | .assign target value span, taken | .write target value span, taken => by
    simp only [Stmt.parts, List.forall_mem_singleton] at taken
    exact keeps_leafStmt allows result rfl taken
  | .ret value span, taken => by
    simp only [Stmt.parts, List.forall_mem_singleton] at taken
    exact keeps_leafStmt allows result rfl taken
  | .struct decl, taken => by
    simp only [Stmt.parts, List.forall_mem_singleton] at taken
    exact keeps_leafStmt allows result rfl taken
  | .brk span, taken | .cont span, taken | .bad span, taken => by
    simp only [Stmt.parts, List.forall_mem_singleton] at taken
    exact keeps_leafStmt allows result rfl taken

/-- Typing a statement that may be missing is paid for by its slots. -/
theorem keeps_checkStmt? (allows : Allows budget grounds demand) (result : Ty) :
    (stmt : Option Stmt) -> (∀ part ∈ Stmt.parts? stmt, grounds.TakesStmt part) ->
    budget.Keeps (stmt.toList.flatMap Stmt.slots) (checkStmt? demand result stmt)
  | none, _ => by
    unfold checkStmt?
    exact .pure _
  | some stmt, taken => by
    unfold checkStmt?
    rw [Option.toList_some, List.flatMap_singleton]
    exact keeps_checkStmt allows result stmt (by simpa [Stmt.parts?] using taken)

/-- Typing several statements is paid for by their slots. -/
theorem keeps_checkStmts (allows : Allows budget grounds demand) (result : Ty) :
    (body : List Stmt) -> (∀ part ∈ Stmt.partsAll body, grounds.TakesStmt part) ->
    budget.Keeps (Stmt.slotsAll body) (checkStmts demand result body)
  | [], _ => by
    unfold checkStmts
    exact .pure _
  | stmt :: rest, taken => by
    simp only [Stmt.partsAll, List.forall_mem_append] at taken
    unfold checkStmts
    rw [Stmt.slotsAll_cons]
    exact (keeps_checkStmt allows result stmt taken.1).bind fun _ =>
      keeps_checkStmts allows result rest taken.2

end

/-! ### Items -/

/-- The grounds take in the expressions and statements of an item; its global is demanded. -/
structure Grounds.TakesItem (grounds : Grounds) (item : Item) : Prop where
  body : ∀ part ∈ Stmt.partsAll item.body, grounds.TakesStmt part
  values : ∀ expr ∈ item.values, grounds.Takes expr.visits

/-- Typing the values of an enumeration is paid for by their nodes. -/
theorem keeps_checkVariants (allows : Allows budget grounds demand) (base : Ty)
    (variants : List VariantDecl)
    (taken : ∀ expr ∈ variants.filterMap (·.value), grounds.Takes expr.visits) :
    budget.Keeps ((variants.filterMap (·.value)).flatMap Expr.nodes)
      (checkVariants demand base variants) := by
  induction variants with
  | nil => exact .pure _
  | cons variant rest inductionHypothesis =>
    unfold checkVariants
    cases isValue : variant.value with
    | none =>
      rw [List.filterMap_cons_none isValue] at taken ⊢
      exact inductionHypothesis taken
    | some value =>
      rw [List.filterMap_cons_some isValue] at taken ⊢
      obtain ⟨takenValue, takenRest⟩ := List.forall_mem_cons.mp taken
      exact (keeps_checkExpr allows value takenValue _).bind fun _ =>
        .behind (keeps_tell allows spared_mismatch) fun _ => inductionHypothesis takenRest

/-- Asking for the type of an enumeration's values costs nothing. -/
theorem keeps_enumValueType (decl : EnumDecl) : budget.Keeps [] (enumValueType decl) := by
  refine .read fun session _ => ?_
  split
  · exact .pure _
  · split <;> exact .pure _

theorem keeps_resultType (node : NodeId) : budget.Keeps [] (resultType node) := by
  refine .read fun session _ => ?_
  split
  · exact .pure _
  · split <;> exact .pure _

theorem keeps_declType (node : NodeId) : budget.Keeps [] (declType node) := by
  refine .read fun session _ => ?_
  split <;> exact .pure _

/-- The first round is paid for by the values of enumerations, where globals are free. -/
theorem keeps_checkGlobalItem {all : List Global} {item : Item}
    (allows : Allows budget grounds (demandGlobal all)) (taken : grounds.TakesItem item)
    (free : ∀ global ∈ global? item,
      budget.Keeps [] (checkGlobal all (all.length + 1) [] global)) :
    budget.Keeps (Stage.variantNodes item) (checkGlobalItem all item) := by
  cases item with
  | const decl | static decl => exact .behind (free _ rfl) fun _ => .pure _
  | enum decl =>
    exact .behind (keeps_enumValueType decl) fun base =>
      keeps_checkVariants allows base decl.variants taken.values
  | _ => exact .pure _

/-- The second round is paid for by the slots of bodies. -/
theorem keeps_checkBodyItem {all : List Global} {item : Item}
    (allows : Allows budget grounds (demandGlobal all)) (taken : grounds.TakesItem item) :
    budget.Keeps (Stmt.slotsAll item.body) (checkBodyItem all item) := by
  have member := taken.body
  cases item with
  | function decl =>
    simp only [checkBodyItem]
    cases written : decl.body with
    | none => exact Budget.Keeps.mono (.pure _) fun _ => Nat.zero_le _
    | some body =>
      simp only [Item.body, written] at member ⊢
      exact .behind (keeps_resultType _) fun result => keeps_checkStmts allows result _ member
  | entry decl => exact keeps_checkStmts allows _ _ member
  | _ => exact .pure _

/-- Both rounds over the items. -/
theorem keeps_rounds {all : List Global} {items : List Item}
    (allows : Allows budget grounds (demandGlobal all))
    (taken : ∀ item ∈ items, grounds.TakesItem item)
    (free : ∀ item ∈ items, ∀ global ∈ global? item,
      budget.Keeps [] (checkGlobal all (all.length + 1) [] global)) :
    budget.Keeps (items.flatMap Stage.variantNodes ++
        items.flatMap fun item => Stmt.slotsAll item.body) (do
      items.forM (checkGlobalItem all)
      items.forM (checkBodyItem all)) :=
  (Budget.Keeps.forM items fun item isItem =>
    keeps_checkGlobalItem allows (taken item isItem) (free item isItem)).bind fun _ =>
    .forM items fun item isItem => keeps_checkBodyItem allows (taken item isItem)

end UnitCheck.Typing
