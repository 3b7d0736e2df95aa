import UnitCheck.Proofs.Typing.Spending

/-!
# Every node is typed once

The nodes of a global's initializer are charged to the global while it is neither typed nor
being typed, so whoever reads the global first pays nothing for it. What the walk over a
unit is charged for are then the nodes of the unit, once each.
-/

namespace UnitCheck.Typing

/-! ### An expression that is gone through gets a type -/

/-- The walk ends with a type recorded for the node. -/
def EndsAt {α : Type} (node : NodeId) (walk : Check α) : Prop :=
  ∀ session, node ∈ (walk.run session).2.facts.exprs.map Prod.fst

section EndsAt

variable {α β : Type} {node : NodeId} {demand : Demand}

theorem endsAt_record (node : NodeId) (type : Ty) : EndsAt node (record node type) :=
  fun _ => List.mem_cons_self

/-- What comes first does not matter. -/
theorem EndsAt.behind {walk : Check α} {rest : α -> Check β}
    (ends : ∀ value, EndsAt node (rest value)) : EndsAt node (walk >>= rest) :=
  fun session => ends (walk.run session).1 (walk.run session).2

/-- Nothing that comes later takes a type away. -/
theorem EndsAt.ahead {walk : Check α} {rest : α -> Check β} (ends : EndsAt node walk)
    (grows : ∀ value, Regime.free.Obeys (rest value)) : EndsAt node (walk >>= rest) := by
  intro session
  have suffix := (grows (walk.run session).1 (walk.run session).2 trivial).exprs
  exact (suffix.map Prod.fst).subset (ends session)

theorem endsAt_pickedArray (items : List Expr) (span : Span) (best : Option Ty) :
    EndsAt span.node (pickedArray items span best) := by
  cases best with
  | some element => exact .behind fun _ => endsAt_record _ _
  | none => exact .behind fun _ => endsAt_record _ _

theorem endsAt_arrayFrom (items : List Expr) (span : Span) (given : Option Ty) :
    EndsAt span.node (arrayFrom demand items span given) := by
  cases given with
  | some element => exact .behind fun _ => endsAt_record _ _
  | none => exact .behind fun _ => .behind fun _ => endsAt_pickedArray _ _ _

theorem endsAt_arguments {callee : Callee} {span : Span} {count : Nat}
    {checkArgs checkAll : Check Unit} (node : NodeId) (result : Ty) :
    EndsAt node (do
      if callee.accepts count then checkArgs
      else
        reportArity callee span count
        checkAll
      record node result) := by
  simp only
  split
  · exact .behind fun _ => endsAt_record _ _
  · exact .behind fun _ => .behind fun _ => endsAt_record _ _

/-- Whatever is found on the way, an expression ends with a type. -/
theorem endsAt_checkExpr (expr : Expr) (expected : Option Ty) :
    EndsAt expr.node (checkExpr demand expr expected) := by
  have last {span : Span} (type : Ty) : EndsAt span.node (record span.node type) :=
    endsAt_record _ type
  cases expr with
  | literal literal | name name | alloc form span =>
    unfold checkExpr
    exact .behind last
  | bad span =>
    unfold checkExpr
    exact last _
  | binary op left right span =>
    unfold checkExpr
    split
    · exact .behind fun _ => .behind fun _ => .behind fun _ => .behind fun _ => last _
    · simp only
      split <;> exact .behind fun _ => .behind fun _ => .behind last
  | unary op operand span =>
    cases op with
    | negate =>
      unfold checkExpr
      split
      · exact .behind fun _ => .behind fun _ => last _
      · exact .behind fun _ => .behind last
    | not =>
      unfold checkExpr
      exact .behind fun _ => .behind fun _ => last _
    | complement =>
      unfold checkExpr
      exact .behind fun _ => .behind last
  | call name args span =>
    unfold checkExpr
    refine .behind fun session => ?_
    split
    · exact .behind fun _ => last _
    · refine .behind fun callee => ?_
      split
      · exact .behind fun _ => .behind fun _ => last _
      · exact .behind fun _ => .behind fun _ => endsAt_arguments _ _
  | callValue function args span =>
    unfold checkExpr
    refine .behind fun type => ?_
    split
    · exact .behind fun _ => last _
    · split
      · exact endsAt_arguments _ _
      · exact .behind fun _ => .behind fun _ => last _
  | field base path span =>
    unfold checkExpr
    refine .behind fun found => ?_
    split
    · exact .behind last
    · exact .behind fun _ => .behind last
  | index base position span =>
    unfold checkExpr
    refine .behind fun _ => .behind fun _ => ?_
    simp only
    split
    · exact .behind fun _ => .behind last
    · exact .behind last
  | cast form operand span | load form operand span =>
    unfold checkExpr
    refine .behind fun _ => .behind fun _ => ?_
    simp only
    split
    · exact .behind fun _ => last _
    · exact last _
  | array form items span =>
    rw [checkExpr_array]
    exact .behind fun _ => endsAt_arrayFrom _ _ _
  | addressOf operand span =>
    unfold checkExpr
    refine .behind fun _ => .behind fun _ => ?_
    simp only
    split
    · exact .behind fun _ => last _
    · exact last _

theorem endsAt_bindingType (name : Option Ident) (form : Option TypeForm) (value : Expr) :
    EndsAt value.node (bindingType demand name form (some value)) := by
  refine .behind fun declared => .ahead (endsAt_checkExpr value declared) fun found => ?_
  split
  · exact .bind (obeys_tell mayType_free _) fun _ => .pure _
  · split
    · exact .bind (Check.obeys_report trivial) fun _ => .pure _
    · exact .pure _

/-- A global that is gone through has a type for its initializer. -/
theorem endsAt_given (global : Global) {value : Expr} (isValue : global.value = some value) :
    EndsAt value.node (global.given demand) := by
  cases global with
  | const decl =>
    have isSome : decl.value = some value := isValue
    simp only [Global.given]
    rw [isSome]
    exact endsAt_bindingType decl.name decl.type value
  | static decl =>
    have isSome : decl.value = some value := isValue
    simp only [Global.given]
    rw [isSome, Option.isNone_some, Bool.and_false]
    exact endsAt_bindingType decl.name decl.type value

end EndsAt

/-! ### The budget -/

/-- Whatever types nothing and goes through no global. -/
def aside : Regime where
  holds _ := True
  permits act :=
    match act with
    | .typed _ _ | .checked _ => False
    | _ => True
  stable _ _ _ _ := trivial

theorem mayAsk_aside (form : TypeForm) : MayAsk aside form :=
  .inr ⟨fun _ => trivial, fun _ _ _ => trivial, fun _ _ _ => trivial⟩

namespace Stage

variable {stage : Stage} {path : List NodeId} {demand : Demand}

/-- No global on the path has been gone through, none has been twice, and the initializers
of those that have been have types. -/
structure Once (stage : Stage) (path : List NodeId) (session : Session) : Prop where
  distinct : session.checked.Nodup
  apart : ∀ node ∈ path, node ∉ session.checked
  initialized : ∀ global ∈ stage.globals, global.node ∈ session.checked →
    ∀ value ∈ global.value, value.node ∈ session.facts.exprs.map Prod.fst

/-- A node pays for a type that it gets, now or with one of the globals still open. -/
def once (stage : Stage) (path : List NodeId) : Budget where
  holds := stage.Once path
  pays nodes before after :=
    ∀ node, stage.weight path after node ≤ stage.weight path before node + nodes.count node
  nothing _ _ := Nat.le_refl _
  trans one two node := by
    have earlier := one node
    have later := two node
    rw [List.count_append]
    omega
  mono fewer paid node := Nat.le_trans (paid node) (Nat.add_le_add_left (fewer node) _)

/-- What types nothing and goes through no global costs nothing. -/
theorem once_aside {α : Type} {walk : Check α} (obeys : aside.Obeys walk) :
    (stage.once path).Keeps [] walk := by
  refine .of_obeys obeys (fun _ _ => trivial) fun act session permitted holds => ?_
  cases act <;> first
    | exact ⟨⟨holds.distinct, holds.apart, holds.initialized⟩, fun _ => Nat.le_refl _⟩
    | cases permitted

/-- A type that is recorded is paid for by its node. -/
theorem once_recordExpr (node : NodeId) (type : Ty) :
    (stage.once path).Keeps [node] (Check.recordExpr node type) := by
  refine fun session holds => ⟨⟨holds.distinct, holds.apart, ?_⟩, fun other => ?_⟩
  · intro global isGlobal isChecked value isValue
    exact List.mem_cons_of_mem _ (holds.initialized global isGlobal isChecked value isValue)
  · change ((node :: session.facts.exprs.map Prod.fst).count other +
      ((stage.open_ path session).flatMap globalNodes).count other) ≤ _
    unfold weight
    rw [List.count_cons, List.count_cons, List.count_nil]
    omega

/-- All names, nodes and written types there are. -/
def anywhere : Grounds :=
  ⟨fun _ => True, fun _ => True, fun _ => True, fun _ => True, fun _ _ => True⟩

theorem takes_anywhere (exprs : List Expr) : anywhere.Takes exprs :=
  fun _ _ => ⟨fun _ _ => trivial, fun _ _ _ => trivial, fun _ _ => trivial, fun _ _ => trivial⟩

theorem takesBinding_anywhere (form : Option TypeForm) (value : Option Expr) :
    anywhere.TakesBinding form value :=
  ⟨fun _ _ => trivial, fun _ _ => takes_anywhere _⟩

theorem takesItem_anywhere (item : Item) : anywhere.TakesItem item :=
  ⟨fun _ _ => ⟨fun _ _ => trivial, fun _ _ => trivial, fun _ _ => takes_anywhere _⟩,
    fun _ _ => takes_anywhere _⟩

/-- Where demands are free, the steps of typing are paid for by the nodes that get types. -/
theorem allows_once (free : ∀ symbol, (stage.once path).Keeps [] (demand symbol)) :
    Allows (stage.once path) anywhere demand := by
  exact {
    report finding _ := once_aside (Check.obeys_report trivial)
    hops node steps := once_aside (Check.obeys_recordMembers trivial)
    form form _ := once_aside (obeys_recordedType (mayAsk_aside form))
    settle node type _ := once_aside (obeys_setDeclType (fun _ _ _ _ _ => trivial) type)
    plain node type _ := once_recordExpr node type
    literal literal negated expected _ :=
      keeps_literal (fun _ => once_aside (Check.obeys_report trivial)) (once_recordExpr _)
    name name _ := .behind (keeps_nameType free name) fun type =>
      .ahead (once_recordExpr _ type) fun _ => .pure _
    calls node symbol _ _ := keeps_calleeOf free symbol
    callee node symbol _ _ := .behind (keeps_symbolType free symbol) fun type =>
      once_recordExpr node type
    variant node symbol type _ _ _ := once_recordExpr node type }

/-! ### Globals -/

/-- The globals of a unit are told apart by their nodes. -/
def Told (stage : Stage) : Prop :=
  ∀ one ∈ stage.globals, ∀ other ∈ stage.globals, one.node = other.node → one = other

/-- Typing an open global is free for whoever asks for it. -/
theorem once_typeGlobal (told : stage.Told) {global : Global} {walk : Check Ty}
    (isGlobal : global ∈ stage.globals) (isNew : global.node ∉ path)
    (keeps : (stage.once (global.node :: path)).Keeps (globalNodes global) walk)
    (ends : ∀ value ∈ global.value, EndsAt value.node walk) {session : Session}
    (holds : stage.Once path session) (unchecked : global.node ∉ session.checked) :
    stage.Once path ((do
        let type <- walk
        markChecked global.node
        return type : Check Ty).run session).2 ∧
      (stage.once path).pays [] session ((do
        let type <- walk
        markChecked global.node
        return type : Check Ty).run session).2 := by
  have opened : stage.Once (global.node :: path) session :=
    ⟨holds.distinct, List.forall_mem_cons.mpr ⟨unchecked, holds.apart⟩, holds.initialized⟩
  obtain ⟨typed, paid⟩ := keeps session opened
  obtain ⟨stillUnchecked, apart⟩ := List.forall_mem_cons.mp typed.apart
  change stage.Once path (Act.apply (walk.run session).2 (.checked global.node)) ∧
    ∀ node, stage.weight path (Act.apply (walk.run session).2 (.checked global.node)) node ≤ _
  refine ⟨⟨List.nodup_cons.mpr ⟨stillUnchecked, typed.distinct⟩, ?_, ?_⟩, fun node => ?_⟩
  · intro node onPath isChecked
    obtain rfl | earlier := List.mem_cons.mp isChecked
    · exact isNew onPath
    · exact apart node onPath earlier
  · intro other isOther isChecked value isValue
    obtain same | earlier := List.mem_cons.mp isChecked
    · rw [told other isOther global isGlobal same] at isValue
      exact ends value isValue session
    · exact typed.initialized other isOther earlier value isValue
  · have charged := paid node
    have notYet : session.checked.contains global.node = false := by simpa using unchecked
    have notOn : path.contains global.node = false := by simpa using isNew
    have freed := count_open_cons isGlobal notYet notOn node
    unfold weight at charged ⊢
    rw [open_checked, List.count_nil]
    change ((walk.run session).2.facts.exprs.map Prod.fst).count node + _ ≤ _
    omega

/-- Asking for a global costs nothing, whatever globals are being typed. -/
theorem once_checkGlobal (told : stage.Told) (fuel : Nat) (path : List NodeId) (global : Global)
    (isGlobal : global ∈ stage.globals) :
    (stage.once path).Keeps [] (checkGlobal stage.globals fuel path global) := by
  induction fuel generalizing path global with
  | zero => exact .pure _
  | succ fuel inductionHypothesis =>
    intro session holds
    unfold checkGlobal
    rw [StateT.run_bind, StateT.run_get, pure_bind]
    dsimp only
    split
    · exact keeps_declType _ session holds
    · rename_i unchecked
      split
      · exact once_aside (.bind (Check.obeys_report trivial) fun _ =>
          .bind (obeys_setDeclType (fun _ _ _ _ _ => trivial) _) fun _ => .pure _) session holds
      · rename_i isNew
        have allows := allows_once (keeps_answer (inductionHypothesis (global.node :: path)))
        refine once_typeGlobal told isGlobal (by simpa using isNew) ?_ ?_ holds
          (by simpa using unchecked)
        · rw [Global.check_eq]
          exact .ahead (keeps_given allows (takesBinding_anywhere _ _)) fun type =>
            keeps_settled allows trivial type
        · intro value isValue
          rw [Global.check_eq]
          exact .ahead (endsAt_given global isValue) fun type =>
            .bind (obeys_setDeclType (fun _ _ _ _ _ => trivial) type) fun _ => .pure _

/-- The demand of the walk over a unit is free. -/
theorem once_demandGlobal (told : stage.Told) (symbol : Symbol) :
    (stage.once []).Keeps [] (demandGlobal stage.globals symbol) :=
  keeps_answer (once_checkGlobal told _ _) symbol

/-- The walk over a unit types no node more often than it stands in the unit. -/
theorem once_rounds (told : stage.Told) :
    (stage.once []).Keeps (stage.start.items.flatMap variantNodes ++
        stage.start.items.flatMap fun item => Stmt.slotsAll item.body) (do
      stage.start.items.forM (checkGlobalItem stage.globals)
      stage.start.items.forM (checkBodyItem stage.globals)) :=
  keeps_rounds (allows_once (once_demandGlobal told)) (fun item _ => takesItem_anywhere item)
    fun item isItem _ declares => once_checkGlobal told _ _ _
      (List.mem_filterMap.mpr ⟨item, isItem, declares⟩)

end Stage
end UnitCheck.Typing
