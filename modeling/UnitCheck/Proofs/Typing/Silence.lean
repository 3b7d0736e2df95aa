import UnitCheck.Proofs.Typing.Soundness

/-!
# Operands of unknown type

What failed to get a type has been reported already, so an operation on nothing but
unknown types should have nothing to add to what is said about its operands. Two forms
break this: a call by name counts a symbol of unknown type as not callable, and an array
that has no element type from elsewhere counts as empty when all its elements are
unknown. The form that takes the address of a place is left out, since it complains about
the place and not about its type.
-/

namespace UnitCheck

/-- Whether an expression is an operation on values. -/
def Expr.isOperation : Expr -> Bool
  | .literal _ | .name _ | .alloc _ _ | .bad _ | .addressOf _ _ => false
  | _ => true

/-- The session with more findings. -/
def Session.noting (session : Session) (findings : List Finding) : Session :=
  { session with findings := session.findings ++ findings }

@[simp] theorem Session.noting_nil (session : Session) : session.noting [] = session := by
  simp [noting]

namespace Typing

variable {demand : Demand} {session : Session}

/-! ### Operands alone -/

/-- Types expressions in turn and hands their types on. -/
def checkEach (demand : Demand) (expected : Option Ty) : List Expr -> Check (List Ty)
  | [] => return []
  | expr :: rest => do
    let type <- checkExpr demand expr expected
    let types <- checkEach demand expected rest
    return type :: types

/-- Types the operands of an operation without the operation itself: in the order in which
the operation does it, with the same expectations, and with the arguments of a call as
those of an unknown callee. -/
def checkOperands (demand : Demand) : (expr : Expr) -> (expected : Option Ty) -> Check (List Ty)
  | .binary op left right _, expected => do
    if op.isLogical then
      let leftType <- checkExpr demand left (some .bool)
      let rightType <- checkExpr demand right (some .bool)
      return [leftType, rightType]
    else
      let hint := if op.isComparison then none else expected
      if left.isUntypedLiteral && !right.isUntypedLiteral then
        let rightType <- checkExpr demand right hint
        let leftType <- checkExpr demand left (literalHint rightType)
        return [leftType, rightType]
      else
        let leftType <- checkExpr demand left hint
        let rightType <- checkExpr demand right (literalHint leftType)
        return [leftType, rightType]
  | .unary .negate operand _, expected => do
    match negatedLiteral? operand with
    | some literal =>
      let type <- checkLiteral literal expected true
      Check.recordExpr literal.span.node type
      return [type]
    | none => checkEach demand expected [operand]
  | .unary .not operand _, _ => checkEach demand (some .bool) [operand]
  | .unary .complement operand _, expected => checkEach demand expected [operand]
  | .call _ args _, _ => checkEach demand none args
  | .callValue function args _, _ => checkEach demand none (function :: args)
  | .field base _ _, _ => do
    match <- enumBase? base with
    | some (symbol, _) => return [((<- get).knownOf symbol.id).type.getD .unknown]
    | none => checkEach demand none [base]
  | .index base position _, _ => do
    let baseType <- checkExpr demand base none
    let positionType <- checkExpr demand position (some (.prim .u64))
    return [baseType, positionType]
  | .cast form operand _, _ | .load form operand _, _ => do
    let _ <- Check.recordedType form
    checkEach demand none [operand]
  | .array form items _, expected => do
    let element <- match form with
      | some form => do pure (some (<- Check.recordedType form))
      | none => pure (expectedElement? expected)
    match element with
    | some element => checkEach demand (some element) items
    | none =>
      let typed <- checkEach demand none (items.filter (!·.isUntypedLiteral))
      let literals <- checkEach demand (typed.foldl better none) (items.filter (·.isUntypedLiteral))
      return typed ++ literals
  | .addressOf operand _, _ => checkEach demand none [operand]
  | .literal _, _ | .name _, _ | .alloc _ _, _ | .bad _, _ => return []

/-- Whether a call by name finds the unknown type at the symbol it calls, if there is one. -/
def calleeUnknown (session : Session) : Expr -> Bool
  | .call name _ _ =>
    match session.facts.refs.find? name.span.node with
    | some symbol => (session.knownOf symbol.id).type.any (·.isUnknown)
    | none => true
  | _ => true

/-- What a call by name says of an unknown callee, ahead of its arguments. -/
def calleeComplaint (facts : Facts) : Expr -> List Finding
  | .call name _ _ =>
    match facts.refs.find? name.span.node with
    | some symbol => [.notCallable name symbol.kind]
    | none => []
  | _ => []

/-- What an array says of unknown elements, behind them. -/
def elementComplaint (expected : Option Ty) : Expr -> List Finding
  | .array none _ span => if (expectedElement? expected).isNone then [.emptyArray span] else []
  | _ => []

/-! ### Walks that say nothing -/

/-- The walk has nothing to say, wherever it starts. -/
def Silent {α : Type} (walk : Check α) : Prop :=
  ∀ session : Session, (walk.run session).2.findings = session.findings

namespace Silent

variable {α β : Type}

theorem pure (value : α) : Silent (pure value) := fun _ => rfl

theorem bind {walk : Check α} {rest : α -> Check β} (silent : Silent walk)
    (silentRest : ∀ value, Silent (rest value)) : Silent (walk >>= rest) :=
  fun session => (silentRest _ _).trans (silent session)

theorem record (node : NodeId) (type : Ty) : Silent (record node type) := fun _ => rfl

theorem tell {finding : Option Finding} (nothing : finding = none) : Silent (tell finding) := by
  subst nothing
  exact .pure _

theorem accept {judged : Judged} (nothing : judged.2 = none) : Silent (accept judged) :=
  .bind (.tell nothing) fun _ => .pure _

end Silent

/-! ### Nothing is said about unknown types -/

section Unknown

variable {type : Ty}

theorem mismatch?_of_unknown (unknown : type.isUnknown = true) (span : Span) (expected : Ty) :
    mismatch? span type expected = none := by
  simp [mismatch?, Ty.compatibility, unknown, Compatibility.isAllowed]

theorem logicalOperand?_of_unknown (unknown : type.isUnknown = true) (op : String) (span : Span) :
    logicalOperand? op span type = none := by
  simp [logicalOperand?, unknown]

theorem binaryType_of_unknown (unknown : type.isUnknown = true) (op : BinaryOp) (span : Span)
    (other : Ty) : (binaryType op span type other).2 = none := by
  simp [binaryType, unknown]

theorem negateType_of_unknown (unknown : type.isUnknown = true) (span operand : Span) :
    (negateType span operand type).2 = none := by
  simp [negateType, unknown]

theorem complementType_of_unknown (unknown : type.isUnknown = true) (operand : Span) :
    (complementType operand type).2 = none := by
  simp [complementType, unknown]

theorem elementType_of_unknown (unknown : type.isUnknown = true) (span : Span)
    (constant : Option (Literal × Int)) : (elementType type span constant).2 = none := by
  simp [elementType, unknown]

theorem castable_of_unknown (unknown : type.isUnknown = true) (target : Ty) :
    type.castable target = true := by
  simp [Ty.castable, unknown]

theorem silent_fieldType (unknown : type.isUnknown = true) (path : List String) (span : Span) :
    Silent (fieldType type path span) := by
  unfold fieldType
  rw [if_pos unknown]
  exact .pure _

/-- Unknown types are no candidates for the element type of an array. -/
theorem foldl_better_of_unknown {types : List Ty} (best : Option Ty)
    (unknown : ∀ type ∈ types, type.isUnknown = true) : types.foldl better best = best := by
  induction types with
  | nil => rfl
  | cons type rest inductionHypothesis =>
    obtain ⟨ofType, ofRest⟩ := List.forall_mem_cons.mp unknown
    have kept : better best type = best := by
      simp [better, ofType]
    rw [List.foldl_cons, kept]
    exact inductionHypothesis ofRest

end Unknown

/-! ### Operations on several operands -/

theorem checkAll_eq (demand : Demand) (exprs : List Expr) :
    checkAll demand exprs = (do
      let _ <- checkEach demand none exprs
      return) := by
  induction exprs with
  | nil => rfl
  | cons expr rest inductionHypothesis =>
    unfold checkAll checkEach
    simp only [inductionHypothesis, bind_assoc, pure_bind]

/-- The elements of an array of a given element type are typed in turn, when they have
nothing that could be compared. -/
theorem run_checkItems (element : Ty) (items : List Expr) :
    ∀ session : Session,
      (∀ type ∈ ((checkEach demand (some element) items).run session).1, type.isUnknown = true) →
      ((checkItems demand element items).run session).2 =
        ((checkEach demand (some element) items).run session).2 := by
  induction items with
  | nil => intro session _; rfl
  | cons item rest inductionHypothesis =>
    intro session unknown
    unfold checkEach at unknown
    obtain ⟨ofItem, ofRest⟩ := List.forall_mem_cons.mp unknown
    have isUnknown : ((checkExpr demand item (some element)).run session).1.isUnknown = true := ofItem
    unfold checkItems checkEach
    rw [StateT.run_bind]
    change ((do
      tell (mismatch? item.span ((checkExpr demand item (some element)).run session).1 element)
      checkItems demand element rest).run _).2 = _
    rw [mismatch?_of_unknown isUnknown]
    exact inductionHypothesis _ ofRest

theorem checkTypedItems_eq (demand : Demand) (items : List Expr) (best : Option Ty) :
    checkTypedItems demand best items = (do
      let types <- checkEach demand none (items.filter (!·.isUntypedLiteral))
      return types.foldl better best) := by
  induction items generalizing best with
  | nil => rfl
  | cons item rest inductionHypothesis =>
    unfold checkTypedItems
    by_cases untyped : item.isUntypedLiteral = true
    · simp [untyped, inductionHypothesis]
    · simp [untyped, inductionHypothesis, checkEach]

theorem checkLiteralItems_eq (demand : Demand) (hint : Option Ty) (items : List Expr)
    (best : Option Ty) :
    checkLiteralItems demand hint best items = (do
      let types <- checkEach demand hint (items.filter (·.isUntypedLiteral))
      return if hint.isNone then types.foldl better best else best) := by
  induction items generalizing best with
  | nil => cases hint <;> rfl
  | cons item rest inductionHypothesis =>
    unfold checkLiteralItems
    by_cases untyped : item.isUntypedLiteral = true
    · cases hint <;> simp [untyped, inductionHypothesis, checkEach]
    · simp [untyped, inductionHypothesis]

/-! ### Operations on unknown types -/

/-- Where its operands have unknown types, the operation says nothing beyond what is said
about them. -/
def AddsNothing (demand : Demand) (session : Session) (expr : Expr) (expected : Option Ty) : Prop :=
  (∀ type ∈ ((checkOperands demand expr expected).run session).1, type.isUnknown = true) →
    ((checkExpr demand expr expected).run session).2.findings =
      ((checkOperands demand expr expected).run session).2.findings

theorem addsNothing_binary (op : BinaryOp) (left right : Expr) (span : Span)
    (expected : Option Ty) : AddsNothing demand session (.binary op left right span) expected := by
  intro unknown
  simp only [checkOperands] at unknown ⊢
  simp only [checkExpr]
  split at unknown
  · rename_i logical
    obtain ⟨ofLeft, ofRight⟩ := List.forall_mem_cons.mp unknown
    rw [if_pos logical, if_pos logical]
    have silent := Silent.bind (.tell (logicalOperand?_of_unknown ofLeft op.text left.span)) fun _ =>
      .bind (.tell (logicalOperand?_of_unknown (ofRight _ List.mem_cons_self) op.text right.span))
        fun _ => .record span.node .bool
    exact silent _
  · rename_i notLogical
    rw [if_neg notLogical, if_neg notLogical]
    split at unknown
    · rename_i literalFirst
      obtain ⟨ofLeft, -⟩ := List.forall_mem_cons.mp unknown
      rw [if_pos literalFirst, if_pos literalFirst]
      have silent (other : Ty) :=
        Silent.bind (.accept (binaryType_of_unknown ofLeft op span other)) (.record span.node)
      exact silent _ _
    · rename_i literalLast
      obtain ⟨ofLeft, -⟩ := List.forall_mem_cons.mp unknown
      rw [if_neg literalLast, if_neg literalLast]
      have silent (other : Ty) :=
        Silent.bind (.accept (binaryType_of_unknown ofLeft op span other)) (.record span.node)
      exact silent _ _

/-- Behind an operand of unknown type nothing is found by a rest that is silent about it. -/
theorem findings_single {operand : Expr} {expected : Option Ty} {rest : Ty -> Check Ty}
    (unknown : ∀ type ∈ ((checkEach demand expected [operand]).run session).1,
      type.isUnknown = true)
    (silent : ∀ type, type.isUnknown = true → Silent (rest type)) :
    ((checkExpr demand operand expected >>= rest).run session).2.findings =
      ((checkEach demand expected [operand]).run session).2.findings :=
  silent _ (unknown _ List.mem_cons_self) _

theorem addsNothing_unary (op : UnaryOp) (operand : Expr) (span : Span) (expected : Option Ty) :
    AddsNothing demand session (.unary op operand span) expected := by
  intro unknown
  cases op with
  | negate =>
    cases isLiteral : negatedLiteral? operand with
    | some literal =>
      simp only [checkOperands, checkExpr, isLiteral]
      exact (Silent.record span.node _) _
    | none =>
      simp only [checkOperands, isLiteral] at unknown ⊢
      simp only [checkExpr, isLiteral]
      exact findings_single unknown fun type isUnknown =>
        .bind (.accept (negateType_of_unknown isUnknown span operand.span)) (.record span.node)
  | not =>
    simp only [checkOperands] at unknown ⊢
    simp only [checkExpr]
    exact findings_single unknown fun type isUnknown =>
      .bind (.tell (logicalOperand?_of_unknown isUnknown UnaryOp.not.text operand.span))
        fun _ => .record span.node .bool
  | complement =>
    simp only [checkOperands] at unknown ⊢
    simp only [checkExpr]
    exact findings_single unknown fun type isUnknown =>
      .bind (.accept (complementType_of_unknown isUnknown operand.span)) (.record span.node)

theorem addsNothing_callValue (function : Expr) (args : List Expr) (span : Span)
    (expected : Option Ty) : AddsNothing demand session (.callValue function args span) expected := by
  intro unknown
  simp only [checkOperands] at unknown ⊢
  simp only [checkExpr, checkAll_eq]
  obtain ⟨isUnknown, -⟩ := List.forall_mem_cons.mp unknown
  have reached : ((checkExpr demand function none).run session).1.isUnknown = true := isUnknown
  rw [StateT.run_bind]
  change ((if ((checkExpr demand function none).run session).1.isUnknown then _ else _ : Check Ty).run
    _).2.findings = _
  rw [if_pos reached]
  rfl

/-- An enumeration whose type is unknown has no variants to complain about. -/
theorem run_variantType_of_unknown {symbol : Symbol}
    (unknown : ((session.knownOf symbol.id).type.getD .unknown).isUnknown = true) (name : Ident)
    (path : List String) (span : Span) :
    (variantType symbol name path span).run session = (.unknown, session) := by
  unfold variantType
  rw [StateT.run_bind, StateT.run_get, pure_bind]
  split
  · rename_i known
    rw [known] at unknown
    cases unknown
  · rfl

theorem addsNothing_field (base : Expr) (path : List String) (span : Span)
    (expected : Option Ty) : AddsNothing demand session (.field base path span) expected := by
  intro unknown
  simp only [checkOperands] at unknown ⊢
  simp only [checkExpr]
  rw [StateT.run_bind] at unknown ⊢
  rw [StateT.run_bind]
  obtain ⟨found, looked⟩ := run_enumBase? base session
  rw [looked] at unknown ⊢
  obtain _ | ⟨symbol, name⟩ := found
  · obtain ⟨isUnknown, -⟩ := List.forall_mem_cons.mp unknown
    have silent := Silent.bind (silent_fieldType isUnknown path span) (.record span.node)
    exact silent _
  · obtain ⟨isUnknown, -⟩ := List.forall_mem_cons.mp unknown
    have outcome := run_variantType_of_unknown isUnknown name path span
    change ((variantType symbol name path span >>= record span.node).run session).2.findings = _
    rw [StateT.run_bind, outcome]
    rfl

theorem addsNothing_index (base position : Expr) (span : Span) (expected : Option Ty) :
    AddsNothing demand session (.index base position span) expected := by
  intro unknown
  simp only [checkOperands] at unknown ⊢
  simp only [checkExpr]
  obtain ⟨ofBase, ofPosition⟩ := List.forall_mem_cons.mp unknown
  have silent {baseType positionType : Ty} (baseUnknown : baseType.isUnknown = true)
      (positionUnknown : positionType.isUnknown = true) :
      Silent (do
        if !positionType.isUnknown && !positionType.isInteger then
          Check.report (.indexNotInteger position.span positionType)
        record span.node (<- accept (elementType baseType base.span (constantIndex? position)))) := by
    rw [positionUnknown]
    exact .bind (.accept (elementType_of_unknown baseUnknown _ _)) (.record span.node)
  exact silent ofBase (ofPosition _ List.mem_cons_self) _

/-- Behind a written type and an operand of unknown type nothing is found by a rest that is
silent about the operand. -/
theorem findings_written {form : TypeForm} {operand : Expr} {rest : Ty -> Ty -> Check Ty}
    (unknown : ∀ type ∈ ((do
      let _ <- Check.recordedType form
      checkEach demand none [operand] : Check (List Ty)).run session).1, type.isUnknown = true)
    (silent : ∀ target type, type.isUnknown = true → Silent (rest target type)) :
    ((do
      let target <- Check.recordedType form
      let source <- checkExpr demand operand none
      rest target source : Check Ty).run session).2.findings =
    ((do
      let _ <- Check.recordedType form
      checkEach demand none [operand] : Check (List Ty)).run session).2.findings := by
  rw [StateT.run_bind] at unknown
  rw [StateT.run_bind, StateT.run_bind]
  exact findings_single unknown (silent _)

theorem addsNothing_cast (form : TypeForm) (operand : Expr) (span : Span) (expected : Option Ty) :
    AddsNothing demand session (.cast form operand span) expected := by
  intro unknown
  simp only [checkOperands] at unknown ⊢
  unfold checkExpr
  refine findings_written unknown fun target source isUnknown => ?_
  simp only [castable_of_unknown isUnknown]
  exact .record span.node target

theorem addsNothing_load (form : TypeForm) (operand : Expr) (span : Span) (expected : Option Ty) :
    AddsNothing demand session (.load form operand span) expected := by
  intro unknown
  simp only [checkOperands] at unknown ⊢
  unfold checkExpr
  refine findings_written unknown fun target source isUnknown => ?_
  simp only [isUnknown]
  exact .record span.node target

/-- Where its symbol has the unknown type, a call by name finds nothing to call. -/
theorem run_calleeOf_of_unknown {symbol : Symbol} {type : Ty}
    (known : (session.knownOf symbol.id).type = some type) (unknown : type.isUnknown = true) :
    (calleeOf demand symbol).run session = (none, session) := by
  unfold calleeOf
  rw [StateT.run_bind, StateT.run_get, pure_bind]
  simp only
  split
  · split
    · rename_i isStruct
      rw [known] at isStruct
      cases isStruct
      cases unknown
    · rfl
  · split
    · rfl
    · have looked : (symbolType demand symbol).run session = pure (type, session) := by
        unfold symbolType
        rw [StateT.run_bind, StateT.run_get, pure_bind]
        simp only [known]
        rfl
      obtain ⟨name, isPrim⟩ := Ty.unwrap_of_isPrim unknown
      rw [StateT.run_bind, looked, pure_bind]
      simp only [isPrim]
      rfl

theorem findings_call (name : Ident) (args : List Expr) (span : Span) (expected : Option Ty)
    (callee : calleeUnknown session (.call name args span) = true) :
    ((checkExpr demand (.call name args span) expected).run session).2.findings =
      ((checkOperands demand (.call name args span) expected).run
        (session.noting (calleeComplaint session.facts (.call name args span)))).2.findings := by
  simp only [checkOperands, checkExpr, calleeComplaint, checkAll_eq]
  simp only [calleeUnknown] at callee
  rw [StateT.run_bind, StateT.run_get, pure_bind]
  cases found : session.facts.refs.find? name.span.node with
  | none =>
    rw [Session.noting_nil]
    rfl
  | some symbol =>
    simp only [found] at callee
    obtain ⟨type, known, unknown⟩ := (Option.any_eq_true _ _).mp callee
    simp only
    rw [StateT.run_bind, run_calleeOf_of_unknown known unknown]
    rfl

theorem findings_array (form : Option TypeForm) (items : List Expr) (span : Span)
    (expected : Option Ty)
    (unknown : ∀ type ∈ ((checkOperands demand (.array form items span) expected).run session).1,
      type.isUnknown = true) :
    ((checkExpr demand (.array form items span) expected).run session).2.findings =
      ((checkOperands demand (.array form items span) expected).run session).2.findings ++
        elementComplaint expected (.array form items span) := by
  cases form with
  | some form =>
    simp only [checkOperands, checkExpr, elementComplaint, pure_bind, List.append_nil] at unknown ⊢
    have typed := run_checkItems ((Check.recordedType form).run session).1 items
      ((Check.recordedType form).run session).2 unknown
    have same := congrArg Session.findings typed
    exact same
  | none =>
    simp only [checkOperands, checkExpr, elementComplaint, pure_bind] at unknown ⊢
    cases wanted : expectedElement? expected with
    | some element =>
      simp only [wanted] at unknown
      have typed := run_checkItems element items session unknown
      have same := congrArg Session.findings typed
      simp only [Option.isNone_some, Bool.false_eq_true, if_false, List.append_nil]
      exact same
    | none =>
      simp only [wanted] at unknown
      simp only [checkTypedItems_eq, checkLiteralItems_eq, bind_assoc, pure_bind]
      have noHint := foldl_better_of_unknown none fun type inside =>
        unknown type (List.mem_append_left _ inside)
      have noBest := (foldl_better_of_unknown _ fun type inside =>
        unknown type (List.mem_append_right _ inside)).trans noHint
      have empty {hint best : Option Ty} (noHint : hint = none) (noBest : best = none)
          (session : Session) :
          ((pickedArray items span (if hint.isNone then best else hint)).run session).2.findings =
            session.findings ++ [.emptyArray span] := by
        subst noHint noBest
        rfl
      exact empty noHint noBest _

/-- An operation that says nothing ahead of its operands or behind them. -/
theorem AddsNothing.findings {expr : Expr} {expected : Option Ty}
    (adds : AddsNothing demand session expr expected)
    (ahead : calleeComplaint session.facts expr = []) (behind : elementComplaint expected expr = [])
    (unknown : ∀ type ∈ ((checkOperands demand expr expected).run
      (session.noting (calleeComplaint session.facts expr))).1, type.isUnknown = true) :
    ((checkExpr demand expr expected).run session).2.findings =
      ((checkOperands demand expr expected).run
        (session.noting (calleeComplaint session.facts expr))).2.findings ++
        elementComplaint expected expr := by
  rw [ahead, Session.noting_nil] at unknown ⊢
  rw [behind, List.append_nil]
  exact adds unknown

/-- An operation on operands of unknown type says nothing beyond what is said about its
operands, except that a call by name complains about its callee, ahead of its arguments,
and an array without an element type from elsewhere complains about its elements, behind
them. -/
theorem findings_of_unknown_operands (demand : Demand) (session : Session) (expr : Expr)
    (expected : Option Ty) (operation : expr.isOperation = true)
    (callee : calleeUnknown session expr = true)
    (unknown : ∀ type ∈ ((checkOperands demand expr expected).run
      (session.noting (calleeComplaint session.facts expr))).1, type.isUnknown = true) :
    ((checkExpr demand expr expected).run session).2.findings =
      ((checkOperands demand expr expected).run
        (session.noting (calleeComplaint session.facts expr))).2.findings ++
        elementComplaint expected expr := by
  cases expr with
  | literal _ | name _ | alloc _ _ | bad _ | addressOf _ _ => cases operation
  | call name args span =>
    have nothing : elementComplaint expected (.call name args span) = [] := rfl
    rw [findings_call name args span expected callee, nothing, List.append_nil]
  | array form items span =>
    simp only [calleeComplaint, Session.noting_nil] at unknown ⊢
    exact findings_array form items span expected unknown
  | binary op left right span =>
    exact (addsNothing_binary op left right span expected).findings rfl rfl unknown
  | unary op operand span =>
    exact (addsNothing_unary op operand span expected).findings rfl rfl unknown
  | callValue function args span =>
    exact (addsNothing_callValue function args span expected).findings rfl rfl unknown
  | field base path span =>
    exact (addsNothing_field base path span expected).findings rfl rfl unknown
  | index base position span =>
    exact (addsNothing_index base position span expected).findings rfl rfl unknown
  | cast form operand span =>
    exact (addsNothing_cast form operand span expected).findings rfl rfl unknown
  | load form operand span =>
    exact (addsNothing_load form operand span expected).findings rfl rfl unknown

/-- A unit of one function that declares a local with neither a type nor a value and then
evaluates an expression that ends at `stop`. -/
def unknownUnit (expr : Expr) (stop : Nat) : Module :=
  ⟨"unit", [.function ⟨[], some ⟨"f", .ofLine 4 5⟩, [], some (.named "void" (.ofLine 9 13)),
    some ⟨[.letIn ⟨⟨"x", .ofLine 26 27⟩, none, none, false, .ofLine 21 30⟩, .expr expr],
      .ofLine 14 (stop + 1)⟩, .ofLine 0 (stop + 2)⟩], some (.ofLine 0 (stop + 2))⟩

/-- A call of the local with the local as its argument. -/
def unknownCall : Expr :=
  .call ⟨"x", .ofLine 37 38⟩ [.name ⟨"x", .ofLine 39 40⟩] (.ofLine 31 41)

/-- An array with the local as its only element. -/
def unknownArray : Expr :=
  .array none [.name ⟨"x", .ofLine 36 37⟩] (.ofLine 31 38)

/-- What has been found out about a unit that evaluates the expression. -/
def unknownChecked (expr : Expr) (stop : Nat) : Session :=
  Session.check (some (unknownUnit expr stop)) .standard

/-- The call says that the local is not callable and nothing else. -/
theorem findings_of_unknown_operands_call :
    ((checkExpr (demandGlobal []) unknownCall none).run
        (unknownChecked unknownCall 41)).2.findings =
      ((checkOperands (demandGlobal []) unknownCall none).run
        ((unknownChecked unknownCall 41).noting
          (calleeComplaint (unknownChecked unknownCall 41).facts unknownCall))).2.findings ++ [] :=
  findings_of_unknown_operands (demandGlobal []) (unknownChecked unknownCall 41) unknownCall none
    rfl (by decide +kernel) (by decide +kernel)

/-- One error leads to another: the local has been reported, and yet a call of it and an
array of it are reported too, where nothing is said about their operands. -/
theorem unknown_operands_reported :
    Module.decode "unit" "(fn f () void (block (let x _) (call x x)))" =
        .ok (unknownUnit unknownCall 41) ∧
      (unknownChecked unknownCall 41).bag.codes = ["T0017", "T0003"] ∧
      calleeUnknown (unknownChecked unknownCall 41) unknownCall = true ∧
      ¬AddsNothing (demandGlobal []) (unknownChecked unknownCall 41) unknownCall none ∧
      Module.decode "unit" "(fn f () void (block (let x _) (arr x)))" =
        .ok (unknownUnit unknownArray 38) ∧
      (unknownChecked unknownArray 38).bag.codes = ["T0017", "T0002"] ∧
      ¬AddsNothing (demandGlobal []) (unknownChecked unknownArray 38) unknownArray none := by
  refine ⟨Module.decode_chars (by cbv), by decide +kernel, by decide +kernel, fun adds => ?_,
    Module.decode_chars (by cbv), by decide +kernel, fun adds => ?_⟩
  · have same := congrArg List.length (adds (by decide +kernel))
    exact absurd same (by decide +kernel)
  · have same := congrArg List.length (adds (by decide +kernel))
    exact absurd same (by decide +kernel)

end Typing
end UnitCheck
