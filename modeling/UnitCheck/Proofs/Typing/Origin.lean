import UnitCheck.Proofs.Session.Origin
import UnitCheck.Proofs.Typing.Closed

/-!
# What typing finds comes from the unit

Types of expressions are put together from the types of symbols, fields and written types,
so they mention no other structs than these do. What is said is about the expressions and
statements that are typed, and about the symbols that targets of assignments lead to.
-/

namespace UnitCheck.Typing

variable {origin : Origin}

/-! ### Operations -/

/-- The promise that types mention declared structs only. -/
def originStage (origin : Origin) (session : Session) : Stage where
  start := session
  good := Ty.From origin
  fits _ _ := True

theorem from_unwrap : (type : Ty) -> type.From origin -> type.unwrap.From origin
  | .const inner, isFrom | .mutable inner, isFrom => from_unwrap inner isFrom
  | .prim _, isFrom | .opaquePointer, isFrom | .pointer _, isFrom | .array _, isFrom
  | .fixedArray _ _, isFrom | .struct _ _, isFrom | .enum _ _, isFrom
  | .function _ _ _ _, isFrom => isFrom

/-- Taking types apart and putting them together brings in no structs. -/
theorem closed_origin {session : Session} (holds : Sourced origin session) :
    (originStage origin session).Closed where
  unknown _ _ _ := trivial
  prim _ _ := trivial
  opaquePointer := trivial
  pointer _ isFrom := isFrom
  fixedArray _ _ isFrom := isFrom
  unwrap := from_unwrap
  inner type element isFrom isInner := by
    have unwrapped : type.unwrap.From origin := from_unwrap _ isFrom
    obtain isPointer | isArray | ⟨length, isFixed⟩ := isInner
    · rwa [isPointer] at unwrapped
    · rwa [isArray] at unwrapped
    · rwa [isFixed] at unwrapped
  function type params result convention variadic isFrom isFunction := by
    have unwrapped : type.unwrap.From origin := from_unwrap _ isFrom
    rw [isFunction] at unwrapped
    exact ⟨unwrapped.2, Ty.allFrom_iff.mp unwrapped.1⟩
  fields name id _ := holds.struct id

/-- The type mentions declared structs only, and what is to be said is about places. -/
structure JudgedFrom (origin : Origin) (judged : Judged) : Prop where
  type : judged.1.From origin
  said : ∀ finding ∈ judged.2, finding.From origin

theorem from_silent {type : Ty} (typeFrom : type.From origin) :
    JudgedFrom origin (type, none) :=
  ⟨typeFrom, none_from⟩

/-- A complaint about one place. -/
theorem from_said {type : Ty} {finding : Finding} {span : Span} (typeFrom : type.From origin)
    (isPlace : origin.span span) (about : finding.spans = [span]) :
    JudgedFrom origin (type, some finding) :=
  ⟨typeFrom, some_from (Finding.from_place isPlace about)⟩

section Operations

variable {session : Session} (holds : Sourced origin session)
include holds

/-- A literal has a type of its own or the type that is wanted. -/
theorem from_literalType {literal : Literal} (isFrom : literal.From origin) {expected : Option Ty}
    (wanted : ∀ type ∈ expected, type.From origin) (negated : Bool) :
    JudgedFrom origin (literalType session.options.integerType literal expected negated) := by
  have closed := closed_origin holds
  have targetFrom : (integerTarget session.options.integerType expected).From origin := by
    unfold integerTarget
    split
    · split
      · exact from_unwrap _ (wanted _ rfl)
      · exact closed.integerType session.options
    · exact closed.integerType session.options
  have overflowFrom (value : Int) (type : Ty) :
      ∀ finding ∈ overflow? literal.span value type, finding.From origin := by
    unfold overflow?
    split
    · exact none_from
    · split
      · exact none_from
      · exact some_from (Finding.from_place isFrom rfl)
  unfold literalType
  split
  · unfold integerType
    simp only
    split
    · exact from_silent targetFrom
    · split
      · exact from_said trivial isFrom rfl
      · exact ⟨closed.settleSign targetFrom, overflowFrom _ _⟩
  · split
    · refine from_silent ?_
      split
      · exact from_unwrap _ (wanted _ rfl)
      · trivial
    · exact from_silent trivial
  · exact from_silent trivial
  · exact from_silent trivial
  · exact from_silent trivial
  · split
    · refine from_silent ?_
      split
      · exact from_unwrap _ (wanted _ rfl)
      · trivial
    · exact from_silent trivial

/-- An operation has the type of an operand or one of its own. -/
theorem from_binaryType {op : BinaryOp} {span : Span} (isPlace : origin.span span) {left right : Ty}
    (leftFrom : left.From origin) (rightFrom : right.From origin) :
    JudgedFrom origin (binaryType op span left right) := by
  have widens : JudgedFrom origin (widened op span left right) := by
    unfold widened
    split
    · exact from_silent ((closed_origin holds).wider leftFrom rightFrom ‹_›)
    · exact from_said trivial isPlace rfl
  have compares : ∀ finding ∈ comparison? op span left right, finding.From origin := by
    intro finding isSaid
    refine Finding.from_place isPlace ?_
    unfold comparison? at isSaid
    split_ifs at isSaid <;> cases isSaid <;> rfl
  unfold binaryType
  split
  · exact from_silent (by split <;> trivial)
  · split_ifs
    · exact ⟨trivial, compares⟩
    · exact from_said trivial isPlace rfl
    · exact from_silent (from_unwrap _ leftFrom)
    · exact widens
    · exact from_said trivial isPlace rfl
    · exact widens

/-- An element of an array or behind a pointer has a type that the type of the base holds. -/
theorem from_elementType {base position : Expr} (baseFrom : base.From origin)
    (positionFrom : position.From origin) {type : Ty} (typeFrom : type.From origin) :
    JudgedFrom origin (elementType type base.span (constantIndex? position)) := by
  have inner := (closed_origin holds).inner type
  have indexFrom : ∀ found ∈ constantIndex? position, found.1.From origin := by
    intro found isIndex
    cases position with
    | literal literal =>
      simp only [constantIndex?] at isIndex
      split at isIndex
      · obtain ⟨value, -, rfl⟩ := Option.map_eq_some_iff.mp isIndex
        exact positionFrom
      · cases isIndex
    | _ => cases isIndex
  unfold elementType
  split
  · exact from_silent trivial
  · split
    · have elementFrom := inner _ typeFrom (.inr (.inr ⟨_, ‹_›⟩))
      split
      · rename_i isIndex
        split
        · exact from_said elementFrom (indexFrom _ isIndex) rfl
        · exact from_silent elementFrom
      · exact from_silent elementFrom
    · exact from_silent (inner _ typeFrom (.inr (.inl ‹_›)))
    · exact from_silent (inner _ typeFrom (.inl ‹_›))
    · exact from_said trivial (Expr.span_from baseFrom) rfl

end Operations

theorem from_negateType {span operandSpan : Span} (isPlace : origin.span span)
    (operandPlace : origin.span operandSpan) {type : Ty} (typeFrom : type.From origin) :
    JudgedFrom origin (negateType span operandSpan type) := by
  unfold negateType
  split_ifs
  · exact from_silent trivial
  · exact from_said trivial isPlace rfl
  · exact from_said trivial operandPlace rfl
  · exact from_silent (from_unwrap _ typeFrom)

theorem from_complementType {operandSpan : Span} (isPlace : origin.span operandSpan) {type : Ty}
    (typeFrom : type.From origin) : JudgedFrom origin (complementType operandSpan type) := by
  unfold complementType
  split_ifs
  · exact from_silent trivial
  · exact from_said trivial isPlace rfl
  · exact from_silent (from_unwrap _ typeFrom)

theorem from_literalHint {type : Ty} (typeFrom : type.From origin) :
    ∀ hint ∈ literalHint type, hint.From origin := by
  unfold literalHint
  split
  · exact none_from
  · exact some_from (from_unwrap _ typeFrom)

theorem from_better {best : Option Ty} (bestFrom : ∀ type ∈ best, type.From origin) {type : Ty}
    (typeFrom : type.From origin) : ∀ found ∈ better best type, found.From origin := by
  have unwrapped := some_from (from_unwrap _ typeFrom)
  unfold better
  split
  · exact bestFrom
  · split
    · exact unwrapped
    · split
      · exact unwrapped
      · exact bestFrom

theorem from_mismatch {span : Span} (isPlace : origin.span span) (found expected : Ty) :
    ∀ finding ∈ mismatch? span found expected, finding.From origin := by
  unfold mismatch?
  split
  · exact none_from
  · exact some_from (Finding.from_place isPlace rfl)

theorem from_logicalOperand {op : String} {span : Span} (isPlace : origin.span span) (type : Ty) :
    ∀ finding ∈ logicalOperand? op span type, finding.From origin := by
  unfold logicalOperand?
  split
  · exact none_from
  · exact some_from (Finding.from_place isPlace rfl)

/-! ### Expressions -/

theorem sourced_tell : {finding : Option Finding} -> (∀ found ∈ finding, found.From origin) ->
    (sourced origin).Obeys (tell finding)
  | some _, isFrom => Check.obeys_report (isFrom _ rfl)
  | none, _ => .pure _

theorem gives_accept {judged : Judged} (isFrom : JudgedFrom origin judged) :
    (sourced origin).Gives (accept judged) (Ty.From origin) :=
  (Regime.Gives.ofObeys (sourced_tell isFrom.said)).bind fun _ _ => .pure isFrom.type

theorem gives_record (node : NodeId) {type : Ty} (typeFrom : type.From origin) :
    (sourced origin).Gives (record node type) (Ty.From origin) :=
  (Regime.Gives.ofObeys (Check.obeys_recordExpr typeFrom)).bind fun _ _ => .pure typeFrom

theorem gives_unknown : (sourced origin).Gives (pure .unknown) (Ty.From origin) := .pure trivial

/-- Recording a type that is put together from what another walk hands on. -/
theorem gives_recorded {walk : Check Ty} (node : NodeId)
    (gives : (sourced origin).Gives walk (Ty.From origin)) :
    (sourced origin).Gives (walk >>= record node) (Ty.From origin) :=
  gives.bind fun _ typeFrom => gives_record node typeFrom

theorem gives_checkLiteral {literal : Literal} (isFrom : literal.From origin) {expected : Option Ty}
    (wanted : ∀ type ∈ expected, type.From origin) (negated : Bool) :
    (sourced origin).Gives (checkLiteral literal expected negated) (Ty.From origin) :=
  .read fun session holds =>
    gives_accept (from_literalType holds isFrom wanted negated) session holds

variable {demand : Demand}

/-- Whatever symbol is asked for, its type mentions declared structs only. -/
def DemandFrom (origin : Origin) (demand : Demand) : Prop :=
  ∀ symbol, (sourced origin).Gives (demand symbol) (Ty.From origin)

theorem gives_symbolType (givesDemand : DemandFrom origin demand) (symbol : Symbol) :
    (sourced origin).Gives (symbolType demand symbol) (Ty.From origin) := by
  refine .read fun session holds => ?_
  split
  · exact Regime.Gives.pure ((holds.knownOf symbol.id).type _ ‹_›) session holds
  · exact givesDemand symbol session holds

theorem gives_nameType (givesDemand : DemandFrom origin demand) (name : Ident) :
    (sourced origin).Gives (nameType demand name) (Ty.From origin) := by
  refine .read fun session holds => ?_
  split
  · exact gives_unknown session holds
  · split
    · exact gives_unknown session holds
    · exact gives_symbolType givesDemand _ session holds

/-- What is invoked takes and hands on values of types that mention declared structs only. -/
structure CalleeFrom (origin : Origin) (callee : Callee) : Prop where
  params : ∀ param ∈ callee.params, param.From origin
  result : callee.result.From origin

/-- What a function type says of its parameters and its result. -/
theorem from_function {type result : Ty} {params : List Ty} {convention : String} {variadic : Bool}
    (typeFrom : type.From origin)
    (isFunction : type.unwrap = .function params result convention variadic) (name : String)
    (open_ : Bool) : CalleeFrom origin ⟨name, params, result, open_⟩ := by
  have unwrapped := from_unwrap _ typeFrom
  rw [isFunction] at unwrapped
  exact ⟨Ty.allFrom_iff.mp unwrapped.1, unwrapped.2⟩

theorem gives_calleeOf (givesDemand : DemandFrom origin demand) (symbol : Symbol) :
    (sourced origin).Gives (calleeOf demand symbol) fun callee =>
      ∀ found ∈ callee, CalleeFrom origin found := by
  refine .read fun session holds => ?_
  simp only
  split
  · split
    · rename_i name id isStruct
      have paramsFrom := List.forall_mem_map.mpr (holds.struct id)
      exact Regime.Gives.pure (some_from
        ⟨paramsFrom, (holds.knownOf symbol.id).type _ isStruct⟩) session holds
    · exact Regime.Gives.pure none_from session holds
  · split
    · exact Regime.Gives.pure none_from session holds
    · refine Regime.Gives.bind (gives_symbolType givesDemand symbol) (fun type typeFrom => ?_) session
        holds
      split
      · exact .pure (some_from (from_function typeFrom ‹_› _ _))
      · exact .pure none_from

theorem sourced_reportArity {span : Span} (isPlace : origin.span span) (callee : Callee)
    (count : Nat) : (sourced origin).Obeys (reportArity callee span count) :=
  .bind (Check.obeys_report_place isPlace rfl) fun _ => Check.obeys_report_place isPlace rfl

theorem gives_chosenVariant (enumName : String) (id : TypeId) (variants path : List String)
    {span : Span} (isPlace : origin.span span) :
    (sourced origin).Gives (chosenVariant enumName id variants path span) (Ty.From origin) := by
  have unknown : (sourced origin).Gives (do
      Check.report (.unknownVariant span enumName path variants)
      return .unknown) (Ty.From origin) :=
    (Regime.Gives.ofObeys (Check.obeys_report_place isPlace rfl)).bind fun _ _ => .pure trivial
  unfold chosenVariant
  split
  · split
    · exact .pure trivial
    · exact unknown
  · exact unknown

theorem gives_variantType (symbol : Symbol) (name : Ident) (path : List String) {span : Span}
    (isPlace : origin.span span) :
    (sourced origin).Gives (variantType symbol name path span) (Ty.From origin) := by
  refine .read fun session holds => ?_
  split
  · rename_i enumName id _
    have enumFrom : Ty.From origin (.enum enumName id) := trivial
    exact Regime.Gives.bind (.ofObeys (Check.obeys_recordExpr enumFrom))
      (fun _ _ => gives_chosenVariant _ _ _ path isPlace) session holds
  · exact gives_unknown session holds

theorem gives_fieldType {base : Ty} (baseFrom : base.From origin) (path : List String) {span : Span}
    (isPlace : origin.span span) :
    (sourced origin).Gives (fieldType base path span) (Ty.From origin) := by
  unfold fieldType
  split
  · exact .pure trivial
  · refine .read fun session holds => ?_
    split
    · rename_i type steps walked
      have noted : MaySource origin (.hops span.node steps) := trivial
      refine Regime.Gives.bind (.ofObeys (Check.obeys_recordMembers noted)) (fun _ _ => .pure ?_)
        session holds
      exact (closed_origin holds).member path baseFrom walked
    · exact Regime.Gives.bind (.ofObeys (Check.obeys_report_place isPlace rfl))
        (fun _ _ => gives_unknown) session holds

theorem sourced_compareItems (element : Ty) {items : List Expr}
    (itemsFrom : Expr.AllFrom origin items) :
    (sourced origin).Obeys (compareItems element items) := by
  induction items with
  | nil => exact .pure _
  | cons item rest inductionHypothesis =>
    exact .read fun _ => .bind (sourced_tell (from_mismatch (Expr.span_from itemsFrom.1) _ _))
      fun _ => inductionHypothesis itemsFrom.2

theorem gives_pickedArray {items : List Expr} (itemsFrom : Expr.AllFrom origin items) {span : Span}
    (isPlace : origin.span span) {best : Option Ty} (bestFrom : ∀ type ∈ best, type.From origin) :
    (sourced origin).Gives (pickedArray items span best) (Ty.From origin) := by
  cases best with
  | some element =>
    exact (Regime.Gives.ofObeys (sourced_compareItems element itemsFrom)).bind fun _ _ =>
      gives_record _ (bestFrom element rfl)
  | none =>
    exact (Regime.Gives.ofObeys (Check.obeys_report_place isPlace rfl)).bind fun _ _ =>
      gives_record _ trivial

/-- Arguments, or a complaint about their number. -/
theorem gives_arguments {callee : Callee} (calleeFrom : CalleeFrom origin callee) {span : Span}
    (isPlace : origin.span span) {count : Nat} {checkArgs checkAll : Check Unit}
    (obeysArgs : (sourced origin).Obeys checkArgs) (obeysAll : (sourced origin).Obeys checkAll)
    (node : NodeId) : (sourced origin).Gives (do
      if callee.accepts count then checkArgs
      else
        reportArity callee span count
        checkAll
      record node callee.result) (Ty.From origin) := by
  have recorded := gives_record node calleeFrom.result
  simp only
  split
  · exact (Regime.Gives.ofObeys obeysArgs).bind fun _ _ => recorded
  · exact (Regime.Gives.ofObeys (sourced_reportArity isPlace callee count)).bind fun _ _ =>
      (Regime.Gives.ofObeys obeysAll).bind fun _ _ => recorded

theorem gives_givenElement {form : Option TypeForm} (formFrom : ∀ type ∈ form, type.From origin)
    {expected : Option Ty} (wanted : ∀ type ∈ expected, type.From origin) :
    (sourced origin).Gives (givenElement form expected) fun given =>
      ∀ type ∈ given, type.From origin := by
  cases form with
  | some form =>
    exact (Check.gives_recordedType form (formFrom form rfl)).bind fun _ typeFrom =>
      .pure (some_from typeFrom)
  | none =>
    exact fun session holds =>
      Regime.Gives.pure ((closed_origin holds).expectedElement wanted) session holds

-- the walks need what demands give only through each other
set_option linter.unusedSectionVars false

section Exprs

variable (givesDemand : DemandFrom origin demand)

include givesDemand

mutual

/-- The type of an expression mentions declared structs only when the type that is wanted
does. -/
theorem gives_checkExpr : (expr : Expr) -> expr.From origin ->
    (expected : Option Ty) -> (∀ type ∈ expected, type.From origin) ->
    (sourced origin).Gives (checkExpr demand expr expected) (Ty.From origin)
  | .literal literal, isFrom, expected, wanted => by
    unfold checkExpr
    exact gives_recorded _ (gives_checkLiteral isFrom wanted false)
  | .name name, _, _, _ => by
    unfold checkExpr
    exact gives_recorded _ (gives_nameType givesDemand name)
  | .binary op left right span, isFrom, expected, wanted => by
    have givesLeft := gives_checkExpr left isFrom.2.1
    have givesRight := gives_checkExpr right isFrom.2.2
    have combined {one other : Ty} (oneFrom : one.From origin) (otherFrom : other.From origin) :
        (sourced origin).Gives (accept (binaryType op span one other) >>= record span.node)
          (Ty.From origin) :=
      gives_recorded _ fun session holds =>
        gives_accept (from_binaryType holds isFrom.1 oneFrom otherFrom) session holds
    unfold checkExpr
    split
    · exact (givesLeft (some .bool) (some_from trivial)).bind fun leftType _ =>
        (givesRight (some .bool) (some_from trivial)).bind fun rightType _ =>
        (Regime.Gives.ofObeys (sourced_tell
          (from_logicalOperand (Expr.span_from isFrom.2.1) leftType))).bind fun _ _ =>
        (Regime.Gives.ofObeys (sourced_tell
          (from_logicalOperand (Expr.span_from isFrom.2.2) rightType))).bind fun _ _ =>
        gives_record _ trivial
    · have hinted : ∀ hint ∈ (if op.isComparison then none else expected), hint.From origin := by
        split
        · exact none_from
        · exact wanted
      simp only
      split
      · exact (givesRight _ hinted).bind fun _ rightFrom =>
          (givesLeft _ (from_literalHint rightFrom)).bind fun _ leftFrom =>
          combined leftFrom rightFrom
      · exact (givesLeft _ hinted).bind fun _ leftFrom =>
          (givesRight _ (from_literalHint leftFrom)).bind fun _ rightFrom =>
          combined leftFrom rightFrom
  | .unary .negate operand span, isFrom, expected, wanted => by
    unfold checkExpr
    split
    · rename_i literal isLiteral
      have literalFrom : literal.From origin := by
        unfold negatedLiteral? at isLiteral
        split at isLiteral
        · split at isLiteral
          · cases isLiteral
            exact isFrom.2
          · cases isLiteral
            exact isFrom.2
          · cases isLiteral
        · cases isLiteral
      exact (gives_checkLiteral literalFrom wanted true).bind fun _ typeFrom =>
        (Regime.Gives.ofObeys (Check.obeys_recordExpr typeFrom)).bind fun _ _ =>
        gives_record _ typeFrom
    · exact (gives_checkExpr operand isFrom.2 expected wanted).bind fun _ typeFrom =>
        gives_recorded _ (gives_accept
          (from_negateType isFrom.1 (Expr.span_from isFrom.2) typeFrom))
  | .unary .not operand span, isFrom, _, _ => by
    unfold checkExpr
    exact (gives_checkExpr operand isFrom.2 (some .bool) (some_from trivial)).bind
      fun type _ =>
      (Regime.Gives.ofObeys (sourced_tell
        (from_logicalOperand (Expr.span_from isFrom.2) type))).bind fun _ _ =>
      gives_record _ trivial
  | .unary .complement operand span, isFrom, expected, wanted => by
    unfold checkExpr
    exact (gives_checkExpr operand isFrom.2 expected wanted).bind fun _ typeFrom =>
      gives_recorded _ (gives_accept (from_complementType (Expr.span_from isFrom.2) typeFrom))
  | .call name args span, isFrom, _, _ => by
    have obeysAll := sourced_checkAll args isFrom.2.2
    have unknown : (sourced origin).Gives (do
        checkAll demand args
        record span.node .unknown) (Ty.From origin) :=
      (Regime.Gives.ofObeys obeysAll).bind fun _ _ => gives_record _ trivial
    unfold checkExpr
    refine .read fun session holds => ?_
    split
    · exact unknown session holds
    · rename_i symbol _
      refine Regime.Gives.bind (gives_calleeOf givesDemand symbol) (fun callee calleeFrom => ?_)
        session holds
      split
      · exact (Regime.Gives.ofObeys (Check.obeys_report_place isFrom.2.1 rfl)).bind fun _ _ => unknown
      · rename_i callee
        have isCallee := calleeFrom callee rfl
        exact (gives_symbolType givesDemand symbol).bind fun _ typeFrom =>
          (Regime.Gives.ofObeys (Check.obeys_recordExpr typeFrom)).bind fun _ _ =>
          gives_arguments isCallee isFrom.1
            (sourced_checkArgs args isFrom.2.2 _ isCallee.params) obeysAll _
  | .callValue function args span, isFrom, _, _ => by
    have obeysAll := sourced_checkAll args isFrom.2.2
    have unknown : (sourced origin).Gives (do
        checkAll demand args
        record span.node .unknown) (Ty.From origin) :=
      (Regime.Gives.ofObeys obeysAll).bind fun _ _ => gives_record _ trivial
    unfold checkExpr
    refine (gives_checkExpr function isFrom.2.1 _ none_from).bind fun type typeFrom => ?_
    split
    · exact unknown
    · split
      · have isCallee := from_function typeFrom ‹_› "function value" ‹_›
        exact gives_arguments isCallee isFrom.1
          (sourced_checkArgs args isFrom.2.2 _ isCallee.params) obeysAll _
      · exact (Regime.Gives.ofObeys (Check.obeys_report_place (Expr.span_from isFrom.2.1) rfl)).bind
          fun _ _ => unknown
  | .field base path span, isFrom, _, _ => by
    unfold checkExpr
    refine (Regime.Gives.ofObeys (obeys_enumBase? base)).bind fun found _ => ?_
    split
    · exact gives_recorded _ (gives_variantType _ _ path isFrom.1)
    · exact (gives_checkExpr base isFrom.2 _ none_from).bind fun _ baseFrom =>
        gives_recorded _ (gives_fieldType baseFrom path isFrom.1)
  | .index base position span, isFrom, _, _ => by
    unfold checkExpr
    refine (gives_checkExpr base isFrom.2.1 _ none_from).bind fun type typeFrom =>
      (gives_checkExpr position isFrom.2.2 (some (.prim .u64)) (some_from trivial)).bind
      fun _ _ => ?_
    have element : (sourced origin).Gives
        (accept (elementType type base.span (constantIndex? position)) >>= record span.node)
        (Ty.From origin) :=
      gives_recorded _ fun session holds =>
        gives_accept (from_elementType holds isFrom.2.1 isFrom.2.2 typeFrom) session holds
    simp only
    split
    · exact (Regime.Gives.ofObeys (Check.obeys_report_place (Expr.span_from isFrom.2.2) rfl)).bind
        fun _ _ => element
    · exact element
  | .cast form operand span, isFrom, _, _ => by
    unfold checkExpr
    refine (Check.gives_recordedType form isFrom.2.1).bind fun _ targetFrom =>
      (gives_checkExpr operand isFrom.2.2 _ none_from).bind fun _ _ => ?_
    simp only
    split
    · exact (Regime.Gives.ofObeys (Check.obeys_report_place isFrom.1 rfl)).bind fun _ _ =>
        gives_record _ targetFrom
    · exact gives_record _ targetFrom
  | .array form items span, isFrom, expected, wanted => by
    rw [checkExpr_array]
    refine (gives_givenElement isFrom.2.1 wanted).bind fun given givenFrom => ?_
    cases given with
    | some element =>
      have elementFrom := givenFrom element rfl
      exact (Regime.Gives.ofObeys (sourced_checkItems items isFrom.2.2 element
        elementFrom)).bind fun _ _ => gives_record _ elementFrom
    | none =>
      exact (gives_checkTypedItems items isFrom.2.2 _ none_from).bind fun _ hintFrom =>
        (gives_checkLiteralItems items isFrom.2.2 _ hintFrom _ hintFrom).bind
          fun _ bestFrom => gives_pickedArray isFrom.2.2 isFrom.1 bestFrom
  | .addressOf operand span, isFrom, _, _ => by
    unfold checkExpr
    refine (gives_checkExpr operand isFrom.2 _ none_from).bind fun _ _ => ?_
    have address : (sourced origin).Gives (record span.node (.prim .addr)) (Ty.From origin) :=
      gives_record _ trivial
    refine .read fun session holds => ?_
    simp only
    split
    · exact Regime.Gives.bind (.ofObeys (Check.obeys_report_place (Expr.span_from isFrom.2) rfl))
        (fun _ _ => address) session holds
    · exact address session holds
  | .load form operand span, isFrom, _, _ => by
    unfold checkExpr
    refine (Check.gives_recordedType form isFrom.2.1).bind fun _ targetFrom =>
      (gives_checkExpr operand isFrom.2.2 _ none_from).bind fun _ _ => ?_
    simp only
    split
    · exact (Regime.Gives.ofObeys (Check.obeys_report_place (Expr.span_from isFrom.2.2) rfl)).bind
        fun _ _ => gives_record _ targetFrom
    · exact gives_record _ targetFrom
  | .alloc form span, isFrom, _, _ => by
    unfold checkExpr
    exact (Check.gives_recordedType form isFrom.2).bind fun _ elementFrom =>
      gives_record _ elementFrom
  | .bad span, _, _, _ => by
    unfold checkExpr
    exact gives_record _ trivial

theorem sourced_checkAll : (exprs : List Expr) -> Expr.AllFrom origin exprs ->
    (sourced origin).Obeys (checkAll demand exprs)
  | [], _ => by
    unfold checkAll
    exact .pure _
  | expr :: rest, isFrom => by
    unfold checkAll
    exact .bind (gives_checkExpr expr isFrom.1 _ none_from).obeys fun _ =>
      sourced_checkAll rest isFrom.2

theorem sourced_checkArgs : (exprs : List Expr) -> Expr.AllFrom origin exprs ->
    (params : List Ty) -> (∀ param ∈ params, param.From origin) ->
    (sourced origin).Obeys (checkArgs demand params exprs)
  | [], _, _, _ => by
    unfold checkArgs
    exact .pure _
  | expr :: rest, isFrom, [], _ => by
    unfold checkArgs
    exact .bind (gives_checkExpr expr isFrom.1 _ none_from).obeys fun _ =>
      sourced_checkArgs rest isFrom.2 _ (List.forall_mem_nil _)
  | expr :: rest, isFrom, param :: params, paramsFrom => by
    obtain ⟨paramFrom, othersFrom⟩ := List.forall_mem_cons.mp paramsFrom
    unfold checkArgs
    exact .bind (gives_checkExpr expr isFrom.1 _ (some_from paramFrom)).obeys fun _ =>
      .bind (sourced_tell (from_mismatch (Expr.span_from isFrom.1) _ _)) fun _ =>
      sourced_checkArgs rest isFrom.2 _ othersFrom

theorem sourced_checkItems : (exprs : List Expr) -> Expr.AllFrom origin exprs ->
    (element : Ty) -> element.From origin ->
    (sourced origin).Obeys (checkItems demand element exprs)
  | [], _, _, _ => by
    unfold checkItems
    exact .pure _
  | expr :: rest, isFrom, element, elementFrom => by
    unfold checkItems
    exact .bind (gives_checkExpr expr isFrom.1 _ (some_from elementFrom)).obeys fun _ =>
      .bind (sourced_tell (from_mismatch (Expr.span_from isFrom.1) _ _)) fun _ =>
      sourced_checkItems rest isFrom.2 element elementFrom

theorem gives_checkTypedItems : (exprs : List Expr) -> Expr.AllFrom origin exprs ->
    (best : Option Ty) -> (∀ type ∈ best, type.From origin) ->
    (sourced origin).Gives (checkTypedItems demand best exprs) fun found =>
      ∀ type ∈ found, type.From origin
  | [], _, best, bestFrom => by
    unfold checkTypedItems
    exact .pure bestFrom
  | expr :: rest, isFrom, best, bestFrom => by
    unfold checkTypedItems
    split
    · exact gives_checkTypedItems rest isFrom.2 best bestFrom
    · exact (gives_checkExpr expr isFrom.1 _ none_from).bind fun _ typeFrom =>
        gives_checkTypedItems rest isFrom.2 _ (from_better bestFrom typeFrom)

theorem gives_checkLiteralItems : (exprs : List Expr) -> Expr.AllFrom origin exprs ->
    (hint : Option Ty) -> (∀ type ∈ hint, type.From origin) ->
    (best : Option Ty) -> (∀ type ∈ best, type.From origin) ->
    (sourced origin).Gives (checkLiteralItems demand hint best exprs) fun found =>
      ∀ type ∈ found, type.From origin
  | [], _, _, _, best, bestFrom => by
    unfold checkLiteralItems
    exact .pure bestFrom
  | expr :: rest, isFrom, hint, hintFrom, best, bestFrom => by
    unfold checkLiteralItems
    split
    · refine (gives_checkExpr expr isFrom.1 hint hintFrom).bind fun _ typeFrom =>
        gives_checkLiteralItems rest isFrom.2 hint hintFrom _ ?_
      split
      · exact from_better bestFrom typeFrom
      · exact bestFrom
    · exact gives_checkLiteralItems rest isFrom.2 hint hintFrom best bestFrom

end

end Exprs

end UnitCheck.Typing
