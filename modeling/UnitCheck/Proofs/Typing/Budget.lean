import UnitCheck.Proofs.Typing.Literals

/-!
# What typing keeps and what it costs

A `Budget` is a property that walks keep, together with a relation between the sessions
before and behind a walk that a list of nodes pays for. Typing an expression is paid for by
the nodes of the expression and typing a statement by its slots, each of them once, whatever
is found on the way: that is shown here for every budget that allows the elementary steps of
typing (`Allows`). What demanding a global costs is part of what the budget has to allow.
-/

namespace UnitCheck.Typing

/-- A property of sessions, and what a list of nodes pays for. -/
structure Budget where
  holds : Session -> Prop
  pays : List NodeId -> Session -> Session -> Prop
  nothing : ∀ session, pays [] session session
  trans : ∀ {nodes more before middle after}, pays nodes before middle →
    pays more middle after → pays (nodes ++ more) before after
  mono : ∀ {nodes more before after}, (∀ node, nodes.count node ≤ more.count node) →
    pays nodes before after → pays more before after

namespace Budget

variable {budget : Budget} {nodes more : List NodeId} {α β : Type}

/-- The walk keeps the property of the budget and is paid for by the nodes. -/
def Keeps (budget : Budget) (nodes : List NodeId) (walk : Check α) : Prop :=
  ∀ session, budget.holds session → budget.holds (walk.run session).2 ∧
    budget.pays nodes session (walk.run session).2

/-- In some session of the budget the node refers to the symbol. -/
def Means (budget : Budget) (node : NodeId) (symbol : Symbol) : Prop :=
  ∃ session, budget.holds session ∧ session.facts.refs.find? node = some symbol

namespace Keeps

theorem pure (value : α) : budget.Keeps [] (pure value : Check α) :=
  fun session holds => ⟨holds, budget.nothing session⟩

theorem bind {walk : Check α} {rest : α -> Check β} (first : budget.Keeps nodes walk)
    (second : ∀ value, budget.Keeps more (rest value)) :
    budget.Keeps (nodes ++ more) (walk >>= rest) := by
  intro session holds
  obtain ⟨middle, paid⟩ := first session holds
  obtain ⟨last, paidRest⟩ := second (walk.run session).1 _ middle
  exact ⟨last, budget.trans paid paidRest⟩

/-- A step in front that costs nothing. -/
theorem behind {walk : Check α} {rest : α -> Check β} (first : budget.Keeps [] walk)
    (second : ∀ value, budget.Keeps nodes (rest value)) : budget.Keeps nodes (walk >>= rest) :=
  first.bind second

/-- A step at the end that costs nothing. -/
theorem ahead {walk : Check α} {rest : α -> Check β} (first : budget.Keeps nodes walk)
    (second : ∀ value, budget.Keeps [] (rest value)) : budget.Keeps nodes (walk >>= rest) := by
  simpa using first.bind second

theorem mono {walk : Check α} (keeps : budget.Keeps nodes walk)
    (fewer : ∀ node, nodes.count node ≤ more.count node) : budget.Keeps more walk := by
  intro session holds
  obtain ⟨holds, paid⟩ := keeps session holds
  exact ⟨holds, budget.mono fewer paid⟩

/-- A walk that looks at the session first. -/
theorem read {rest : Session -> Check α}
    (keeps : ∀ session, budget.holds session → budget.Keeps nodes (rest session)) :
    budget.Keeps nodes (get >>= rest) :=
  fun session holds => keeps session holds session holds

/-- A walk over a list. -/
theorem forM {visit : α -> Check Unit} {slots : α -> List NodeId} (values : List α)
    (keeps : ∀ value ∈ values, budget.Keeps (slots value) (visit value)) :
    budget.Keeps (values.flatMap slots) (values.forM visit) := by
  induction values with
  | nil => exact .pure _
  | cons value rest inductionHypothesis =>
    obtain ⟨first, others⟩ := List.forall_mem_cons.mp keeps
    exact first.bind fun _ => inductionHypothesis others

/-- Acts that neither break the property nor cost anything are free in any number. -/
theorem of_obeys {regime : Regime} {walk : Check α} (obeys : regime.Obeys walk)
    (ready : ∀ session, budget.holds session → regime.holds session)
    (spares : ∀ act session, regime.permits act → budget.holds session →
      budget.holds (Act.apply session act) ∧ budget.pays [] session (Act.apply session act)) :
    budget.Keeps [] walk := by
  intro session holds
  have trace := obeys session (ready session holds)
  generalize (walk.run session).2 = after at trace
  induction trace with
  | refl => exact ⟨holds, budget.nothing _⟩
  | step _ act permitted inductionHypothesis =>
    obtain ⟨holds, paid⟩ := inductionHypothesis
    obtain ⟨holds, paidAct⟩ := spares act _ permitted holds
    exact ⟨holds, budget.trans paid paidAct⟩

end Keeps
end Budget

/-! ### The elementary steps -/

/-- The nodes at which names are looked up, other expressions get a type and values are
declared, the written types that are asked for, and the literals that are typed, by themselves
or negated. -/
structure Grounds where
  name : NodeId -> Prop
  plain : NodeId -> Prop
  value : NodeId -> Prop
  form : TypeForm -> Prop
  literal : Literal -> Bool -> Prop

namespace Grounds

variable {grounds : Grounds} {expr : Expr} {first second rest : List Expr}

/-- The grounds take in the expression by itself. -/
structure TakesOwn (grounds : Grounds) (expr : Expr) : Prop where
  names : ∀ name ∈ expr.ownNames, grounds.name name.span.node
  plain : expr.isLiteral = false → ∀ node ∈ expr.ownPlain, grounds.plain node
  forms : ∀ form ∈ expr.ownForms, grounds.form form
  literals : ∀ entry ∈ expr.ownLiterals, grounds.literal entry.1 entry.2

/-- The grounds take in all these expressions by themselves. -/
def Takes (grounds : Grounds) (exprs : List Expr) : Prop :=
  ∀ expr ∈ exprs, grounds.TakesOwn expr

@[simp] theorem takes_nil : grounds.Takes [] := by
  simp [Takes]

@[simp] theorem takes_cons :
    grounds.Takes (expr :: rest) ↔ grounds.TakesOwn expr ∧ grounds.Takes rest := by
  simp [Takes]

@[simp] theorem takes_append :
    grounds.Takes (first ++ second) ↔ grounds.Takes first ∧ grounds.Takes second := by
  simp [Takes, or_imp, forall_and]

/-- The grounds take in a binding. -/
structure TakesBinding (grounds : Grounds) (form : Option TypeForm) (value : Option Expr) :
    Prop where
  forms : ∀ written ∈ form, grounds.form written
  exprs : ∀ expr ∈ value, grounds.Takes expr.visits

/-- The grounds take in the statement by itself. -/
structure TakesStmt (grounds : Grounds) (stmt : Stmt) : Prop where
  values : ∀ node ∈ stmt.ownValues, grounds.value node
  forms : ∀ form ∈ stmt.ownForms, grounds.form form
  exprs : ∀ expr ∈ stmt.ownExprs, grounds.Takes expr.visits

theorem TakesStmt.binding {stmt : Stmt} {form : Option TypeForm} {value : Option Expr}
    (takes : grounds.TakesStmt stmt) (forms : stmt.ownForms = form.toList)
    (exprs : stmt.ownExprs = value.toList) : grounds.TakesBinding form value where
  forms written isForm := takes.forms written (by simpa [forms] using isForm)
  exprs expr isValue := takes.exprs expr (by simpa [exprs] using isValue)

end Grounds

/-- The budget allows the elementary steps of typing on these grounds. A node is charged
where its type is recorded; what is demanded is free. -/
structure Allows (budget : Budget) (grounds : Grounds) (demand : Demand) : Prop where
  report : ∀ finding, finding.isOverflow = false → budget.Keeps [] (Check.report finding)
  hops : ∀ node steps, budget.Keeps [] (Check.recordMembers node steps)
  form : ∀ form, grounds.form form → budget.Keeps [] (Check.recordedType form)
  settle : ∀ node type, grounds.value node → budget.Keeps [] (setDeclType node type)
  plain : ∀ node type, grounds.plain node → budget.Keeps [node] (Check.recordExpr node type)
  literal : ∀ literal negated expected, grounds.literal literal negated →
    budget.Keeps [literal.span.node]
      (checkLiteral literal expected negated >>= record literal.span.node)
  name : ∀ name : Ident, grounds.name name.span.node →
    budget.Keeps [name.span.node] (nameType demand name >>= record name.span.node)
  calls : ∀ node symbol, grounds.name node → budget.Means node symbol →
    budget.Keeps [] (calleeOf demand symbol)
  callee : ∀ node symbol, grounds.name node → budget.Means node symbol →
    budget.Keeps [node] (symbolType demand symbol >>= Check.recordExpr node)
  variant : ∀ node symbol type, grounds.name node → budget.Means node symbol →
    symbol.kind = .enum → budget.Keeps [node] (Check.recordExpr node type)

variable {budget : Budget} {grounds : Grounds} {demand : Demand}

/-- Where reports are free and its node may be typed, a literal is paid for by its node. -/
theorem keeps_literal {literal : Literal} {expected : Option Ty} {negated : Bool}
    (report : ∀ finding, budget.Keeps [] (Check.report finding))
    (plain : ∀ type, budget.Keeps [literal.span.node] (Check.recordExpr literal.span.node type)) :
    budget.Keeps [literal.span.node]
      (checkLiteral literal expected negated >>= record literal.span.node) := by
  refine .behind (.read fun session _ => .behind ?_ fun _ => .pure _) fun type =>
    .ahead (plain type) fun _ => .pure _
  cases (literalType session.options.integerType literal expected negated).2 with
  | some finding => exact report finding
  | none => exact .pure _

section Free

variable (free : ∀ symbol, budget.Keeps [] (demand symbol))

include free

/-- Where demands are free, asking for the type of a symbol is. -/
theorem keeps_symbolType (symbol : Symbol) : budget.Keeps [] (symbolType demand symbol) := by
  refine .read fun session _ => ?_
  split
  · exact .pure _
  · exact free symbol

theorem keeps_nameType (name : Ident) : budget.Keeps [] (nameType demand name) := by
  refine .read fun session _ => ?_
  split
  · exact .pure _
  · split
    · exact .pure _
    · exact keeps_symbolType free _

theorem keeps_calleeOf (symbol : Symbol) : budget.Keeps [] (calleeOf demand symbol) := by
  refine .read fun session _ => ?_
  simp only
  split
  · split <;> exact .pure _
  · split
    · exact .pure _
    · refine .behind (keeps_symbolType free symbol) fun type => ?_
      split <;> exact .pure _

end Free

/-- A demand that asks for globals is free when each global is. -/
theorem keeps_answer {all : List Global} {answer : Global -> Check Ty}
    (keeps : ∀ global ∈ all, budget.Keeps [] (answer global)) (symbol : Symbol) :
    budget.Keeps [] (match all.find? (fun other => symbol.id = .node other.node) with
      | some other => answer other
      | none => return .unknown) := by
  cases found : all.find? (fun other => symbol.id = .node other.node) with
  | some other => exact keeps other (List.mem_of_find?_eq_some found)
  | none => exact .pure _

section Negation

variable {literal : Literal} {operand : Expr} {span : Span} {expected : Option Ty}

/-- A number right behind a minus is typed together with it. -/
theorem checkExpr_negated (isJoined : joined? .negate (.literal literal) = some literal) :
    checkExpr demand (.unary .negate (.literal literal) span) expected =
      checkLiteral literal expected true >>= record literal.span.node >>= record span.node := by
  have known : negatedLiteral? (.literal literal) = some literal := isJoined
  rw [bind_assoc, checkExpr, known]
  rfl

/-- Any other operand of a minus is typed on its own. -/
theorem checkExpr_negate (isJoined : joined? .negate operand = none) :
    checkExpr demand (.unary .negate operand span) expected = (do
      let type <- checkExpr demand operand expected
      record span.node (<- accept (negateType span operand.span type))) := by
  have unknown : negatedLiteral? operand = none := isJoined
  rw [checkExpr, unknown]

end Negation

section Steps

variable (allows : Allows budget grounds demand)

include allows

theorem keeps_tell {said : Option Finding} (spared : Spared said) : budget.Keeps [] (tell said) := by
  cases said with
  | some finding => exact allows.report finding (spared finding rfl)
  | none => exact .pure _

theorem keeps_accept {judged : Judged} (spared : Spared judged.2) :
    budget.Keeps [] (accept judged) :=
  .behind (keeps_tell allows spared) fun _ => .pure _

theorem keeps_record {node : NodeId} (isPlain : grounds.plain node) (type : Ty) :
    budget.Keeps [node] (record node type) :=
  .ahead (allows.plain node type isPlain) fun _ => .pure _

theorem keeps_reportArity (callee : Callee) (span : Span) (count : Nat) :
    budget.Keeps [] (reportArity callee span count) :=
  .behind (allows.report _ rfl) fun _ => allows.report _ rfl

theorem keeps_chosenVariant (enumName : String) (id : TypeId) (variants path : List String)
    (span : Span) : budget.Keeps [] (chosenVariant enumName id variants path span) := by
  unfold chosenVariant
  split
  · split
    · exact .pure _
    · exact .behind (allows.report _ rfl) fun _ => .pure _
  · exact .behind (allows.report _ rfl) fun _ => .pure _

theorem keeps_variantType {symbol : Symbol} {name : Ident} (isName : grounds.name name.span.node)
    (means : budget.Means name.span.node symbol) (isEnum : symbol.kind = .enum)
    (path : List String) (span : Span) :
    budget.Keeps [name.span.node] (variantType symbol name path span) := by
  refine .read fun session _ => ?_
  split
  · exact .ahead (allows.variant _ symbol _ isName means isEnum) fun _ =>
      keeps_chosenVariant allows _ _ _ path span
  · exact Budget.Keeps.mono (.pure _) fun _ => Nat.zero_le _

theorem keeps_fieldType (base : Ty) (path : List String) (span : Span) :
    budget.Keeps [] (fieldType base path span) := by
  unfold fieldType
  split
  · exact .pure _
  · refine .read fun session _ => ?_
    split
    · exact .behind (allows.hops _ _) fun _ => .pure _
    · exact .behind (allows.report _ rfl) fun _ => .pure _

theorem keeps_compareItems (element : Ty) (items : List Expr) :
    budget.Keeps [] (compareItems element items) := by
  induction items with
  | nil => exact .pure _
  | cons item rest inductionHypothesis =>
    exact .read fun _ _ => .behind (keeps_tell allows spared_mismatch) fun _ => inductionHypothesis

theorem keeps_pickedArray {span : Span} (isPlain : grounds.plain span.node) (items : List Expr)
    (best : Option Ty) : budget.Keeps [span.node] (pickedArray items span best) := by
  cases best with
  | some element =>
    exact .behind (keeps_compareItems allows _ _) fun _ => keeps_record allows isPlain _
  | none => exact .behind (allows.report _ rfl) fun _ => keeps_record allows isPlain _

/-- Arguments, or a complaint about their number. -/
theorem keeps_arguments {callee : Callee} {span : Span} {count : Nat} {nodes : List NodeId}
    {checkArgs checkAll : Check Unit} (keepsArgs : budget.Keeps nodes checkArgs)
    (keepsAll : budget.Keeps nodes checkAll) {node : NodeId} (isPlain : grounds.plain node)
    (result : Ty) :
    budget.Keeps (nodes ++ [node]) (do
      if callee.accepts count then checkArgs
      else
        reportArity callee span count
        checkAll
      record node result) := by
  simp only
  split
  · exact keepsArgs.bind fun _ => keeps_record allows isPlain _
  · exact .behind (keeps_reportArity allows _ _ _) fun _ =>
      keepsAll.bind fun _ => keeps_record allows isPlain _

omit allows in
/-- A base that names an enumeration is a name that refers to its symbol. -/
theorem means_of_enumBase? {base : Expr} {session : Session} {symbol : Symbol} {name : Ident}
    (named : (enumBase? base).run session = (some (symbol, name), session)) :
    base = .name name ∧ session.facts.refs.find? name.span.node = some symbol ∧
      symbol.kind = .enum := by
  unfold enumBase? at named
  split at named
  · rw [StateT.run_bind, StateT.run_get, pure_bind] at named
    split at named
    · rename_i found
      split at named
      · rename_i isEnum
        cases named
        exact ⟨rfl, found, isEnum⟩
      · cases named
    · cases named
  · cases named

end Steps

/-! ### Expressions -/

mutual

/-- Typing an expression is paid for by its nodes. -/
theorem keeps_checkExpr (allows : Allows budget grounds demand) :
    (expr : Expr) -> grounds.Takes expr.visits -> (expected : Option Ty) ->
    budget.Keeps expr.nodes (checkExpr demand expr expected)
  | .literal literal, taken, expected => by
    simp only [Expr.visits, Grounds.takes_cons] at taken
    unfold checkExpr
    exact allows.literal literal false expected (taken.1.literals _ List.mem_cons_self)
  | .name name, taken, expected => by
    simp only [Expr.visits, Grounds.takes_cons] at taken
    unfold checkExpr
    exact allows.name name (taken.1.names name List.mem_cons_self)
  | .binary op left right span, taken, expected => by
    simp only [Expr.visits, Grounds.takes_cons, Grounds.takes_append] at taken
    have keepsLeft := keeps_checkExpr allows left taken.2.1
    have keepsRight := keeps_checkExpr allows right taken.2.2
    have last := keeps_record allows (taken.1.plain rfl span.node List.mem_cons_self)
    unfold checkExpr
    split
    · refine ((keepsLeft _).bind fun _ => (keepsRight _).bind fun _ =>
        .behind (keeps_tell allows spared_logicalOperand) fun _ => .behind (keeps_tell allows spared_logicalOperand) fun _ =>
        last _).mono fun node => ?_
      simp [List.count_cons]
      omega
    · simp only
      split
      · refine ((keepsRight _).bind fun _ => (keepsLeft _).bind fun _ =>
          .behind (keeps_accept allows spared_binaryType) fun _ => last _).mono fun node => ?_
        simp [List.count_cons]
        omega
      · refine ((keepsLeft _).bind fun _ => (keepsRight _).bind fun _ =>
          .behind (keeps_accept allows spared_binaryType) fun _ => last _).mono fun node => ?_
        simp [List.count_cons]
        omega
  | .unary .negate operand span, taken, expected => by
    simp only [Expr.visits, Grounds.takes_cons] at taken
    have last := keeps_record allows (taken.1.plain rfl span.node List.mem_cons_self)
    cases isJoined : joined? .negate operand with
    | some literal =>
      obtain ⟨-, rfl⟩ := eq_of_joined isJoined
      have isOwn : (literal, true) ∈ (Expr.unary .negate (.literal literal) span).ownLiterals := by
        simp [Expr.ownLiterals, isJoined]
      rw [checkExpr_negated isJoined]
      refine ((allows.literal literal true expected (taken.1.literals _ isOwn)).bind
        last).mono fun node => ?_
      simp [List.count_cons]
      omega
    | none =>
      have inner : grounds.Takes operand.visits := by
        simpa [isJoined] using taken.2
      rw [checkExpr_negate isJoined]
      refine ((keeps_checkExpr allows operand inner _).bind fun _ =>
        .behind (keeps_accept allows spared_negateType) fun _ => last _).mono fun node => ?_
      simp [List.count_cons]
  | .unary .not operand span, taken, expected => by
    simp only [Expr.visits, Grounds.takes_cons] at taken
    have last := keeps_record allows (taken.1.plain rfl span.node List.mem_cons_self)
    unfold checkExpr
    refine ((keeps_checkExpr allows operand taken.2 _).bind fun _ =>
      .behind (keeps_tell allows spared_logicalOperand) fun _ => last _).mono fun node => ?_
    simp [List.count_cons]
  | .unary .complement operand span, taken, expected => by
    simp only [Expr.visits, Grounds.takes_cons] at taken
    have last := keeps_record allows (taken.1.plain rfl span.node List.mem_cons_self)
    unfold checkExpr
    refine ((keeps_checkExpr allows operand taken.2 _).bind fun _ =>
      .behind (keeps_accept allows spared_complementType) fun _ => last _).mono fun node => ?_
    simp [List.count_cons]
  | .call name args span, taken, expected => by
    simp only [Expr.visits, Grounds.takes_cons] at taken
    have isName := taken.1.names name List.mem_cons_self
    have isPlain := taken.1.plain rfl span.node List.mem_cons_self
    have keepsAll := keeps_checkAll allows args taken.2
    have unknown : budget.Keeps (Expr.nodesAll args ++ [span.node]) (do
        checkAll demand args
        record span.node .unknown) := keepsAll.bind fun _ => keeps_record allows isPlain _
    have fewer (node : NodeId) : (Expr.nodesAll args ++ [span.node]).count node ≤
        (Expr.call name args span).nodes.count node := by
      simp [List.count_cons]
    unfold checkExpr
    refine .read fun session holds => ?_
    split
    · exact unknown.mono fewer
    · rename_i symbol found
      have means : budget.Means name.span.node symbol := ⟨session, holds, found⟩
      refine .behind (allows.calls _ symbol isName means) fun callee => ?_
      split
      · exact (Budget.Keeps.behind (allows.report _ rfl) fun _ => unknown).mono fewer
      · rename_i callee
        rw [← bind_assoc]
        refine ((allows.callee _ symbol isName means).bind fun _ =>
          keeps_arguments allows (keeps_checkArgs allows args taken.2 callee.params) keepsAll
            isPlain callee.result).mono fun node => ?_
        simp [List.count_cons]
  | .callValue function args span, taken, expected => by
    simp only [Expr.visits, Grounds.takes_cons, Grounds.takes_append] at taken
    have isPlain := taken.1.plain rfl span.node List.mem_cons_self
    have keepsAll := keeps_checkAll allows args taken.2.2
    have unknown : budget.Keeps (Expr.nodesAll args ++ [span.node]) (do
        checkAll demand args
        record span.node .unknown) := keepsAll.bind fun _ => keeps_record allows isPlain _
    unfold checkExpr
    refine ((keeps_checkExpr allows function taken.2.1 none).bind fun type =>
      (?_ : budget.Keeps (Expr.nodesAll args ++ [span.node]) _)).mono fun node => ?_
    · split
      · exact unknown
      · split
        · exact keeps_arguments allows (keeps_checkArgs allows args taken.2.2 _) keepsAll isPlain _
        · exact .behind (allows.report _ rfl) fun _ => unknown
    · simp [List.count_cons]
      omega
  | .field base path span, taken, expected => by
    simp only [Expr.visits, Grounds.takes_cons] at taken
    have last := keeps_record allows (taken.1.plain rfl span.node List.mem_cons_self)
    intro session holds
    obtain ⟨found, asked⟩ := run_enumBase? base session
    cases found with
    | some named =>
      obtain ⟨symbol, name⟩ := named
      obtain ⟨rfl, refers, isEnum⟩ := means_of_enumBase? asked
      simp only [Expr.visits, Grounds.takes_cons] at taken
      have isName := taken.2.1.names name List.mem_cons_self
      rw [run_checkExpr_variant asked]
      refine Budget.Keeps.mono ((keeps_variantType allows isName ⟨session, holds, refers⟩ isEnum
        path span).bind fun _ => last _) (fun node => ?_) session holds
      simp [List.count_cons]
      omega
    | none =>
      rw [run_checkExpr_field asked]
      refine Budget.Keeps.mono ((keeps_checkExpr allows base taken.2 none).bind fun _ =>
        .behind (keeps_fieldType allows _ path span) fun _ => last _) (fun node => ?_) session holds
      simp [List.count_cons]
  | .index base position span, taken, expected => by
    simp only [Expr.visits, Grounds.takes_cons, Grounds.takes_append] at taken
    have last := keeps_record allows (taken.1.plain rfl span.node List.mem_cons_self)
    have keepsBase := keeps_checkExpr allows base taken.2.1
    have keepsPosition := keeps_checkExpr allows position taken.2.2
    unfold checkExpr
    refine ((keepsBase _).bind fun _ => (keepsPosition _).bind fun _ =>
      (?_ : budget.Keeps [span.node] _)).mono fun node => ?_
    · simp only
      split
      · exact .behind (allows.report _ rfl) fun _ => .behind (keeps_accept allows spared_elementType) fun _ => last _
      · exact .behind (keeps_accept allows spared_elementType) fun _ => last _
    · simp [List.count_cons]
      omega
  | .cast form operand span, taken, expected => by
    simp only [Expr.visits, Grounds.takes_cons] at taken
    have last := keeps_record allows (taken.1.plain rfl span.node List.mem_cons_self)
    unfold checkExpr
    refine Budget.Keeps.behind (allows.form form (taken.1.forms form List.mem_cons_self)) fun _ =>
      ((keeps_checkExpr allows operand taken.2 none).bind fun _ =>
        (?_ : budget.Keeps [span.node] _)).mono fun node => ?_
    · simp only
      split
      · exact .behind (allows.report _ rfl) fun _ => last _
      · exact last _
    · simp [List.count_cons]
  | .array form items span, taken, expected => by
    simp only [Expr.visits, Grounds.takes_cons] at taken
    have isPlain := taken.1.plain rfl span.node List.mem_cons_self
    rw [checkExpr_array]
    refine .behind ?_ fun element => ?_
    · cases form with
      | some form =>
        exact .behind (allows.form form (taken.1.forms form (by simp [Expr.ownForms])))
          fun _ => .pure _
      | none => exact .pure _
    · cases element with
      | some element =>
        refine ((keeps_checkItems allows items taken.2 element).bind fun _ =>
          keeps_record allows isPlain _).mono fun node => ?_
        simp [List.count_cons]
      | none =>
        refine ((keeps_checkTypedItems allows items taken.2 none).bind fun hint =>
          (keeps_checkLiteralItems allows items taken.2 hint hint).bind fun best =>
          keeps_pickedArray allows isPlain items best).mono fun node => ?_
        have both := Stage.count_nodes_items items node
        simp [List.count_cons]
        omega
  | .addressOf operand span, taken, expected => by
    simp only [Expr.visits, Grounds.takes_cons] at taken
    have last := keeps_record allows (taken.1.plain rfl span.node List.mem_cons_self)
    unfold checkExpr
    refine ((keeps_checkExpr allows operand taken.2 none).bind fun _ => .read fun _ _ =>
      (?_ : budget.Keeps [span.node] _)).mono fun node => ?_
    · simp only
      split
      · exact .behind (allows.report _ rfl) fun _ => last _
      · exact last _
    · simp [List.count_cons]
  | .load form operand span, taken, expected => by
    simp only [Expr.visits, Grounds.takes_cons] at taken
    have last := keeps_record allows (taken.1.plain rfl span.node List.mem_cons_self)
    unfold checkExpr
    refine Budget.Keeps.behind (allows.form form (taken.1.forms form List.mem_cons_self)) fun _ =>
      ((keeps_checkExpr allows operand taken.2 none).bind fun _ =>
        (?_ : budget.Keeps [span.node] _)).mono fun node => ?_
    · simp only
      split
      · exact .behind (allows.report _ rfl) fun _ => last _
      · exact last _
    · simp [List.count_cons]
  | .alloc form span, taken, expected => by
    simp only [Expr.visits, Grounds.takes_cons] at taken
    unfold checkExpr
    exact .behind (allows.form form (taken.1.forms form List.mem_cons_self)) fun _ =>
      keeps_record allows (taken.1.plain rfl span.node List.mem_cons_self) _
  | .bad span, taken, expected => by
    simp only [Expr.visits, Grounds.takes_cons] at taken
    unfold checkExpr
    exact keeps_record allows (taken.1.plain rfl span.node List.mem_cons_self) _

/-- Typing several expressions is paid for by their nodes. -/
theorem keeps_checkAll (allows : Allows budget grounds demand) :
    (exprs : List Expr) -> grounds.Takes (Expr.visitsAll exprs) ->
    budget.Keeps (Expr.nodesAll exprs) (checkAll demand exprs)
  | [], _ => by
    unfold checkAll
    exact .pure _
  | expr :: rest, taken => by
    simp only [Expr.visitsAll, Grounds.takes_append] at taken
    unfold checkAll
    rw [Expr.nodesAll_cons]
    exact (keeps_checkExpr allows expr taken.1 none).bind fun _ =>
      keeps_checkAll allows rest taken.2

/-- Typing arguments is paid for by their nodes. -/
theorem keeps_checkArgs (allows : Allows budget grounds demand) :
    (exprs : List Expr) -> grounds.Takes (Expr.visitsAll exprs) ->
    (params : List Ty) -> budget.Keeps (Expr.nodesAll exprs) (checkArgs demand params exprs)
  | [], _, params => by
    unfold checkArgs
    exact .pure _
  | expr :: rest, taken, [] => by
    simp only [Expr.visitsAll, Grounds.takes_append] at taken
    unfold checkArgs
    rw [Expr.nodesAll_cons]
    exact (keeps_checkExpr allows expr taken.1 none).bind fun _ =>
      keeps_checkArgs allows rest taken.2 []
  | expr :: rest, taken, param :: params => by
    simp only [Expr.visitsAll, Grounds.takes_append] at taken
    unfold checkArgs
    rw [Expr.nodesAll_cons]
    exact (keeps_checkExpr allows expr taken.1 _).bind fun _ =>
      .behind (keeps_tell allows spared_mismatch) fun _ => keeps_checkArgs allows rest taken.2 params

/-- Typing elements of a given type is paid for by their nodes. -/
theorem keeps_checkItems (allows : Allows budget grounds demand) :
    (exprs : List Expr) -> grounds.Takes (Expr.visitsAll exprs) ->
    (element : Ty) -> budget.Keeps (Expr.nodesAll exprs) (checkItems demand element exprs)
  | [], _, element => by
    unfold checkItems
    exact .pure _
  | expr :: rest, taken, element => by
    simp only [Expr.visitsAll, Grounds.takes_append] at taken
    unfold checkItems
    rw [Expr.nodesAll_cons]
    exact (keeps_checkExpr allows expr taken.1 _).bind fun _ =>
      .behind (keeps_tell allows spared_mismatch) fun _ => keeps_checkItems allows rest taken.2 element

/-- The first sweep over elements is paid for by those that are no untyped literals. -/
theorem keeps_checkTypedItems (allows : Allows budget grounds demand) :
    (exprs : List Expr) -> grounds.Takes (Expr.visitsAll exprs) ->
    (best : Option Ty) ->
    budget.Keeps (Expr.nodesAll (exprs.filter fun item => !item.isUntypedLiteral))
      (checkTypedItems demand best exprs)
  | [], _, best => by
    unfold checkTypedItems
    exact .pure _
  | expr :: rest, taken, best => by
    simp only [Expr.visitsAll, Grounds.takes_append] at taken
    unfold checkTypedItems
    split
    · rename_i literal
      rw [List.filter_cons_of_neg (by simp [literal])]
      exact keeps_checkTypedItems allows rest taken.2 best
    · rename_i typed
      rw [List.filter_cons_of_pos (by simp [typed]), Expr.nodesAll_cons]
      exact (keeps_checkExpr allows expr taken.1 none).bind fun _ =>
        keeps_checkTypedItems allows rest taken.2 _

/-- The second sweep over elements is paid for by the untyped literals. -/
theorem keeps_checkLiteralItems (allows : Allows budget grounds demand) :
    (exprs : List Expr) -> grounds.Takes (Expr.visitsAll exprs) ->
    (hint best : Option Ty) ->
    budget.Keeps (Expr.nodesAll (exprs.filter fun item => item.isUntypedLiteral))
      (checkLiteralItems demand hint best exprs)
  | [], _, hint, best => by
    unfold checkLiteralItems
    exact .pure _
  | expr :: rest, taken, hint, best => by
    simp only [Expr.visitsAll, Grounds.takes_append] at taken
    unfold checkLiteralItems
    split
    · rename_i literal
      rw [List.filter_cons_of_pos literal, Expr.nodesAll_cons]
      exact (keeps_checkExpr allows expr taken.1 hint).bind fun _ =>
        keeps_checkLiteralItems allows rest taken.2 hint _
    · rename_i typed
      rw [List.filter_cons_of_neg typed]
      exact keeps_checkLiteralItems allows rest taken.2 hint best

end

end UnitCheck.Typing
