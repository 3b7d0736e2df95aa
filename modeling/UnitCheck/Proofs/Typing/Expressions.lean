import UnitCheck.Proofs.Typing.Derivation

/-!
# Each form of expression is typed soundly

One lemma a form: when the operands are typed soundly in every context, so is the
form. The induction over expressions then only puts the lemmas together.
-/

namespace UnitCheck.Typing.Stage

variable {stage : Stage} {path ready : List NodeId} {demand : Demand}

/-- An expression has a type, and the types inside it form a derivation. -/
def Typed (stage : Stage) (session : Session) (expr : Expr) (type : Ty) : Prop :=
  stage.Has session expr.node type ∧ stage.Derived session expr

/-- The expression is typed soundly in every context. -/
def Types (stage : Stage) (path ready : List NodeId) (demand : Demand) (expr : Expr) : Prop :=
  ∀ expected, stage.Secures path ready (fun _ => stage.Wants expected) expr.nodes
    (checkExpr demand expr expected) fun _ final type => stage.Typed final expr type

theorem wants_none : stage.Wants none := fun _ impossible => by cases impossible

theorem wants_some {type : Ty} (good : stage.good type) : stage.Wants (some type) :=
  fun _ same => Option.mem_some.mp same ▸ good

/-- An expression that follows its rule is derived when what is inside it is. -/
theorem derived_intro {session : Session} {expr : Expr} {type : Ty} {inner : List Expr}
    (has : stage.Has session expr.node type) (isParts : expr.parts = expr :: inner)
    (rule : ExprRule session (stage.Has session) expr type)
    (derived : ∀ part ∈ inner, stage.PartRule session part) : stage.Typed session expr type := by
  refine ⟨has, ?_⟩
  unfold Derived
  rw [isParts]
  exact List.forall_mem_cons.mpr ⟨.inl ⟨type, has, rule⟩, derived⟩

theorem grows_record (node : NodeId) (type : Ty) : Regime.free.Obeys (record node type) :=
  obeys_record mayType_free node type

theorem grows_checkExpr (meets : stage.Meets path ready demand) (expr : Expr)
    (expected : Option Ty) : Regime.free.Obeys (checkExpr demand expr expected) :=
  obeys_checkExpr mayType_free (fun symbol => (meets symbol).grows) expr
    (fun _ _ _ _ => .inr (mayResolve_free _)) expected

/-! ### Operators -/

theorem types_literal (closed : stage.Closed) (literal : Literal) :
    stage.Types path ready demand (.literal literal) := by
  intro expected
  unfold checkExpr
  refine ((secures_checkLiteral closed literal expected false).recorded
    (fun _ _ behind => behind.2.1) literal.span.node).mono (fun _ => Nat.le_refl _) ?_
  rintro _ _ final type - - - - - ⟨⟨_, _, rule⟩, has⟩
  exact derived_intro has rfl rule (List.forall_mem_nil _)

theorem types_name (meets : stage.Meets path ready demand) {name : Ident}
    (isOk : stage.ValueOk ready name) : stage.Types path ready demand (.name name) := by
  intro expected
  unfold checkExpr
  refine (((secures_nameType meets name).provided fun _ _ _ _ => isOk).recorded
    (fun _ _ behind => behind.2.1) name.span.node).mono (fun _ => Nat.le_refl _) ?_
  rintro _ _ final type - - - - - ⟨⟨_, _, rule⟩, has⟩
  exact derived_intro has rfl rule (List.forall_mem_nil _)

/-- A binary operation after its operands, typed in either order. -/
theorem secures_binaryType (closed : stage.Closed) {given : Session -> Prop} (op : BinaryOp)
    (span : Span) {left right : Ty}
    (good : ∀ session, given session → stage.good left ∧ stage.good right) :
    stage.Secures path ready given [span.node]
      (do record span.node (<- accept (binaryType op span left right)))
      fun _ final type => binaryType op span left right = (type, none) ∧
        stage.Has final span.node type := by
  refine ((secures_accept objects_binaryType).recorded ?_ span.node).mono
    (fun _ => Nat.le_refl _) ?_
  · rintro type session ⟨⟨earlier, -, held, -⟩, judged⟩
    obtain ⟨goodLeft, goodRight⟩ := good earlier held
    exact closed.binary goodLeft goodRight judged
  · rintro _ _ _ _ - - - - - ⟨⟨_, judged⟩, has⟩
    exact ⟨judged, has⟩

theorem types_binary (closed : stage.Closed) {left right : Expr}
    (typesLeft : stage.Types path ready demand left)
    (typesRight : stage.Types path ready demand right) (op : BinaryOp) (span : Span) :
    stage.Types path ready demand (.binary op left right span) := by
  intro expected
  have derive {final : Session} {leftType rightType type : Ty}
      (isLeft : stage.Typed final left leftType) (isRight : stage.Typed final right rightType)
      (has : stage.Has final span.node type)
      (rule : BinaryRule op span leftType rightType type) :
      stage.Typed final (.binary op left right span) type :=
    derived_intro has rfl ⟨leftType, rightType, isLeft.1, isRight.1, rule⟩
      (List.forall_mem_append.mpr ⟨isLeft.2, isRight.2⟩)
  unfold checkExpr
  split
  · rename_i logical
    refine (((typesLeft (some .bool)).provided fun _ _ _ _ => wants_some closed.bool).bind
      fun leftType => ((typesRight (some .bool)).provided
        fun _ _ _ _ => wants_some closed.bool).bind
      fun rightType => (secures_tell objects_logicalOperand).bind
      fun _ => (secures_tell objects_logicalOperand).bind
      fun _ => (secures_record span.node .bool).provided fun _ _ _ _ => closed.bool).mono
      (fun _ => ?_) ?_
    · simp only [Expr.nodes_binary, List.count_cons, List.count_append, List.count_nil]
      omega
    · rintro _ _ final type - - - - -
        ⟨_, leftType, isLeft, _, rightType, isRight, _, _, silent, _, _, silentRight, rfl, has⟩
      refine derive isLeft isRight has ?_
      rw [BinaryRule, if_pos logical]
      exact ⟨rfl, truth_of_logicalOperand silent, truth_of_logicalOperand silentRight⟩
  · rename_i notLogical
    have notLogical := Bool.eq_false_iff.mpr notLogical
    have wants {hint : Option Ty} (isHint : hint = if op.isComparison then none else expected)
        (wanted : stage.Wants expected) : stage.Wants hint := by
      rw [isHint]
      split
      · exact wants_none
      · exact wanted
    simp only
    split
    · refine (((typesRight _).provided fun _ _ _ wanted => wants rfl wanted).bind
        fun rightType => ((typesLeft (literalHint rightType)).provided
          fun _ _ _ behind => closed.hint behind.2.1.2).bind
        fun leftType => secures_binaryType closed op span ?_).mono (fun _ => ?_) ?_
      · rintro _ ⟨⟨_, _, ⟨_, isRight⟩, _⟩, isLeft⟩
        exact ⟨isLeft.1.2, isRight.1.2⟩
      · simp only [Expr.nodes_binary, List.count_cons, List.count_append, List.count_nil]
        omega
      · rintro _ _ final type - - - - -
          ⟨_, rightType, isRight, _, leftType, isLeft, judged, has⟩
        exact derive isLeft isRight has (binaryRule_of_binaryType notLogical judged)
    · refine (((typesLeft _).provided fun _ _ _ wanted => wants rfl wanted).bind
        fun leftType => ((typesRight (literalHint leftType)).provided
          fun _ _ _ behind => closed.hint behind.2.1.2).bind
        fun rightType => secures_binaryType closed op span ?_).mono (fun _ => ?_) ?_
      · rintro _ ⟨⟨_, _, ⟨_, isLeft⟩, _⟩, isRight⟩
        exact ⟨isLeft.1.2, isRight.1.2⟩
      · simp only [Expr.nodes_binary, List.count_cons, List.count_append, List.count_nil]
        omega
      · rintro _ _ final type - - - - -
          ⟨_, leftType, isLeft, _, rightType, isRight, judged, has⟩
        exact derive isLeft isRight has (binaryRule_of_binaryType notLogical judged)

/-- What is typed together with a minus is a literal. -/
theorem eq_of_negatedLiteral {operand : Expr} {literal : Literal}
    (isLiteral : negatedLiteral? operand = some literal) : operand = .literal literal := by
  unfold negatedLiteral? at isLiteral
  split at isLiteral
  · split at isLiteral
    · rw [Option.some.inj isLiteral]
    · rw [Option.some.inj isLiteral]
    · cases isLiteral
  · cases isLiteral

theorem types_negate (closed : stage.Closed) {operand : Expr}
    (types : stage.Types path ready demand operand) (span : Span) :
    stage.Types path ready demand (.unary .negate operand span) := by
  intro expected
  unfold checkExpr
  split
  · rename_i literal isLiteral
    obtain rfl := eq_of_negatedLiteral isLiteral
    refine ((secures_checkLiteral closed literal expected true).bind fun type =>
      ((secures_recordExpr literal.span.node type).provided fun _ _ _ behind => behind.2.1).bind
      fun _ => (secures_record span.node type).provided ?_).mono (fun _ => ?_) ?_
    · rintro _ _ - ⟨-, has⟩
      exact has.2
    · simp only [Expr.nodes_unary, Expr.nodes_literal, List.count_cons, List.count_append,
        List.count_nil]
      omega
    · rintro _ _ final type - - - - - ⟨_, _, ⟨_, rule⟩, _, _, hasLiteral, rfl, has⟩
      have typed : stage.Typed final (.literal literal) type :=
        derived_intro hasLiteral rfl rule (List.forall_mem_nil _)
      exact derived_intro has rfl ⟨type, hasLiteral, .inr ⟨rfl, by rw [isLiteral]; rfl⟩⟩ typed.2
  · refine ((types expected).bind fun found =>
      ((secures_accept objects_negateType).recorded ?_ span.node)).mono (fun _ => ?_) ?_
    · rintro type session ⟨⟨_, _, ⟨_, isOperand⟩, _⟩, judged⟩
      exact closed.negate isOperand.1.2 judged
    · simp only [Expr.nodes_unary, List.count_cons, List.count_append, List.count_nil]
      omega
    · rintro _ _ final type - - - - - ⟨_, found, isOperand, ⟨_, judged⟩, has⟩
      exact derived_intro has rfl
        ⟨found, isOperand.1, .inl (negateRule_of_negateType judged)⟩ isOperand.2

theorem types_not (closed : stage.Closed) {operand : Expr}
    (types : stage.Types path ready demand operand) (span : Span) :
    stage.Types path ready demand (.unary .not operand span) := by
  intro expected
  unfold checkExpr
  refine (((types (some .bool)).provided fun _ _ _ _ => wants_some closed.bool).bind
    fun found => (secures_tell objects_logicalOperand).bind
    fun _ => (secures_record span.node .bool).provided fun _ _ _ _ => closed.bool).mono
    (fun _ => ?_) ?_
  · simp only [Expr.nodes_unary, List.count_cons, List.count_append, List.count_nil]
    omega
  · rintro _ _ final type - - - - - ⟨_, found, isOperand, _, _, silent, rfl, has⟩
    exact derived_intro has rfl
      ⟨found, isOperand.1, truth_of_logicalOperand silent, rfl⟩ isOperand.2

theorem types_complement (closed : stage.Closed) {operand : Expr}
    (types : stage.Types path ready demand operand) (span : Span) :
    stage.Types path ready demand (.unary .complement operand span) := by
  intro expected
  unfold checkExpr
  refine ((types expected).bind fun found =>
    ((secures_accept objects_complementType).recorded ?_ span.node)).mono (fun _ => ?_) ?_
  · rintro type session ⟨⟨_, _, ⟨_, isOperand⟩, _⟩, judged⟩
    exact closed.complement isOperand.1.2 judged
  · simp only [Expr.nodes_unary, List.count_cons, List.count_append, List.count_nil]
    omega
  · rintro _ _ final type - - - - - ⟨_, found, isOperand, ⟨_, judged⟩, has⟩
    exact derived_intro has rfl
      ⟨found, isOperand.1, complementRule_of_complementType judged⟩ isOperand.2

/-! ### Operands in turn -/

/-- All of these expressions have types that form derivations. -/
def AllTyped (stage : Stage) (session : Session) (exprs : List Expr) : Prop :=
  ∀ expr ∈ exprs, ∃ type, stage.Typed session expr type

/-- The expressions are typed soundly in every context. -/
def TypesAll (stage : Stage) (path ready : List NodeId) (demand : Demand)
    (exprs : List Expr) : Prop :=
  ∀ expr ∈ exprs, stage.Types path ready demand expr

theorem allTyped_nil {session : Session} : stage.AllTyped session [] := List.forall_mem_nil _

theorem AllTyped.derived {session : Session} {exprs : List Expr}
    (typed : stage.AllTyped session exprs) :
    ∀ part ∈ Expr.partsAll exprs, stage.PartRule session part := by
  intro part inside
  rw [Expr.partsAll_eq] at inside
  obtain ⟨expr, isExpr, isPart⟩ := List.mem_flatMap.mp inside
  obtain ⟨_, -, derived⟩ := typed expr isExpr
  exact derived part isPart

theorem secures_checkAll {exprs : List Expr} (types : stage.TypesAll path ready demand exprs)
    {given : Session -> Prop} :
    stage.Secures path ready given (Expr.nodesAll exprs) (checkAll demand exprs)
      fun _ final _ => stage.AllTyped final exprs := by
  induction exprs generalizing given with
  | nil =>
    unfold checkAll
    exact .stay fun _ _ _ _ _ => allTyped_nil
  | cons expr rest inductionHypothesis =>
    obtain ⟨typesExpr, typesRest⟩ := List.forall_mem_cons.mp types
    unfold checkAll
    refine (((typesExpr none).provided fun _ _ _ _ => wants_none).bind
      fun _ => inductionHypothesis typesRest).mono (fun _ => ?_) ?_
    · exact Nat.le_of_eq (by rw [Expr.nodesAll_cons])
    · rintro _ _ final _ - - - - - ⟨_, type, typed, others⟩
      exact List.forall_mem_cons.mpr ⟨⟨type, typed⟩, others⟩

theorem secures_checkArgs {params : List Ty} {args : List Expr}
    (types : stage.TypesAll path ready demand args) :
    stage.Secures path ready (fun _ => ∀ param ∈ params, stage.good param) (Expr.nodesAll args)
      (checkArgs demand params args) fun _ final _ => stage.AllTyped final args ∧
        ∀ pair ∈ args.zip params, Fits (stage.Has final) pair.1 pair.2 := by
  induction args generalizing params with
  | nil =>
    unfold checkArgs
    refine .stay fun _ _ _ _ _ => ⟨allTyped_nil, ?_⟩
    rw [List.zip_nil_left]
    exact List.forall_mem_nil _
  | cons arg rest inductionHypothesis =>
    obtain ⟨typesArg, typesRest⟩ := List.forall_mem_cons.mp types
    cases params with
    | nil =>
      unfold checkArgs
      refine (((typesArg none).provided fun _ _ _ _ => wants_none).bind fun _ =>
        (inductionHypothesis typesRest).provided fun _ _ _ _ _ impossible => ?_).mono
        (fun _ => ?_) ?_
      · cases impossible
      · exact Nat.le_of_eq (by rw [Expr.nodesAll_cons])
      · rintro _ _ final _ - - - - - ⟨_, type, typed, others, _⟩
        refine ⟨List.forall_mem_cons.mpr ⟨⟨type, typed⟩, others⟩, ?_⟩
        rw [List.zip_nil_right]
        exact List.forall_mem_nil _
    | cons param params =>
      unfold checkArgs
      refine (((typesArg (some param)).provided fun _ _ _ good => ?_).bind fun found =>
        (secures_tell objects_mismatch).bind fun _ =>
        (inductionHypothesis typesRest).provided ?_).mono (fun _ => ?_) ?_
      · exact wants_some (good param List.mem_cons_self)
      · rintro _ _ - ⟨⟨_, _, ⟨⟨_, _, good, _⟩, _⟩, _⟩, _⟩
        exact fun other isOther => good other (List.mem_cons_of_mem param isOther)
      · exact Nat.le_of_eq (by rw [Expr.nodesAll_cons, List.nil_append])
      · rintro _ _ final _ - - - - - ⟨_, found, typed, _, _, silent, others, fits⟩
        refine ⟨List.forall_mem_cons.mpr ⟨⟨found, typed⟩, others⟩, ?_⟩
        rw [List.zip_cons_cons]
        exact List.forall_mem_cons.mpr ⟨⟨found, typed.1, allowed_of_mismatch silent⟩, fits⟩

theorem secures_checkItems {element : Ty} {items : List Expr}
    (types : stage.TypesAll path ready demand items) :
    stage.Secures path ready (fun _ => stage.good element) (Expr.nodesAll items)
      (checkItems demand element items) fun _ final _ => stage.AllTyped final items ∧
        ∀ item ∈ items, Fits (stage.Has final) item element := by
  induction items with
  | nil =>
    unfold checkItems
    exact .stay fun _ _ _ _ _ => ⟨allTyped_nil, List.forall_mem_nil _⟩
  | cons item rest inductionHypothesis =>
    obtain ⟨typesItem, typesRest⟩ := List.forall_mem_cons.mp types
    unfold checkItems
    refine (((typesItem (some element)).provided fun _ _ _ good => wants_some good).bind
      fun found => (secures_tell objects_mismatch).bind fun _ =>
      (inductionHypothesis typesRest).provided ?_).mono (fun _ => ?_) ?_
    · rintro _ _ - ⟨⟨_, _, ⟨⟨_, _, good, _⟩, _⟩, _⟩, _⟩
      exact good
    · exact Nat.le_of_eq (by rw [Expr.nodesAll_cons, List.nil_append])
    · rintro _ _ final _ - - - - - ⟨_, found, typed, _, _, silent, others, fits⟩
      exact ⟨List.forall_mem_cons.mpr ⟨⟨found, typed⟩, others⟩,
        List.forall_mem_cons.mpr ⟨⟨found, typed.1, allowed_of_mismatch silent⟩, fits⟩⟩

theorem wants_better (closed : stage.Closed) {best : Option Ty} {type : Ty}
    (wants : stage.Wants best) (good : stage.good type) : stage.Wants (better best type) := by
  unfold better
  split
  · exact wants
  · split
    · exact wants_some (closed.unwrap type good)
    · split
      · exact wants_some (closed.unwrap type good)
      · exact wants

/-- The elements that are no untyped literals. -/
theorem secures_checkTypedItems (closed : stage.Closed) {best : Option Ty} {items : List Expr}
    (types : stage.TypesAll path ready demand items) :
    stage.Secures path ready (fun _ => stage.Wants best)
      (Expr.nodesAll (items.filter fun item => !item.isUntypedLiteral))
      (checkTypedItems demand best items) fun _ final result => stage.Wants result ∧
        stage.AllTyped final (items.filter fun item => !item.isUntypedLiteral) := by
  induction items generalizing best with
  | nil =>
    unfold checkTypedItems
    exact .stay fun _ _ _ wants _ => ⟨wants, allTyped_nil⟩
  | cons item rest inductionHypothesis =>
    obtain ⟨typesItem, typesRest⟩ := List.forall_mem_cons.mp types
    unfold checkTypedItems
    split
    · rename_i literal
      rw [List.filter_cons_of_neg (by simp [literal])]
      exact inductionHypothesis typesRest
    · rename_i typed
      rw [List.filter_cons_of_pos (by simp [typed])]
      refine (((typesItem none).provided fun _ _ _ _ => wants_none).bind fun type =>
        (inductionHypothesis typesRest).provided ?_).mono (fun _ => ?_) ?_
      · rintro _ _ - ⟨⟨_, _, wants, _⟩, isItem⟩
        exact wants_better closed wants isItem.1.2
      · exact Nat.le_of_eq (by rw [Expr.nodesAll_cons])
      · rintro _ _ final _ - - - - - ⟨_, type, isItem, wants, others⟩
        exact ⟨wants, List.forall_mem_cons.mpr ⟨⟨type, isItem⟩, others⟩⟩

/-- The elements that are untyped literals. -/
theorem secures_checkLiteralItems (closed : stage.Closed) {hint best : Option Ty}
    {items : List Expr} (types : stage.TypesAll path ready demand items) :
    stage.Secures path ready (fun _ => stage.Wants hint ∧ stage.Wants best)
      (Expr.nodesAll (items.filter fun item => item.isUntypedLiteral))
      (checkLiteralItems demand hint best items) fun _ final result => stage.Wants result ∧
        stage.AllTyped final (items.filter fun item => item.isUntypedLiteral) := by
  induction items generalizing best with
  | nil =>
    unfold checkLiteralItems
    exact .stay fun _ _ _ wants _ => ⟨wants.2, allTyped_nil⟩
  | cons item rest inductionHypothesis =>
    obtain ⟨typesItem, typesRest⟩ := List.forall_mem_cons.mp types
    unfold checkLiteralItems
    split
    · rename_i literal
      rw [List.filter_cons_of_pos literal]
      refine (((typesItem hint).provided fun _ _ _ wants => wants.1).bind fun type =>
        (inductionHypothesis typesRest).provided ?_).mono (fun _ => ?_) ?_
      · rintro _ _ - ⟨⟨_, _, wants, _⟩, isItem⟩
        refine ⟨wants.1, ?_⟩
        split
        · exact wants_better closed wants.2 isItem.1.2
        · exact wants.2
      · exact Nat.le_of_eq (by rw [Expr.nodesAll_cons])
      · rintro _ _ final _ - - - - - ⟨_, type, isItem, wants, others⟩
        exact ⟨wants, List.forall_mem_cons.mpr ⟨⟨type, isItem⟩, others⟩⟩
    · rename_i typed
      rw [List.filter_cons_of_neg typed]
      exact inductionHypothesis typesRest

/-- Both kinds of elements together are all of them. -/
theorem count_nodes_items (items : List Expr) (node : NodeId) :
    (Expr.nodesAll (items.filter fun item => !item.isUntypedLiteral)).count node +
      (Expr.nodesAll (items.filter fun item => item.isUntypedLiteral)).count node =
        (Expr.nodesAll items).count node := by
  induction items with
  | nil => rfl
  | cons item rest inductionHypothesis =>
    cases isLiteral : item.isUntypedLiteral <;>
      simp only [List.filter_cons, isLiteral, Bool.not_true, Bool.not_false, if_true,
        Bool.false_eq_true, if_false, Expr.nodesAll_cons, List.count_append] <;>
      omega

theorem allTyped_items {session : Session} {items : List Expr}
    (typed : stage.AllTyped session (items.filter fun item => !item.isUntypedLiteral))
    (literals : stage.AllTyped session (items.filter fun item => item.isUntypedLiteral)) :
    stage.AllTyped session items := by
  intro item inside
  by_cases isLiteral : item.isUntypedLiteral = true
  · exact literals item (List.mem_filter.mpr ⟨inside, isLiteral⟩)
  · exact typed item (List.mem_filter.mpr ⟨inside, by simpa using isLiteral⟩)

/-! ### Arrays -/

/-- An array whose element type is given. -/
theorem secures_givenArray (closed : stage.Closed) {items : List Expr} (span : Span)
    (types : stage.TypesAll path ready demand items) (element : Ty) :
    stage.Secures path ready (fun _ => stage.good element)
      (Expr.nodesAll items ++ [span.node]) (arrayFrom demand items span (some element))
      fun _ final type => type = .fixedArray element items.length ∧
        stage.Has final span.node type ∧ stage.AllTyped final items ∧
        ∀ item ∈ items, Fits (stage.Has final) item element := by
  refine ((secures_checkItems types).bind fun _ =>
    (secures_record span.node _).provided ?_).mono (fun _ => Nat.le_refl _) ?_
  · rintro _ _ - ⟨⟨_, _, good, _⟩, _⟩
    exact closed.fixedArray _ _ good
  · rintro _ _ final _ - - - - - ⟨_, _, ⟨typed, fits⟩, rfl, has⟩
    exact ⟨rfl, has, typed, fits⟩

/-- An array whose element type is found from its elements. -/
theorem secures_foundArray (closed : stage.Closed) {items : List Expr} (span : Span)
    (types : stage.TypesAll path ready demand items) {given : Session -> Prop} :
    stage.Secures path ready given (Expr.nodesAll items ++ [span.node])
      (arrayFrom demand items span none)
      fun _ final type => ∃ element, type = .fixedArray element items.length ∧
        stage.Has final span.node type ∧ stage.AllTyped final items ∧
        ∀ item ∈ items, Fits (stage.Has final) item element := by
  have finish (best : Option Ty) : stage.Secures path ready
      (fun session => stage.Wants best ∧ ∀ item ∈ items, ∃ type, stage.Has session item.node type)
      [span.node] (pickedArray items span best)
      fun _ final type => ∃ element, type = .fixedArray element items.length ∧
        stage.Has final span.node type ∧
        ∀ item ∈ items, Fits (stage.Has final) item element := by
    cases best with
    | some element =>
      refine (((secures_compareItems element items).provided fun _ _ _ held => held.2).bind
        fun _ => (secures_record span.node _).provided ?_).mono (fun _ => Nat.le_refl _) ?_
      · rintro _ _ - ⟨⟨_, _, ⟨wants, _⟩, _⟩, _⟩
        exact closed.fixedArray _ _ (wants element rfl)
      · rintro _ _ final _ - - - - - ⟨_, _, fits, rfl, has⟩
        exact ⟨element, rfl, has, fits⟩
    | none => exact (secures_report rfl).refused fun _ => grows_record _ _
  refine (((secures_checkTypedItems closed types).provided fun _ _ _ _ => wants_none).bind
    fun hint => ((secures_checkLiteralItems closed types).provided
      fun _ _ _ behind => ⟨behind.2.1, behind.2.1⟩).bind fun best =>
    (finish best).provided ?_).mono (fun node => ?_) ?_
  · rintro session - - ⟨⟨_, _, ⟨_, _, typed⟩, ext⟩, wants, literals⟩
    refine ⟨wants, fun item inside => ?_⟩
    by_cases isLiteral : item.isUntypedLiteral = true
    · obtain ⟨type, has, -⟩ := literals item (List.mem_filter.mpr ⟨inside, isLiteral⟩)
      exact ⟨type, has⟩
    · obtain ⟨type, has, -⟩ := typed item
        (List.mem_filter.mpr ⟨inside, by simpa using isLiteral⟩)
      exact ⟨type, has.mono ext⟩
  · have both := count_nodes_items items node
    simp only [List.count_append]
    omega
  · rintro _ _ final _ - - - - -
      ⟨_, _, ⟨_, typed⟩, _, _, ⟨_, literals⟩, element, same, has, fits⟩
    exact ⟨element, same, has, allTyped_items typed literals, fits⟩

theorem types_array (closed : stage.Closed) {form : Option TypeForm} {items : List Expr}
    (formOk : ∀ written ∈ form, stage.FormOk written)
    (types : stage.TypesAll path ready demand items) (span : Span) :
    stage.Types path ready demand (.array form items span) := by
  intro expected
  have derive {final : Session} {element type : Ty}
      (written : ∀ written ∈ form, final.facts.forms.find? written.node = some element)
      (same : type = .fixedArray element items.length) (has : stage.Has final span.node type)
      (typed : stage.AllTyped final items)
      (fits : ∀ item ∈ items, Fits (stage.Has final) item element) :
      stage.Typed final (.array form items span) type :=
    derived_intro has rfl ⟨element, same, written, fits⟩ typed.derived
  rw [checkExpr_array]
  cases form with
  | some form =>
    simp only [givenElement, bind_assoc, pure_bind]
    refine (((secures_recordedType form).provided fun _ _ _ _ => formOk form rfl).bind
      fun element => (secures_givenArray closed span types element).provided
        fun _ _ _ behind => behind.2.1).mono (fun _ => ?_) ?_
    · simp only [Expr.nodes_array, List.count_cons, List.count_append, List.count_nil]
      omega
    · rintro _ _ final type - - - - - ⟨_, element, ⟨_, written⟩, same, has, typed, fits⟩
      refine derive ?_ same has typed fits
      rintro _ ⟨⟩
      exact written
  | none =>
    simp only [givenElement, pure_bind]
    cases isExpected : expectedElement? expected with
    | some element =>
      refine ((secures_givenArray closed span types element).provided ?_).mono (fun _ => ?_) ?_
      · exact fun _ _ _ wants => closed.expectedElement wants element isExpected
      · simp only [Expr.nodes_array, List.count_cons, List.count_append, List.count_nil]
        omega
      · rintro _ _ final type - - - - - ⟨same, has, typed, fits⟩
        exact derive (fun _ impossible => by cases impossible) same has typed fits
    | none =>
      refine (secures_foundArray closed span types).mono (fun _ => ?_) ?_
      · simp only [Expr.nodes_array, List.count_cons, List.count_append, List.count_nil]
        omega
      · rintro _ _ final type - - - - - ⟨element, same, has, typed, fits⟩
        exact derive (fun _ impossible => by cases impossible) same has typed fits

/-! ### Calls -/

theorem grows_checkAll {args : List Expr} (types : stage.TypesAll path ready demand args) :
    Regime.free.Obeys (checkAll demand args) := by
  have secures : stage.Secures path ready (fun _ => True) _ (checkAll demand args) _ :=
    secures_checkAll types
  exact secures.grows

theorem secures_reportArity {given : Session -> Prop} (callee : Callee) (span : Span)
    (count : Nat) :
    stage.Secures path ready given [] (reportArity callee span count) fun _ _ _ => False :=
  (secures_report rfl).refused fun _ => Check.obeys_report trivial

/-- A call whose callee is known, after the callee itself. -/
theorem secures_arguments {callee : Callee} {args : List Expr}
    (types : stage.TypesAll path ready demand args) (span : Span) :
    stage.Secures path ready
      (fun _ => stage.good callee.result ∧ ∀ param ∈ callee.params, stage.good param)
      (Expr.nodesAll args ++ [span.node]) (do
        if callee.accepts args.length then checkArgs demand callee.params args
        else
          reportArity callee span args.length
          checkAll demand args
        record span.node callee.result)
      fun _ final type => type = callee.result ∧ stage.Has final span.node type ∧
        stage.AllTyped final args ∧ Applies (stage.Has final) callee args := by
  simp only
  split
  · rename_i accepted
    refine (((secures_checkArgs types).provided fun _ _ _ good => good.2).bind
      fun _ => (secures_record span.node _).provided ?_).mono (fun _ => Nat.le_refl _) ?_
    · rintro _ _ - ⟨⟨_, _, ⟨good, _⟩, _⟩, _⟩
      exact good
    · rintro _ _ final _ - - - - - ⟨_, _, ⟨typed, fits⟩, rfl, has⟩
      exact ⟨rfl, has, typed, accepted, fits⟩
  · exact (secures_reportArity callee span args.length).refused
      fun _ => .bind (grows_checkAll types) fun _ => grows_record _ _

/-- What a call leaves when nothing can be said about its arguments. -/
theorem secures_unknownCall {args : List Expr} (types : stage.TypesAll path ready demand args)
    (span : Span) :
    stage.Secures path ready (fun _ => stage.good .unknown) (Expr.nodesAll args ++ [span.node])
      (do
        checkAll demand args
        record span.node .unknown)
      fun _ final type => type = .unknown ∧ stage.Has final span.node type ∧
        stage.AllTyped final args := by
  refine ((secures_checkAll types).bind fun _ => (secures_record span.node _).provided ?_).mono
    (fun _ => Nat.le_refl _) ?_
  · rintro _ _ - ⟨⟨_, _, good, _⟩, _⟩
    exact good
  · rintro _ _ final _ - - - - - ⟨_, _, typed, rfl, has⟩
    exact ⟨rfl, has, typed⟩

theorem types_call (closed : stage.Closed) (meets : stage.Meets path ready demand)
    {name : Ident} {args : List Expr} (calleeOk : stage.CalleeOk ready name)
    (types : stage.TypesAll path ready demand args) (span : Span) :
    stage.Types path ready demand (.call name args span) := by
  intro expected
  unfold checkExpr
  refine .read fun seen => ?_
  cases found : seen.facts.refs.find? name.span.node with
  | none =>
    refine ((secures_unknownCall types span).provided ?_).mono (fun _ => ?_) ?_
    · rintro session sound - ⟨rfl, -⟩
      rw [sound.reached.refs] at found
      simpa only [CalleeOk, found] using calleeOk
    · simp only [Expr.nodes_call, List.count_cons, List.count_append, List.count_nil]
      omega
    · rintro before after final type sound ⟨rfl, -⟩ - ext further ⟨same, has, typed⟩
      refine derived_intro has rfl (.inl ⟨?_, same⟩) typed.derived
      rw [(ext.trans further).refs, found]
  | some symbol =>
    have readable {before : Session} (sound : stage.Sound before) (same : before = seen) :
        stage.Readable ready symbol := by
      rw [← same, sound.reached.refs] at found
      simpa only [CalleeOk, found] using calleeOk
    refine (((secures_calleeOf closed meets symbol).provided
      fun _ sound _ held => readable sound held.1).andThen fun callee =>
      (?_ : stage.Secures path ready _ ([name.span.node] ++ (Expr.nodesAll args ++ [span.node]))
        _ _)).mono (fun _ => ?_) fun _ _ _ _ _ _ _ _ _ held => held
    · cases callee with
      | none =>
        exact (secures_report rfl).refused fun _ => .bind (grows_checkAll types)
          fun _ => grows_record _ _
      | some callee =>
        have chosen (type : Ty) : stage.Secures path ready
            (fun session => stage.Invoked symbol session callee type ∧ Extends seen session)
            ([name.span.node] ++ (Expr.nodesAll args ++ [span.node])) (do
              Check.recordExpr name.span.node (<- symbolType demand symbol)
              if callee.accepts args.length then
                checkArgs demand callee.params args
              else
                reportArity callee span args.length
                checkAll demand args
              record span.node callee.result : Check Ty)
            fun _ final type => stage.Typed final (.call name args span) type := by
          refine (((secures_knownType meets symbol type).provided
            fun _ _ _ held => held.1.known).bind fun found =>
            ((secures_recordExpr name.span.node found).provided ?_).bind fun _ =>
            (secures_arguments types span).provided ?_).mono (fun _ => Nat.le_refl _) ?_
          · rintro _ _ - ⟨⟨_, _, ⟨invoked, _⟩, _⟩, rfl⟩
            exact invoked.good
          · rintro _ _ - ⟨⟨_, _, ⟨⟨_, _, ⟨invoked, _⟩, _⟩, _⟩, _⟩, _⟩
            exact ⟨invoked.result, invoked.params⟩
          · rintro before after final _ - ⟨invoked, earlier⟩ - ext further
              ⟨_, _, rfl, _, _, hasName, same, has, typed, applies⟩
            have whole := ext.trans further
            refine derived_intro has rfl (.inr ⟨symbol, _, callee, ?_, hasName,
              invokes_mono invoked.invokes whole, applies, same⟩) typed.derived
            rw [(earlier.trans whole).refs, found]
        refine .choose ?_ chosen
        rintro session ⟨⟨_, _, ⟨rfl, _⟩, ext⟩, invoked⟩
        obtain ⟨type, invoked⟩ := invoked callee rfl
        exact ⟨type, invoked, ext⟩
    · simp only [Expr.nodes_call, List.count_cons, List.count_append, List.count_nil]
      omega

theorem types_callValue (closed : stage.Closed) {function : Expr} {args : List Expr}
    (typesFunction : stage.Types path ready demand function)
    (types : stage.TypesAll path ready demand args) (span : Span) :
    stage.Types path ready demand (.callValue function args span) := by
  intro expected
  unfold checkExpr
  refine (((typesFunction none).provided fun _ _ _ _ => wants_none).bind fun found =>
    (?_ : stage.Secures path ready _ (Expr.nodesAll args ++ [span.node]) _
      fun _ final type => stage.Has final span.node type ∧ stage.AllTyped final args ∧
        if found.isUnknown then type = .unknown
        else ∃ params result convention variadic,
          found.unwrap = .function params result convention variadic ∧
          Applies (stage.Has final) ⟨"function value", params, result, variadic⟩ args ∧
          type = result)).mono (fun _ => ?_) ?_
  · split
    · rename_i unknown
      refine ((secures_unknownCall types span).provided ?_).mono (fun _ => Nat.le_refl _) ?_
      · rintro _ _ - ⟨_, isFunction⟩
        exact closed.unknown found isFunction.1.2 unknown
      · rintro _ _ final type - - - - - ⟨same, has, typed⟩
        exact ⟨has, typed, same⟩
    · split
      · rename_i params result convention variadic unwraps
        refine ((secures_arguments types span).provided ?_).mono (fun _ => Nat.le_refl _) ?_
        · rintro _ _ - ⟨_, isFunction⟩
          exact closed.function found _ _ _ _ isFunction.1.2 unwraps
        · rintro _ _ final type - - - - - ⟨same, has, typed, applies⟩
          exact ⟨has, typed, params, result, convention, variadic, unwraps, applies, same⟩
      · exact (secures_report rfl).refused fun _ => .bind (grows_checkAll types)
          fun _ => grows_record _ _
  · simp only [Expr.nodes_callValue, List.count_cons, List.count_append, List.count_nil]
    omega
  · rintro _ _ final type - - - - - ⟨_, found, isFunction, has, typed, rule⟩
    exact derived_intro has rfl ⟨found, isFunction.1, rule⟩
      (List.forall_mem_append.mpr ⟨isFunction.2, typed.derived⟩)

/-! ### Places and memory -/

theorem types_field (closed : stage.Closed) (meets : stage.Meets path ready demand)
    {base : Expr} (enumOk : ∀ name, base = .name name → stage.EnumOk name)
    (types : base.namesEnum stage.start.facts.refs = false →
      stage.Types path ready demand base) (fields : List String) (span : Span) :
    stage.Types path ready demand (.field base fields span) := by
  intro expected
  unfold checkExpr
  refine ((secures_enumBase? base).andThen fun found =>
    (?_ : stage.Secures path ready _ (base.nodes ++ [span.node]) _ _)).mono (fun _ => ?_)
    fun _ _ _ _ _ _ _ _ _ held => held
  · cases found with
    | some found =>
      obtain ⟨symbol, name⟩ := found
      refine .assume (.bind (obeys_variantType mayType_free _ _ _ _) fun _ => grows_record _ _)
        (fun _ behind => behind.2) ?_
      rintro ⟨rfl, isRef, isEnum⟩
      refine (((secures_variantType (enumOk name rfl) isRef isEnum fields span)).recorded
        (fun _ _ behind => behind.2.1) span.node).mono (fun _ => Nat.le_refl _) ?_
      rintro _ _ final type sound - - ext further ⟨⟨_, -, part, rule⟩, has⟩
      refine derived_intro has rfl (.inl ⟨⟨symbol, name, rfl, ?_, isEnum⟩, rule⟩)
        (List.forall_mem_singleton.mpr part)
      rw [(ext.trans further).refs, sound.reached.refs, isRef]
    | none =>
      refine .assume (.bind (grows_checkExpr meets base none) fun _ =>
        .bind (obeys_fieldType mayType_free _ _ _) fun _ => grows_record _ _)
        (fun _ behind => behind.2) fun notEnum => ?_
      refine (((types notEnum none).provided fun _ _ _ _ => wants_none).bind fun found =>
        ((secures_fieldType closed found fields span).provided
          fun _ _ _ behind => behind.2.1.2).recorded (fun _ _ behind => behind.2.1)
          span.node).mono (fun _ => Nat.le_refl _) ?_
      rintro _ _ final type - - - - - ⟨_, found, isBase, ⟨_, -, rule⟩, has⟩
      exact derived_intro has rfl (.inr ⟨found, isBase.1, rule⟩) isBase.2
  · simp only [Expr.nodes_field, List.count_cons, List.count_append, List.count_nil]
    omega

theorem types_index (closed : stage.Closed) {base position : Expr}
    (typesBase : stage.Types path ready demand base)
    (typesPosition : stage.Types path ready demand position) (span : Span) :
    stage.Types path ready demand (.index base position span) := by
  intro expected
  unfold checkExpr
  refine (((typesBase none).provided fun _ _ _ _ => wants_none).bind fun found =>
    ((typesPosition (some (.prim .u64))).provided
      fun _ _ _ _ => wants_some (closed.prim .u64 (by decide))).bind fun place =>
    (?_ : stage.Secures path ready _ [span.node] _ fun _ final type =>
      elementType found base.span (constantIndex? position) = (type, none) ∧
        (place.isUnknown = true ∨ place.isInteger = true) ∧
        stage.Has final span.node type)).mono (fun _ => ?_) ?_
  · simp only
    refine .unless rfl (((secures_accept objects_elementType).recorded ?_ span.node).mono
      (fun _ => Nat.le_refl _) ?_)
    · rintro type session ⟨⟨_, _, ⟨⟨⟨_, _, ⟨_, isBase⟩, _⟩, _⟩, _⟩, _⟩, judged⟩
      exact closed.element isBase.1.2 judged
    · rintro _ _ final type - ⟨-, fine⟩ - - - ⟨⟨_, judged⟩, has⟩
      refine ⟨judged, ?_, has⟩
      cases unknown : place.isUnknown <;> simp_all
  · simp only [Expr.nodes_index, List.count_cons, List.count_append, List.count_nil]
    omega
  · rintro _ _ final type - - - - - ⟨_, found, isBase, _, place, isPlace, judged, integer, has⟩
    exact derived_intro has rfl ⟨found, place, isBase.1, isPlace.1, integer, judged⟩
      (List.forall_mem_append.mpr ⟨isBase.2, isPlace.2⟩)

theorem types_cast {form : TypeForm} {operand : Expr} (formOk : stage.FormOk form)
    (types : stage.Types path ready demand operand) (span : Span) :
    stage.Types path ready demand (.cast form operand span) := by
  intro expected
  unfold checkExpr
  refine (((secures_recordedType form).provided fun _ _ _ _ => formOk).bind fun target =>
    ((types none).provided fun _ _ _ _ => wants_none).bind fun source =>
    (?_ : stage.Secures path ready _ [span.node] _ fun _ final type => type = target ∧
      source.castable target = true ∧ stage.Has final span.node type)).mono (fun _ => ?_) ?_
  · simp only
    refine .unless rfl (((secures_record span.node target).provided ?_).mono
      (fun _ => Nat.le_refl _) ?_)
    · rintro _ _ - ⟨⟨⟨_, _, ⟨_, good, _⟩, _⟩, _⟩, _⟩
      exact good
    · rintro _ _ final type - ⟨-, fine⟩ - - - ⟨rfl, has⟩
      exact ⟨rfl, by simpa using fine, has⟩
  · simp only [Expr.nodes_cast, List.count_cons, List.count_append, List.count_nil]
    omega
  · rintro _ _ final type - - - - -
      ⟨_, target, ⟨_, written⟩, _, source, isOperand, rfl, castable, has⟩
    exact derived_intro has rfl ⟨source, isOperand.1, written, castable⟩ isOperand.2

theorem types_load {form : TypeForm} {operand : Expr} (formOk : stage.FormOk form)
    (types : stage.Types path ready demand operand) (span : Span) :
    stage.Types path ready demand (.load form operand span) := by
  intro expected
  unfold checkExpr
  refine (((secures_recordedType form).provided fun _ _ _ _ => formOk).bind fun target =>
    ((types none).provided fun _ _ _ _ => wants_none).bind fun source =>
    (?_ : stage.Secures path ready _ [span.node] _ fun _ final type => type = target ∧
      (source.isUnknown = true ∨ source.isPointerLike = true) ∧
      stage.Has final span.node type)).mono (fun _ => ?_) ?_
  · simp only
    refine .unless rfl (((secures_record span.node target).provided ?_).mono
      (fun _ => Nat.le_refl _) ?_)
    · rintro _ _ - ⟨⟨⟨_, _, ⟨_, good, _⟩, _⟩, _⟩, _⟩
      exact good
    · rintro _ _ final type - ⟨-, fine⟩ - - - ⟨rfl, has⟩
      refine ⟨rfl, ?_, has⟩
      cases unknown : source.isUnknown <;> simp_all
  · simp only [Expr.nodes_load, List.count_cons, List.count_append, List.count_nil]
    omega
  · rintro _ _ final type - - - - -
      ⟨_, target, ⟨_, written⟩, _, source, isOperand, rfl, pointer, has⟩
    exact derived_intro has rfl ⟨source, isOperand.1, written, pointer⟩ isOperand.2

theorem types_addressOf (closed : stage.Closed) {operand : Expr}
    (types : stage.Types path ready demand operand) (span : Span) :
    stage.Types path ready demand (.addressOf operand span) := by
  intro expected
  unfold checkExpr
  refine (((types none).provided fun _ _ _ _ => wants_none).bind fun found =>
    .read fun seen => (?_ : stage.Secures path ready _ [span.node] _ fun _ final type =>
      type = Ty.prim .addr ∧ stage.Has final span.node (.prim .addr))).mono (fun _ => ?_) ?_
  · simp only
    exact .unless rfl ((secures_record span.node _).provided
      fun _ _ _ _ => closed.prim .addr (by decide))
  · simp only [Expr.nodes_addressOf, List.count_cons, List.count_append, List.count_nil]
    omega
  · rintro _ _ final type - - - - - ⟨_, found, isOperand, rfl, has⟩
    exact derived_intro has rfl ⟨found, isOperand.1, rfl⟩ isOperand.2

theorem types_alloc (closed : stage.Closed) {form : TypeForm} (formOk : stage.FormOk form)
    (span : Span) : stage.Types path ready demand (.alloc form span) := by
  intro expected
  unfold checkExpr
  refine (((secures_recordedType form).provided fun _ _ _ _ => formOk).bind fun element =>
    (secures_record span.node _).provided
      fun _ _ _ behind => closed.pointer _ behind.2.1).mono (fun _ => Nat.le_refl _) ?_
  rintro _ _ final type - - - - - ⟨_, element, ⟨_, written⟩, rfl, has⟩
  exact derived_intro has rfl ⟨element, written, rfl⟩ (List.forall_mem_nil _)

theorem types_bad (good : stage.good .unknown) (span : Span) :
    stage.Types path ready demand (.bad span) := by
  intro expected
  unfold checkExpr
  refine ((secures_record span.node _).provided fun _ _ _ _ => good).mono
    (fun _ => Nat.le_refl _) ?_
  rintro _ _ final type - - - - - ⟨rfl, has⟩
  exact derived_intro has rfl rfl (List.forall_mem_nil _)

/-! ### All expressions -/

mutual

/-- Every expression is typed soundly when what it relies on is there. -/
theorem types_of_relies (closed : stage.Closed) (meets : stage.Meets path ready demand) :
    (expr : Expr) -> stage.Relies ready expr -> stage.Types path ready demand expr
  | .literal literal, _ => types_literal closed literal
  | .name name, relies => types_name meets (relies.values name List.mem_cons_self)
  | .binary op left right span, relies => by
    obtain ⟨-, inner⟩ := supports_cons.mp relies
    obtain ⟨ofLeft, ofRight⟩ := supports_append.mp inner
    exact types_binary closed (types_of_relies closed meets left ofLeft)
      (types_of_relies closed meets right ofRight) op span
  | .unary op operand span, relies => by
    obtain ⟨-, inner⟩ := supports_cons.mp relies
    have types := types_of_relies closed meets operand inner
    cases op with
    | negate => exact types_negate closed types span
    | not => exact types_not closed types span
    | complement => exact types_complement closed types span
  | .call name args span, relies => by
    obtain ⟨⟨-, calleeOk⟩, inner⟩ := supports_cons.mp relies
    exact types_call closed meets calleeOk (types_of_reliesAll closed meets args inner) span
  | .callValue function args span, relies => by
    obtain ⟨-, inner⟩ := supports_cons.mp relies
    obtain ⟨ofFunction, ofArgs⟩ := supports_append.mp inner
    exact types_callValue closed (types_of_relies closed meets function ofFunction)
      (types_of_reliesAll closed meets args ofArgs) span
  | .field base fields span, relies => by
    obtain ⟨⟨-, enumOk⟩, inner⟩ := supports_cons.mp relies
    refine types_field closed meets ?_ (fun notEnum => types_of_relies closed meets base ?_)
      fields span
    · rintro name rfl
      exact enumOk
    · unfold Expr.reads at inner
      rwa [notEnum] at inner
  | .index base position span, relies => by
    obtain ⟨-, inner⟩ := supports_cons.mp relies
    obtain ⟨ofBase, ofPosition⟩ := supports_append.mp inner
    exact types_index closed (types_of_relies closed meets base ofBase)
      (types_of_relies closed meets position ofPosition) span
  | .cast form operand span, relies => by
    obtain ⟨⟨formOk, -⟩, inner⟩ := supports_cons.mp relies
    exact types_cast (formOk form List.mem_cons_self)
      (types_of_relies closed meets operand inner) span
  | .array form items span, relies => by
    obtain ⟨⟨formOk, -⟩, inner⟩ := supports_cons.mp relies
    exact types_array closed (fun written isForm => formOk written (Option.mem_toList.mpr isForm))
      (types_of_reliesAll closed meets items inner) span
  | .addressOf operand span, relies => by
    obtain ⟨-, inner⟩ := supports_cons.mp relies
    exact types_addressOf closed (types_of_relies closed meets operand inner) span
  | .load form operand span, relies => by
    obtain ⟨⟨formOk, -⟩, inner⟩ := supports_cons.mp relies
    exact types_load (formOk form List.mem_cons_self)
      (types_of_relies closed meets operand inner) span
  | .alloc form span, relies => by
    obtain ⟨⟨formOk, -⟩, -⟩ := supports_cons.mp relies
    exact types_alloc closed (formOk form List.mem_cons_self) span
  | .bad span, relies => types_bad (supports_cons.mp relies).1.2 span

/-- `types_of_relies` for several expressions. -/
theorem types_of_reliesAll (closed : stage.Closed) (meets : stage.Meets path ready demand) :
    (exprs : List Expr) -> stage.ReliesAll ready exprs -> stage.TypesAll path ready demand exprs
  | [], _ => List.forall_mem_nil _
  | expr :: rest, relies => by
    obtain ⟨ofExpr, ofRest⟩ := supports_append.mp relies
    exact List.forall_mem_cons.mpr
      ⟨types_of_relies closed meets expr ofExpr, types_of_reliesAll closed meets rest ofRest⟩

end

end UnitCheck.Typing.Stage
