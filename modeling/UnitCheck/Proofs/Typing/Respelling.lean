import UnitCheck.Proofs.Finding.Places
import UnitCheck.Proofs.Tree.Respelling
import UnitCheck.Proofs.Typing.Lockstep

/-!
# Typing looks at no spelling

Written with a minus in front, a negative integer gets the type that it gets as one literal,
and what is said about it bears the same stamp. Typing a tree and typing it respelled
therefore stays in step for every pairing that tolerates such findings. Where nothing is
respelled there is nothing to tolerate, and any pairing will do.
-/

namespace UnitCheck

variable {outlook : Outlook} {pairing : Pairing outlook} {spell : Literal -> Option Spelling}

/-- As far as anything is respelled, the pairing is kept when findings have the same stamp,
and when the number behind a new minus gets a type. -/
structure Pairing.Tolerates (pairing : Pairing outlook) (spell : Literal -> Option Spelling) :
    Prop where
  anchored : Anchored spell
  report : ∀ {one other finding found}, pairing.alike one other → finding.stamp = found.stamp →
    (spell = (fun _ => none) → finding = found) →
    pairing.alike (Act.apply one (.report finding)) (Act.apply other (.report found))
  number : ∀ {one other value spelling} type, pairing.alike one other →
    spell value = some spelling →
    pairing.alike one (Act.apply other (.typed spelling.number.node type))

/-- Every pairing tolerates that nothing is respelled. -/
theorem Pairing.Tolerates.plain : pairing.Tolerates fun _ => none where
  anchored _ _ impossible := by cases impossible
  report alike _ same := by
    rw [same rfl]
    exact pairing.act alike trivial
  number _ _ impossible := by cases impossible

namespace Typing

variable {first second : Demand}

/-! ### Findings with the same stamp -/

section Stamps

variable (span other : Span)

theorem stamp_mismatch? (found expected : Ty) :
    (mismatch? span found expected).map Finding.stamp =
      (mismatch? other found expected).map Finding.stamp := by
  unfold mismatch?
  split <;> rfl

theorem stamp_logicalOperand? (op : String) (type : Ty) :
    (logicalOperand? op span type).map Finding.stamp =
      (logicalOperand? op other type).map Finding.stamp := by
  unfold logicalOperand?
  split <;> rfl

/-- The judgements give the same type, and what they say has the same stamp. -/
def Judged.Same (one other : Judged) : Prop :=
  one.1 = other.1 ∧ one.2.map Finding.stamp = other.2.map Finding.stamp

theorem same_negateType (whole : Span) (type : Ty) :
    (negateType whole span type).Same (negateType whole other type) := by
  unfold negateType
  split_ifs <;> exact ⟨rfl, rfl⟩

theorem same_complementType (type : Ty) :
    (complementType span type).Same (complementType other type) := by
  unfold complementType
  split_ifs <;> exact ⟨rfl, rfl⟩

theorem same_elementType (base : Ty) (constant : Option (Literal × Int)) :
    (elementType base span constant).Same (elementType base other constant) := by
  unfold elementType
  split_ifs
  · exact ⟨rfl, rfl⟩
  · split <;> exact ⟨rfl, rfl⟩

/-- A number behind a minus is judged like the literal that has the minus in it. -/
theorem same_literalType {value : Literal} {digits : String}
    (behind : value.behindMinus? = some digits) (usual : Ty) (expected : Option Ty) :
    (literalType usual value expected false).Same
      (literalType usual ⟨.integer, digits, span⟩ expected true) := by
  obtain ⟨isInteger, magnitude, isNumber, isWhole⟩ := Literal.integer?_behindMinus behind
  unfold literalType
  rw [isInteger]
  simp only [integerType, isNumber, isWhole]
  split
  · exact ⟨rfl, rfl⟩
  · refine ⟨rfl, ?_⟩
    simp only [Bool.false_eq_true, if_false, if_true, overflow?]
    split
    · rfl
    · split <;> rfl

end Stamps

section Respelled

variable (tolerates : pairing.Tolerates spell)

include tolerates

/-- A complaint about an expression is made in either spelling. -/
theorem respelled_report (expr : Expr) (complaint : Span -> Finding)
    (same : ∀ span other, (complaint span).stamp = (complaint other).stamp) :
    pairing.InStep (Check.report (complaint expr.span))
      (Check.report (complaint (expr.respell spell).span)) fun _ => True := by
  intro one other alike
  refine ⟨rfl, trivial, tolerates.report alike (same _ _) fun isNone => ?_⟩
  rw [isNone, Expr.respell_none]

/-- What may be said about something is said on both sides. -/
theorem respelled_tell {finding found : Option Finding}
    (same : finding.map Finding.stamp = found.map Finding.stamp)
    (plain : spell = (fun _ => none) → finding = found) :
    pairing.InStep (tell finding) (tell found) fun _ => True := by
  cases finding with
  | none =>
    cases found with
    | none => exact .pure trivial
    | some _ => cases same
  | some finding =>
    cases found with
    | none => cases same
    | some found =>
      intro one other alike
      exact ⟨rfl, trivial, tolerates.report alike (Option.some.inj same) fun isNone =>
        Option.some.inj (plain isNone)⟩

/-- What may be said about an expression is said in either spelling. -/
theorem respelled_tellOf (expr : Expr) (complaint : Span -> Option Finding)
    (same : ∀ span other,
      (complaint span).map Finding.stamp = (complaint other).map Finding.stamp) :
    pairing.InStep (tell (complaint expr.span)) (tell (complaint (expr.respell spell).span))
      fun _ => True :=
  respelled_tell tolerates (same _ _) fun isNone => by rw [isNone, Expr.respell_none]

theorem respelled_mismatch (expr : Expr) (found expected : Ty) :
    pairing.InStep (tell (mismatch? expr.span found expected))
      (tell (mismatch? (expr.respell spell).span found expected)) fun _ => True :=
  respelled_tellOf tolerates expr (mismatch? · found expected)
    fun span other => stamp_mismatch? span other found expected

theorem respelled_logicalOperand (op : String) (expr : Expr) (type : Ty) :
    pairing.InStep (tell (logicalOperand? op expr.span type))
      (tell (logicalOperand? op (expr.respell spell).span type)) fun _ => True :=
  respelled_tellOf tolerates expr (logicalOperand? op · type)
    fun span other => stamp_logicalOperand? span other op type

theorem respelled_accept {one other : Judged} (same : one.Same other)
    (plain : spell = (fun _ => none) → one = other) (holds : outlook.Holds one.1) :
    pairing.InStep (accept one) (accept other) outlook.Holds := by
  refine .bind (respelled_tell tolerates same.2 fun isNone => by rw [plain isNone]) fun _ _ => ?_
  rw [← same.1]
  exact .pure holds

/-- What is judged of an expression is judged in either spelling. -/
theorem respelled_acceptOf (expr : Expr) (judge : Span -> Judged)
    (same : ∀ span other, (judge span).Same (judge other))
    (holds : outlook.Holds (judge expr.span).1) :
    pairing.InStep (accept (judge expr.span)) (accept (judge (expr.respell spell).span))
      outlook.Holds :=
  respelled_accept tolerates (same _ _) (fun isNone => by rw [isNone, Expr.respell_none]) holds

/-- Ahead of anything else the number behind a new minus may get a type. -/
theorem respelled_number {α : Type} {walk others : Check α} {post : α -> Prop} {value : Literal}
    {spelling : Spelling} (isSpelled : spell value = some spelling) (type : Ty)
    (inStep : pairing.InStep walk others post) :
    pairing.InStep walk (do Check.recordExpr spelling.number.node type; others) post :=
  fun one _ alike => inStep one _ (tolerates.number type alike isSpelled)

/-- A literal gets its type in either spelling. -/
theorem respelled_literal (value : Literal) (owned : outlook.owns value.span.node)
    {expected : Option Ty} (wanted : ∀ hint ∈ expected, outlook.Holds hint) :
    pairing.InStep (checkExpr first (.literal value) expected)
      (checkExpr second ((Expr.literal value).respell spell) expected) outlook.Holds := by
  obtain stays | ⟨digits, spelling, behind, isSpelled, same⟩ :=
    Expr.respell_literal spell value
  · rw [stays]
    unfold checkExpr
    exact .bind (steps_checkLiteral value wanted _) fun _ holds => steps_record owned holds
  · rw [same]
    unfold checkExpr
    have judged : pairing.InStep (checkLiteral value expected false)
        (checkLiteral ⟨.integer, digits, spelling.number⟩ expected true) outlook.Holds := by
      refine .read fun one other alike => ?_
      rw [← (pairing.agree alike).options]
      refine respelled_accept tolerates (same_literalType _ behind _ _) (fun isNone => ?_)
        (within_literalType one.options value wanted false) one other alike
      rw [isNone] at isSpelled
      cases isSpelled
    refine .bind judged fun type holds => respelled_number tolerates isSpelled type ?_
    rw [tolerates.anchored value spelling isSpelled]
    exact steps_record owned holds

end Respelled

/-! ### Places -/

/-- A place is one in either spelling. -/
theorem isAddressable_respell (facts : Facts) (expr : Expr) :
    isAddressable facts (expr.respell spell) = isAddressable facts expr := by
  cases expr with
  | literal value =>
    obtain stays | ⟨_, _, _, _, same⟩ := Expr.respell_literal spell value
    · rw [stays]
    · rw [same]
      rfl
  | _ => rfl

/-- In either spelling the path to a place starts at the same binding. -/
theorem assignRoot_respell (anchored : Anchored spell) (facts : Facts) :
    (expr : Expr) -> assignRoot facts (expr.respell spell) = assignRoot facts expr
  | .literal value => by
    obtain stays | ⟨_, _, _, _, same⟩ := Expr.respell_literal spell value
    · rw [stays]
    · rw [same]
      rfl
  | .field base path span => by
    unfold Expr.respell assignRoot
    rw [assignRoot_respell anchored facts base]
  | .index base position span => by
    unfold Expr.respell assignRoot
    rw [assignRoot_respell anchored facts base, Expr.node_respell anchored base]
  | .name _ | .binary _ _ _ _ | .unary _ _ _ | .call _ _ _ | .callValue _ _ _
  | .cast _ _ _ | .array _ _ _ | .addressOf _ _ | .load _ _ _ | .alloc _ _ | .bad _ => rfl

theorem mutability_respell (anchored : Anchored spell) (facts : Facts) (expr : Expr) (type : Ty) :
    mutability facts (expr.respell spell) type = mutability facts expr type := by
  unfold mutability
  rw [isAddressable_respell, assignRoot_respell anchored]

/-- An enumeration is named in either spelling. -/
theorem enumBase?_respell (base : Expr) : enumBase? (base.respell spell) = enumBase? base := by
  cases base with
  | literal value =>
    obtain stays | ⟨_, _, _, _, same⟩ := Expr.respell_literal spell value
    · rw [stays]
    · rw [same]
      rfl
  | _ => rfl

/-- A position that is spared is the same constant in either spelling. -/
theorem constantIndex?_respell {base position : Expr} {span : Span}
    (spared : ∀ value ∈ (Expr.index base position span).fixed, spell value = none) :
    constantIndex? (position.respell spell) = constantIndex? position := by
  cases position with
  | literal value => rw [Expr.respell_of_spared (spared value (by simp [Expr.fixed]))]
  | _ => rfl

/-- A literal behind a minus that is spared is typed together with it in either spelling. -/
theorem negatedLiteral?_respell {operand : Expr} {span : Span}
    (spared : ∀ value ∈ (Expr.unary .negate operand span).fixed, spell value = none) :
    negatedLiteral? (operand.respell spell) = negatedLiteral? operand := by
  cases operand with
  | literal value => rw [Expr.respell_of_spared (spared value (by simp [Expr.fixed]))]
  | _ => rfl

-- the walks need their hypotheses only through each other
set_option linter.unusedSectionVars false

/-! ### Expressions -/

section Expressions

variable (tolerates : pairing.Tolerates spell)

include tolerates

theorem respelled_compareItems (element : Ty) (items : List Expr)
    (owned : ∀ node ∈ Expr.sitesAll items, outlook.owns node) :
    pairing.InStep (compareItems element items)
      (compareItems element (Expr.respellAll spell items)) fun _ => True := by
  induction items with
  | nil => exact .pure trivial
  | cons item rest inductionHypothesis =>
    simp only [Expr.sitesAll_cons, List.forall_mem_append] at owned
    refine .read fun one other alike => ?_
    have same : one.facts.exprs.find? item.node = other.facts.exprs.find? item.node :=
      congrArg Entry.expr (entries_of_owns alike owned.1 _ item.node_mem_sites)
    simp only [Expr.node_respell tolerates.anchored]
    rw [← same]
    exact (Pairing.InStep.bind (respelled_mismatch tolerates item _ _) fun _ _ =>
      inductionHypothesis owned.2) one other alike

variable (answers : AnswerAlike pairing first second)

include answers

mutual

/-- Typing an expression stays in step with typing it respelled. -/
theorem respelled_checkExpr :
    (expr : Expr) -> (∀ node ∈ expr.sites, outlook.owns node) -> expr.Spares spell ->
    (expected : Option Ty) -> (∀ hint ∈ expected, outlook.Holds hint) ->
    pairing.InStep (checkExpr first expr expected) (checkExpr second (expr.respell spell) expected)
      outlook.Holds
  | .literal value, owned, _, expected, wanted =>
    respelled_literal tolerates value (by simpa using owned) wanted
  | .name name, owned, _, expected, _ => by
    have own : outlook.owns name.span.node := by simpa using owned
    unfold Expr.respell checkExpr
    exact .bind (inStep_nameType answers own) fun _ holds => steps_record own holds
  | .binary op left right span, owned, spares, expected, wanted => by
    simp only [Expr.sites_binary, List.forall_mem_cons, List.forall_mem_append] at owned
    rw [Expr.spares_binary] at spares
    have inStepLeft := respelled_checkExpr left owned.2.1 spares.1
    have inStepRight := respelled_checkExpr right owned.2.2 spares.2
    have boolWanted : ∀ hint ∈ some Ty.bool, outlook.Holds hint := holds_some trivial
    unfold Expr.respell checkExpr
    simp only [Expr.isUntypedLiteral_respell]
    split
    · exact .bind (inStepLeft _ boolWanted) fun _ _ => .bind (inStepRight _ boolWanted) fun _ _ =>
        .bind (respelled_logicalOperand tolerates _ left _) fun _ _ =>
        .bind (respelled_logicalOperand tolerates _ right _) fun _ _ =>
        steps_record owned.1 trivial
    · have hintHolds : ∀ hint ∈ if op.isComparison then none else expected,
          outlook.Holds hint := by
        intro hint isHint
        split at isHint
        · cases isHint
        · exact wanted hint isHint
      split
      · exact .bind (inStepRight _ hintHolds) fun _ rightHolds =>
          .bind (inStepLeft _ (within_literalHint rightHolds)) fun _ leftHolds =>
          .bind (steps_accept (within_binaryType leftHolds rightHolds)) fun _ holds =>
          steps_record owned.1 holds
      · exact .bind (inStepLeft _ hintHolds) fun _ leftHolds =>
          .bind (inStepRight _ (within_literalHint leftHolds)) fun _ rightHolds =>
          .bind (steps_accept (within_binaryType leftHolds rightHolds)) fun _ holds =>
          steps_record owned.1 holds
  | .unary .negate operand span, owned, spares, expected, wanted => by
    simp only [Expr.sites_unary, List.forall_mem_cons] at owned
    rw [Expr.spares_unary] at spares
    unfold Expr.respell checkExpr
    rw [negatedLiteral?_respell spares.1]
    split
    · rename_i literal isLiteral
      have own : outlook.owns literal.span.node := by
        cases operand <;> simp only [negatedLiteral?, reduceCtorEq] at isLiteral
        split at isLiteral <;> cases isLiteral <;> simpa using owned.2
      exact .bind (steps_checkLiteral literal wanted _) fun _ holds =>
        .bind (Pairing.steps_recordExpr own holds) fun _ _ => steps_record owned.1 holds
    · exact .bind (respelled_checkExpr operand owned.2 spares.2 _ wanted) fun type holds =>
        .bind (respelled_acceptOf tolerates operand (negateType span · type)
          (fun _ _ => same_negateType _ _ _ _) (within_negateType holds)) fun _ holds =>
        steps_record owned.1 holds
  | .unary .not operand span, owned, spares, expected, _ => by
    simp only [Expr.sites_unary, List.forall_mem_cons] at owned
    rw [Expr.spares_unary] at spares
    unfold Expr.respell checkExpr
    exact .bind (respelled_checkExpr operand owned.2 spares.2 _ (holds_some trivial)) fun _ _ =>
      .bind (respelled_logicalOperand tolerates _ operand _) fun _ _ =>
      steps_record owned.1 trivial
  | .unary .complement operand span, owned, spares, expected, wanted => by
    simp only [Expr.sites_unary, List.forall_mem_cons] at owned
    rw [Expr.spares_unary] at spares
    unfold Expr.respell checkExpr
    exact .bind (respelled_checkExpr operand owned.2 spares.2 _ wanted) fun type holds =>
      .bind (respelled_acceptOf tolerates operand (complementType · type)
        (fun _ _ => same_complementType _ _ _) (within_complementType holds)) fun _ holds =>
      steps_record owned.1 holds
  | .call name args span, owned, spares, expected, _ => by
    simp only [Expr.sites_call, List.forall_mem_cons] at owned
    rw [Expr.spares_call] at spares
    have inStepAll := respelled_checkAll args owned.2.2 spares
    unfold Expr.respell checkExpr
    refine .read fun one other alike => ?_
    have inside := outlook.inside_of_owns _ owned.1
    have same : one.facts.refs.find? name.span.node = other.facts.refs.find? name.span.node :=
      congrArg Entry.ref ((pairing.agree alike).entries _ inside)
    rw [← same]
    cases found : one.facts.refs.find? name.span.node with
    | none =>
      exact (Pairing.InStep.bind inStepAll fun _ _ => steps_record owned.2.1 (holds_prim _))
        one other alike
    | some symbol =>
      obtain ⟨proper, asked⟩ := ((pairing.enclosed alike).entries _ inside).ref symbol found
      refine (Pairing.InStep.bind (inStep_calleeOf answers proper asked) fun found holds => ?_)
        one other alike
      cases found with
      | none =>
        exact .bind (Pairing.steps_report _) fun _ _ => .bind inStepAll fun _ _ =>
          steps_record owned.2.1 trivial
      | some callee =>
        obtain ⟨paramsHold, resultHolds⟩ := holds callee rfl
        simp only [Expr.length_respellAll]
        exact .bind (answers.type symbol proper asked) fun _ typeHolds =>
          .bind (Pairing.steps_recordExpr owned.1 typeHolds) fun _ _ =>
          inStep_arguments (respelled_checkArgs args owned.2.2 spares _ paramsHold) inStepAll
            owned.2.1 resultHolds
  | .callValue function args span, owned, spares, expected, _ => by
    simp only [Expr.sites_callValue, List.forall_mem_cons, List.forall_mem_append] at owned
    rw [Expr.spares_callValue] at spares
    have inStepAll := respelled_checkAll args owned.2.2 spares.2
    unfold Expr.respell checkExpr
    refine .bind (respelled_checkExpr function owned.2.1 spares.1 _ holds_none)
      fun type holds => ?_
    split
    · exact .bind inStepAll fun _ _ => steps_record owned.1 trivial
    · split
      · rename_i isFunction
        have within := holds.of_unwrap_eq isFunction
        simp only [Expr.length_respellAll]
        exact inStep_arguments
          (respelled_checkArgs args owned.2.2 spares.2 _ (Ty.allWithin_iff.mp within.1)) inStepAll
          owned.1 within.2
      · exact .bind (respelled_report tolerates function (.valueNotCallable · type)
            fun _ _ => rfl) fun _ _ =>
          .bind inStepAll fun _ _ => steps_record owned.1 trivial
  | .field base path span, owned, spares, expected, _ => by
    simp only [Expr.sites_field, List.forall_mem_cons] at owned
    rw [Expr.spares_field] at spares
    unfold Expr.respell checkExpr
    rw [enumBase?_respell]
    refine .bind (steps_enumBase? owned.2) fun found names => ?_
    split
    · rename_i symbol name
      obtain ⟨proper, isEnum, own⟩ := names symbol name rfl
      exact .bind (steps_variantType proper isEnum own path span) fun _ holds =>
        steps_record owned.1 holds
    · exact .bind (respelled_checkExpr base owned.2 spares _ holds_none) fun _ holds =>
        .bind (steps_fieldType holds path owned.1) fun _ holds => steps_record owned.1 holds
  | .index base position span, owned, spares, expected, _ => by
    simp only [Expr.sites_index, List.forall_mem_cons, List.forall_mem_append] at owned
    rw [Expr.spares_index] at spares
    unfold Expr.respell checkExpr
    rw [constantIndex?_respell spares.1]
    refine .bind (respelled_checkExpr base owned.2.1 spares.2.1 _ holds_none) fun baseType holds =>
      .bind (respelled_checkExpr position owned.2.2 spares.2.2 _ (holds_some trivial))
        fun found _ => ?_
    have inStepElement : pairing.InStep
        (accept (elementType baseType base.span (constantIndex? position)))
        (accept (elementType baseType (base.respell spell).span (constantIndex? position)))
        outlook.Holds :=
      respelled_acceptOf tolerates base (elementType baseType · (constantIndex? position))
        (fun _ _ => same_elementType _ _ _ _) (within_elementType holds)
    simp only
    split
    · exact .bind (respelled_report tolerates position (.indexNotInteger · found) fun _ _ => rfl)
        fun _ _ => .bind inStepElement fun _ found => steps_record owned.1 found
    · exact .bind inStepElement fun _ found => steps_record owned.1 found
  | .cast form operand span, owned, spares, expected, _ => by
    simp only [Expr.sites_cast, List.forall_mem_cons, List.forall_mem_append] at owned
    rw [Expr.spares_cast] at spares
    unfold Expr.respell checkExpr
    refine .bind (Pairing.steps_recordedType form owned.2.1) fun _ holds =>
      .bind (respelled_checkExpr operand owned.2.2 spares _ holds_none) fun _ _ => ?_
    simp only
    split
    · exact .bind (Pairing.steps_report _) fun _ _ => steps_record owned.1 holds
    · exact steps_record owned.1 holds
  | .array form items span, owned, spares, expected, wanted => by
    simp only [Expr.sites_array, List.forall_mem_cons, List.forall_mem_append] at owned
    rw [Expr.spares_array] at spares
    have inStepGiven : pairing.InStep (givenElement form expected) (givenElement form expected)
        fun given => ∀ type ∈ given, outlook.Holds type := by
      unfold givenElement
      cases form with
      | some form =>
        exact .bind (Pairing.steps_recordedType form (by simpa using owned.2.1)) fun _ holds =>
          .pure (holds_some holds)
      | none => exact .pure (within_expectedElement? wanted)
    unfold Expr.respell
    rw [checkExpr_array, checkExpr_array]
    refine .bind inStepGiven fun given holds => ?_
    cases given with
    | some element =>
      have holds := holds element rfl
      unfold arrayFrom
      simp only [Expr.length_respellAll]
      exact .bind (respelled_checkItems items owned.2.2 spares _ holds) fun _ _ =>
        steps_record owned.1 holds
    | none =>
      refine .bind (respelled_checkTypedItems items owned.2.2 spares _ holds_none)
        fun _ hinted =>
        .bind (respelled_checkLiteralItems items owned.2.2 spares _ hinted _ hinted)
          fun best picked => ?_
      cases best with
      | some element =>
        refine .bind (respelled_compareItems tolerates _ _ owned.2.2) fun _ _ => ?_
        rw [Expr.length_respellAll]
        exact steps_record owned.1 (picked element rfl)
      | none =>
        exact .bind (Pairing.steps_report _) fun _ _ =>
          steps_record owned.1 (show outlook.Holds (.fixedArray .unknown 0) from trivial)
  | .addressOf operand span, owned, spares, expected, _ => by
    simp only [Expr.sites_addressOf, List.forall_mem_cons] at owned
    rw [Expr.spares_addressOf] at spares
    unfold Expr.respell checkExpr
    refine .bind (respelled_checkExpr operand owned.2 spares _ holds_none) fun _ _ =>
      .read fun one other alike => ?_
    simp only
    rw [isAddressable_respell, isAddressable_congr (entries_of_owns alike owned.2)]
    split
    · exact (Pairing.InStep.bind (respelled_report tolerates operand .notAddressable
        fun _ _ => rfl) fun _ _ => steps_record owned.1 (holds_prim _)) one other alike
    · exact steps_record owned.1 (holds_prim _) one other alike
  | .load form operand span, owned, spares, expected, _ => by
    simp only [Expr.sites_load, List.forall_mem_cons, List.forall_mem_append] at owned
    rw [Expr.spares_load] at spares
    unfold Expr.respell checkExpr
    refine .bind (Pairing.steps_recordedType form owned.2.1) fun _ holds =>
      .bind (respelled_checkExpr operand owned.2.2 spares _ holds_none) fun source _ => ?_
    simp only
    split
    · exact .bind (respelled_report tolerates operand (.loadOperand · source) fun _ _ => rfl)
        fun _ _ => steps_record owned.1 holds
    · exact steps_record owned.1 holds
  | .alloc form span, owned, _, expected, _ => by
    simp only [Expr.sites_alloc, List.forall_mem_cons] at owned
    unfold Expr.respell checkExpr
    exact .bind (Pairing.steps_recordedType form owned.2) fun _ holds =>
      steps_record owned.1 holds
  | .bad span, owned, _, expected, _ => by
    unfold Expr.respell checkExpr
    exact steps_record (by simpa using owned) trivial

theorem respelled_checkAll :
    (exprs : List Expr) -> (∀ node ∈ Expr.sitesAll exprs, outlook.owns node) ->
    (∀ expr ∈ exprs, expr.Spares spell) ->
    pairing.InStep (checkAll first exprs) (checkAll second (Expr.respellAll spell exprs))
      fun _ => True
  | [], _, _ => by
    unfold Expr.respellAll checkAll
    exact .pure trivial
  | expr :: rest, owned, spares => by
    simp only [Expr.sitesAll_cons, List.forall_mem_append] at owned
    rw [List.forall_mem_cons] at spares
    unfold Expr.respellAll checkAll
    exact .bind (respelled_checkExpr expr owned.1 spares.1 _ holds_none) fun _ _ =>
      respelled_checkAll rest owned.2 spares.2

theorem respelled_checkArgs :
    (exprs : List Expr) -> (∀ node ∈ Expr.sitesAll exprs, outlook.owns node) ->
    (∀ expr ∈ exprs, expr.Spares spell) ->
    (params : List Ty) -> (∀ param ∈ params, outlook.Holds param) ->
    pairing.InStep (checkArgs first params exprs)
      (checkArgs second params (Expr.respellAll spell exprs)) fun _ => True
  | [], _, _, params, _ => by
    unfold Expr.respellAll checkArgs
    exact .pure trivial
  | expr :: rest, owned, spares, [], hold => by
    simp only [Expr.sitesAll_cons, List.forall_mem_append] at owned
    rw [List.forall_mem_cons] at spares
    unfold Expr.respellAll checkArgs
    exact .bind (respelled_checkExpr expr owned.1 spares.1 _ holds_none) fun _ _ =>
      respelled_checkArgs rest owned.2 spares.2 _ hold
  | expr :: rest, owned, spares, param :: params, hold => by
    simp only [Expr.sitesAll_cons, List.forall_mem_append] at owned
    rw [List.forall_mem_cons] at spares hold
    unfold Expr.respellAll checkArgs
    exact .bind (respelled_checkExpr expr owned.1 spares.1 _ (holds_some hold.1)) fun _ _ =>
      .bind (respelled_mismatch tolerates expr _ _) fun _ _ =>
      respelled_checkArgs rest owned.2 spares.2 _ hold.2

theorem respelled_checkItems :
    (exprs : List Expr) -> (∀ node ∈ Expr.sitesAll exprs, outlook.owns node) ->
    (∀ expr ∈ exprs, expr.Spares spell) -> (element : Ty) -> outlook.Holds element ->
    pairing.InStep (checkItems first element exprs)
      (checkItems second element (Expr.respellAll spell exprs)) fun _ => True
  | [], _, _, element, _ => by
    unfold Expr.respellAll checkItems
    exact .pure trivial
  | expr :: rest, owned, spares, element, holds => by
    simp only [Expr.sitesAll_cons, List.forall_mem_append] at owned
    rw [List.forall_mem_cons] at spares
    unfold Expr.respellAll checkItems
    exact .bind (respelled_checkExpr expr owned.1 spares.1 _ (holds_some holds)) fun _ _ =>
      .bind (respelled_mismatch tolerates expr _ _) fun _ _ =>
      respelled_checkItems rest owned.2 spares.2 _ holds

theorem respelled_checkTypedItems :
    (exprs : List Expr) -> (∀ node ∈ Expr.sitesAll exprs, outlook.owns node) ->
    (∀ expr ∈ exprs, expr.Spares spell) ->
    (best : Option Ty) -> (∀ type ∈ best, outlook.Holds type) ->
    pairing.InStep (checkTypedItems first best exprs)
      (checkTypedItems second best (Expr.respellAll spell exprs))
      fun found => ∀ type ∈ found, outlook.Holds type
  | [], _, _, best, hold => by
    unfold Expr.respellAll checkTypedItems
    exact .pure hold
  | expr :: rest, owned, spares, best, hold => by
    simp only [Expr.sitesAll_cons, List.forall_mem_append] at owned
    rw [List.forall_mem_cons] at spares
    unfold Expr.respellAll checkTypedItems
    rw [Expr.isUntypedLiteral_respell]
    split
    · exact respelled_checkTypedItems rest owned.2 spares.2 _ hold
    · exact .bind (respelled_checkExpr expr owned.1 spares.1 _ holds_none) fun _ holds =>
        respelled_checkTypedItems rest owned.2 spares.2 _ (within_better hold holds)

theorem respelled_checkLiteralItems :
    (exprs : List Expr) -> (∀ node ∈ Expr.sitesAll exprs, outlook.owns node) ->
    (∀ expr ∈ exprs, expr.Spares spell) ->
    (hint : Option Ty) -> (∀ type ∈ hint, outlook.Holds type) ->
    (best : Option Ty) -> (∀ type ∈ best, outlook.Holds type) ->
    pairing.InStep (checkLiteralItems first hint best exprs)
      (checkLiteralItems second hint best (Expr.respellAll spell exprs))
      fun found => ∀ type ∈ found, outlook.Holds type
  | [], _, _, hint, _, best, hold => by
    unfold Expr.respellAll checkLiteralItems
    exact .pure hold
  | expr :: rest, owned, spares, hint, wanted, best, hold => by
    simp only [Expr.sitesAll_cons, List.forall_mem_append] at owned
    rw [List.forall_mem_cons] at spares
    unfold Expr.respellAll checkLiteralItems
    rw [Expr.isUntypedLiteral_respell]
    split
    · refine .bind (respelled_checkExpr expr owned.1 spares.1 _ wanted) fun type holds =>
        respelled_checkLiteralItems rest owned.2 spares.2 _ wanted _ ?_
      split
      · exact within_better hold holds
      · exact hold
    · exact respelled_checkLiteralItems rest owned.2 spares.2 _ wanted _ hold

end

end Expressions

/-! ### Statements -/

section Statements

variable (tolerates : pairing.Tolerates spell) (answers : AnswerAlike pairing first second)

include tolerates answers

theorem respelled_valueType (name : Option Ident) {declared : Option Ty}
    (hold : ∀ type ∈ declared, outlook.Holds type) (value : Option Expr)
    (owned : ∀ node ∈ value.toList.flatMap Expr.sites, outlook.owns node)
    (spares : ∀ expr ∈ value, expr.Spares spell) :
    pairing.InStep (valueType first name declared value)
      (valueType second name declared (value.map (Expr.respell spell))) outlook.Holds := by
  cases value with
  | none =>
    refine .pure ?_
    cases declared with
    | none => exact holds_prim _
    | some type => exact hold type rfl
  | some value =>
    refine .bind (respelled_checkExpr tolerates answers value (by simpa using owned)
      (spares value rfl) _ hold) fun found holds => ?_
    split
    · exact .bind (respelled_mismatch tolerates value _ _) fun _ _ => .pure (hold _ rfl)
    · split
      · exact .bind (respelled_report tolerates value (.voidBinding · _) fun _ _ => rfl)
          fun _ _ => .pure (holds_prim _)
      · exact .pure holds

theorem respelled_checkBinding {node : NodeId} {form : Option TypeForm} {value : Option Expr}
    (owned : outlook.owns node)
    (formOwned : ∀ node ∈ form.toList.flatMap TypeForm.nodes, outlook.owns node)
    (valueOwned : ∀ node ∈ value.toList.flatMap Expr.sites, outlook.owns node)
    (spares : ∀ expr ∈ value, expr.Spares spell) (name : Option Ident) :
    pairing.InStep (checkBinding first node name form value)
      (checkBinding second node name form (value.map (Expr.respell spell))) outlook.Holds :=
  .bind (steps_declaredType name form formOwned) fun _ hold =>
    .bind (respelled_valueType tolerates answers name hold value valueOwned spares)
      fun _ holds =>
    .bind (steps_setDeclType owned holds) fun _ _ => .pure holds

theorem respelled_checkLocal (binding : BindingDecl) (owned : outlook.owns binding.span.node)
    (formOwned : ∀ node ∈ binding.type.toList.flatMap TypeForm.nodes, outlook.owns node)
    (valueOwned : ∀ node ∈ binding.value.toList.flatMap Expr.sites, outlook.owns node)
    (spares : ∀ expr ∈ binding.value, expr.Spares spell) :
    pairing.InStep (checkLocal first binding) (checkLocal second (binding.respell spell))
      fun _ => True := by
  unfold checkLocal BindingDecl.respell
  simp only [Option.isNone_map]
  split
  · exact .bind (Pairing.steps_report _) fun _ _ => steps_setDeclType owned (holds_prim _)
  · exact .bind (respelled_checkBinding tolerates answers owned formOwned valueOwned spares _)
      fun _ _ => .pure trivial

theorem respelled_checkConst (decl : ConstDecl) (owned : outlook.owns decl.span.node)
    (formOwned : ∀ node ∈ decl.type.toList.flatMap TypeForm.nodes, outlook.owns node)
    (valueOwned : ∀ node ∈ decl.value.toList.flatMap Expr.sites, outlook.owns node)
    (spares : ∀ expr ∈ decl.value, expr.Spares spell) :
    pairing.InStep (checkConst first decl) (checkConst second (decl.respell spell))
      outlook.Holds := by
  have binds := respelled_checkBinding tolerates answers owned formOwned valueOwned spares decl.name
  cases written : decl.value with
  | some value =>
    rw [written] at binds
    unfold checkConst ConstDecl.respell
    rw [written]
    exact binds
  | none =>
    have stays : decl.respell spell = decl := by
      obtain ⟨_, _, _, _, _⟩ := decl
      cases written
      rfl
    rw [stays]
    unfold checkConst
    rw [written]
    have rest (type : Ty) (holds : outlook.Holds type) : pairing.Steps (do
        setDeclType decl.span.node type
        return type : Check Ty) outlook.Holds :=
      .bind (steps_setDeclType owned holds) fun _ _ => .pure holds
    refine .bind (Pairing.steps_report _) fun _ _ => ?_
    split
    · rename_i form isForm
      rw [isForm] at formOwned
      exact .bind (Pairing.steps_recordedType form (by simpa using formOwned)) rest
    · exact rest _ (holds_prim _)

theorem respelled_checkStatic (decl : StaticDecl) (owned : outlook.owns decl.span.node)
    (formOwned : ∀ node ∈ decl.type.toList.flatMap TypeForm.nodes, outlook.owns node)
    (valueOwned : ∀ node ∈ decl.value.toList.flatMap Expr.sites, outlook.owns node)
    (spares : ∀ expr ∈ decl.value, expr.Spares spell) :
    pairing.InStep (checkStatic first decl) (checkStatic second (decl.respell spell))
      outlook.Holds := by
  unfold checkStatic StaticDecl.respell
  simp only [Option.isNone_map]
  split
  · exact .bind (Pairing.steps_report _) fun _ _ =>
      .bind (steps_setDeclType owned (holds_prim _)) fun _ _ => .pure (holds_prim _)
  · exact respelled_checkBinding tolerates answers owned formOwned valueOwned spares _

theorem respelled_checkCondition {test : Expr} (owned : ∀ node ∈ test.sites, outlook.owns node)
    (spares : test.Spares spell) :
    pairing.InStep (checkCondition first test) (checkCondition second (test.respell spell))
      fun _ => True := by
  refine .bind (respelled_checkExpr tolerates answers test owned spares _
    (holds_some (holds_prim _))) fun type _ => ?_
  split
  · exact respelled_report tolerates test (.conditionNotBool · type) fun _ _ => rfl
  · exact .pure trivial

theorem respelled_checkReturn {result : Ty} (holds : outlook.Holds result) {value : Option Expr}
    (owned : ∀ node ∈ value.toList.flatMap Expr.sites, outlook.owns node)
    (spares : ∀ expr ∈ value, expr.Spares spell) (span : Span) :
    pairing.InStep (checkReturn first result value span)
      (checkReturn second result (value.map (Expr.respell spell)) span) fun _ => True := by
  unfold checkReturn
  cases value with
  | none =>
    simp only [Option.map_none]
    split
    · exact Pairing.steps_report _
    · exact .pure trivial
  | some value =>
    have inStepValue :=
      respelled_checkExpr tolerates answers value (by simpa using owned) (spares value rfl)
    simp only [Option.map_some]
    split
    · exact .bind (inStepValue _ holds_none) fun _ _ =>
        respelled_report tolerates value .unexpectedReturnValue fun _ _ => rfl
    · refine .bind (inStepValue _ (holds_some holds)) fun found _ => ?_
      split
      · exact respelled_report tolerates value (.returnMismatch · result found) fun _ _ => rfl
      · exact .pure trivial

theorem respelled_checkAssign {target value : Expr}
    (targetOwned : ∀ node ∈ target.sites, outlook.owns node)
    (valueOwned : ∀ node ∈ value.sites, outlook.owns node)
    (targetSpares : target.Spares spell) (valueSpares : value.Spares spell) :
    pairing.InStep (checkAssign first target value)
      (checkAssign second (target.respell spell) (value.respell spell)) fun _ => True := by
  refine .bind (respelled_checkExpr tolerates answers target targetOwned targetSpares _ holds_none)
      fun type holds =>
    .bind (respelled_checkExpr tolerates answers value valueOwned valueSpares _ (holds_some holds))
      fun found _ => .read fun one other alike => ?_
  rw [mutability_respell tolerates.anchored,
    mutability_congr (entries_of_owns alike targetOwned)]
  have complain (complaint : Span -> Finding)
      (same : ∀ span found, (complaint span).stamp = (complaint found).stamp) :=
    respelled_report tolerates target complaint same one other alike
  cases mutability other.facts target type with
  | allowed => exact respelled_mismatch tolerates value _ _ one other alike
  | notPlace => exact complain .notAssignable fun _ _ => rfl
  | constType => exact complain .constTarget fun _ _ => rfl
  | constant symbol => exact complain (.constantTarget · symbol) fun _ _ => rfl
  | immutable symbol => exact complain (.immutableTarget · symbol) fun _ _ => rfl

theorem respelled_checkWrite {target value : Expr}
    (targetOwned : ∀ node ∈ target.sites, outlook.owns node)
    (valueOwned : ∀ node ∈ value.sites, outlook.owns node)
    (targetSpares : target.Spares spell) (valueSpares : value.Spares spell) :
    pairing.InStep (checkWrite first target value)
      (checkWrite second (target.respell spell) (value.respell spell)) fun _ => True := by
  have inStepValue := respelled_checkExpr tolerates answers value valueOwned valueSpares
  refine .bind (respelled_checkExpr tolerates answers target targetOwned targetSpares _ holds_none)
    fun type holds => ?_
  split
  · rename_i element isPointer
    have within : outlook.Holds (.pointer element) := holds.of_unwrap_eq isPointer
    exact .bind (inStepValue _ (holds_some (show outlook.Holds element from within))) fun _ _ =>
      respelled_mismatch tolerates value _ _
  · refine .bind (inStepValue _ holds_none) fun _ _ => ?_
    split
    · exact respelled_report tolerates target (.writeOperand · type) fun _ _ => rfl
    · exact .pure trivial

mutual

/-- Typing a statement stays in step with typing it respelled. -/
theorem respelled_checkStmt {result : Ty} (holds : outlook.Holds result) :
    (stmt : Stmt) -> (∀ node ∈ stmt.sites, outlook.owns node) -> stmt.Spares spell ->
    pairing.InStep (checkStmt first result stmt) (checkStmt second result (stmt.respell spell))
      fun _ => True
  | .block body span, owned, spares => by
    unfold Stmt.respell checkStmt
    exact respelled_checkStmts holds body (by simpa using owned) (Stmt.spares_block.mp spares)
  | .expr value, owned, spares => by
    have leaf := owns_leaf rfl owned
    rw [Stmt.spares_of_isLeaf rfl] at spares
    unfold Stmt.respell checkStmt
    exact .bind (respelled_checkExpr tolerates answers value
      (by simpa [Stmt.ownExprs] using leaf.2.1) (spares value (by simp [Stmt.ownExprs])) _
      holds_none) fun _ _ => .pure trivial
  | .letIn binding, owned, spares => by
    have leaf := owns_leaf rfl owned
    rw [Stmt.spares_of_isLeaf rfl] at spares
    unfold Stmt.respell checkStmt
    exact respelled_checkLocal tolerates answers binding (leaf.1 _ List.mem_cons_self) leaf.2.2
      leaf.2.1 (by simpa [Stmt.ownExprs] using spares)
  | .instr binding, owned, spares => by
    have leaf := owns_leaf rfl owned
    rw [Stmt.spares_of_isLeaf rfl] at spares
    unfold Stmt.respell checkStmt
    exact .bind (respelled_checkBinding tolerates answers (leaf.1 _ List.mem_cons_self) leaf.2.2
      leaf.2.1 (by simpa [Stmt.ownExprs] using spares) _) fun _ _ => .pure trivial
  | .const decl, owned, spares => by
    have leaf := owns_leaf rfl owned
    rw [Stmt.spares_of_isLeaf rfl] at spares
    unfold Stmt.respell checkStmt
    exact .bind (respelled_checkConst tolerates answers decl (leaf.1 _ List.mem_cons_self)
      leaf.2.2 leaf.2.1 (by simpa [Stmt.ownExprs] using spares)) fun _ _ => .pure trivial
  | .assign target value span, owned, spares | .write target value span, owned, spares => by
    have leaf := owns_leaf rfl owned
    rw [Stmt.spares_of_isLeaf rfl] at spares
    simp only [Stmt.ownExprs, List.flatMap_cons, List.flatMap_nil, List.append_nil,
      List.forall_mem_append] at leaf
    simp only [Stmt.ownExprs, List.forall_mem_cons] at spares
    unfold Stmt.respell checkStmt
    first
      | exact respelled_checkAssign tolerates answers leaf.2.1.1 leaf.2.1.2 spares.1 spares.2.1
      | exact respelled_checkWrite tolerates answers leaf.2.1.1 leaf.2.1.2 spares.1 spares.2.1
  | .cond test body bodySpan otherwise span, owned, spares => by
    simp only [Stmt.sites_cond, List.forall_mem_append] at owned
    rw [Stmt.spares_cond] at spares
    unfold Stmt.respell checkStmt
    exact .bind (respelled_checkCondition tolerates answers owned.1.1 spares.1) fun _ _ =>
      .bind (respelled_checkStmts holds body owned.1.2 spares.2.1) fun _ _ =>
      respelled_checkStmt? holds otherwise owned.2 spares.2.2
  | .whileLoop test body bodySpan span, owned, spares => by
    simp only [Stmt.sites_whileLoop, List.forall_mem_append] at owned
    rw [Stmt.spares_whileLoop] at spares
    unfold Stmt.respell checkStmt
    exact .bind (respelled_checkCondition tolerates answers owned.1 spares.1) fun _ _ =>
      respelled_checkStmts holds body owned.2 spares.2
  | .loop body bodySpan span, owned, spares => by
    unfold Stmt.respell checkStmt
    exact respelled_checkStmts holds body (by simpa using owned) (Stmt.spares_loop.mp spares)
  | .forLoop start test after body bodySpan span, owned, spares => by
    simp only [Stmt.sites_forLoop, List.forall_mem_append] at owned
    rw [Stmt.spares_forLoop] at spares
    have inStepAfter := respelled_checkStmt? holds after owned.1.2 spares.2.1.2
    have inStepBody := respelled_checkStmts holds body owned.2 spares.2.2
    unfold Stmt.respell checkStmt
    refine .bind (respelled_checkStmt? holds start owned.1.1.2 spares.2.1.1) fun _ _ => ?_
    cases test with
    | none => exact .bind inStepAfter fun _ _ => inStepBody
    | some test =>
      exact .bind (respelled_checkCondition tolerates answers (by simpa using owned.1.1.1)
        (spares.1 test rfl)) fun _ _ => .bind inStepAfter fun _ _ => inStepBody
  | .ret value span, owned, spares => by
    have leaf := owns_leaf rfl owned
    rw [Stmt.spares_of_isLeaf rfl] at spares
    unfold Stmt.respell checkStmt
    exact respelled_checkReturn tolerates answers holds leaf.2.1
      (by simpa [Stmt.ownExprs] using spares) span
  | .struct _, _, _ | .brk _, _, _ | .cont _, _, _ | .bad _, _, _ => by
    unfold Stmt.respell checkStmt
    exact .pure trivial

theorem respelled_checkStmt? {result : Ty} (holds : outlook.Holds result) :
    (stmt : Option Stmt) -> (∀ node ∈ stmt.toList.flatMap Stmt.sites, outlook.owns node) ->
    (∀ inner ∈ stmt, inner.Spares spell) ->
    pairing.InStep (checkStmt? first result stmt)
      (checkStmt? second result (Stmt.respell? spell stmt)) fun _ => True
  | none, _, _ => by
    unfold Stmt.respell? checkStmt?
    exact .pure trivial
  | some stmt, owned, spares => by
    unfold Stmt.respell? checkStmt?
    exact respelled_checkStmt holds stmt (by simpa using owned) (spares stmt rfl)

theorem respelled_checkStmts {result : Ty} (holds : outlook.Holds result) :
    (body : List Stmt) -> (∀ node ∈ Stmt.sitesAll body, outlook.owns node) ->
    (∀ stmt ∈ body, stmt.Spares spell) ->
    pairing.InStep (checkStmts first result body)
      (checkStmts second result (Stmt.respellAll spell body)) fun _ => True
  | [], _, _ => by
    unfold Stmt.respellAll checkStmts
    exact .pure trivial
  | stmt :: rest, owned, spares => by
    simp only [Stmt.sitesAll_cons, List.forall_mem_append] at owned
    rw [List.forall_mem_cons] at spares
    unfold Stmt.respellAll checkStmts
    exact .bind (respelled_checkStmt holds stmt owned.1 spares.1) fun _ _ =>
      respelled_checkStmts holds rest owned.2 spares.2

end

end Statements

/-! ### In one spelling -/

section Spelled

variable (answers : AnswerAlike pairing first second)

include answers

theorem inStep_checkExpr (expr : Expr) (owned : ∀ node ∈ expr.sites, outlook.owns node)
    (expected : Option Ty) (wanted : ∀ hint ∈ expected, outlook.Holds hint) :
    pairing.InStep (checkExpr first expr expected) (checkExpr second expr expected)
      outlook.Holds := by
  have inStep :=
    respelled_checkExpr .plain answers expr owned expr.spares_none expected wanted
  rwa [Expr.respell_none] at inStep

theorem inStep_checkCondition {test : Expr} (owned : ∀ node ∈ test.sites, outlook.owns node) :
    pairing.InStep (checkCondition first test) (checkCondition second test) fun _ => True := by
  have inStep := respelled_checkCondition .plain answers owned test.spares_none
  rwa [Expr.respell_none] at inStep

theorem inStep_checkAssign {target value : Expr}
    (targetOwned : ∀ node ∈ target.sites, outlook.owns node)
    (valueOwned : ∀ node ∈ value.sites, outlook.owns node) :
    pairing.InStep (checkAssign first target value) (checkAssign second target value)
      fun _ => True := by
  have inStep := respelled_checkAssign .plain answers targetOwned valueOwned
    target.spares_none value.spares_none
  rwa [Expr.respell_none, Expr.respell_none] at inStep

variable {result : Ty} (holds : outlook.Holds result)

include holds

theorem inStep_checkStmt (stmt : Stmt) (owned : ∀ node ∈ stmt.sites, outlook.owns node) :
    pairing.InStep (checkStmt first result stmt) (checkStmt second result stmt)
      fun _ => True := by
  have inStep := respelled_checkStmt .plain answers holds stmt owned stmt.spares_none
  rwa [Stmt.respell_none] at inStep

theorem inStep_checkStmt? (stmt : Option Stmt)
    (owned : ∀ node ∈ stmt.toList.flatMap Stmt.sites, outlook.owns node) :
    pairing.InStep (checkStmt? first result stmt) (checkStmt? second result stmt)
      fun _ => True := by
  have inStep := respelled_checkStmt? .plain answers holds stmt owned
    fun inner _ => inner.spares_none
  rwa [Stmt.respell?_none] at inStep

theorem inStep_checkStmts (body : List Stmt)
    (owned : ∀ node ∈ Stmt.sitesAll body, outlook.owns node) :
    pairing.InStep (checkStmts first result body) (checkStmts second result body)
      fun _ => True := by
  have inStep := respelled_checkStmts .plain answers holds body owned
    fun stmt _ => stmt.spares_none
  rwa [Stmt.respellAll_none] at inStep

end Spelled

end Typing
end UnitCheck
