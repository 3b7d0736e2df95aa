import UnitCheck.Proofs.Session.Trace
import UnitCheck.Proofs.Tree.Parts
import UnitCheck.Typing.Globals

/-!
# What typing does to a session

The third pass types expressions and sets the types of the values that the walked
statements and the globals declare. Where every written type already has its
meaning, it leaves the meanings and the references alone.
-/

namespace UnitCheck.Typing

/-- The regime lets expressions be typed. -/
structure MayType (regime : Regime) : Prop where
  report : ∀ finding, regime.permits (.report finding)
  typed : ∀ node type, regime.permits (.typed node type)
  hops : ∀ node steps, regime.permits (.hops node steps)
  checked : ∀ node, regime.permits (.checked node)

/-- The regime lets the meaning of a written type be asked for: it is there, or it may
still be found. -/
def MayAsk (regime : Regime) (form : TypeForm) : Prop :=
  (∀ session, regime.holds session → (session.facts.forms.find? form.node).isSome) ∨
    Check.MayResolve regime (· ∈ form.nodes)

/-- The regime lets the type of what a node declares be set. -/
def MaySettle (regime : Regime) (node : NodeId) : Prop :=
  ∀ session symbol type, regime.holds session → session.facts.decls.find? node = some symbol →
    regime.permits (.settles symbol.id type)

/-- The expression asks only for what it may. -/
def Covers (regime : Regime) (exprs : List Expr) : Prop :=
  ∀ expr ∈ exprs, ∀ form ∈ expr.ownForms, MayAsk regime form

variable {regime : Regime}

/-- A type whose form may be read is recorded, or has been. -/
theorem obeys_readType {form : TypeForm} (may : Check.MayRead regime (· ∈ form.nodes)) :
    regime.Obeys (Check.recordedType form) := by
  refine .readAt fun session holds => ?_
  cases session.facts.forms.find? form.node with
  | some type => exact .refl
  | none =>
    exact (Regime.Obeys.bind (Check.obeys_resolveForm may form fun _ => id) fun _ => .pure _)
      session holds

theorem obeys_recordedType {form : TypeForm} (may : MayAsk regime form) :
    regime.Obeys (Check.recordedType form) := by
  rcases may with isThere | mayResolve
  · refine .readAt fun session holds => ?_
    obtain ⟨type, found⟩ := Option.isSome_iff_exists.mp (isThere session holds)
    rw [found]
    exact .refl
  · exact obeys_readType mayResolve.mayRead

/-! ### Expressions -/

theorem obeys_tell (may : MayType regime) : (finding : Option Finding) -> regime.Obeys (tell finding)
  | some _ => Check.obeys_report (may.report _)
  | none => .pure _

theorem obeys_accept (may : MayType regime) (judged : Judged) : regime.Obeys (accept judged) :=
  .bind (obeys_tell may _) fun _ => .pure _

theorem obeys_record (may : MayType regime) (node : NodeId) (type : Ty) :
    regime.Obeys (record node type) :=
  .bind (Check.obeys_recordExpr (may.typed _ _)) fun _ => .pure _

variable {demand : Demand}

section Demand

variable (obeysDemand : ∀ symbol, regime.Obeys (demand symbol))

include obeysDemand

theorem obeys_symbolType (symbol : Symbol) : regime.Obeys (symbolType demand symbol) := by
  refine .read fun session => ?_
  split
  · exact .pure _
  · exact obeysDemand symbol

theorem obeys_nameType (name : Ident) : regime.Obeys (nameType demand name) := by
  refine .read fun session => ?_
  split
  · exact .pure _
  · split
    · exact .pure _
    · exact obeys_symbolType obeysDemand _

theorem obeys_calleeOf (symbol : Symbol) : regime.Obeys (calleeOf demand symbol) := by
  refine .read fun session => ?_
  simp only
  split
  · split <;> exact .pure _
  · split
    · exact .pure _
    · refine .bind (obeys_symbolType obeysDemand symbol) fun type => ?_
      split <;> exact .pure _

end Demand

theorem obeys_checkLiteral (may : MayType regime) (literal : Literal) (expected : Option Ty)
    (negated : Bool) : regime.Obeys (checkLiteral literal expected negated) :=
  .read fun _ => obeys_accept may _

theorem obeys_reportArity (may : MayType regime) (callee : Callee) (span : Span) (count : Nat) :
    regime.Obeys (reportArity callee span count) :=
  .bind (Check.obeys_report (may.report _)) fun _ => Check.obeys_report (may.report _)

/-- The type of a path behind the name of an enumeration with these variants. -/
def chosenVariant (enumName : String) (id : TypeId) (variants path : List String) (span : Span) :
    Check Ty := do
  match path with
  | [variant] =>
    if variants.contains variant then return .enum enumName id
    else
      Check.report (.unknownVariant span enumName path variants)
      return .unknown
  | _ =>
    Check.report (.unknownVariant span enumName path variants)
    return .unknown

theorem obeys_chosenVariant (may : MayType regime) (enumName : String) (id : TypeId)
    (variants path : List String) (span : Span) :
    regime.Obeys (chosenVariant enumName id variants path span) := by
  unfold chosenVariant
  split
  · split
    · exact .pure _
    · exact .bind (Check.obeys_report (may.report _)) fun _ => .pure _
  · exact .bind (Check.obeys_report (may.report _)) fun _ => .pure _

theorem obeys_variantType (may : MayType regime) (symbol : Symbol) (name : Ident)
    (path : List String) (span : Span) : regime.Obeys (variantType symbol name path span) := by
  refine .read fun session => ?_
  split
  · exact .bind (Check.obeys_recordExpr (may.typed _ _)) fun _ =>
      obeys_chosenVariant may _ _ _ path span
  · exact .pure _

theorem obeys_enumBase? (base : Expr) : regime.Obeys (enumBase? base) := by
  unfold enumBase?
  split
  · refine .read fun session => ?_
    split <;> exact .pure _
  · exact .pure _

/-- Asking whether a base names an enumeration changes nothing. -/
theorem run_enumBase? (base : Expr) (session : Session) :
    ∃ found, (enumBase? base).run session = (found, session) := by
  unfold enumBase?
  split
  · rw [StateT.run_bind, StateT.run_get, pure_bind]
    split <;> exact ⟨_, rfl⟩
  · exact ⟨_, rfl⟩

/-- Behind the name of an enumeration a field is one of its variants. -/
theorem run_checkExpr_variant {base : Expr} {session : Session} {symbol : Symbol} {name : Ident}
    (named : (enumBase? base).run session = (some (symbol, name), session)) (path : List String)
    (span : Span) (expected : Option Ty) :
    (checkExpr demand (.field base path span) expected).run session =
      (variantType symbol name path span >>= record span.node).run session := by
  rw [checkExpr, StateT.run_bind, named]
  rfl

/-- Behind any other base a field is looked up in the type of the base. -/
theorem run_checkExpr_field {base : Expr} {session : Session}
    (unnamed : (enumBase? base).run session = (none, session)) (path : List String) (span : Span)
    (expected : Option Ty) :
    (checkExpr demand (.field base path span) expected).run session = (do
      let type <- checkExpr demand base none
      fieldType type path span >>= record span.node : Check Ty).run session := by
  rw [checkExpr, StateT.run_bind, unnamed]
  rfl

theorem obeys_fieldType (may : MayType regime) (base : Ty) (path : List String) (span : Span) :
    regime.Obeys (fieldType base path span) := by
  unfold fieldType
  split
  · exact .pure _
  · refine .read fun session => ?_
    split
    · exact .bind (Check.obeys_recordMembers (may.hops _ _)) fun _ => .pure _
    · exact .bind (Check.obeys_report (may.report _)) fun _ => .pure _

theorem obeys_compareItems (may : MayType regime) (element : Ty) (items : List Expr) :
    regime.Obeys (compareItems element items) := by
  induction items with
  | nil => exact .pure _
  | cons item rest inductionHypothesis =>
    exact .read fun _ => .bind (obeys_tell may _) fun _ => inductionHypothesis

/-- The type of an array once the best of the types of its elements has been picked. -/
def pickedArray (items : List Expr) (span : Span) : (best : Option Ty) -> Check Ty
  | some element => do
    compareItems element items
    record span.node (.fixedArray element items.length)
  | none => do
    Check.report (.emptyArray span)
    record span.node (.fixedArray .unknown 0)

theorem obeys_pickedArray (may : MayType regime) (items : List Expr) (span : Span)
    (best : Option Ty) : regime.Obeys (pickedArray items span best) := by
  cases best with
  | some element => exact .bind (obeys_compareItems may _ _) fun _ => obeys_record may _ _
  | none => exact .bind (Check.obeys_report (may.report _)) fun _ => obeys_record may _ _

/-- The type of an array whose element type is given, or is found from its elements. -/
def arrayFrom (demand : Demand) (items : List Expr) (span : Span) :
    (given : Option Ty) -> Check Ty
  | some element => do
    checkItems demand element items
    record span.node (.fixedArray element items.length)
  | none => do
    let hint <- checkTypedItems demand none items
    let best <- checkLiteralItems demand hint hint items
    pickedArray items span best

/-- The element type that an array has from elsewhere: as written, or as expected. -/
def givenElement (form : Option TypeForm) (expected : Option Ty) : Check (Option Ty) :=
  match form with
  | some form => do return some (<- Check.recordedType form)
  | none => return expectedElement? expected

theorem checkExpr_array (form : Option TypeForm) (items : List Expr) (span : Span)
    (expected : Option Ty) : checkExpr demand (.array form items span) expected = (do
      let given <- givenElement form expected
      arrayFrom demand items span given) := by
  have tail (given : Option Ty) : (match given with
      | some element => do
        checkItems demand element items
        record span.node (.fixedArray element items.length)
      | none => do
        let hint <- checkTypedItems demand none items
        let best <- checkLiteralItems demand hint hint items
        match best with
        | some element =>
          compareItems element items
          record span.node (.fixedArray element items.length)
        | none =>
          Check.report (.emptyArray span)
          record span.node (.fixedArray .unknown 0)) = arrayFrom demand items span given := by
    cases given with
    | some element => rfl
    | none =>
      refine congrArg _ (funext fun hint => congrArg _ (funext fun best => ?_))
      cases best <;> rfl
  unfold checkExpr givenElement
  cases form with
  | some form =>
    simp only [bind_assoc, pure_bind]
    exact congrArg _ (funext fun element => tail (some element))
  | none =>
    simp only [pure_bind]
    exact tail _

/-- Arguments, or a complaint about their number. -/
theorem obeys_arguments (may : MayType regime) {callee : Callee} {span : Span} {count : Nat}
    {checkArgs checkAll : Check Unit} (obeysArgs : regime.Obeys checkArgs)
    (obeysAll : regime.Obeys checkAll) (result : Ty) (node : NodeId) :
    regime.Obeys (do
      if callee.accepts count then checkArgs
      else
        reportArity callee span count
        checkAll
      record node result) := by
  simp only
  split
  · exact .bind obeysArgs fun _ => obeys_record may _ _
  · exact .bind (obeys_reportArity may _ _ _) fun _ => .bind obeysAll fun _ => obeys_record may _ _

@[simp] theorem covers_nil : Covers regime [] := by
  simp [Covers]

@[simp] theorem covers_cons {expr : Expr} {rest : List Expr} :
    Covers regime (expr :: rest) ↔
      (∀ form ∈ expr.ownForms, MayAsk regime form) ∧ Covers regime rest := by
  simp [Covers]

@[simp] theorem covers_append {first second : List Expr} :
    Covers regime (first ++ second) ↔
      Covers regime first ∧ Covers regime second := by
  simp [Covers, or_imp, forall_and]

-- the walks need their hypotheses only through each other
set_option linter.unusedSectionVars false

section Exprs

variable (may : MayType regime) (obeysDemand : ∀ symbol, regime.Obeys (demand symbol))

include may obeysDemand

mutual

theorem obeys_checkExpr : (expr : Expr) -> Covers regime expr.parts -> (expected : Option Ty) ->
    regime.Obeys (checkExpr demand expr expected)
  | .literal literal, _, expected => by
    unfold checkExpr
    exact .bind (obeys_checkLiteral may _ _ _) fun _ => obeys_record may _ _
  | .name name, _, expected => by
    unfold checkExpr
    exact .bind (obeys_nameType obeysDemand name) fun _ => obeys_record may _ _
  | .binary op left right span, covered, expected => by
    simp only [Expr.parts, covers_cons, covers_append] at covered
    have obeysLeft := obeys_checkExpr left covered.2.1
    have obeysRight := obeys_checkExpr right covered.2.2
    unfold checkExpr
    split
    · exact .bind (obeysLeft _) fun _ => .bind (obeysRight _) fun _ =>
        .bind (obeys_tell may _) fun _ => .bind (obeys_tell may _) fun _ => obeys_record may _ _
    · simp only
      split
      · exact .bind (obeysRight _) fun _ => .bind (obeysLeft _) fun _ =>
          .bind (obeys_accept may _) fun _ => obeys_record may _ _
      · exact .bind (obeysLeft _) fun _ => .bind (obeysRight _) fun _ =>
          .bind (obeys_accept may _) fun _ => obeys_record may _ _
  | .unary .negate operand span, covered, expected => by
    simp only [Expr.parts, covers_cons] at covered
    unfold checkExpr
    split
    · exact .bind (obeys_checkLiteral may _ _ _) fun _ =>
        .bind (Check.obeys_recordExpr (may.typed _ _)) fun _ => obeys_record may _ _
    · exact .bind (obeys_checkExpr operand covered.2 _) fun _ =>
        .bind (obeys_accept may _) fun _ => obeys_record may _ _
  | .unary .not operand span, covered, expected => by
    simp only [Expr.parts, covers_cons] at covered
    unfold checkExpr
    exact .bind (obeys_checkExpr operand covered.2 _) fun _ =>
      .bind (obeys_tell may _) fun _ => obeys_record may _ _
  | .unary .complement operand span, covered, expected => by
    simp only [Expr.parts, covers_cons] at covered
    unfold checkExpr
    exact .bind (obeys_checkExpr operand covered.2 _) fun _ =>
      .bind (obeys_accept may _) fun _ => obeys_record may _ _
  | .call name args span, covered, expected => by
    simp only [Expr.parts, covers_cons] at covered
    have obeysAll := obeys_checkAll args covered.2
    unfold checkExpr
    refine .read fun session => ?_
    split
    · exact .bind obeysAll fun _ => obeys_record may _ _
    · refine .bind (obeys_calleeOf obeysDemand _) fun callee => ?_
      split
      · exact .bind (Check.obeys_report (may.report _)) fun _ => .bind obeysAll fun _ =>
          obeys_record may _ _
      · exact .bind (obeys_symbolType obeysDemand _) fun _ =>
          .bind (Check.obeys_recordExpr (may.typed _ _)) fun _ =>
          obeys_arguments may (obeys_checkArgs args covered.2 _) obeysAll _ _
  | .callValue function args span, covered, expected => by
    simp only [Expr.parts, covers_cons, covers_append] at covered
    have obeysAll := obeys_checkAll args covered.2.2
    unfold checkExpr
    refine .bind (obeys_checkExpr function covered.2.1 _) fun type => ?_
    split
    · exact .bind obeysAll fun _ => obeys_record may _ _
    · split
      · exact obeys_arguments may (obeys_checkArgs args covered.2.2 _) obeysAll _ _
      · exact .bind (Check.obeys_report (may.report _)) fun _ => .bind obeysAll fun _ =>
          obeys_record may _ _
  | .field base path span, covered, expected => by
    simp only [Expr.parts, covers_cons] at covered
    unfold checkExpr
    refine .bind (obeys_enumBase? base) fun found => ?_
    split
    · exact .bind (obeys_variantType may _ _ _ _) fun _ => obeys_record may _ _
    · exact .bind (obeys_checkExpr base covered.2 _) fun _ =>
        .bind (obeys_fieldType may _ _ _) fun _ => obeys_record may _ _
  | .index base position span, covered, expected => by
    simp only [Expr.parts, covers_cons, covers_append] at covered
    unfold checkExpr
    refine .bind (obeys_checkExpr base covered.2.1 _) fun _ =>
      .bind (obeys_checkExpr position covered.2.2 _) fun _ => ?_
    simp only
    split
    · exact .bind (Check.obeys_report (may.report _)) fun _ => .bind (obeys_accept may _) fun _ =>
        obeys_record may _ _
    · exact .bind (obeys_accept may _) fun _ => obeys_record may _ _
  | .cast form operand span, covered, expected => by
    simp only [Expr.parts, covers_cons] at covered
    unfold checkExpr
    refine .bind (obeys_recordedType (covered.1 form (by simp [Expr.ownForms]))) fun _ =>
      .bind (obeys_checkExpr operand covered.2 _) fun _ => ?_
    simp only
    split
    · exact .bind (Check.obeys_report (may.report _)) fun _ => obeys_record may _ _
    · exact obeys_record may _ _
  | .array form items span, covered, expected => by
    simp only [Expr.parts, covers_cons] at covered
    rw [checkExpr_array]
    refine .bind ?_ fun element => ?_
    · unfold givenElement
      cases form with
      | some form =>
        exact .bind (obeys_recordedType (covered.1 form (by simp [Expr.ownForms]))) fun _ => .pure _
      | none => exact .pure _
    · cases element with
      | some element =>
        exact .bind (obeys_checkItems items covered.2 _) fun _ => obeys_record may _ _
      | none =>
        exact .bind (obeys_checkTypedItems items covered.2 _) fun _ =>
          .bind (obeys_checkLiteralItems items covered.2 _ _) fun _ =>
          obeys_pickedArray may _ _ _
  | .addressOf operand span, covered, expected => by
    simp only [Expr.parts, covers_cons] at covered
    unfold checkExpr
    refine .bind (obeys_checkExpr operand covered.2 _) fun _ => .read fun _ => ?_
    simp only
    split
    · exact .bind (Check.obeys_report (may.report _)) fun _ => obeys_record may _ _
    · exact obeys_record may _ _
  | .load form operand span, covered, expected => by
    simp only [Expr.parts, covers_cons] at covered
    unfold checkExpr
    refine .bind (obeys_recordedType (covered.1 form (by simp [Expr.ownForms]))) fun _ =>
      .bind (obeys_checkExpr operand covered.2 _) fun _ => ?_
    simp only
    split
    · exact .bind (Check.obeys_report (may.report _)) fun _ => obeys_record may _ _
    · exact obeys_record may _ _
  | .alloc form span, covered, expected => by
    simp only [Expr.parts, covers_cons] at covered
    unfold checkExpr
    exact .bind (obeys_recordedType (covered.1 form (by simp [Expr.ownForms]))) fun _ =>
      obeys_record may _ _
  | .bad span, _, expected => by
    unfold checkExpr
    exact obeys_record may _ _

theorem obeys_checkAll : (exprs : List Expr) -> Covers regime (Expr.partsAll exprs) ->
    regime.Obeys (checkAll demand exprs)
  | [], _ => by
    unfold checkAll
    exact .pure _
  | expr :: rest, covered => by
    simp only [Expr.partsAll, covers_append] at covered
    unfold checkAll
    exact .bind (obeys_checkExpr expr covered.1 _) fun _ =>
      obeys_checkAll rest covered.2

theorem obeys_checkArgs :
    (exprs : List Expr) -> Covers regime (Expr.partsAll exprs) -> (params : List Ty) ->
    regime.Obeys (checkArgs demand params exprs)
  | [], _, params => by
    unfold checkArgs
    exact .pure _
  | expr :: rest, covered, [] => by
    simp only [Expr.partsAll, covers_append] at covered
    unfold checkArgs
    exact .bind (obeys_checkExpr expr covered.1 _) fun _ =>
      obeys_checkArgs rest covered.2 _
  | expr :: rest, covered, param :: params => by
    simp only [Expr.partsAll, covers_append] at covered
    unfold checkArgs
    exact .bind (obeys_checkExpr expr covered.1 _) fun _ =>
      .bind (obeys_tell may _) fun _ => obeys_checkArgs rest covered.2 _

theorem obeys_checkItems :
    (exprs : List Expr) -> Covers regime (Expr.partsAll exprs) -> (element : Ty) ->
    regime.Obeys (checkItems demand element exprs)
  | [], _, element => by
    unfold checkItems
    exact .pure _
  | expr :: rest, covered, element => by
    simp only [Expr.partsAll, covers_append] at covered
    unfold checkItems
    exact .bind (obeys_checkExpr expr covered.1 _) fun _ =>
      .bind (obeys_tell may _) fun _ => obeys_checkItems rest covered.2 _

theorem obeys_checkTypedItems :
    (exprs : List Expr) -> Covers regime (Expr.partsAll exprs) -> (best : Option Ty) ->
    regime.Obeys (checkTypedItems demand best exprs)
  | [], _, best => by
    unfold checkTypedItems
    exact .pure _
  | expr :: rest, covered, best => by
    simp only [Expr.partsAll, covers_append] at covered
    unfold checkTypedItems
    split
    · exact obeys_checkTypedItems rest covered.2 _
    · exact .bind (obeys_checkExpr expr covered.1 _) fun _ =>
        obeys_checkTypedItems rest covered.2 _

theorem obeys_checkLiteralItems : (exprs : List Expr) -> Covers regime (Expr.partsAll exprs) ->
    (hint best : Option Ty) -> regime.Obeys (checkLiteralItems demand hint best exprs)
  | [], _, hint, best => by
    unfold checkLiteralItems
    exact .pure _
  | expr :: rest, covered, hint, best => by
    simp only [Expr.partsAll, covers_append] at covered
    unfold checkLiteralItems
    split
    · exact .bind (obeys_checkExpr expr covered.1 _) fun _ =>
        obeys_checkLiteralItems rest covered.2 _ _
    · exact obeys_checkLiteralItems rest covered.2 _ _

end

end Exprs

/-! ### Statements -/

theorem obeys_setDeclType {node : NodeId} (may : MaySettle regime node) (type : Ty) :
    regime.Obeys (setDeclType node type) := by
  refine .readAt fun session holds => ?_
  cases found : session.facts.decls.find? node with
  | none => exact .refl
  | some symbol => exact .single (may session symbol type holds found)

theorem obeys_declaredType (may : MayType regime) (name : Option Ident) :
    (form : Option TypeForm) -> (∀ written ∈ form, MayAsk regime written) ->
    regime.Obeys (declaredType name form)
  | none, _ => .pure _
  | some form, mayAsk => by
    refine .bind (obeys_recordedType (mayAsk form rfl)) fun type => ?_
    split
    · exact .bind (Check.obeys_report (may.report _)) fun _ => .pure _
    · exact .pure _

/-- What typing a binding asks for and sets is allowed. -/
structure MayBindValue (regime : Regime) (node : NodeId) (form : Option TypeForm)
    (value : Option Expr) : Prop where
  settle : MaySettle regime node
  ask : ∀ written ∈ form, MayAsk regime written
  covered : ∀ expr ∈ value, Covers regime expr.parts

/-- What typing a statement by itself asks for and sets is allowed. -/
structure MayCheck (regime : Regime) (stmt : Stmt) : Prop where
  settle : ∀ node ∈ stmt.ownValues, MaySettle regime node
  ask : ∀ form ∈ stmt.ownForms, MayAsk regime form
  covered : ∀ expr ∈ stmt.ownExprs, Covers regime expr.parts

/-- What typing a binding inside a body asks for and sets is allowed with its statement. -/
theorem mayBindValue_of_mayCheck {stmt : Stmt} {node : NodeId} {form : Option TypeForm}
    {value : Option Expr} (allowed : MayCheck regime stmt)
    (values : stmt.ownValues = [node]) (forms : stmt.ownForms = form.toList)
    (exprs : stmt.ownExprs = value.toList) : MayBindValue regime node form value where
  settle := allowed.settle node (by simp [values])
  ask written isForm := allowed.ask written (by simpa [forms] using isForm)
  covered expr isValue := allowed.covered expr (by simpa [exprs] using isValue)

section Stmts

variable (may : MayType regime) (obeysDemand : ∀ symbol, regime.Obeys (demand symbol))

include may obeysDemand

theorem obeys_valueType (name : Option Ident) (declared : Option Ty) :
    (value : Option Expr) -> (∀ expr ∈ value, Covers regime expr.parts) ->
    regime.Obeys (valueType demand name declared value)
  | none, _ => .pure _
  | some value, covered => by
    refine .bind (obeys_checkExpr may obeysDemand value (covered value rfl) _) fun found => ?_
    split
    · exact .bind (obeys_tell may _) fun _ => .pure _
    · split
      · exact .bind (Check.obeys_report (may.report _)) fun _ => .pure _
      · exact .pure _

theorem obeys_checkBinding {node : NodeId} {form : Option TypeForm} {value : Option Expr}
    (allowed : MayBindValue regime node form value) (name : Option Ident) :
    regime.Obeys (checkBinding demand node name form value) :=
  .bind (obeys_declaredType may name form allowed.ask) fun _ =>
    .bind (obeys_valueType may obeysDemand name _ value allowed.covered) fun _ =>
    .bind (obeys_setDeclType allowed.settle _) fun _ => .pure _

theorem obeys_checkLocal (binding : BindingDecl)
    (allowed : MayBindValue regime binding.span.node binding.type binding.value) :
    regime.Obeys (checkLocal demand binding) := by
  unfold checkLocal
  split
  · exact .bind (Check.obeys_report (may.report _)) fun _ => obeys_setDeclType allowed.settle _
  · exact .bind (obeys_checkBinding may obeysDemand allowed _) fun _ => .pure _

theorem obeys_checkConst (decl : ConstDecl)
    (allowed : MayBindValue regime decl.span.node decl.type decl.value) :
    regime.Obeys (checkConst demand decl) := by
  unfold checkConst
  split
  · exact obeys_checkBinding may obeysDemand allowed _
  · have rest (type : Ty) : regime.Obeys (do
        setDeclType decl.span.node type
        return type : Check Ty) :=
      .bind (obeys_setDeclType allowed.settle _) fun _ => .pure _
    refine .bind (Check.obeys_report (may.report _)) fun _ => ?_
    split
    · exact .bind (obeys_recordedType (allowed.ask _ ‹_›)) rest
    · exact rest _

theorem obeys_checkStatic (decl : StaticDecl)
    (allowed : MayBindValue regime decl.span.node decl.type decl.value) :
    regime.Obeys (checkStatic demand decl) := by
  unfold checkStatic
  split
  · exact .bind (Check.obeys_report (may.report _)) fun _ =>
      .bind (obeys_setDeclType allowed.settle _) fun _ => .pure _
  · exact obeys_checkBinding may obeysDemand allowed _

theorem obeys_checkCondition (test : Expr)
    (covered : Covers regime test.parts) : regime.Obeys (checkCondition demand test) := by
  refine .bind (obeys_checkExpr may obeysDemand test covered _) fun type => ?_
  split
  · exact Check.obeys_report (may.report _)
  · exact .pure _

theorem obeys_checkReturn (result : Ty) (value : Option Expr)
    (span : Span) (covered : ∀ expr ∈ value, Covers regime expr.parts) :
    regime.Obeys (checkReturn demand result value span) := by
  unfold checkReturn
  cases value with
  | none =>
    simp only
    split
    · exact Check.obeys_report (may.report _)
    · exact .pure _
  | some value =>
    have obeysValue := obeys_checkExpr may obeysDemand value (covered value rfl)
    simp only
    split
    · exact .bind (obeysValue _) fun _ => Check.obeys_report (may.report _)
    · refine .bind (obeysValue _) fun found => ?_
      split
      · exact Check.obeys_report (may.report _)
      · exact .pure _

theorem obeys_checkAssign (target value : Expr) (coversTarget : Covers regime target.parts)
    (coversValue : Covers regime value.parts) :
    regime.Obeys (checkAssign demand target value) := by
  refine .bind (obeys_checkExpr may obeysDemand target coversTarget _) fun _ =>
    .bind (obeys_checkExpr may obeysDemand value coversValue _) fun _ => .read fun session => ?_
  split
  · exact Check.obeys_report (may.report _)
  · exact obeys_tell may _

theorem obeys_checkWrite (target value : Expr) (coversTarget : Covers regime target.parts)
    (coversValue : Covers regime value.parts) :
    regime.Obeys (checkWrite demand target value) := by
  refine .bind (obeys_checkExpr may obeysDemand target coversTarget _) fun type => ?_
  have obeysValue := obeys_checkExpr may obeysDemand value coversValue
  split
  · exact .bind (obeysValue _) fun _ => obeys_tell may _
  · refine .bind (obeysValue _) fun _ => ?_
    split
    · exact Check.obeys_report (may.report _)
    · exact .pure _

theorem obeys_checkVariants (base : Ty) (variants : List VariantDecl)
    (covered : ∀ expr ∈ variants.filterMap (·.value), Covers regime expr.parts) :
    regime.Obeys (checkVariants demand base variants) := by
  induction variants with
  | nil => exact .pure _
  | cons variant rest inductionHypothesis =>
    unfold checkVariants
    cases written : variant.value with
    | none =>
      simp only [List.filterMap_cons, written] at covered
      exact inductionHypothesis covered
    | some value =>
      simp only [List.filterMap_cons, written, List.forall_mem_cons] at covered
      exact .bind (obeys_checkExpr may obeysDemand value covered.1 _) fun _ =>
        .bind (obeys_tell may _) fun _ => inductionHypothesis covered.2

mutual

theorem obeys_checkStmt (result : Ty) :
    (stmt : Stmt) -> (∀ part ∈ stmt.parts, MayCheck regime part) ->
    regime.Obeys (checkStmt demand result stmt)
  | .block body span, allowed => by
    simp only [Stmt.parts, List.forall_mem_cons] at allowed
    unfold checkStmt
    exact obeys_checkStmts result body allowed.2
  | .expr value, allowed => by
    simp only [Stmt.parts, List.forall_mem_singleton] at allowed
    unfold checkStmt
    exact .bind (obeys_checkExpr may obeysDemand value
      (allowed.covered value (by simp [Stmt.ownExprs])) _) fun _ => .pure _
  | .letIn binding, allowed => by
    simp only [Stmt.parts, List.forall_mem_singleton] at allowed
    unfold checkStmt
    exact obeys_checkLocal may obeysDemand binding (mayBindValue_of_mayCheck allowed rfl rfl rfl)
  | .instr binding, allowed => by
    simp only [Stmt.parts, List.forall_mem_singleton] at allowed
    unfold checkStmt
    exact .bind (obeys_checkBinding may obeysDemand
      (mayBindValue_of_mayCheck allowed rfl rfl rfl) _) fun _ => .pure _
  | .const decl, allowed => by
    simp only [Stmt.parts, List.forall_mem_singleton] at allowed
    unfold checkStmt
    exact .bind (obeys_checkConst may obeysDemand decl
      (mayBindValue_of_mayCheck allowed rfl rfl rfl)) fun _ => .pure _
  | .assign target value span, allowed => by
    simp only [Stmt.parts, List.forall_mem_singleton] at allowed
    unfold checkStmt
    exact obeys_checkAssign may obeysDemand target value
      (allowed.covered target (by simp [Stmt.ownExprs]))
      (allowed.covered value (by simp [Stmt.ownExprs]))
  | .write target value span, allowed => by
    simp only [Stmt.parts, List.forall_mem_singleton] at allowed
    unfold checkStmt
    exact obeys_checkWrite may obeysDemand target value
      (allowed.covered target (by simp [Stmt.ownExprs]))
      (allowed.covered value (by simp [Stmt.ownExprs]))
  | .cond test body bodySpan otherwise span, allowed => by
    simp only [Stmt.parts, List.forall_mem_cons, List.forall_mem_append] at allowed
    unfold checkStmt
    exact .bind (obeys_checkCondition may obeysDemand test
        (allowed.1.covered test (by simp [Stmt.ownExprs]))) fun _ =>
      .bind (obeys_checkStmts result body allowed.2.1) fun _ =>
      obeys_checkStmt? result otherwise allowed.2.2
  | .whileLoop test body bodySpan span, allowed => by
    simp only [Stmt.parts, List.forall_mem_cons] at allowed
    unfold checkStmt
    exact .bind (obeys_checkCondition may obeysDemand test
        (allowed.1.covered test (by simp [Stmt.ownExprs]))) fun _ =>
      obeys_checkStmts result body allowed.2
  | .loop body bodySpan span, allowed => by
    simp only [Stmt.parts, List.forall_mem_cons] at allowed
    unfold checkStmt
    exact obeys_checkStmts result body allowed.2
  | .forLoop first test after body bodySpan span, allowed => by
    simp only [Stmt.parts, List.forall_mem_cons, List.forall_mem_append] at allowed
    have rest : regime.Obeys (do
        checkStmt? demand result after
        checkStmts demand result body) :=
      .bind (obeys_checkStmt? result after allowed.2.1.2) fun _ =>
        obeys_checkStmts result body allowed.2.2
    unfold checkStmt
    refine .bind (obeys_checkStmt? result first allowed.2.1.1) fun _ => ?_
    cases test with
    | none => exact rest
    | some test =>
      exact .bind (obeys_checkCondition may obeysDemand test
        (allowed.1.covered test (by simp [Stmt.ownExprs]))) fun _ => rest
  | .ret value span, allowed => by
    simp only [Stmt.parts, List.forall_mem_singleton] at allowed
    unfold checkStmt
    refine obeys_checkReturn may obeysDemand result value span fun expr isValue => ?_
    exact allowed.covered expr (by simpa [Stmt.ownExprs] using isValue)
  | .struct _, _ | .brk _, _ | .cont _, _ | .bad _, _ => by
    unfold checkStmt
    exact .pure _

theorem obeys_checkStmt? (result : Ty) :
    (stmt : Option Stmt) -> (∀ part ∈ Stmt.parts? stmt, MayCheck regime part) ->
    regime.Obeys (checkStmt? demand result stmt)
  | none, _ => by
    unfold checkStmt?
    exact .pure _
  | some stmt, allowed => by
    unfold checkStmt?
    exact obeys_checkStmt result stmt (by simpa [Stmt.parts?] using allowed)

theorem obeys_checkStmts (result : Ty) :
    (body : List Stmt) -> (∀ part ∈ Stmt.partsAll body, MayCheck regime part) ->
    regime.Obeys (checkStmts demand result body)
  | [], _ => by
    unfold checkStmts
    exact .pure _
  | stmt :: rest, allowed => by
    simp only [Stmt.partsAll, List.forall_mem_append] at allowed
    unfold checkStmts
    exact .bind (obeys_checkStmt result stmt allowed.1) fun _ =>
      obeys_checkStmts result rest allowed.2

end

end Stmts

/-! ### Globals and items -/

namespace Global

/-- The written type of a global. -/
def form : Global -> Option TypeForm
  | .const decl => decl.type
  | .static decl => decl.type

/-- The initializer of a global. -/
def value : Global -> Option Expr
  | .const decl => decl.value
  | .static decl => decl.value

end Global

/-- What typing a global asks for and sets is allowed. -/
def MayCheckGlobal (regime : Regime) (global : Global) : Prop :=
  MayBindValue regime global.node global.form global.value

theorem obeys_checkedGlobal (may : MayType regime)
    (obeysDemand : ∀ symbol, regime.Obeys (demand symbol)) :
    (global : Global) -> MayCheckGlobal regime global -> regime.Obeys (global.check demand)
  | .const decl, allowed => obeys_checkConst may obeysDemand decl allowed
  | .static decl, allowed => obeys_checkStatic may obeysDemand decl allowed

theorem obeys_declType (node : NodeId) : regime.Obeys (declType node) := by
  refine .read fun session => ?_
  split <;> exact .pure _

theorem obeys_checkGlobal (may : MayType regime) (all : List Global)
    (allowed : ∀ global ∈ all, MayCheckGlobal regime global) (fuel : Nat) (path : List NodeId)
    (global : Global) (isGlobal : global ∈ all) :
    regime.Obeys (checkGlobal all fuel path global) := by
  induction fuel generalizing path global with
  | zero => exact .pure _
  | succ fuel inductionHypothesis =>
    unfold checkGlobal
    refine .read fun session => ?_
    split
    · exact obeys_declType _
    · split
      · exact .bind (Check.obeys_report (may.report _)) fun _ =>
          .bind (obeys_setDeclType (allowed global isGlobal).settle _) fun _ => .pure _
      · refine .bind (obeys_checkedGlobal may ?_ global (allowed global isGlobal)) fun _ =>
          .bind (fun _ _ => .single (may.checked _)) fun _ => .pure _
        intro symbol
        split
        · exact inductionHypothesis _ _ (List.mem_of_find?_eq_some ‹_›)
        · exact .pure _

theorem obeys_demandGlobal (may : MayType regime) (all : List Global)
    (allowed : ∀ global ∈ all, MayCheckGlobal regime global) (symbol : Symbol) :
    regime.Obeys (demandGlobal all symbol) := by
  unfold demandGlobal
  split
  · exact obeys_checkGlobal may all allowed _ _ _ (List.mem_of_find?_eq_some ‹_›)
  · exact .pure _

/-- What typing an item asks for and sets is allowed. -/
structure MayCheckItem (regime : Regime) (item : Item) : Prop where
  body : ∀ stmt ∈ Stmt.partsAll item.body, MayCheck regime stmt
  values : ∀ expr ∈ item.values, Covers regime expr.parts
  global : ∀ global ∈ global? item, MayCheckGlobal regime global

/-- Where written types may be resolved and types be set, any item may be typed. -/
theorem mayCheckItem_of (resolve : ∀ inside, Check.MayResolve regime inside)
    (settles : ∀ id type, regime.permits (.settles id type)) (item : Item) :
    MayCheckItem regime item := by
  have ask (form : TypeForm) : MayAsk regime form := .inr (resolve _)
  have settle (node : NodeId) : MaySettle regime node := fun _ _ _ _ _ => settles _ _
  have covered (exprs : List Expr) : Covers regime exprs := fun _ _ form _ => ask form
  exact ⟨fun _ _ => ⟨fun node _ => settle node, fun form _ => ask form, fun _ _ => covered _⟩,
    fun _ _ => covered _, fun _ _ => ⟨settle _, fun form _ => ask form, fun _ _ => covered _⟩⟩

theorem obeys_checkGlobalItem (may : MayType regime) {items : List Item}
    (allowed : ∀ item ∈ items, MayCheckItem regime item) (item : Item) (isItem : item ∈ items) :
    regime.Obeys (checkGlobalItem (globals items) item) := by
  have allowedGlobals : ∀ global ∈ globals items, MayCheckGlobal regime global := by
    intro global isGlobal
    obtain ⟨other, isOther, declares⟩ := List.mem_filterMap.mp isGlobal
    exact (allowed other isOther).global global declares
  have isGlobal : ∀ global ∈ global? item, global ∈ globals items :=
    fun global declares => List.mem_filterMap.mpr ⟨item, isItem, declares⟩
  have member := allowed item isItem
  cases item with
  | const decl =>
    exact .bind (obeys_checkGlobal may _ allowedGlobals _ _ _ (isGlobal _ rfl)) fun _ => .pure _
  | static decl =>
    exact .bind (obeys_checkGlobal may _ allowedGlobals _ _ _ (isGlobal _ rfl)) fun _ => .pure _
  | enum decl =>
    refine .bind (.read fun session => ?_) fun base =>
      obeys_checkVariants may (obeys_demandGlobal may _ allowedGlobals) base _ member.values
    split
    · exact .pure _
    · split <;> exact .pure _
  | _ => exact .pure _

theorem obeys_resultType (node : NodeId) : regime.Obeys (resultType node) := by
  refine .read fun session => ?_
  split
  · exact .pure _
  · split <;> exact .pure _

theorem obeys_checkBodyItem (may : MayType regime) {items : List Item}
    (allowed : ∀ item ∈ items, MayCheckItem regime item) (item : Item) (isItem : item ∈ items) :
    regime.Obeys (checkBodyItem (globals items) item) := by
  have allowedGlobals : ∀ global ∈ globals items, MayCheckGlobal regime global := by
    intro global isGlobal
    obtain ⟨other, isOther, declares⟩ := List.mem_filterMap.mp isGlobal
    exact (allowed other isOther).global global declares
  have obeysDemand := obeys_demandGlobal may _ allowedGlobals
  have member := (allowed item isItem).body
  cases item with
  | function decl =>
    simp only [checkBodyItem]
    cases written : decl.body with
    | none => exact .pure _
    | some body =>
      simp only [Item.body, written] at member
      exact .bind (obeys_resultType _) fun _ => obeys_checkStmts may obeysDemand _ _ member
  | entry decl => exact obeys_checkStmts may obeysDemand _ _ member
  | _ => exact .pure _

/-- The third pass types the unit and does nothing else, once it has forgotten which
globals have been gone through. -/
theorem trace_walk (may : MayType regime) (session : Session)
    (allowed : ∀ item ∈ session.items, MayCheckItem regime item)
    (holds : regime.holds { session with checked := [] }) :
    Trace regime.permits { session with checked := [] } (walk.run session).2 := by
  have obeys : regime.Obeys (do
      session.items.forM (checkGlobalItem (globals session.items))
      session.items.forM (checkBodyItem (globals session.items))) :=
    .bind (.forM _ fun item isItem => obeys_checkGlobalItem may allowed item isItem) fun _ =>
      .forM _ fun item isItem => obeys_checkBodyItem may allowed item isItem
  exact obeys _ holds

end UnitCheck.Typing
