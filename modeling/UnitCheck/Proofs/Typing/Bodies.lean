import UnitCheck.Proofs.Typing.Expressions

/-!
# Statements agree with the types of their expressions

A statement hands its expressions on and compares their types with what their
place expects. Behind a declaration its value has a type, so the values that are
ready to be read grow along a body.
-/

namespace UnitCheck.Typing.Stage

variable {stage : Stage} {path ready : List NodeId} {demand : Demand}

/-- A declaration is recorded at the node of its symbol. -/
def Settles (stage : Stage) : Prop :=
  ∀ node symbol, stage.start.facts.decls.find? node = some symbol → symbol.id = .node node

/-- A value of the unit is declared at this node. -/
def Owns (stage : Stage) (node : NodeId) : Prop :=
  ∃ item ∈ stage.start.items, node ∈ valueNodes item

theorem ready_append {first second : List NodeId} {session : Session} :
    stage.Ready (first ++ second) session ↔
      stage.Ready first session ∧ stage.Ready second session :=
  List.forall_mem_append

/-- A declared value whose type is settled is ready from then on. -/
theorem ready_settled {node : NodeId} {type : Ty} {after final : Session}
    (settled : stage.isDeclared node = true → (after.knownOf (.node node)).type = some type)
    (further : Extends after final) : stage.Ready [node] final := by
  refine List.forall_mem_singleton.mpr fun isDeclared => further.learnt _ ?_
  rw [settled isDeclared]
  rfl

/-! ### Settling types -/

/-- Settling a type that fits is sound. -/
theorem Sound.settle {session : Session} {node : NodeId} {type : Ty}
    (sound : stage.Sound session) (owns : stage.Owns node)
    (fits : stage.fits (.node node) type) :
    stage.Sound (Act.apply session (.settles (.node node) type)) := by
  obtain ⟨item, isItem, isValue⟩ := owns
  rw [← sound.reached.items] at isItem
  have ext := Extends.settles isItem isValue type
  refine ⟨sound.reached.trans ext, ?_, sound.typed, ?_⟩
  · intro id known found isKnown isType
    obtain same | earlier := List.mem_cons.mp isKnown
    · cases same
      cases isType
      exact fits
    · exact sound.known id known found earlier isType
  · intro global isGlobal isChecked
    obtain ⟨isKnown, bound⟩ := sound.checked global isGlobal isChecked
    exact ⟨ext.learnt _ isKnown, fun final further => bound final (ext.trans further)⟩

/-- The type of a declared value is settled. -/
theorem secures_setDeclType (settles : stage.Settles) {node : NodeId} (owns : stage.Owns node)
    (type : Ty) :
    stage.Secures path ready (fun _ => stage.fits (.node node) type) [] (setDeclType node type)
      fun after _ _ => stage.isDeclared node = true →
        (after.knownOf (.node node)).type = some type := by
  refine .read fun seen => ?_
  cases found : seen.facts.decls.find? node with
  | none =>
    refine .stay ?_
    rintro session final sound ⟨rfl, -⟩ - isDeclared
    rw [sound.reached.decls] at found
    simp [Stage.isDeclared, found] at isDeclared
  | some symbol =>
    refine ⟨Check.obeys_setType trivial, ?_⟩
    rintro session sound - ⟨rfl, fits⟩ -
    rw [sound.reached.decls] at found
    have same := settles node symbol found
    have outcome : ((Check.setType symbol.id type).run session).2 =
        Act.apply session (.settles (.node node) type) := by
      rw [same]
      rfl
    obtain ⟨item, isItem, isValue⟩ := owns
    rw [outcome]
    refine ⟨⟨Extends.settles (sound.reached.items ▸ isItem) isValue type,
      sound.settle ⟨item, isItem, isValue⟩ fits, fun _ => Nat.le_add_right _ _⟩, ?_⟩
    intro final _ _
    rw [knownOf_settles, if_pos rfl]

theorem grows_setDeclType (node : NodeId) (type : Ty) :
    Regime.free.Obeys (setDeclType node type) :=
  obeys_setDeclType (fun _ _ _ _ _ => trivial) type

/-- The type that is settled is handed on. -/
theorem secures_settled (settles : stage.Settles) {node : NodeId} (owns : stage.Owns node)
    (type : Ty) :
    stage.Secures path ready (fun _ => stage.fits (.node node) type) [] (do
        setDeclType node type
        return type)
      fun after _ result => result = type ∧ (stage.isDeclared node = true →
        (after.knownOf (.node node)).type = some type) :=
  (secures_setDeclType settles owns type).andThen fun _ =>
    .stay fun _ _ _ behind _ => ⟨rfl, behind.2⟩

/-! ### Bindings -/

theorem secures_declaredType {given : Session -> Prop} (name : Option Ident)
    {form : Option TypeForm} (formOk : ∀ written ∈ form, stage.FormOk written) :
    stage.Secures path ready given [] (declaredType name form)
      fun _ final declared => stage.Wants declared ∧
        declared = form.bind fun written => final.facts.forms.find? written.node := by
  cases form with
  | none => exact .stay fun _ _ _ _ _ => ⟨wants_none, rfl⟩
  | some written =>
    unfold declaredType
    refine ((secures_recordedType written).provided fun _ _ _ _ => formOk written rfl).bind
      (fun type => (?_ : stage.Secures path ready _ [] _ fun _ _ declared =>
        declared = some type)) |>.mono (fun _ => Nat.le_refl _) ?_
    · split
      · exact (secures_report rfl).refused fun _ => .pure _
      · exact .pure _
    · rintro _ _ final _ - - - - - ⟨_, type, ⟨good, isWritten⟩, rfl⟩
      exact ⟨wants_some good, isWritten.symm⟩

/-- What is said of the value of a binding with a declared type. -/
def Initializes (stage : Stage) (session : Session) (declared : Option Ty) (expr : Expr) : Prop :=
  stage.Derived session expr ∧ match declared with
    | some wanted => Fits (stage.Has session) expr wanted
    | none => ∃ found, stage.Has session expr.node found ∧ found.isVoid = false

/-- The type that a binding gives its value: a good one, or the unknown type where nothing
is written. -/
def Gives (stage : Stage) (bare : Bool) (type : Ty) : Prop :=
  if bare then type = .unknown else stage.good type

theorem secures_valueType (name : Option Ident) (declared : Option Ty) {value : Option Expr}
    (types : ∀ expr ∈ value, stage.Types path ready demand expr) :
    stage.Secures path ready (fun _ => stage.Wants declared) (value.toList.flatMap Expr.nodes)
      (valueType demand name declared value) fun _ final type =>
        (∀ expr ∈ value, stage.Initializes final declared expr) ∧
          stage.Gives (declared.isNone && value.isNone) type := by
  cases value with
  | none =>
    refine .stay fun _ _ _ wants _ => ⟨by simp, ?_⟩
    cases declared with
    | none => exact rfl
    | some type => exact wants type rfl
  | some value =>
    unfold valueType
    have typesValue := types value rfl
    cases declared with
    | some wanted =>
      refine ((typesValue (some wanted)).bind fun found => (secures_tell objects_mismatch).bind
        fun _ => Secures.pure wanted).mono (fun _ => Nat.le_of_eq (by simp)) ?_
      rintro _ _ final _ - wants - - - ⟨_, found, typed, _, _, silent, rfl⟩
      refine ⟨?_, wants _ rfl⟩
      rintro _ ⟨⟩
      exact ⟨typed.2, found, typed.1, allowed_of_mismatch silent⟩
    | none =>
      refine ((typesValue none).bind fun found =>
        (?_ : stage.Secures path ready _ [] _ fun _ _ type => type = found ∧
          found.isVoid = false)).mono (fun _ => Nat.le_of_eq (by simp)) ?_
      · simp only
        split
        · exact (secures_report rfl).refused fun _ => .pure _
        · rename_i notVoid
          exact .stay fun _ _ _ _ _ => ⟨rfl, by simpa using notVoid⟩
      · rintro _ _ final _ - - - - - ⟨_, found, typed, rfl, notVoid⟩
        refine ⟨?_, typed.1.2⟩
        rintro _ ⟨⟩
        exact ⟨typed.2, _, typed.1, notVoid⟩

/-- What a binding relies on. -/
structure BindingOk (stage : Stage) (ready : List NodeId) (node : NodeId)
    (form : Option TypeForm) (value : Option Expr) : Prop where
  owns : stage.Owns node
  fits : ∀ type, stage.Gives (form.isNone && value.isNone) type → stage.fits (.node node) type
  form : ∀ written ∈ form, stage.FormOk written
  value : ∀ expr ∈ value, stage.Relies ready expr

/-- A binding gives its value a type that fits; only where neither a type nor a value is
written is it unknown. -/
theorem secures_checkBinding (closed : stage.Closed) (settles : stage.Settles)
    (meets : stage.Meets path ready demand) {node : NodeId} (name : Option Ident)
    {form : Option TypeForm} {value : Option Expr} {given : Session -> Prop}
    (isOk : stage.BindingOk ready node form value) :
    stage.Secures path ready given (value.toList.flatMap Expr.nodes)
      (checkBinding demand node name form value) fun after final type =>
        stage.Bound final form value ∧
          stage.Gives (form.isNone && value.isNone) type ∧
          (stage.isDeclared node = true → (after.knownOf (.node node)).type = some type) := by
  have sameForm {session : Session} {declared : Option Ty} (ext : Extends stage.start session)
      (isDeclared : declared = form.bind fun written => session.facts.forms.find? written.node) :
      declared.isNone = form.isNone := by
    cases form with
    | none => rw [isDeclared, Option.bind_none, Option.isNone_none, Option.isNone_none]
    | some written =>
      obtain ⟨type, isWritten, -⟩ := isOk.form written rfl
      rw [isDeclared, Option.bind_some, ext.forms, isWritten]
      rfl
  unfold checkBinding
  refine ((secures_declaredType name isOk.form).bind fun declared =>
    ((secures_valueType name declared fun expr isExpr =>
      types_of_relies closed meets expr (isOk.value expr isExpr)).provided
        fun _ _ _ behind => behind.2.1).bind fun type =>
    (secures_settled settles isOk.owns type).provided ?_).mono
    (fun _ => Nat.le_of_eq (by simp)) ?_
  · rintro _ _ - ⟨⟨_, sound, ⟨_, _, isDeclared⟩, _⟩, _, gives⟩
    rw [sameForm sound.reached isDeclared] at gives
    exact isOk.fits type gives
  · rintro _ _ final _ - - sound - further
      ⟨_, declared, ⟨_, isDeclared⟩, _, type, ⟨initializes, gives⟩, rfl, settled⟩
    have ext := sound.reached.trans further
    rw [sameForm ext isDeclared] at gives
    refine ⟨⟨fun expr isExpr => ?_, fun expr isExpr => (initializes expr isExpr).1⟩, gives,
      settled⟩
    have holds := (initializes expr isExpr).2
    cases form with
    | none =>
      rw [isDeclared] at holds
      exact holds
    | some written =>
      obtain ⟨type, isWritten, -⟩ := isOk.form written rfl
      have found : final.facts.forms.find? written.node = some type := by
        rw [ext.forms, isWritten]
      rw [isDeclared, Option.bind_some, found] at holds
      exact ⟨type, found, holds⟩

/-- A binding whose value is read later on. -/
theorem secures_bind (closed : stage.Closed) (settles : stage.Settles)
    (meets : stage.Meets path ready demand) {given : Session -> Prop} {binding : BindingDecl}
    (isOk : stage.BindingOk ready binding.span.node binding.type binding.value) :
    stage.Secures path ready given (binding.value.toList.flatMap Expr.nodes) (do
        let _ <- checkBinding demand binding.span.node (some binding.name) binding.type
          binding.value)
      fun _ final _ => stage.Bound final binding.type binding.value ∧
        stage.Ready [binding.span.node] final := by
  refine (((secures_checkBinding closed settles meets (some binding.name) isOk).mono
    (fun _ => Nat.le_refl _) ?_).bind fun _ => Secures.pure ()).mono
    (fun _ => Nat.le_of_eq (by simp)) fun _ _ _ _ _ _ _ _ _ ⟨_, _, held, _⟩ => held
  rintro _ after final type - - - - further ⟨bound, _, settled⟩
  exact ⟨bound, ready_settled settled further⟩

/-- A local binding, which needs a type or a value. -/
theorem secures_checkLocal (closed : stage.Closed) (settles : stage.Settles)
    (meets : stage.Meets path ready demand) {given : Session -> Prop} {binding : BindingDecl}
    (isOk : stage.BindingOk ready binding.span.node binding.type binding.value) :
    stage.Secures path ready given (binding.value.toList.flatMap Expr.nodes)
      (checkLocal demand binding) fun _ final _ =>
        stage.Bound final binding.type binding.value ∧
          stage.Ready [binding.span.node] final := by
  unfold checkLocal
  split
  · exact (secures_report rfl).refused fun _ => grows_setDeclType _ _
  · exact secures_bind closed settles meets isOk

/-- A constant, which needs a value. -/
theorem secures_checkConst (closed : stage.Closed) (settles : stage.Settles)
    (meets : stage.Meets path ready demand) {given : Session -> Prop} {decl : ConstDecl}
    (isOk : stage.BindingOk ready decl.span.node decl.type decl.value) :
    stage.Secures path ready given (decl.value.toList.flatMap Expr.nodes)
      (checkConst demand decl) fun after final type =>
        stage.Bound final decl.type decl.value ∧ stage.good type ∧
          (stage.isDeclared decl.span.node = true →
            (after.knownOf (.node decl.span.node)).type = some type) := by
  unfold checkConst
  cases isValue : decl.value with
  | some value =>
    rw [isValue] at isOk
    refine (secures_checkBinding closed settles meets decl.name isOk).mono
      (fun _ => Nat.le_refl _) ?_
    rintro _ _ final type - - - - - ⟨bound, gives, settled⟩
    rw [Option.isNone_some, Bool.and_false] at gives
    exact ⟨bound, gives, settled⟩
  | none =>
    refine (secures_report rfl).refused fun _ => ?_
    cases decl.type with
    | some form =>
      exact .bind (obeys_recordedType (.inr (mayResolve_free _))) fun _ =>
        .bind (grows_setDeclType _ _) fun _ => .pure _
    | none => exact .bind (.pure _) fun _ => .bind (grows_setDeclType _ _) fun _ => .pure _

/-- A static, which needs a type or a value. -/
theorem secures_checkStatic (closed : stage.Closed) (settles : stage.Settles)
    (meets : stage.Meets path ready demand) {given : Session -> Prop} {decl : StaticDecl}
    (isOk : stage.BindingOk ready decl.span.node decl.type decl.value) :
    stage.Secures path ready given (decl.value.toList.flatMap Expr.nodes)
      (checkStatic demand decl) fun after final type =>
        stage.Bound final decl.type decl.value ∧ stage.good type ∧
          (stage.isDeclared decl.span.node = true →
            (after.knownOf (.node decl.span.node)).type = some type) := by
  unfold checkStatic
  split
  · exact (secures_report rfl).refused fun _ => .bind (grows_setDeclType _ _) fun _ => .pure _
  · rename_i written
    refine (secures_checkBinding closed settles meets decl.name isOk).mono
      (fun _ => Nat.le_refl _) ?_
    rintro _ _ final type - - - - - ⟨bound, gives, settled⟩
    rw [Bool.eq_false_iff.mpr written] at gives
    exact ⟨bound, gives, settled⟩

/-! ### Statements -/

theorem secures_checkCondition (closed : stage.Closed) {given : Session -> Prop} {test : Expr}
    (types : stage.Types path ready demand test) :
    stage.Secures path ready given test.nodes (checkCondition demand test)
      fun _ final _ => stage.Derived final test ∧ ConditionRule (stage.Has final) test := by
  refine (((types (some .bool)).provided fun _ _ _ _ => wants_some closed.bool).bind
    fun found => (?_ : stage.Secures path ready _ [] _ fun _ _ _ => Truth found)).mono
    (fun _ => Nat.le_of_eq (by simp)) ?_
  · split
    · exact secures_report rfl
    · rename_i fine
      refine .stay fun _ _ _ _ _ => ?_
      unfold Truth
      cases unknown : found.isUnknown <;> simp_all
  · rintro _ _ final _ - - - - - ⟨_, found, typed, truth⟩
    exact ⟨typed.2, found, typed.1, truth⟩

theorem secures_checkReturn {given : Session -> Prop} {result : Ty} (good : stage.good result)
    {value : Option Expr} (types : ∀ expr ∈ value, stage.Types path ready demand expr)
    (span : Span) :
    stage.Secures path ready given (value.toList.flatMap Expr.nodes)
      (checkReturn demand result value span) fun _ final _ =>
        StmtRule final (stage.Has final) result (.ret value span) ∧
          ∀ expr ∈ value, stage.Derived final expr := by
  unfold checkReturn
  cases value with
  | none =>
    simp only
    split
    · exact secures_report rfl
    · rename_i fine
      refine .stay fun _ _ _ _ _ => ⟨?_, by simp⟩
      unfold StmtRule
      cases isVoid : result.isVoid <;> simp_all
  | some value =>
    have typesValue := types value rfl
    simp only
    split
    · exact (((typesValue none).provided fun _ _ _ _ => wants_none).andThen
        fun _ => secures_report rfl).mono (fun _ => Nat.le_of_eq (by simp))
        fun _ _ _ _ _ _ _ _ _ held => held
    · rename_i notVoid
      refine (((typesValue (some result)).provided fun _ _ _ _ => wants_some good).bind
        fun found => (?_ : stage.Secures path ready _ [] _ fun _ _ _ =>
          Allowed found result)).mono (fun _ => Nat.le_of_eq (by simp)) ?_
      · split
        · exact secures_report rfl
        · rename_i allowed
          exact .stay fun _ _ _ _ _ => by simpa [Allowed] using allowed
      · rintro _ _ final _ - - - - - ⟨_, found, typed, allowed⟩
        refine ⟨⟨by simpa using notVoid, found, typed.1, allowed⟩, ?_⟩
        rintro _ ⟨⟩
        exact typed.2

theorem secures_checkAssign {given : Session -> Prop} {target value : Expr}
    (typesTarget : stage.Types path ready demand target)
    (typesValue : stage.Types path ready demand value) :
    stage.Secures path ready given (target.nodes ++ value.nodes)
      (checkAssign demand target value) fun _ final _ =>
        (stage.Derived final target ∧ stage.Derived final value) ∧
          ∃ place, stage.Has final target.node place ∧ Fits (stage.Has final) value place := by
  refine (((typesTarget none).provided fun _ _ _ _ => wants_none).bind fun place =>
    ((typesValue (some place)).provided fun _ _ _ behind => wants_some behind.2.1.2).bind
    fun found => .read fun seen => (?_ : stage.Secures path ready _ [] _ fun _ _ _ =>
      Allowed found place)).mono (fun _ => Nat.le_of_eq (by simp)) ?_
  · cases problem : assignProblem? target.span (mutability seen.facts target place) with
    | some finding =>
      have fatal : finding.isFatal = true := by
        unfold assignProblem? at problem
        split at problem <;> cases problem <;> rfl
      exact secures_report fatal
    | none =>
      exact (secures_tell objects_mismatch).mono (fun _ => Nat.le_refl _)
        fun _ _ _ _ _ _ _ _ _ silent => allowed_of_mismatch silent
  · rintro _ _ final _ - - - - - ⟨_, place, isTarget, _, found, isValue, allowed⟩
    exact ⟨⟨isTarget.2, isValue.2⟩, place, isTarget.1, found, isValue.1, allowed⟩

theorem secures_checkWrite (closed : stage.Closed) {given : Session -> Prop}
    {target value : Expr} (typesTarget : stage.Types path ready demand target)
    (typesValue : stage.Types path ready demand value) :
    stage.Secures path ready given (target.nodes ++ value.nodes)
      (checkWrite demand target value) fun _ final _ =>
        (stage.Derived final target ∧ stage.Derived final value) ∧
          ∃ place, stage.Has final target.node place ∧
            (place.isUnknown = true ∨ place.isPointerLike = true) ∧
            ∀ element, place.unwrap = .pointer element →
              Fits (stage.Has final) value element := by
  refine (((typesTarget none).provided fun _ _ _ _ => wants_none).bind fun place =>
    (?_ : stage.Secures path ready _ value.nodes _ fun _ final _ => stage.Derived final value ∧
      (place.isUnknown = true ∨ place.isPointerLike = true) ∧
      ∀ element, place.unwrap = .pointer element →
        Fits (stage.Has final) value element)).mono (fun _ => Nat.le_of_eq (by simp)) ?_
  · split
    · rename_i element isPointer
      refine (((typesValue (some element)).provided fun _ _ _ behind => wants_some
        (closed.inner place element behind.2.1.2 (.inl isPointer))).bind fun found =>
        secures_tell objects_mismatch).mono (fun _ => Nat.le_of_eq (by simp)) ?_
      rintro _ _ final _ - - - - - ⟨_, found, isValue, silent⟩
      refine ⟨isValue.2, .inr (by simp [Ty.isPointerLike, Ty.isPointer, isPointer]), ?_⟩
      intro other isOther
      rw [isPointer] at isOther
      cases isOther
      exact ⟨found, isValue.1, allowed_of_mismatch silent⟩
    · rename_i notPointer
      refine (((typesValue none).provided fun _ _ _ _ => wants_none).bind fun found =>
        (?_ : stage.Secures path ready _ [] _ fun _ _ _ =>
          place.isUnknown = true ∨ place.isPointerLike = true)).mono
        (fun _ => Nat.le_of_eq (by simp)) ?_
      · split
        · exact secures_report rfl
        · rename_i fine
          refine .stay fun _ _ _ _ _ => ?_
          cases unknown : place.isUnknown <;> simp_all
      · rintro _ _ final _ - - - - - ⟨_, found, isValue, pointer⟩
        exact ⟨isValue.2, pointer, fun element isPointer => absurd isPointer (notPointer element)⟩
  · rintro _ _ final _ - - - - - ⟨_, place, isTarget, isValue, pointer, fits⟩
    exact ⟨⟨isTarget.2, isValue⟩, place, isTarget.1, pointer, fits⟩

/-! ### Bodies -/

/-- What a statement by itself relies on. -/
structure StmtOk (stage : Stage) (ready : List NodeId) (stmt : Stmt) : Prop where
  owns : ∀ node ∈ stmt.ownValues, stage.Owns node
  forms : ∀ form ∈ stmt.ownForms, stage.FormOk form
  exprs : ∀ expr ∈ stmt.ownExprs, stage.Relies ready expr
  fits : ∀ node ∈ stmt.ownValues, ∀ type,
    stage.Gives (stmt.ownForms.isEmpty && stmt.ownExprs.isEmpty) type → stage.fits (.node node) type

/-- Statements agree with the types of their expressions, and the values they declare
are ready. -/
structure Agrees (stage : Stage) (result : Ty) (parts : List Stmt) (session : Session) : Prop where
  rules : ∀ part ∈ parts, StmtRule session (stage.Has session) result part
  derived : ∀ part ∈ parts, ∀ expr ∈ part.ownExprs, stage.Derived session expr
  ready : stage.Ready (parts.flatMap Stmt.ownValues) session

variable {result : Ty} {session : Session}

theorem agrees_nil : stage.Agrees result [] session :=
  ⟨List.forall_mem_nil _, List.forall_mem_nil _, List.forall_mem_nil _⟩

theorem agrees_append {first second : List Stmt} :
    stage.Agrees result (first ++ second) session ↔
      stage.Agrees result first session ∧ stage.Agrees result second session := by
  constructor
  · rintro ⟨rules, derived, ready⟩
    rw [List.flatMap_append, ready_append] at ready
    rw [List.forall_mem_append] at rules derived
    exact ⟨⟨rules.1, derived.1, ready.1⟩, ⟨rules.2, derived.2, ready.2⟩⟩
  · rintro ⟨one, two⟩
    refine ⟨List.forall_mem_append.mpr ⟨one.rules, two.rules⟩,
      List.forall_mem_append.mpr ⟨one.derived, two.derived⟩, ?_⟩
    rw [List.flatMap_append, ready_append]
    exact ⟨one.ready, two.ready⟩

/-- A statement agrees when it does so by itself and what is inside it does. -/
theorem agrees_cons {stmt : Stmt} {inner : List Stmt}
    (rule : StmtRule session (stage.Has session) result stmt)
    (derived : ∀ expr ∈ stmt.ownExprs, stage.Derived session expr)
    (gains : stage.Ready stmt.ownValues session)
    (agrees : stage.Agrees result inner session) :
    stage.Agrees result (stmt :: inner) session := by
  refine ⟨List.forall_mem_cons.mpr ⟨rule, agrees.rules⟩,
    List.forall_mem_cons.mpr ⟨derived, agrees.derived⟩, ?_⟩
  rw [List.flatMap_cons, ready_append]
  exact ⟨gains, agrees.ready⟩

/-- Walks of statements are secure one behind the other. -/
theorem Secures.bindStmts {given : Session -> Prop} {slots others : List NodeId}
    {walk : Check Unit} {next : Unit -> Check Unit} {parts inner : List Stmt}
    (first : stage.Secures path ready given slots walk
      fun _ final _ => stage.Agrees result parts final)
    (second : ∀ given, stage.Secures path (Stmt.behind ready parts) given others (next ())
      fun _ final _ => stage.Agrees result inner final) :
    stage.Secures path ready given (slots ++ others) (walk >>= next)
      fun _ final _ => stage.Agrees result (parts ++ inner) final := by
  refine (first.bindReady (fun _ => second _) ?_).mono (fun _ => Nat.le_refl _) ?_
  · intro after _ isReady agrees
    exact ready_append.mpr ⟨isReady, agrees.ready⟩
  · rintro _ _ final _ - - - - - ⟨_, _, agrees, others⟩
    exact agrees_append.mpr ⟨agrees, others⟩

/-- A statement that holds no other statements. -/
theorem Secures.leaf {given : Session -> Prop} {stmt : Stmt} {slots : List NodeId}
    {walk : Check Unit} (leaf : stmt.isLeaf = true)
    (fewer : ∀ node, slots.count node ≤ (stmt.ownExprs.flatMap Expr.nodes).count node)
    (secures : stage.Secures path ready given slots walk fun _ final _ =>
      StmtRule final (stage.Has final) result stmt ∧
        (∀ expr ∈ stmt.ownExprs, stage.Derived final expr) ∧
        stage.Ready stmt.ownValues final) :
    stage.Secures path ready given stmt.slots walk
      fun _ final _ => stage.Agrees result stmt.parts final := by
  refine secures.mono (fun node => ?_) ?_
  · rw [Stmt.slots, Stmt.parts_of_isLeaf leaf, List.flatMap_singleton, Stmt.ownSlots, List.count_append]
    have own := fewer node
    omega
  · rintro _ _ final _ - - - - - ⟨rule, derived, gains⟩
    rw [Stmt.parts_of_isLeaf leaf]
    exact agrees_cons rule derived gains agrees_nil

/-- A binding agrees when its initializer is allowed. -/
theorem Bound.rule {form : Option TypeForm} {value : Option Expr}
    (bound : stage.Bound session form value) :
    BindingRule session (stage.Has session) form value ∧
      ∀ expr ∈ value.toList, stage.Derived session expr :=
  ⟨bound.1, fun expr isExpr => bound.2 expr (Option.mem_toList.mp isExpr)⟩

theorem StmtOk.binding {stmt : Stmt} {node : NodeId} {form : Option TypeForm}
    {value : Option Expr} (isOk : stage.StmtOk ready stmt) (isNode : stmt.ownValues = [node])
    (isForm : stmt.ownForms = form.toList) (isValue : stmt.ownExprs = value.toList) :
    stage.BindingOk ready node form value where
  owns := isOk.owns node (by rw [isNode]; exact List.mem_singleton_self node)
  form written same := isOk.forms written (by rw [isForm]; exact Option.mem_toList.mpr same)
  value expr same := isOk.exprs expr (by rw [isValue]; exact Option.mem_toList.mpr same)
  fits type gives := by
    refine isOk.fits node (by rw [isNode]; exact List.mem_singleton_self node) type ?_
    rw [isForm, isValue]
    cases form <;> cases value <;> exact gives

/-- A statement without statements inside it. -/
theorem secures_leafStmt (closed : stage.Closed) (settles : stage.Settles)
    (meets : stage.Meets path ready demand) (good : stage.good result) {stmt : Stmt}
    (leaf : stmt.isLeaf = true) (isOk : stage.StmtOk ready stmt) (given : Session -> Prop) :
    stage.Secures path ready given stmt.slots (checkStmt demand result stmt)
      fun _ final _ => stage.Agrees result stmt.parts final := by
  have types (expr : Expr) (isExpr : expr ∈ stmt.ownExprs) :
      stage.Types path ready demand expr :=
    types_of_relies closed meets expr (isOk.exprs expr isExpr)
  have nothing {stmt : Stmt} (leaf : stmt.isLeaf = true)
      (rule : ∀ session, StmtRule session (stage.Has session) result stmt)
      (noExprs : stmt.ownExprs = []) (noValues : stmt.ownValues = []) :
      stage.Secures path ready given stmt.slots (pure ())
        fun _ final _ => stage.Agrees result stmt.parts final := by
    refine .leaf leaf (fun _ => Nat.zero_le _) (.stay fun _ final _ _ _ => ⟨rule final, ?_, ?_⟩)
    · rw [noExprs]
      exact List.forall_mem_nil _
    · rw [noValues]
      exact List.forall_mem_nil _
  cases stmt with
  | expr value =>
    unfold checkStmt
    refine .leaf leaf (fun _ => ?_) ((((types value List.mem_cons_self none).provided
      fun _ _ _ _ => wants_none).bind fun _ => Secures.pure ()).mono
      (fun _ => Nat.le_refl _) ?_)
    · simp [Stmt.ownExprs]
    · rintro _ _ final _ - - - - - ⟨_, _, typed, -⟩
      exact ⟨trivial, List.forall_mem_singleton.mpr typed.2, List.forall_mem_nil _⟩
  | letIn binding =>
    unfold checkStmt
    refine .leaf leaf (fun _ => Nat.le_refl _) ((secures_checkLocal closed settles meets
      (isOk.binding rfl rfl rfl)).mono (fun _ => Nat.le_refl _) ?_)
    rintro _ _ final _ - - - - - ⟨bound, gains⟩
    exact ⟨bound.rule.1, bound.rule.2, gains⟩
  | instr binding =>
    unfold checkStmt
    refine .leaf leaf (fun _ => Nat.le_refl _) ((secures_bind closed settles meets
      (isOk.binding rfl rfl rfl)).mono (fun _ => Nat.le_refl _) ?_)
    rintro _ _ final _ - - - - - ⟨bound, gains⟩
    exact ⟨bound.rule.1, bound.rule.2, gains⟩
  | const decl =>
    unfold checkStmt
    refine .leaf leaf (fun _ => Nat.le_refl _) ((((secures_checkConst closed settles meets
      (isOk.binding rfl rfl rfl)).mono (fun _ => Nat.le_refl _) ?_).bind
      fun _ => Secures.pure ()).mono (fun _ => Nat.le_of_eq (by simp [Stmt.ownExprs]))
      fun _ _ _ _ _ _ _ _ _ ⟨_, _, held, _⟩ => held)
    rintro _ after final _ - - - - further ⟨bound, -, settled⟩
    exact ⟨bound.rule.1, bound.rule.2, ready_settled settled further⟩
  | assign target value span =>
    unfold checkStmt
    refine .leaf leaf (fun _ => ?_) ((secures_checkAssign (types target List.mem_cons_self)
      (types value (List.mem_cons_of_mem _ List.mem_cons_self))).mono (fun _ => Nat.le_refl _) ?_)
    · simp [Stmt.ownExprs]
    · rintro _ _ final _ - - - - - ⟨⟨ofTarget, ofValue⟩, rule⟩
      exact ⟨rule, by simp [Stmt.ownExprs, ofTarget, ofValue], List.forall_mem_nil _⟩
  | write target value span =>
    unfold checkStmt
    refine .leaf leaf (fun _ => ?_) ((secures_checkWrite closed
      (types target List.mem_cons_self)
      (types value (List.mem_cons_of_mem _ List.mem_cons_self))).mono (fun _ => Nat.le_refl _) ?_)
    · simp [Stmt.ownExprs]
    · rintro _ _ final _ - - - - - ⟨⟨ofTarget, ofValue⟩, rule⟩
      exact ⟨rule, by simp [Stmt.ownExprs, ofTarget, ofValue], List.forall_mem_nil _⟩
  | ret value span =>
    unfold checkStmt
    refine .leaf leaf (fun _ => Nat.le_refl _) ((secures_checkReturn good
      (fun expr isExpr => types expr (Option.mem_toList.mpr isExpr)) span).mono
      (fun _ => Nat.le_refl _) ?_)
    rintro _ _ final _ - - - - - ⟨rule, derived⟩
    exact ⟨rule, fun expr isExpr => derived expr (Option.mem_toList.mp isExpr),
      List.forall_mem_nil _⟩
  | struct decl =>
    unfold checkStmt
    exact nothing leaf (fun _ => trivial) rfl rfl
  | brk span =>
    unfold checkStmt
    exact nothing leaf (fun _ => trivial) rfl rfl
  | cont span =>
    unfold checkStmt
    exact nothing leaf (fun _ => trivial) rfl rfl
  | bad span =>
    unfold checkStmt
    exact nothing leaf (fun _ => trivial) rfl rfl
  | block body span => cases leaf
  | cond test body bodySpan otherwise span => cases leaf
  | whileLoop test body bodySpan span => cases leaf
  | loop body bodySpan span => cases leaf
  | forLoop first test after body bodySpan span => cases leaf

mutual

/-- Every statement agrees with the types of its expressions when what it relies on is
there. -/
theorem secures_checkStmt (closed : stage.Closed) (settles : stage.Settles)
    (meets : ∀ ready, stage.Meets path ready demand) (good : stage.good result) :
    (stmt : Stmt) -> (ready : List NodeId) -> Stmt.Along stage.StmtOk ready stmt ->
    (given : Session -> Prop) ->
    stage.Secures path ready given stmt.slots (checkStmt demand result stmt)
      fun _ final _ => stage.Agrees result stmt.parts final
  | .block body span, ready, relies, given => by
    unfold Stmt.Along at relies
    unfold checkStmt
    refine (secures_checkStmts closed settles meets good body ready relies.2 given).mono
      (fun _ => Nat.le_of_eq (by rw [Stmt.slots_block])) ?_
    rintro _ _ final _ - - - - - agrees
    exact agrees_cons trivial (List.forall_mem_nil _) (List.forall_mem_nil _) agrees
  | .cond test body bodySpan otherwise span, ready, relies, given => by
    unfold Stmt.Along at relies
    obtain ⟨isOk, ofBody, ofOtherwise⟩ := relies
    unfold checkStmt
    refine ((secures_checkCondition closed
      (types_of_relies closed (meets ready) test
        (isOk.exprs test List.mem_cons_self))).bind fun _ =>
      (secures_checkStmts closed settles meets good body ready ofBody _).bindStmts
      fun _ => secures_checkStmt? closed settles meets good otherwise _ ofOtherwise _).mono
      (fun _ => Nat.le_of_eq (by rw [Stmt.slots_cond, List.append_assoc])) ?_
    rintro _ _ final _ - - - - - ⟨_, _, ⟨derived, rule⟩, agrees⟩
    exact agrees_cons rule (List.forall_mem_singleton.mpr derived) (List.forall_mem_nil _) agrees
  | .whileLoop test body bodySpan span, ready, relies, given => by
    unfold Stmt.Along at relies
    obtain ⟨isOk, ofBody⟩ := relies
    unfold checkStmt
    refine ((secures_checkCondition closed
      (types_of_relies closed (meets ready) test
        (isOk.exprs test List.mem_cons_self))).bind fun _ =>
      secures_checkStmts closed settles meets good body ready ofBody _).mono
      (fun _ => Nat.le_of_eq (by rw [Stmt.slots_whileLoop])) ?_
    rintro _ _ final _ - - - - - ⟨_, _, ⟨derived, rule⟩, agrees⟩
    exact agrees_cons rule (List.forall_mem_singleton.mpr derived) (List.forall_mem_nil _) agrees
  | .loop body bodySpan span, ready, relies, given => by
    unfold Stmt.Along at relies
    unfold checkStmt
    refine (secures_checkStmts closed settles meets good body ready relies.2 given).mono
      (fun _ => Nat.le_of_eq (by rw [Stmt.slots_loop])) ?_
    rintro _ _ final _ - - - - - agrees
    exact agrees_cons trivial (List.forall_mem_nil _) (List.forall_mem_nil _) agrees
  | .forLoop first test after body bodySpan span, ready, relies, given => by
    unfold Stmt.Along at relies
    obtain ⟨ofFirst, isOk, ofAfter, ofBody⟩ := relies
    have secureFirst := secures_checkStmt? closed settles meets good first ready ofFirst given
    have rest (given : Session -> Prop) :
        stage.Secures path (Stmt.behind ready (Stmt.parts? first)) given
          (after.toList.flatMap Stmt.slots ++ Stmt.slotsAll body) (do
            checkStmt? demand result after
            checkStmts demand result body)
          fun _ final _ =>
            stage.Agrees result (Stmt.parts? after ++ Stmt.partsAll body) final :=
      (secures_checkStmt? closed settles meets good after _ ofAfter given).bindStmts
        fun _ => secures_checkStmts closed settles meets good body _ ofBody _
    have turns (session : Session) (_ : Unit) (isReady : stage.Ready ready session)
        (agrees : stage.Agrees result (Stmt.parts? first) session) :
        stage.Ready (Stmt.behind ready (Stmt.parts? first)) session :=
      ready_append.mpr ⟨isReady, agrees.ready⟩
    unfold checkStmt
    cases test with
    | some test =>
      refine (secureFirst.bindReady (fun _ => (secures_checkCondition closed
        (types_of_relies closed (meets _) test
          (isOk.exprs test List.mem_cons_self))).bind fun _ => rest _)
        turns).mono (fun _ => ?_) ?_
      · simp only [Stmt.slots_forLoop, List.count_append, Option.toList_some,
          List.flatMap_singleton]
        omega
      · rintro _ _ final _ - - - - - ⟨_, _, agreesFirst, _, _, ⟨derived, rule⟩, agrees⟩
        refine agrees_cons (by simpa [StmtRule] using rule)
          (List.forall_mem_singleton.mpr derived) (List.forall_mem_nil _) ?_
        rw [List.append_assoc]
        exact agrees_append.mpr ⟨agreesFirst, agrees⟩
    | none =>
      refine (secureFirst.bindReady (fun _ => rest _) turns).mono (fun _ => ?_) ?_
      · simp only [Stmt.slots_forLoop, List.count_append]
        omega
      · rintro _ _ final _ - - - - - ⟨_, _, agreesFirst, agrees⟩
        refine agrees_cons (by simp [StmtRule]) (List.forall_mem_nil _) (List.forall_mem_nil _) ?_
        rw [List.append_assoc]
        exact agrees_append.mpr ⟨agreesFirst, agrees⟩
  | .expr _, ready, relies, given | .letIn _, ready, relies, given
  | .instr _, ready, relies, given | .const _, ready, relies, given
  | .struct _, ready, relies, given | .assign _ _ _, ready, relies, given
  | .write _ _ _, ready, relies, given | .ret _ _, ready, relies, given
  | .brk _, ready, relies, given | .cont _, ready, relies, given
  | .bad _, ready, relies, given => by
    unfold Stmt.Along at relies
    exact secures_leafStmt closed settles (meets ready) good rfl relies given

/-- `secures_checkStmt` for a statement that may be missing. -/
theorem secures_checkStmt? (closed : stage.Closed) (settles : stage.Settles)
    (meets : ∀ ready, stage.Meets path ready demand) (good : stage.good result) :
    (stmt : Option Stmt) -> (ready : List NodeId) -> Stmt.Along? stage.StmtOk ready stmt ->
    (given : Session -> Prop) ->
    stage.Secures path ready given (stmt.toList.flatMap Stmt.slots)
      (checkStmt? demand result stmt)
      fun _ final _ => stage.Agrees result (Stmt.parts? stmt) final
  | none, ready, _, given => by
    unfold checkStmt?
    exact .stay fun _ _ _ _ _ => agrees_nil
  | some stmt, ready, relies, given => by
    unfold checkStmt?
    unfold Stmt.Along? at relies
    exact (secures_checkStmt closed settles meets good stmt ready relies given).mono
      (fun _ => Nat.le_of_eq (by simp)) fun _ _ _ _ _ _ _ _ _ held => held

/-- `secures_checkStmt` for several statements in turn. -/
theorem secures_checkStmts (closed : stage.Closed) (settles : stage.Settles)
    (meets : ∀ ready, stage.Meets path ready demand) (good : stage.good result) :
    (body : List Stmt) -> (ready : List NodeId) -> Stmt.AlongAll stage.StmtOk ready body ->
    (given : Session -> Prop) ->
    stage.Secures path ready given (Stmt.slotsAll body) (checkStmts demand result body)
      fun _ final _ => stage.Agrees result (Stmt.partsAll body) final
  | [], ready, _, given => by
    unfold checkStmts
    exact .stay fun _ _ _ _ _ => agrees_nil
  | stmt :: rest, ready, relies, given => by
    unfold checkStmts
    unfold Stmt.AlongAll at relies
    rw [Stmt.slotsAll_cons]
    exact (secures_checkStmt closed settles meets good stmt ready relies.1 given).bindStmts
      fun _ => secures_checkStmts closed settles meets good rest _ relies.2 _

end

end UnitCheck.Typing.Stage
