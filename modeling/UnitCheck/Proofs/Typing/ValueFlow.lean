import UnitCheck.Proofs.Declare.Enrolled
import UnitCheck.Proofs.Session.Sourced
import UnitCheck.Proofs.Session.Structs
import UnitCheck.Proofs.Typing.Isolation
import UnitCheck.Proofs.Typing.Soundness

/-!
# Where values flow

An argument flows to its parameter, an initializer to what it initializes, an assigned value
to its target and a returned value to the result. Where types form a derivation, a value is
allowed wherever it flows.

The structs in a type that the check finds at a node of an item are declared at top level or
in this item. So what a value flows to mentions such structs only (`Flow.inside`).
-/

namespace UnitCheck.Typing

/-- The item holds a declaration with this written type and this initializer. -/
inductive Initializes (item : Item) : TypeForm -> Expr -> Prop where
  | letIn {binding : BindingDecl} {form : TypeForm} {value : Expr}
      (isStmt : .letIn binding ∈ Stmt.partsAll item.body) (type : binding.type = some form)
      (isValue : binding.value = some value) : Initializes item form value
  | instr {binding : BindingDecl} {form : TypeForm} {value : Expr}
      (isStmt : .instr binding ∈ Stmt.partsAll item.body) (type : binding.type = some form)
      (isValue : binding.value = some value) : Initializes item form value
  | const {decl : ConstDecl} {form : TypeForm} {value : Expr}
      (isStmt : .const decl ∈ Stmt.partsAll item.body) (type : decl.type = some form)
      (isValue : decl.value = some value) : Initializes item form value
  | global {global : Global} {form : TypeForm} {value : Expr}
      (isGlobal : global? item = some global) (type : global.form = some form)
      (isValue : global.value = some value) : Initializes item form value

/-- In the item the value of an expression flows to where a type is wanted. -/
inductive Flow (session : Session) (has : NodeId -> Ty -> Prop) (item : Item) :
    Expr -> Ty -> Prop where
  /-- To a parameter of what a name invokes; fields are the parameters of a struct. -/
  | argument {name : Ident} {args : List Expr} {span : Span} {symbol : Symbol} {found param : Ty}
      {callee : Callee} {value : Expr} (isCall : .call name args span ∈ item.exprs)
      (refers : session.facts.refs.find? name.span.node = some symbol)
      (isFound : has name.span.node found) (invokes : Invokes session symbol found callee)
      (isPassed : (value, param) ∈ args.zip callee.params) : Flow session has item value param
  /-- To a parameter of a function that is a value. -/
  | valueArgument {function value : Expr} {args : List Expr} {span : Span}
      {found result param : Ty} {params : List Ty} {convention : String} {variadic : Bool}
      (isCall : .callValue function args span ∈ item.exprs) (isFound : has function.node found)
      (isFunction : found.unwrap = .function params result convention variadic)
      (isPassed : (value, param) ∈ args.zip params) : Flow session has item value param
  /-- Into an array. -/
  | element {form : Option TypeForm} {items : List Expr} {span : Span} {element : Ty}
      {length : Nat} {value : Expr} (isArray : .array form items span ∈ item.exprs)
      (isFound : has span.node (.fixedArray element length)) (isItem : value ∈ items) :
      Flow session has item value element
  | initializer {form : TypeForm} {value : Expr} {declared : Ty}
      (initializes : Initializes item form value)
      (means : session.facts.forms.find? form.node = some declared) :
      Flow session has item value declared
  | assigned {target value : Expr} {span : Span} {place : Ty}
      (isStmt : .assign target value span ∈ Stmt.partsAll item.body)
      (isFound : has target.node place) : Flow session has item value place
  /-- Through a pointer. -/
  | written {target value : Expr} {span : Span} {place element : Ty}
      (isStmt : .write target value span ∈ Stmt.partsAll item.body)
      (isFound : has target.node place) (isPointer : place.unwrap = .pointer element) :
      Flow session has item value element
  | returned {value : Expr} {span : Span}
      (isStmt : .ret (some value) span ∈ Stmt.partsAll item.body) :
      Flow session has item value (bodyResult session item)

section Rules

variable {session : Session} {has : NodeId -> Ty -> Prop} {item : Item}

/-- An initializer is allowed for the type that its declaration is given. -/
theorem Initializes.fits {form : TypeForm} {value : Expr} (initializes : Initializes item form value)
    (rule : ItemRule session has item) {declared : Ty}
    (means : session.facts.forms.find? form.node = some declared) : Fits has value declared := by
  have bound {written : Option TypeForm} {initial : Option Expr}
      (held : BindingRule session has written initial) (isForm : written = some form)
      (isValue : initial = some value) : Fits has value declared := by
    subst isForm isValue
    obtain ⟨other, meansOther, fits⟩ := held value rfl
    cases means.symm.trans meansOther
    exact fits
  cases initializes with
  | letIn isStmt isForm isValue => exact bound (rule.1 _ isStmt) isForm isValue
  | instr isStmt isForm isValue => exact bound (rule.1 _ isStmt) isForm isValue
  | const isStmt isForm isValue => exact bound (rule.1 _ isStmt) isForm isValue
  | global isGlobal isForm isValue =>
    have held := rule.2
    cases item with
    | const | static =>
      cases isGlobal
      exact bound held isForm isValue
    | _ => cases isGlobal

/-- A function is not unknown. -/
theorem not_unknown_of_function {type result : Ty} {params : List Ty} {convention : String}
    {variadic : Bool} (isFunction : type.unwrap = .function params result convention variadic) :
    type.isUnknown = false := by
  simp [Ty.isUnknown, Ty.isPrim, Ty.prim?, isFunction]

/-- What a name invokes is settled by its symbol and its type. -/
theorem Invokes.unique {symbol : Symbol} {type : Ty} {callee other : Callee}
    (one : Invokes session symbol type callee) (two : Invokes session symbol type other) :
    callee = other := by
  unfold Invokes at one two
  split at one
  · rename_i isStruct
    rw [if_pos isStruct] at two
    obtain ⟨name, id, rfl, rfl⟩ := one
    obtain ⟨_, _, same, rfl⟩ := two
    cases same
    rfl
  · rename_i isFunction
    rw [if_neg isFunction] at two
    obtain ⟨params, result, convention, variadic, unwraps, rfl⟩ := one
    obtain ⟨_, _, _, _, unwrapsOther, rfl⟩ := two
    cases unwraps.symm.trans unwrapsOther
    rfl

/-- Where the types form a derivation in which no node has two types, a value is allowed
wherever it flows. -/
theorem Flow.fits {value : Expr} {wanted : Ty} (flow : Flow session has item value wanted)
    (unique : ∀ node one other, has node one → has node other → one = other)
    (rule : ItemRule session has item)
    (derived : ∀ expr ∈ item.exprs, (∃ symbol, NamesEnum session expr symbol) ∨
      ∃ type, has expr.node type ∧ ExprRule session has expr type) : Fits has value wanted := by
  have exprRule {expr : Expr} (isExpr : expr ∈ item.exprs) (isName : ∀ name, expr ≠ .name name) :
      ∃ type, has expr.node type ∧ ExprRule session has expr type := by
    obtain ⟨_, name, same, -⟩ | typed := derived expr isExpr
    · exact (isName name same).elim
    · exact typed
  cases flow with
  | argument isCall refers isFound invokes isPassed =>
    obtain ⟨type, -, held⟩ := exprRule isCall (fun _ => Expr.noConfusion)
    obtain ⟨unresolved, -⟩ | ⟨_, _, _, refersOther, isOther, invokesOther, applies, -⟩ := held
    · cases refers.symm.trans unresolved
    · cases refers.symm.trans refersOther
      cases unique _ _ _ isFound isOther
      cases invokes.unique invokesOther
      exact applies.2 _ isPassed
  | valueArgument isCall isFound isFunction isPassed =>
    obtain ⟨type, -, found, isOther, held⟩ := exprRule isCall (fun _ => Expr.noConfusion)
    cases unique _ _ _ isFound isOther
    rw [if_neg (by simp [not_unknown_of_function isFunction])] at held
    obtain ⟨_, _, _, _, isOtherFunction, applies, -⟩ := held
    cases isFunction.symm.trans isOtherFunction
    exact applies.2 _ isPassed
  | element isArray isFound isItem =>
    obtain ⟨type, isType, element, rfl, -, fits⟩ := exprRule isArray (fun _ => Expr.noConfusion)
    cases unique _ _ _ isFound isType
    exact fits _ isItem
  | initializer initializes means => exact initializes.fits rule means
  | assigned isStmt isFound =>
    obtain ⟨place, isPlace, fits⟩ := rule.1 _ isStmt
    cases unique _ _ _ isFound isPlace
    exact fits
  | written isStmt isFound isPointer =>
    obtain ⟨place, isPlace, -, fits⟩ := rule.1 _ isStmt
    cases unique _ _ _ isFound isPlace
    exact fits _ isPointer
  | returned isStmt => exact (rule.1 _ isStmt).2

end Rules

/-- No node of a decoded unit is typed twice, so the types that are recorded for its nodes
are those that count. -/
theorem has_eq_recorded {unit : Module} (distinct : (unit.items.flatMap Item.sites).Nodup)
    {session : Session} (prepared : Prepared unit session)
    (finished : (anyStage session).Finished (session.after walk)) :
    (anyStage session).Has (session.after walk) = Recorded (session.after walk) := by
  have slots : (unit.items.flatMap Item.slots).Nodup :=
    distinct.sublist (Item.sublist_flatMap _ Item.slots_sublist_sites)
  have once : ((session.after walk).facts.exprs.map Prod.fst).Nodup := by
    refine List.nodup_iff_count_le_one.mpr fun node => ?_
    calc ((session.after walk).facts.exprs.map Prod.fst).count node
      _ ≤ (session.facts.exprs.map Prod.fst).count node +
          (session.items.flatMap Item.slots).count node := finished.charged node
      _ = (unit.items.flatMap Item.slots).count node := by
        rw [prepared.untyped, prepared.items, List.map_nil, List.count_nil, Nat.zero_add]
      _ ≤ 1 := List.nodup_iff_count_le_one.mp slots node
  funext node type
  exact propext ((and_iff_left trivial).trans (mem_iff_find? once))

/-- Where a check of a decoded unit finds nothing fatal, a value is allowed wherever it flows. -/
theorem Flow.fits_check {file text : String} {unit : Module}
    (read : Module.decode file text = .ok unit) {options : Options}
    (accepted : (Session.check (some unit) options).bag.hasErrors = false) {item : Item}
    (isItem : item ∈ unit.items) {value : Expr} {wanted : Ty}
    (flow : Flow (.check (some unit) options) (Recorded (.check (some unit) options)) item value
      wanted) : Fits (Recorded (.check (some unit) options)) value wanted := by
  have distinct := Module.nodup_sites read
  obtain ⟨session, prepared, quiet, findings, passes, progress, last⟩ :=
    check_prepared ((Session.quiet_iff _).mp accepted)
  have finished : (anyStage session).Finished (session.after walk) :=
    Stage.finished_walk (founded_any distinct prepared) sound_any rfl quiet
  obtain ⟨rule, derived⟩ := finished.agrees item (prepared.items.symm ▸ isItem)
  unfold Stage.PartRule at derived
  rw [has_eq_recorded distinct prepared finished] at rule derived
  rw [last] at flow ⊢
  refine flow.fits (fun node one other isOne isOther => ?_) (itemRule_retold _ _ _ _ rule)
    fun expr isExpr => ?_
  · exact Option.some.inj (isOne.symm.trans isOther)
  · obtain ⟨type, recorded, agrees⟩ | ⟨-, names⟩ := derived expr isExpr
    · exact .inr ⟨type, recorded, exprRule_retold _ _ _ _ agrees⟩
    · exact .inl names

/-! ### Structs in reach of an item -/

/-- The name of a struct stands below the qualifiers of its type. -/
theorem unwrap_of_struct? {type : Ty} {name : String} {id : TypeId}
    (isStruct : type.struct? = some (name, id)) : type.unwrap = .struct name id := by
  unfold Ty.struct? at isStruct
  split at isStruct
  · rename_i same
    cases isStruct
    exact same
  · cases isStruct

/-- The structs that the type mentions are declared in the unit and visible from the item. -/
structure InReach (declared : NodeId -> Prop) (items : List Item) (item : Item) (type : Ty) :
    Prop where
  isFrom : type.From (.ofStructs (StructAt (items.flatMap Item.structs)))
  within : type.Within (item.outlook declared).visible

section Reach

variable {declared : NodeId -> Prop} {items : List Item} {item : Item} {session : Session}

theorem InReach.unwrap {type : Ty} (inReach : InReach declared items item type) :
    InReach declared items item type.unwrap :=
  ⟨from_unwrap type inReach.isFrom, inReach.within.unwrap⟩

/-- The parameters of a function in reach are in reach. -/
theorem InReach.param {params : List Ty} {result : Ty} {convention : String} {variadic : Bool}
    (inReach : InReach declared items item (.function params result convention variadic))
    {param : Ty} (isParam : param ∈ params) : InReach declared items item param :=
  ⟨Ty.allFrom_iff.mp inReach.isFrom.1 param isParam,
    Ty.allWithin_iff.mp inReach.within.1 param isParam⟩

/-- The struct that a type in reach is can be reached. -/
theorem InReach.struct (spread : Spread declared items) (isItem : item ∈ items) {type : Ty}
    (inReach : InReach declared items item type) {name : String} {id : TypeId}
    (isStruct : type.struct? = some (name, id)) :
    StructAt (Item.reachable items item) name id := by
  have unwrapped := inReach.unwrap
  rw [unwrap_of_struct? isStruct] at unwrapped
  exact structAt_reachable spread isItem unwrapped.isFrom unwrapped.within

/-- All nodes of an item are seen from it. -/
theorem inside_of_site (spread : Spread declared items) (isItem : item ∈ items) {node : NodeId}
    (isSite : node ∈ item.sites) : (item.outlook declared).inside node := by
  rw [Item.sites_eq] at isSite
  exact (List.mem_append.mp isSite).imp_left (spread.own item isItem node)

/-- The written type of an initialized declaration stands in the item, and so does the
initializer. -/
theorem Initializes.inside {form : TypeForm} {value : Expr}
    (initializes : Initializes item form value) :
    form.node ∈ item.sites ∧ value ∈ item.exprs := by
  have inStmt {stmt : Stmt} (isStmt : stmt ∈ Stmt.partsAll item.body)
      (isForm : form ∈ stmt.allForms) (isValue : value ∈ stmt.ownExprs) :
      form.node ∈ item.sites ∧ value ∈ item.exprs :=
    ⟨Item.mem_sites_of_form isStmt isForm, Item.mem_exprs_of_stmt isStmt isValue⟩
  cases initializes with
  | letIn isStmt type isValue | instr isStmt type isValue | const isStmt type isValue =>
    exact inStmt isStmt (Option.mem_toList.mpr type) (Option.mem_toList.mpr isValue)
  | @global global _ _ isGlobal type isValue =>
    have top (isForm : form ∈ item.forms) (isInitial : value ∈ item.values) :
        form.node ∈ item.sites ∧ value ∈ item.exprs :=
      ⟨Item.mem_sites_of_own_form isForm, Item.mem_exprs_of_value isInitial⟩
    cases item with
    | const decl | static decl =>
      cases isGlobal
      exact top (Option.mem_toList.mpr type) (Option.mem_toList.mpr isValue)
    | _ => cases isGlobal

variable (sourced : Sourced (.ofStructs (StructAt (items.flatMap Item.structs))) session)
  (enclosed : Enclosed (item.outlook declared) session)
include sourced enclosed

/-- The fields of a struct in reach are in reach. -/
theorem inReach_field {name : String} {id : TypeId}
    (inReach : InReach declared items item (.struct name id)) :
    ∀ field ∈ (session.definitions.struct id).fields, InReach declared items item field.type := by
  intro field isField
  have isInside := (item.outlook declared).inside_of_visible id inReach.within
  exact ⟨sourced.struct id field isField, (enclosed.entries id isInside).struct field isField⟩

/-- What the name of something in reach invokes takes values of types in reach. -/
theorem inReach_param {symbol : Symbol} {type : Ty} {callee : Callee}
    (inReach : InReach declared items item type) (invokes : Invokes session symbol type callee) :
    ∀ param ∈ callee.params, InReach declared items item param := by
  unfold Invokes at invokes
  split at invokes
  · obtain ⟨name, id, rfl, rfl⟩ := invokes
    exact List.forall_mem_map.mpr (inReach_field sourced enclosed inReach)
  · obtain ⟨params, result, convention, variadic, unwraps, rfl⟩ := invokes
    have unwrapped := inReach.unwrap
    rw [unwraps] at unwrapped
    exact fun param isParam => unwrapped.param isParam

variable (spread : Spread declared items) (isItem : item ∈ items)
include spread isItem

/-- The types that are recorded for an item are in reach. -/
theorem inReach_recorded {node : NodeId} (isSite : node ∈ item.sites) {type : Ty}
    (recorded : Recorded session node type) : InReach declared items item type := by
  have fits := enclosed.entries node (inside_of_site spread isItem isSite)
  exact ⟨sourced.exprs _ (mem_of_lookup recorded), fits.expr type recorded⟩

/-- The meanings of written types in an item are in reach. -/
theorem inReach_form {node : NodeId} (isSite : node ∈ item.sites) {type : Ty}
    (means : session.facts.forms.find? node = some type) : InReach declared items item type := by
  have fits := enclosed.entries node (inside_of_site spread isItem isSite)
  exact ⟨sourced.form means, fits.form type means⟩

/-- What an item gives back is in reach. -/
theorem inReach_result : InReach declared items item (bodyResult session item) := by
  have isVoid : InReach declared items item .void := ⟨trivial, trivial⟩
  cases item with
  | function decl =>
    have isSite : decl.span.node ∈ (Item.function decl).sites := by
      rw [Item.sites_eq]
      exact List.mem_append_left _ List.mem_cons_self
    have fits := enclosed.entries _ (inside_of_site spread isItem isSite)
    simp only [bodyResult, resultType, StateT.run_bind, StateT.run_get, pure_bind]
    split
    · exact isVoid
    · rename_i symbol isDeclared
      split
      · rename_i params result convention variadic known
        have isFrom := (sourced.knownOf symbol.id).type _ known
        have within := (enclosed.known _ (fits.decl symbol isDeclared).1.met).type _ known
        exact ⟨isFrom.2, within.2⟩
      · exact isVoid
  | _ => exact isVoid

/-- What flows is an expression of the item, and what is wanted of it is in reach. -/
theorem Flow.inside {value : Expr} {wanted : Ty}
    (flow : Flow session (Recorded session) item value wanted) :
    value ∈ item.exprs ∧ InReach declared items item wanted := by
  have recorded {expr : Expr} {node : NodeId} {type : Ty} (isExpr : expr ∈ item.exprs)
      (isNode : node ∈ expr.ownNodes) (isType : Recorded session node type) :
      InReach declared items item type :=
    inReach_recorded sourced enclosed spread isItem (Item.mem_sites_of_exprs isExpr isNode) isType
  cases flow with
  | argument isCall refers isFound invokes isPassed =>
    obtain ⟨isArg, isParam⟩ := List.of_mem_zip isPassed
    exact ⟨Item.mem_exprs_of_part isCall
      (List.mem_cons_of_mem _ (Expr.mem_partsAll isArg)),
      inReach_param sourced enclosed (recorded isCall List.mem_cons_self isFound) invokes _ isParam⟩
  | @valueArgument function value args span found result param params convention variadic isCall
      isFound isFunction isPassed =>
    obtain ⟨isArg, isParam⟩ := List.of_mem_zip isPassed
    have isPart : function ∈ (Expr.callValue function args span).parts :=
      List.mem_cons_of_mem _ (List.mem_append_left _ function.self_mem_parts)
    have reached := (recorded (Item.mem_exprs_of_part isCall isPart)
      function.node_mem_ownNodes isFound).unwrap
    rw [isFunction] at reached
    exact ⟨Item.mem_exprs_of_part isCall
      (List.mem_cons_of_mem _ (List.mem_append_right _ (Expr.mem_partsAll isArg))),
      reached.param isParam⟩
  | element isArray isFound isElement =>
    have reached := recorded isArray List.mem_cons_self isFound
    exact ⟨Item.mem_exprs_of_part isArray (List.mem_cons_of_mem _ (Expr.mem_partsAll isElement)),
      reached.isFrom, reached.within⟩
  | initializer initializes means =>
    obtain ⟨isSite, isValue⟩ := initializes.inside
    exact ⟨isValue, inReach_form sourced enclosed spread isItem isSite means⟩
  | @assigned target value span place isStmt isFound =>
    exact ⟨Item.mem_exprs_of_stmt isStmt (List.mem_cons_of_mem _ List.mem_cons_self),
      recorded (Item.mem_exprs_of_stmt isStmt List.mem_cons_self) target.node_mem_ownNodes isFound⟩
  | @written target value span place element isStmt isFound isPointer =>
    have reached := (recorded (Item.mem_exprs_of_stmt isStmt List.mem_cons_self)
      target.node_mem_ownNodes isFound).unwrap
    rw [isPointer] at reached
    exact ⟨Item.mem_exprs_of_stmt isStmt (List.mem_cons_of_mem _ List.mem_cons_self),
      reached.isFrom, reached.within⟩
  | returned isStmt =>
    exact ⟨Item.mem_exprs_of_stmt isStmt List.mem_cons_self,
      inReach_result sourced enclosed spread isItem⟩

end Reach

end UnitCheck.Typing
