import UnitCheck.Proofs.Session.Lockstep
import UnitCheck.Proofs.Typing.Frame

/-!
# Typing looks at what is in scope

What typing a piece of a unit does depends on the options, on what is recorded for its
own nodes, on the definitions of the types it meets, and on the types of the symbols it
reads. From sessions that agree about these, and with demands that answer alike, typing
stays in step.
-/

namespace UnitCheck.Typing

variable {outlook : Outlook} {pairing : Pairing outlook}

/-- The demands answer alike for every symbol that may be met and asked for. -/
structure AnswerAlike (pairing : Pairing outlook) (one other : Demand) : Prop where
  type : ∀ symbol, outlook.Proper symbol → outlook.asks symbol →
    pairing.InStep (symbolType one symbol) (symbolType other symbol) outlook.Holds
  variadic : ∀ symbol, outlook.Proper symbol → outlook.asks symbol →
    ∀ first second, pairing.alike first second →
    (first.knownOf symbol.id).variadic = (second.knownOf symbol.id).variadic

/-! ### Places -/

section Places

variable {one other : Session}

/-- Where the entries of its nodes agree, an expression is a place in both sessions. -/
theorem isAddressable_congr {expr : Expr}
    (same : ∀ node ∈ expr.sites, one.entry node = other.entry node) :
    isAddressable one.facts expr = isAddressable other.facts expr := by
  cases expr with
  | name name =>
    have ref : one.facts.refs.find? name.span.node = other.facts.refs.find? name.span.node :=
      congrArg Entry.ref (same _ (by simp))
    simp only [isAddressable, ref]
  | field base path span =>
    have entry := same span.node (by simp)
    have members : one.facts.members.find? span.node = other.facts.members.find? span.node :=
      congrArg Entry.members entry
    have exprs : one.facts.exprs.find? span.node = other.facts.exprs.find? span.node :=
      congrArg Entry.expr entry
    simp only [isAddressable, members, exprs]
  | _ => rfl

/-- Where the entries of its nodes agree, the path to a place is the same. -/
theorem assignRoot_congr : (expr : Expr) ->
    (∀ node ∈ expr.sites, one.entry node = other.entry node) ->
    assignRoot one.facts expr = assignRoot other.facts expr
  | .name name, same => by
    have ref : one.facts.refs.find? name.span.node = other.facts.refs.find? name.span.node :=
      congrArg Entry.ref (same _ (by simp))
    simp only [assignRoot, ref]
  | .field base path span, same => by
    simp only [Expr.sites_field, List.forall_mem_cons] at same
    have members : one.facts.members.find? span.node = other.facts.members.find? span.node :=
      congrArg Entry.members same.1
    simp only [assignRoot, members, assignRoot_congr base same.2]
  | .index base position span, same => by
    simp only [Expr.sites_index, List.forall_mem_cons, List.forall_mem_append] at same
    have exprs : one.facts.exprs.find? base.node = other.facts.exprs.find? base.node :=
      congrArg Entry.expr (same.2.1 _ base.node_mem_sites)
    simp only [assignRoot, exprs, assignRoot_congr base same.2.1]
  | .literal _, _ | .binary _ _ _ _, _ | .unary _ _ _, _ | .call _ _ _, _ | .callValue _ _ _, _
  | .cast _ _ _, _ | .array _ _ _, _ | .addressOf _ _, _ | .load _ _ _, _ | .alloc _ _, _
  | .bad _, _ => rfl

theorem mutability_congr {expr : Expr}
    (same : ∀ node ∈ expr.sites, one.entry node = other.entry node) (type : Ty) :
    mutability one.facts expr type = mutability other.facts expr type := by
  unfold mutability
  rw [isAddressable_congr same, assignRoot_congr expr same]

end Places

/-! ### Expressions -/

/-- Sessions that are paired agree about owned nodes. -/
theorem entries_of_owns {one other : Session} (alike : pairing.alike one other)
    {nodes : List NodeId} (owned : ∀ node ∈ nodes, outlook.owns node) :
    ∀ node ∈ nodes, one.entry node = other.entry node :=
  fun node isNode => (pairing.agree alike).entries node (outlook.inside_of_owns _ (owned node isNode))

theorem steps_tell (finding : Option Finding) : pairing.Steps (tell finding) fun _ => True := by
  cases finding with
  | some finding => exact Pairing.steps_report finding
  | none => exact .pure trivial

theorem steps_accept {judged : Judged} (holds : outlook.Holds judged.1) :
    pairing.Steps (accept judged) outlook.Holds :=
  .bind (steps_tell _) fun _ _ => .pure holds

theorem steps_record {node : NodeId} (owned : outlook.owns node) {type : Ty}
    (holds : outlook.Holds type) : pairing.Steps (record node type) outlook.Holds :=
  .bind (Pairing.steps_recordExpr owned holds) fun _ _ => .pure holds

theorem holds_prim (name : Prim) : outlook.Holds (.prim name) := trivial

theorem holds_none : ∀ type ∈ (none : Option Ty), outlook.Holds type :=
  fun _ impossible => by cases impossible

theorem holds_some {type : Ty} (holds : outlook.Holds type) :
    ∀ found ∈ some type, outlook.Holds found := by
  rintro _ ⟨⟩
  exact holds

variable {first second : Demand}

theorem inStep_nameType (answers : AnswerAlike pairing first second) {name : Ident}
    (owned : outlook.owns name.span.node) :
    pairing.InStep (nameType first name) (nameType second name) outlook.Holds := by
  refine .read fun one other alike => ?_
  have inside := outlook.inside_of_owns _ owned
  have same : one.facts.refs.find? name.span.node = other.facts.refs.find? name.span.node :=
    congrArg Entry.ref ((pairing.agree alike).entries _ inside)
  rw [← same]
  cases found : one.facts.refs.find? name.span.node with
  | none => exact Pairing.InStep.pure trivial one other alike
  | some symbol =>
    obtain ⟨proper, asked⟩ := ((pairing.enclosed alike).entries _ inside).ref symbol found
    simp only
    split
    · exact Pairing.InStep.pure trivial one other alike
    · exact answers.type symbol proper asked one other alike

theorem steps_checkLiteral (literal : Literal) {expected : Option Ty}
    (wanted : ∀ hint ∈ expected, outlook.Holds hint) (negated : Bool) :
    pairing.Steps (checkLiteral literal expected negated) outlook.Holds := by
  refine .read fun one other alike => ?_
  rw [← (pairing.agree alike).options]
  exact steps_accept (within_literalType one.options literal wanted negated) one other alike

/-- What a call invokes mentions visible declarations only. -/
def Callee.Holds (outlook : Outlook) (callee : Callee) : Prop :=
  (∀ param ∈ callee.params, outlook.Holds param) ∧ outlook.Holds callee.result

theorem inStep_calleeOf (answers : AnswerAlike pairing first second) {symbol : Symbol}
    (proper : outlook.Proper symbol) (asked : outlook.asks symbol) :
    pairing.InStep (calleeOf first symbol) (calleeOf second symbol)
      fun found => ∀ callee ∈ found, callee.Holds outlook := by
  refine .read fun one other alike => ?_
  have nothing : ∀ callee ∈ (none : Option Callee), callee.Holds outlook :=
    fun _ impossible => by cases impossible
  simp only
  split
  · rename_i isStruct
    have isType : symbol.isType = true := by simp [Symbol.isType, isStruct, SymbolKind.isType]
    rw [← (pairing.agree alike).known _ (proper.steady isType)]
    split
    · rename_i name id known
      have holds : outlook.Holds (.struct name id) :=
        ((pairing.enclosed alike).known _ proper.met).type _ known
      have inside := outlook.inside_of_visible id holds
      have same : one.definitions.struct id = other.definitions.struct id :=
        congrArg Entry.struct ((pairing.agree alike).entries id inside)
      rw [← same]
      refine Pairing.InStep.pure ?_ one other alike
      rintro _ ⟨⟩
      refine ⟨fun param isParam => ?_, holds⟩
      obtain ⟨field, isField, rfl⟩ := List.mem_map.mp isParam
      exact ((pairing.enclosed alike).entries id inside).struct field isField
    · exact Pairing.InStep.pure nothing one other alike
  · split
    · exact Pairing.InStep.pure nothing one other alike
    · rw [← answers.variadic symbol proper asked one other alike]
      refine (Pairing.InStep.bind (answers.type symbol proper asked) fun type holds => ?_) one other
        alike
      split
      · rename_i isFunction
        have within := holds.of_unwrap_eq isFunction
        refine .pure ?_
        rintro _ ⟨⟩
        exact ⟨Ty.allWithin_iff.mp within.1, within.2⟩
      · exact .pure nothing

theorem steps_reportArity (callee : Callee) (span : Span) (count : Nat) :
    pairing.Steps (reportArity callee span count) fun _ => True :=
  .bind (Pairing.steps_report _) fun _ _ => Pairing.steps_report _

theorem steps_chosenVariant {enumName : String} {id : TypeId}
    (holds : outlook.Holds (.enum enumName id)) (variants path : List String) (span : Span) :
    pairing.Steps (chosenVariant enumName id variants path span) outlook.Holds := by
  unfold chosenVariant
  split
  · split
    · exact .pure holds
    · exact .bind (Pairing.steps_report _) fun _ _ => .pure trivial
  · exact .bind (Pairing.steps_report _) fun _ _ => .pure trivial

theorem steps_variantType {symbol : Symbol} (proper : outlook.Proper symbol)
    (isEnum : symbol.kind = .enum) {name : Ident} (owned : outlook.owns name.span.node)
    (path : List String) (span : Span) :
    pairing.Steps (variantType symbol name path span) outlook.Holds := by
  refine .read fun one other alike => ?_
  have isType : symbol.isType = true := by simp [Symbol.isType, isEnum, SymbolKind.isType]
  rw [← (pairing.agree alike).known _ (proper.steady isType)]
  split
  · rename_i enumName id known
    have holds : outlook.Holds (.enum enumName id) :=
      ((pairing.enclosed alike).known _ proper.met).type _ known
    have inside := outlook.inside_of_visible id holds
    have same : one.definitions.enum? id = other.definitions.enum? id :=
      congrArg Entry.enum ((pairing.agree alike).entries id inside)
    rw [← same]
    exact (Pairing.InStep.bind (Pairing.steps_recordExpr owned holds) fun _ _ =>
      steps_chosenVariant holds _ path span) one other alike
  · exact Pairing.InStep.pure trivial one other alike

theorem steps_enumBase? {base : Expr} (owned : ∀ node ∈ base.sites, outlook.owns node) :
    pairing.Steps (enumBase? base) fun found => ∀ symbol name, found = some (symbol, name) →
      outlook.Proper symbol ∧ symbol.kind = .enum ∧ outlook.owns name.span.node := by
  unfold enumBase?
  split
  · rename_i name
    have own : outlook.owns name.span.node := by simpa using owned
    refine .read fun one other alike => ?_
    have inside := outlook.inside_of_owns _ own
    have same : one.facts.refs.find? name.span.node = other.facts.refs.find? name.span.node :=
      congrArg Entry.ref ((pairing.agree alike).entries _ inside)
    rw [← same]
    cases found : one.facts.refs.find? name.span.node with
    | none => exact Pairing.InStep.pure (fun _ _ impossible => by cases impossible) one other alike
    | some symbol =>
      refine Pairing.InStep.pure ?_ one other alike
      intro enum ident isFound
      split at isFound
      · rename_i isEnum
        cases isFound
        exact ⟨(((pairing.enclosed alike).entries _ inside).ref symbol found).1, isEnum, own⟩
      · cases isFound
  · exact .pure fun _ _ impossible => by cases impossible

theorem steps_fieldType {base : Ty} (holds : outlook.Holds base) (path : List String) {span : Span}
    (owned : outlook.owns span.node) :
    pairing.Steps (fieldType base path span) outlook.Holds := by
  unfold fieldType
  split
  · exact .pure trivial
  · refine .read fun one other alike => ?_
    have entries := (pairing.agree alike).entries
    have fits := (pairing.enclosed alike).entries
    rw [← (pairing.agree alike).options]
    obtain ⟨same, within⟩ := Member.walk_congr one.options.derefMode
      (fun id visible => congrArg Entry.struct (entries id (outlook.inside_of_visible id visible)))
      (fun id visible => (fits id (outlook.inside_of_visible id visible)).struct) path holds
    change Member.walk one.definitions _ base path = Member.walk other.definitions _ base path
      at same
    rw [← same]
    split
    · rename_i type steps walked
      refine (Pairing.InStep.bind (Pairing.steps_recordMembers owned steps) fun _ _ =>
        .pure (within type ?_)) one other alike
      rw [walked]
      rfl
    · exact (Pairing.InStep.bind (Pairing.steps_report _) fun _ _ => .pure trivial) one other alike

/-- Arguments, or a complaint about their number. -/
theorem inStep_arguments {callee : Callee} {span : Span} {count : Nat}
    {args otherArgs all otherAll : Check Unit}
    (inStepArgs : pairing.InStep args otherArgs fun _ => True)
    (inStepAll : pairing.InStep all otherAll fun _ => True) {result : Ty} {node : NodeId}
    (owned : outlook.owns node) (holds : outlook.Holds result) :
    pairing.InStep (do
        if callee.accepts count then args
        else
          reportArity callee span count
          all
        record node result)
      (do
        if callee.accepts count then otherArgs
        else
          reportArity callee span count
          otherAll
        record node result) outlook.Holds := by
  simp only
  split
  · exact .bind inStepArgs fun _ _ => steps_record owned holds
  · exact .bind (steps_reportArity _ _ _) fun _ _ => .bind inStepAll fun _ _ =>
      steps_record owned holds

/-! ### Statements -/

theorem steps_setDeclType {node : NodeId} (owned : outlook.owns node) {type : Ty}
    (holds : outlook.Holds type) : pairing.Steps (setDeclType node type) fun _ => True := by
  refine .read fun one other alike => ?_
  have inside := outlook.inside_of_owns _ owned
  have same : one.facts.decls.find? node = other.facts.decls.find? node :=
    congrArg Entry.decl ((pairing.agree alike).entries _ inside)
  rw [← same]
  cases found : one.facts.decls.find? node with
  | none => exact Pairing.InStep.pure trivial one other alike
  | some symbol =>
    have own := (((pairing.enclosed alike).entries _ inside).decl symbol found).2
    exact Pairing.steps_setType owned own holds one other alike

theorem steps_declaredType (name : Option Ident) (form : Option TypeForm)
    (owned : ∀ node ∈ form.toList.flatMap TypeForm.nodes, outlook.owns node) :
    pairing.Steps (declaredType name form) fun found => ∀ type ∈ found, outlook.Holds type := by
  cases form with
  | none => exact .pure holds_none
  | some form =>
    refine .bind (Pairing.steps_recordedType form (by simpa using owned)) fun type holds => ?_
    split
    · exact .bind (Pairing.steps_report _) fun _ _ => .pure (holds_some (holds_prim _))
    · exact .pure (holds_some holds)

/-- The nodes of what a leaf statement declares, of its values and of its written types. -/
theorem owns_leaf {stmt : Stmt} (leaf : stmt.isLeaf = true)
    (owned : ∀ node ∈ stmt.sites, outlook.owns node) :
    (∀ node ∈ stmt.ownDecls, outlook.owns node) ∧
      (∀ node ∈ stmt.ownExprs.flatMap Expr.sites, outlook.owns node) ∧
      ∀ node ∈ stmt.allForms.flatMap TypeForm.nodes, outlook.owns node := by
  simpa only [Stmt.sites_of_isLeaf leaf, Stmt.ownSites, List.forall_mem_append, and_assoc]
    using owned

/-! ### Globals and items -/

theorem steps_enumValueType {decl : EnumDecl} (inside : outlook.inside decl.span.node)
    (steady : outlook.steady (.node decl.span.node)) :
    pairing.Steps (enumValueType decl) outlook.Holds := by
  refine .read fun one other alike => ?_
  have same : one.facts.decls.find? decl.span.node = other.facts.decls.find? decl.span.node :=
    congrArg Entry.decl ((pairing.agree alike).entries _ inside)
  rw [← same]
  cases found : one.facts.decls.find? decl.span.node with
  | none => exact Pairing.InStep.pure (holds_prim _) one other alike
  | some symbol =>
    obtain ⟨proper, own⟩ := ((pairing.enclosed alike).entries _ inside).decl symbol found
    simp only
    rw [← (pairing.agree alike).known symbol.id (own ▸ steady)]
    split
    · rename_i enumName id known
      have holds : outlook.Holds (.enum enumName id) :=
        ((pairing.enclosed alike).known _ proper.met).type _ known
      have insideEnum := outlook.inside_of_visible id holds
      have same : one.definitions.enum? id = other.definitions.enum? id :=
        congrArg Entry.enum ((pairing.agree alike).entries id insideEnum)
      rw [← same]
      refine Pairing.InStep.pure ?_ one other alike
      cases isBody : one.definitions.enum? id with
      | none => exact holds_prim _
      | some body => exact ((pairing.enclosed alike).entries id insideEnum).enum body isBody
    · exact Pairing.InStep.pure (holds_prim _) one other alike

theorem steps_resultType {node : NodeId} (inside : outlook.inside node)
    (steady : outlook.steady (.node node)) : pairing.Steps (resultType node) outlook.Holds := by
  refine .read fun one other alike => ?_
  have same : one.facts.decls.find? node = other.facts.decls.find? node :=
    congrArg Entry.decl ((pairing.agree alike).entries _ inside)
  rw [← same]
  cases found : one.facts.decls.find? node with
  | none => exact Pairing.InStep.pure (holds_prim _) one other alike
  | some symbol =>
    obtain ⟨proper, own⟩ := ((pairing.enclosed alike).entries _ inside).decl symbol found
    simp only
    rw [← (pairing.agree alike).known symbol.id (own ▸ steady)]
    split
    · rename_i params result convention variadic known
      have holds : outlook.Holds (.function params result convention variadic) :=
        ((pairing.enclosed alike).known _ proper.met).type _ known
      exact Pairing.InStep.pure holds.2 one other alike
    · exact Pairing.InStep.pure (holds_prim _) one other alike

/-- Where the same has to be known of all that can be met, demands that stay in step answer
alike. -/
theorem answerAlike_of {demand others : Demand}
    (steady : ∀ symbol, outlook.Proper symbol → outlook.steady symbol.id)
    (answers : ∀ symbol, outlook.Proper symbol →
      pairing.InStep (demand symbol) (others symbol) outlook.Holds) :
    AnswerAlike pairing demand others where
  type symbol proper _ := by
    refine .read fun one other alike => ?_
    rw [← (pairing.agree alike).known symbol.id (steady symbol proper)]
    cases known : (one.knownOf symbol.id).type with
    | some type =>
      exact Pairing.InStep.pure (((pairing.enclosed alike).known _ proper.met).type _ known) one
        other alike
    | none => exact answers symbol proper one other alike
  variadic symbol proper _ one other alike := by
    rw [(pairing.agree alike).known symbol.id (steady symbol proper)]

theorem steps_declType {node : NodeId} (inside : outlook.inside node)
    (steady : outlook.steady (.node node)) : pairing.Steps (declType node) outlook.Holds := by
  refine .read fun one other alike => ?_
  have same : one.facts.decls.find? node = other.facts.decls.find? node :=
    congrArg Entry.decl ((pairing.agree alike).entries _ inside)
  rw [← same]
  cases found : one.facts.decls.find? node with
  | none => exact Pairing.InStep.pure (holds_prim _) one other alike
  | some symbol =>
    obtain ⟨proper, own⟩ := ((pairing.enclosed alike).entries _ inside).decl symbol found
    simp only
    rw [← (pairing.agree alike).known symbol.id (own ▸ steady)]
    refine Pairing.InStep.pure ?_ one other alike
    cases known : (one.knownOf symbol.id).type with
    | none => exact holds_prim _
    | some type => exact ((pairing.enclosed alike).known _ proper.met).type _ known

/-- The global and all that belongs to it may be written to. -/
structure OwnedGlobal (outlook : Outlook) (global : Global) : Prop where
  node : outlook.owns global.node
  form : ∀ node ∈ global.form.toList.flatMap TypeForm.nodes, outlook.owns node
  value : ∀ node ∈ global.value.toList.flatMap Expr.sites, outlook.owns node

/-- All of a global may be written to where all of its item may be. -/
theorem OwnedGlobal.of_item {item : Item} {global : Global} (declares : global ∈ global? item)
    (owned : ∀ node ∈ item.sites, outlook.owns node) : OwnedGlobal outlook global := by
  have isSite (node : NodeId) (within : node ∈ item.ownNode ∨
      node ∈ item.values.flatMap Expr.sites ∨ node ∈ item.forms.flatMap TypeForm.nodes) :
      node ∈ item.sites := by
    unfold Item.sites
    simp only [List.mem_append]
    obtain isOwn | isValue | isForm := within
    · exact .inl (.inl (.inl (.inl isOwn)))
    · exact .inl (.inr isValue)
    · exact .inr isForm
  obtain ⟨own, forms, values⟩ : item.ownNode = [global.node] ∧
      item.forms = global.form.toList ∧ item.values = global.value.toList := by
    cases item <;> cases declares <;> exact ⟨rfl, rfl, rfl⟩
  rw [own, forms, values] at isSite
  exact ⟨owned _ (isSite _ (.inl List.mem_cons_self)),
    fun node isForm => owned node (isSite node (.inr (.inr isForm))),
    fun node isValue => owned node (isSite node (.inr (.inl isValue)))⟩

/-- Types the values of an enumeration, where a demand finds the types of globals. -/
def checkValues (demand : Demand) : Item -> Check Unit
  | .enum decl => do checkVariants demand (<- enumValueType decl) decl.variants
  | _ => return

/-- Types the body of an item, where a demand finds the types of globals. -/
def checkBody (demand : Demand) : Item -> Check Unit
  | .function decl =>
    match decl.body with
    | some body => do checkStmts demand (<- resultType decl.span.node) body.stmts
    | none => return
  | .entry decl => checkStmts demand .void decl.body.stmts
  | _ => return

theorem checkBodyItem_eq (all : List Global) (item : Item) :
    checkBodyItem all item = checkBody (demandGlobal all) item := by
  cases item <;> rfl

/-- An item that declares no global of its own has at most values to be typed. -/
theorem checkGlobalItem_eq (all : List Global) {item : Item} (none : global? item = none) :
    checkGlobalItem all item = checkValues (demandGlobal all) item := by
  cases item <;> first | rfl | cases none

end UnitCheck.Typing
