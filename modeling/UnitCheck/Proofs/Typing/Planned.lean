import UnitCheck.Proofs.Resolve.Globals
import UnitCheck.Proofs.Session.Precedence
import UnitCheck.Proofs.Session.Script
import UnitCheck.Proofs.Typing.Isolation
import UnitCheck.Proofs.Typing.Spending

/-!
# What the values of globals need

Typing the values of an item asks for the types of the untyped globals that names in them
refer to. Where these can be scheduled, every item gets what it gets where the types of all
globals are known already, whenever it is typed.
-/

namespace UnitCheck

namespace Item

/-- The nodes of the values of an item. -/
def valueSites (item : Item) : List NodeId := item.values.flatMap Expr.sites

/-- The nodes of the names in the values of an item. -/
def valueNames (item : Item) : List NodeId := item.values.flatMap Expr.nameNodes

theorem valueSites_subset_inner (item : Item) : item.valueSites ⊆ item.inner := by
  intro node isSite
  unfold inner
  simp only [List.mem_append]
  exact .inl (.inr isSite)

end Item

namespace Typing

/-- The demand that asks for nothing. -/
def idle : Demand := fun _ => return .unknown

/-- The node is that of a global without a written type. -/
def Unsigned (items : List Item) (node : NodeId) : Prop :=
  ∃ item ∈ items, Declare.IsUntyped item ∧ item.span.node = node

/-- A name in the values of the item refers to the symbol. -/
def NamedBy (base : Session) (item : Item) (symbol : Symbol) : Prop :=
  ∃ node ∈ item.valueNames, base.facts.refs.find? node = some symbol

/-- Typing the values of the first item asks for the type of the second. -/
structure Needs (items : List Item) (base : Session) (item other : Item) : Prop where
  member : other ∈ items
  untyped : Declare.IsUntyped other
  named : ∃ symbol, NamedBy base item symbol ∧ symbol.id = .node other.span.node

/-- What typing the values of an item looks at: the declarations and the nodes of the values.
What is known of untyped globals need not be the same. -/
def valueOutlook (declared unsigned : NodeId -> Prop) (named : Symbol -> Prop) (item : Item) :
    Outlook where
  inside node := declared node ∨ node ∈ item.valueSites
  visible := declared
  owns node := node ∈ item.valueSites
  steady id := ∀ node, id = .node node → (declared node ∧ ¬unsigned node) ∨ node ∈ item.valueSites
  asks symbol := symbol.isType = true ∨ named symbol
  asks_of_isType _ := .inl
  opens := False
  inside_of_visible _ := .inl
  inside_of_owns _ := .inr
  steady_of_owns node owned := by
    rintro _ ⟨⟩
    exact .inr owned

/-- The globals of a unit and the order in which those without a written type can be typed,
the last first, in a session from which typing starts. -/
structure Plan where
  declared : NodeId -> Prop
  items : List Item
  schedule : List Item
  base : Session
  distinct : (items.flatMap Item.sites).Nodup
  spread : Spread declared items
  enclosed : ∀ item ∈ items,
    Enclosed (valueOutlook declared (Unsigned items) (NamedBy base item) item) base
  introduced : ∀ global ∈ globals items, ∃ symbol,
    base.facts.decls.find? global.node = some symbol ∧ symbol.id = .node global.node
  blank : ∀ item ∈ items, Declare.IsUntyped item →
    (base.knownOf (.node item.span.node)).type = none
  signed : ∀ global ∈ globals items, ∀ form ∈ global.form, ∃ type,
    base.facts.forms.find? form.node = some type ∧
      (base.knownOf (.node global.node)).type = some type
  unchecked : base.checked = []
  scheduled : Scheduled (Needs items base) schedule
  once : schedule.Nodup
  covers : ∀ item, item ∈ schedule ↔ item ∈ items ∧ Declare.IsUntyped item

namespace Plan

variable (plan : Plan)

/-- What typing the values of an item looks at. -/
abbrev outlook (item : Item) : Outlook :=
  valueOutlook plan.declared (Unsigned plan.items) (NamedBy plan.base item) item

variable {plan} {item other : Item} {global : Global} {node : NodeId} {symbol : Symbol}

/-! ### Nodes -/

theorem isSome_of_untyped (untyped : Declare.IsUntyped item) : (global? item).isSome := by
  obtain ⟨global, declares, -⟩ := untyped
  rw [declares]
  rfl

theorem node_mem_sites (isGlobal : (global? item).isSome) : item.span.node ∈ item.sites := by
  obtain ⟨global, declares⟩ := Option.isSome_iff_exists.mp isGlobal
  exact Declare.node_mem_sites_of_header (header?_of_global declares)

/-- One node belongs to one global. -/
theorem eq_of_node (isItem : item ∈ plan.items) (isOther : other ∈ plan.items)
    (isGlobal : (global? item).isSome) (isOtherGlobal : (global? other).isSome)
    (same : item.span.node = other.span.node) : item = other :=
  Item.eq_of_mem_nodes plan.distinct isItem isOther (node_mem_sites isGlobal)
    (same ▸ node_mem_sites isOtherGlobal)

theorem declared_node (isItem : item ∈ plan.items) (isGlobal : (global? item).isSome) :
    plan.declared item.span.node := by
  obtain ⟨global, declares⟩ := Option.isSome_iff_exists.mp isGlobal
  refine plan.spread.own item isItem _ ?_
  rw [ownNode_of_global declares, node_of_global declares]
  exact List.mem_singleton_self _

/-- What is declared globally is not inside a value. -/
theorem not_valueSite (isDeclared : plan.declared node) (isItem : item ∈ plan.items) :
    node ∉ item.valueSites :=
  fun isSite => plan.spread.apart item isItem node (item.valueSites_subset_inner isSite) isDeclared

/-- No two items share a node of a value. -/
theorem eq_of_valueSite (isItem : item ∈ plan.items) (isOther : other ∈ plan.items)
    (inItem : node ∈ item.valueSites) (inOther : node ∈ other.valueSites) : item = other :=
  Item.eq_of_mem_nodes plan.spread.distinct isItem isOther (item.valueSites_subset_inner inItem)
    (other.valueSites_subset_inner inOther)

/-- A symbol that may be met stands for a builtin or a declaration, and the same is known of
it from everywhere unless it is an untyped global. -/
theorem steady_or_unsigned (proper : (plan.outlook item).Proper symbol) :
    (plan.outlook item).steady symbol.id ∨
      ∃ other ∈ plan.items, Declare.IsUntyped other ∧ symbol.id = .node other.span.node := by
  by_cases unsigned : ∃ node, symbol.id = .node node ∧ Unsigned plan.items node
  · obtain ⟨_, same, other, isOther, untyped, rfl⟩ := unsigned
    exact .inr ⟨other, isOther, untyped, same⟩
  · refine .inl fun node same => .inl ⟨?_, fun isUnsigned => unsigned ⟨node, same, isUnsigned⟩⟩
    have met := proper.met
    rw [same] at met
    exact met

/-- What is known of an untyped global need not be the same. -/
theorem not_steady (isItem : item ∈ plan.items) (isOther : other ∈ plan.items)
    (untyped : Declare.IsUntyped other) :
    ¬(plan.outlook item).steady (.node other.span.node) := by
  intro steady
  obtain ⟨-, signed⟩ | isSite := steady _ rfl
  · exact signed ⟨other, isOther, untyped, rfl⟩
  · exact not_valueSite (declared_node isOther (isSome_of_untyped untyped)) isItem isSite

/-- An untyped global that is asked for is needed. -/
theorem needs_of_asked (isItem : item ∈ plan.items) (proper : (plan.outlook item).Proper symbol)
    (asked : (plan.outlook item).asks symbol) (isOther : other ∈ plan.items)
    (untyped : Declare.IsUntyped other) (same : symbol.id = .node other.span.node) :
    Needs plan.items plan.base item other := by
  obtain isType | named := asked
  · exact absurd (same ▸ proper.steady isType) (not_steady isItem isOther untyped)
  · exact ⟨isOther, untyped, symbol, named, same⟩

/-! ### The types of symbols -/

/-- The demand that asks for globals. -/
def asking (plan : Plan) (answer : Global -> Check Ty) : Demand := fun symbol =>
  match (globals plan.items).find? (fun other => symbol.id = .node other.node) with
  | some other => answer other
  | none => return .unknown

theorem find?_untyped (isOther : other ∈ plan.items) (declares : global? other = some global)
    (same : symbol.id = .node other.span.node) :
    (globals plan.items).find? (fun met => symbol.id = .node met.node) = some global := by
  have isGlobal : global ∈ globals plan.items := List.mem_filterMap.mpr ⟨other, isOther, declares⟩
  have isLooked : symbol.id = .node global.node := by
    rw [same, node_of_global declares]
  have isSome : ((globals plan.items).find? fun met => symbol.id = .node met.node).isSome :=
    List.find?_isSome.mpr ⟨global, isGlobal, decide_eq_true isLooked⟩
  obtain ⟨found, isFound⟩ := Option.isSome_iff_exists.mp isSome
  obtain ⟨origin, isOrigin, declaresFound⟩ :=
    List.mem_filterMap.mp (List.mem_of_find?_eq_some isFound)
  have lookedFound : symbol.id = .node found.node := by simpa using List.find?_some isFound
  have sameNode : origin.span.node = other.span.node := by
    rw [same, SymbolId.node.injEq] at lookedFound
    rw [node_of_global declaresFound, lookedFound]
  obtain rfl := eq_of_node isOrigin isOther (by rw [declaresFound]; rfl) (by rw [declares]; rfl)
    sameNode
  rw [isFound, ← declaresFound, declares]

/-- What is steady and has no type is no global, so nothing is asked for. -/
theorem asking_of_steady {answer : Global -> Check Ty} (isItem : item ∈ plan.items)
    (steady : (plan.outlook item).steady symbol.id)
    (unknown : (plan.base.knownOf symbol.id).type = none) : plan.asking answer symbol = idle symbol := by
  unfold asking idle
  split
  · rename_i global found
    have isGlobal := List.mem_of_find?_eq_some found
    have same : symbol.id = .node global.node := by simpa using List.find?_some found
    obtain ⟨other, isOther, declares⟩ := List.mem_filterMap.mp isGlobal
    rw [← node_of_global declares] at same
    cases isForm : global.form with
    | some form =>
      obtain ⟨type, -, known⟩ := plan.signed global isGlobal form isForm
      rw [same, node_of_global declares, known] at unknown
      cases unknown
    | none =>
      exact absurd (same ▸ steady) (not_steady isItem isOther ⟨global, declares, isForm⟩)
  · rfl

end Plan

/-! ### The values of an item -/

/-- Types the values of an item and finds the type of its global, if it declares one. -/
def typeValues (demand : Demand) (item : Item) : Check Ty :=
  match global? item with
  | some global => global.given demand
  | none => do
    checkValues demand item
    return .unknown

section Values

variable {outlook : Outlook} {pairing : Pairing outlook} {first second : Demand}

/-- The written type of a global has been recorded in all paired sessions. -/
def Inscribed (pairing : Pairing outlook) (form : TypeForm) : Prop :=
  ∃ type, outlook.Holds type ∧ ∀ one other, pairing.alike one other →
    one.facts.forms.find? form.node = some type ∧ other.facts.forms.find? form.node = some type

theorem Inscribed.steps_recordedType {form : TypeForm} (recorded : Inscribed pairing form) :
    pairing.Steps (Check.recordedType form) outlook.Holds := by
  obtain ⟨type, holds, found⟩ := recorded
  refine .read fun one other alike => ?_
  obtain ⟨inOne, inOther⟩ := found one other alike
  rw [inOne, inOther]
  exact Pairing.InStep.pure holds one other alike

theorem steps_declaredType_recorded (name : Option Ident) {form : Option TypeForm}
    (recorded : ∀ written ∈ form, Inscribed pairing written) :
    pairing.Steps (declaredType name form) fun found => ∀ type ∈ found, outlook.Holds type := by
  cases form with
  | none => exact .pure holds_none
  | some form =>
    refine .bind (recorded form rfl).steps_recordedType fun type holds => ?_
    split
    · exact .bind (Pairing.steps_report _) fun _ _ => .pure (holds_some (holds_prim _))
    · exact .pure (holds_some holds)

variable (answers : AnswerAlike pairing first second)

include answers

theorem inStep_bindingType (name : Option Ident) {form : Option TypeForm} {value : Option Expr}
    (recorded : ∀ written ∈ form, Inscribed pairing written)
    (owned : ∀ node ∈ value.toList.flatMap Expr.sites, outlook.owns node) :
    pairing.InStep (bindingType first name form value) (bindingType second name form value)
      outlook.Holds := by
  refine .bind (steps_declaredType_recorded name recorded) fun declared hold => ?_
  have inStep := respelled_valueType .plain answers name hold value owned
    fun expr _ => expr.spares_none
  rwa [Expr.map_respell_none] at inStep

/-- The type of a global is found in step. -/
theorem inStep_given (global : Global)
    (recorded : ∀ written ∈ global.form, Inscribed pairing written)
    (owned : ∀ node ∈ global.value.toList.flatMap Expr.sites, outlook.owns node) :
    pairing.InStep (global.given first) (global.given second) outlook.Holds := by
  cases global with
  | const decl =>
    have binds := inStep_bindingType answers decl.name recorded owned
    unfold Global.given
    simp only
    split
    · exact binds
    · refine .bind (Pairing.steps_report _) fun _ _ => ?_
      split
      · rename_i form isForm
        exact (recorded form isForm).steps_recordedType
      · exact .pure (holds_prim _)
  | static decl =>
    have binds := inStep_bindingType answers decl.name recorded owned
    unfold Global.given
    simp only
    split
    · exact .bind (Pairing.steps_report _) fun _ _ => .pure (holds_prim _)
    · exact binds

/-- The values of an item are typed in step. -/
theorem inStep_typeValues (item : Item)
    (recorded : ∀ global ∈ global? item, ∀ written ∈ global.form, Inscribed pairing written)
    (own : ∀ node ∈ item.ownNode, outlook.inside node)
    (steady : global? item = none → ∀ node ∈ item.ownNode, outlook.steady (.node node))
    (owned : ∀ node ∈ item.valueSites, outlook.owns node) :
    pairing.InStep (typeValues first item) (typeValues second item) outlook.Holds := by
  unfold typeValues
  cases declares : global? item with
  | some global =>
    refine inStep_given answers global (recorded global declares) fun node isSite => owned node ?_
    cases item <;> cases declares <;> exact isSite
  | none =>
    have values : pairing.InStep (checkValues first item) (checkValues second item)
        fun _ => True := by
      cases item with
      | enum decl =>
        refine .bind (steps_enumValueType (own _ List.mem_cons_self)
          (steady declares _ List.mem_cons_self)) fun base holds => ?_
        have inStep := respelled_checkVariants .plain answers holds decl.variants owned
          fun expr _ => expr.spares_none
        have same : VariantDecl.respell (fun _ => none) = id := funext VariantDecl.respell_none
        rwa [same, List.map_id] at inStep
      | _ => exact .pure trivial
    exact .bind values fun _ _ => .pure (holds_prim _)

end Values

namespace Plan

variable {plan : Plan} {item other : Item} {global : Global} {symbol : Symbol}
  {pairing : Pairing (plan.outlook item)} {first : Demand}

/-- The written type of a global is not inside a value. -/
theorem form_not_valueSite (isItem : item ∈ plan.items) (declares : global? item = some global)
    {form : TypeForm} (isForm : global.form = some form) (isOther : other ∈ plan.items) :
    form.node ∉ other.valueSites := by
  have inForms : form.node ∈ item.forms.flatMap TypeForm.nodes := by
    refine List.mem_flatMap.mpr ⟨form, ?_, form.node_mem_nodes⟩
    cases item <;> cases declares <;> exact Option.mem_toList.mpr isForm
  intro isSite
  have inItem : form.node ∈ item.inner := List.mem_append_right _ inForms
  obtain rfl := Item.eq_of_mem_nodes plan.spread.distinct isItem isOther inItem
    (other.valueSites_subset_inner isSite)
  have inner := Item.nodup_sites_of_mem plan.distinct isItem
  rw [Item.sites, List.nodup_append] at inner
  exact inner.2.2 _ (List.mem_append_right _ isSite) _ inForms rfl

/-- The written type of a global stands for what is known of the global. -/
theorem recorded_form (isItem : item ∈ plan.items)
    (kept : ∀ one other, pairing.alike one other → ∀ node,
      (∀ item ∈ plan.items, node ∉ item.valueSites) →
      one.entry node = plan.base.entry node ∧ other.entry node = plan.base.entry node) :
    ∀ global ∈ global? item, ∀ written ∈ global.form, Inscribed pairing written := by
  intro global declares form isForm
  have isGlobal : global ∈ globals plan.items := List.mem_filterMap.mpr ⟨item, isItem, declares⟩
  obtain ⟨type, found, known⟩ := plan.signed global isGlobal form isForm
  have isDeclared : plan.declared global.node := by
    rw [← node_of_global declares]
    exact declared_node isItem (by rw [declares]; rfl)
  refine ⟨type, ((plan.enclosed item isItem).known (.node global.node) isDeclared).type type known,
    fun one other alike => ?_⟩
  obtain ⟨inOne, inOther⟩ := kept one other alike form.node fun other isOther =>
    form_not_valueSite isItem declares isForm isOther
  have formOne := congrArg Entry.form inOne
  have formOther := congrArg Entry.form inOther
  exact ⟨formOne.trans found, formOther.trans found⟩

/-- Demands answer alike where they do for the globals that are needed. -/
theorem answerAlike_of_needed (isItem : item ∈ plan.items)
    (fixed : ∀ one other, pairing.alike one other → ∀ symbol, (plan.outlook item).Proper symbol →
      (plan.outlook item).steady symbol.id → one.knownOf symbol.id = plan.base.knownOf symbol.id)
    (silent : ∀ symbol, (plan.outlook item).steady symbol.id →
      (plan.base.knownOf symbol.id).type = none → first symbol = idle symbol)
    (needed : ∀ other, Needs plan.items plan.base item other → ∀ symbol,
      symbol.id = .node other.span.node →
      pairing.InStep (symbolType first symbol) (symbolType idle symbol) (plan.outlook item).Holds ∧
        ∀ one last, pairing.alike one last →
          (one.knownOf symbol.id).variadic = (last.knownOf symbol.id).variadic) :
    AnswerAlike pairing first idle where
  type symbol proper asked := by
    obtain steady | ⟨other, isOther, untyped, same⟩ := steady_or_unsigned proper
    · refine .read fun one other alike => ?_
      rw [← (pairing.agree alike).known symbol.id steady]
      cases known : (one.knownOf symbol.id).type with
      | some type =>
        exact Pairing.InStep.pure (((pairing.enclosed alike).known _ proper.met).type _ known) one
          other alike
      | none =>
        rw [fixed one other alike symbol proper steady] at known
        simp only [silent symbol steady known]
        exact Pairing.InStep.pure (holds_prim _) one other alike
    · exact (needed other (needs_of_asked isItem proper asked isOther untyped same) symbol same).1
  variadic symbol proper asked one last alike := by
    obtain steady | ⟨other, isOther, untyped, same⟩ := steady_or_unsigned proper
    · rw [(pairing.agree alike).known symbol.id steady]
    · exact (needed other (needs_of_asked isItem proper asked isOther untyped same) symbol same).2
        one last alike

/-- The values of an item are typed in step where demands answer alike. -/
theorem inStep_values (isItem : item ∈ plan.items) (answers : AnswerAlike pairing first idle)
    (kept : ∀ one other, pairing.alike one other → ∀ node,
      (∀ item ∈ plan.items, node ∉ item.valueSites) →
      one.entry node = plan.base.entry node ∧ other.entry node = plan.base.entry node) :
    pairing.InStep (typeValues first item) (typeValues idle item) (plan.outlook item).Holds := by
  refine inStep_typeValues answers item (recorded_form isItem kept)
    (fun node isOwn => .inl (plan.spread.own item isItem node isOwn)) (fun none node isOwn => ?_)
    fun _ => id
  rintro _ ⟨⟩
  refine .inl ⟨plan.spread.own item isItem node isOwn, ?_⟩
  rintro ⟨other, isOther, untyped, rfl⟩
  have isGlobal := isSome_of_untyped untyped
  have inItem : other.span.node ∈ item.sites := by
    rw [Item.sites_eq]
    exact List.mem_append_left _ isOwn
  obtain rfl := Item.eq_of_mem_nodes plan.distinct isItem isOther inItem (node_mem_sites isGlobal)
  rw [none] at isGlobal
  cases isGlobal

/-! ### Where the types of globals are known -/

/-- The session in which the types of some globals are known, the last first. -/
def informed (plan : Plan) : List Item -> Session
  | [] => plan.base
  | item :: earlier => Act.apply (plan.informed earlier)
      (.settles (.node item.span.node) ((typeValues idle item).run (plan.informed earlier)).1)

theorem informed_cons (plan : Plan) (item : Item) (earlier : List Item) :
    plan.informed (item :: earlier) = Act.apply (plan.informed earlier)
      (.settles (.node item.span.node) ((typeValues idle item).run (plan.informed earlier)).1) := rfl

/-- Nothing but types of globals is known in addition. -/
theorem informed_same (plan : Plan) (list : List Item) :
    plan.informed list = { plan.base with known := (plan.informed list).known } := by
  induction list with
  | nil => rfl
  | cons item earlier inductionHypothesis =>
    rw [informed_cons, inductionHypothesis]
    rfl

theorem entry_informed (plan : Plan) (list : List Item) (node : NodeId) :
    (plan.informed list).entry node = plan.base.entry node := by
  rw [informed_same]
  rfl

theorem knownOf_informed_cons (plan : Plan) (item : Item) (earlier : List Item) (id : SymbolId) :
    (plan.informed (item :: earlier)).knownOf id =
      if SymbolId.node item.span.node = id then
        { (plan.informed earlier).knownOf id with
          type := some ((typeValues idle item).run (plan.informed earlier)).1 }
      else (plan.informed earlier).knownOf id := by
  rw [informed_cons, Act.knownOf_apply]
  simp only [Act.subject?, Act.learn, Option.some.injEq]

/-- Nothing else is known in addition. -/
theorem knownOf_informed_of_ne {list : List Item} {id : SymbolId}
    (apart : ∀ item ∈ list, id ≠ .node item.span.node) :
    (plan.informed list).knownOf id = plan.base.knownOf id := by
  induction list with
  | nil => rfl
  | cons item earlier inductionHypothesis =>
    obtain ⟨first, later⟩ := List.forall_mem_cons.mp apart
    rw [knownOf_informed_cons, if_neg (Ne.symm first), inductionHypothesis later]

/-- What is known of an untyped global stays known. -/
theorem knownOf_informed_append (later list : List Item) (once : (later ++ list).Nodup)
    (inSchedule : later ++ list ⊆ plan.schedule) (isItem : item ∈ list) :
    (plan.informed (later ++ list)).knownOf (.node item.span.node) =
      (plan.informed list).knownOf (.node item.span.node) := by
  induction later with
  | nil => rfl
  | cons last rest inductionHypothesis =>
    obtain ⟨isLast, inRest⟩ := List.cons_subset.mp inSchedule
    obtain ⟨isNew, once⟩ := List.nodup_cons.mp once
    have isLater : item ∈ rest ++ list := List.mem_append_right _ isItem
    rw [List.cons_append, knownOf_informed_cons, if_neg, inductionHypothesis once inRest]
    rw [SymbolId.node.injEq]
    intro same
    obtain ⟨lastIn, lastUntyped⟩ := (plan.covers last).mp isLast
    obtain ⟨itemIn, itemUntyped⟩ := (plan.covers item).mp (inRest isLater)
    obtain rfl := eq_of_node lastIn itemIn (isSome_of_untyped lastUntyped)
      (isSome_of_untyped itemUntyped) same
    exact isNew isLater

/-- What is steady is not an untyped global, so the same is known of it. -/
theorem knownOf_informed_of_steady {list : List Item} (inSchedule : list ⊆ plan.schedule)
    (isItem : item ∈ plan.items) {id : SymbolId} (steady : (plan.outlook item).steady id) :
    (plan.informed list).knownOf id = plan.base.knownOf id := by
  refine knownOf_informed_of_ne fun other isOther same => ?_
  obtain ⟨otherIn, untyped⟩ := (plan.covers other).mp (inSchedule isOther)
  exact not_steady isItem otherIn untyped (same ▸ steady)

/-- Nothing is visible in addition. -/
structure Apprised (plan : Plan) (list : List Item) : Prop where
  inSchedule : list ⊆ plan.schedule
  within : ∀ item ∈ plan.items, ∀ id, (plan.outlook item).Meets id →
    ((plan.informed list).knownOf id).Within plan.declared
  typed : ∀ item ∈ list, ((plan.informed list).knownOf (.node item.span.node)).type.isSome

theorem Apprised.enclosed {list : List Item} (apprised : plan.Apprised list)
    (isItem : item ∈ plan.items) : Enclosed (plan.outlook item) (plan.informed list) := by
  have enclosed := plan.enclosed item isItem
  refine ⟨?_, ?_, apprised.within item isItem, fun node inside => ?_⟩
  · rw [informed_same]
    exact enclosed.globals
  · rw [informed_same]
    exact enclosed.locals
  · rw [entry_informed]
    exact enclosed.entries node inside

/-- Where the types of all that an item needs are known, its values are typed in step
whatever else is known. -/
theorem inStep_informed {list others : List Item} (isItem : item ∈ plan.items)
    (apprised : plan.Apprised list) (inOthers : others ⊆ plan.schedule)
    (needed : ∀ other, Needs plan.items plan.base item other → other ∈ list ∧
      (plan.informed list).knownOf (.node other.span.node) =
        (plan.informed others).knownOf (.node other.span.node)) :
    (Pairing.tracked (plan.outlook item) (plan.informed list) (plan.informed others)).InStepAt
      (plan.informed list) (plan.informed others) (typeValues idle item) (typeValues idle item)
      (plan.outlook item).Holds := by
  have agree : Agree (plan.outlook item) (plan.informed list) (plan.informed others) := by
    refine ⟨?_, ?_, fun _ _ _ => ?_, ?_, ?_, fun id steady => ?_, fun node _ => ?_⟩
    · rw [informed_same, informed_same plan others]
      rfl
    · rw [informed_same, informed_same plan others]
    · rw [informed_same, informed_same plan others]
    · rw [informed_same, informed_same plan others]
    · rw [informed_same, informed_same plan others]
    · rw [knownOf_informed_of_steady apprised.inSchedule isItem steady,
        knownOf_informed_of_steady inOthers isItem steady]
    · rw [entry_informed, entry_informed]
  refine inStep_values isItem (answerAlike_of_needed isItem ?_ (fun _ _ _ => rfl) ?_) ?_ _ _
    (.start agree (apprised.enclosed isItem))
  · intro one other tracked symbol proper steady
    have same : one.knownOf symbol.id = (plan.informed list).knownOf symbol.id := by
      refine tracked.kept.known _ fun node isSite same => ?_
      have met := proper.met
      rw [same] at met
      exact not_valueSite met isItem isSite
    rw [same, knownOf_informed_of_steady apprised.inSchedule isItem steady]
  · intro other needs symbol same
    obtain ⟨isListed, knownAlike⟩ := needed other needs
    have apart : ∀ node ∈ item.valueSites, SymbolId.node other.span.node ≠ .node node := by
      rintro _ isSite ⟨⟩
      exact not_valueSite (declared_node needs.member (isSome_of_untyped needs.untyped)) isItem isSite
    obtain ⟨type, isTyped⟩ := Option.isSome_iff_exists.mp (apprised.typed other isListed)
    have known (one last : Session) (tracked : Tracked (plan.outlook item) (plan.informed list)
        (plan.informed others) one last) : one.knownOf symbol.id = last.knownOf symbol.id ∧
        (one.knownOf symbol.id).type = some type := by
      rw [same, tracked.kept.known _ apart, tracked.keptOther.known _ apart]
      exact ⟨knownAlike, isTyped⟩
    refine ⟨.read fun one last tracked => ?_, fun one last tracked => ?_⟩
    · obtain ⟨sameKnown, isKnown⟩ := known one last tracked
      rw [← sameKnown, isKnown]
      refine Pairing.InStep.pure ?_ one last tracked
      have visible : plan.declared other.span.node :=
        declared_node needs.member (isSome_of_untyped needs.untyped)
      exact (apprised.within item isItem (.node other.span.node) visible).type type isTyped
    · rw [(known one last tracked).1]
  · intro one last tracked node apart
    rw [tracked.kept.entries node (apart item isItem),
      tracked.keptOther.entries node (apart item isItem), entry_informed, entry_informed]
    exact ⟨rfl, rfl⟩

/-- Along the schedule the types that become known mention declarations only. -/
theorem apprised_of_scheduled {list : List Item}
    (scheduled : Scheduled (Needs plan.items plan.base) list) (once : list.Nodup)
    (inSchedule : list ⊆ plan.schedule) : plan.Apprised list := by
  induction list with
  | nil => exact ⟨inSchedule, fun item isItem => (plan.enclosed item isItem).known,
      List.forall_mem_nil _⟩
  | cons item earlier inductionHypothesis =>
    obtain ⟨isScheduled, inRest⟩ := List.cons_subset.mp inSchedule
    have isItem := ((plan.covers item).mp isScheduled).1
    have apprised := inductionHypothesis scheduled.2 once.of_cons inRest
    have holds := (inStep_informed isItem apprised inRest fun other needs =>
      ⟨scheduled.1 other needs, rfl⟩).2.1
    refine ⟨inSchedule, fun other isOther id met => ?_, fun other isOther => ?_⟩
    · rw [knownOf_informed_cons]
      have within := apprised.within other isOther id met
      split
      · refine ⟨?_, within.params⟩
        rintro _ ⟨⟩
        exact holds
      · exact within
    · rw [knownOf_informed_cons]
      split
      · rfl
      · rename_i apart
        obtain rfl | isEarlier := List.mem_cons.mp isOther
        · exact absurd rfl apart
        · exact apprised.typed other isEarlier

/-- The session in which the types of all untyped globals are known. -/
abbrev full (plan : Plan) : Session := plan.informed plan.schedule

theorem apprised (plan : Plan) : plan.Apprised plan.schedule :=
  apprised_of_scheduled plan.scheduled plan.once (List.Subset.refl _)

/-- What typing the values of an item comes to where the types of all untyped globals are
known. -/
def outcome (plan : Plan) (item : Item) : Ty × Session := (typeValues idle item).run plan.full

/-- What is found in the values of an item there. -/
def finds (plan : Plan) (item : Item) : List Finding :=
  (plan.outcome item).2.findings.drop plan.full.findings.length

/-- What is known of an untyped global is the type that its value has there. -/
theorem knownOf_full (isScheduled : item ∈ plan.schedule) :
    plan.full.knownOf (.node item.span.node) =
      { plan.base.knownOf (.node item.span.node) with type := some (plan.outcome item).1 } := by
  obtain ⟨later, earlier, split⟩ := List.append_of_mem isScheduled
  have scheduled := plan.scheduled
  have once := plan.once
  have inSchedule : later ++ item :: earlier ⊆ plan.schedule := by
    rw [← split]
    exact List.Subset.refl _
  rw [split] at scheduled once
  have isItem := ((plan.covers item).mp isScheduled).1
  have rest := (List.append_subset.mp inSchedule).2
  obtain ⟨-, inRest⟩ := List.cons_subset.mp rest
  have behind := scheduled.of_append
  have onceBehind := (List.nodup_append.mp once).2.1
  have apprised := apprised_of_scheduled behind.2 onceBehind.of_cons inRest
  have same := (inStep_informed isItem apprised (List.Subset.refl _) fun other needs => by
    have isEarlier := behind.1 other needs
    refine ⟨isEarlier, ?_⟩
    have shape : later ++ item :: earlier = later ++ [item] ++ earlier := by simp
    rw [split, shape]
    exact (knownOf_informed_append _ _ (shape ▸ once) (shape ▸ inSchedule) isEarlier).symm).1
  have known : plan.full.knownOf (.node item.span.node) =
      (plan.informed (item :: earlier)).knownOf (.node item.span.node) := by
    unfold full
    rw [split]
    exact knownOf_informed_append _ _ once inSchedule List.mem_cons_self
  have unknown : (plan.informed earlier).knownOf (.node item.span.node) =
      plan.base.knownOf (.node item.span.node) := by
    refine knownOf_informed_of_ne fun other isOther sameNode => ?_
    obtain ⟨otherIn, untyped⟩ := (plan.covers other).mp (inRest isOther)
    obtain rfl := eq_of_node isItem otherIn
      (isSome_of_untyped ((plan.covers item).mp isScheduled).2) (isSome_of_untyped untyped)
      (SymbolId.node.inj sameNode)
    exact (List.nodup_cons.mp onceBehind).1 isOther
  rw [known, knownOf_informed_cons, if_pos rfl, unknown, same]
  rfl

end Plan
end Typing
end UnitCheck
