import UnitCheck.Proofs.Typing.Planned

/-!
# Globals may be typed in any order

Globals are typed when they are declared or first read, whichever comes first. In whatever
order that happens, what is found in the values of an item and what is left behind there is
what comes of typing them where the types of all untyped globals are known.
-/

namespace UnitCheck

/-- The sessions keep the same for some nodes and know the same of their symbols. -/
def Session.SameAt (nodes : List NodeId) (one other : Session) : Prop :=
  ∀ node ∈ nodes, one.entry node = other.entry node ∧
    one.knownOf (.node node) = other.knownOf (.node node)

theorem Session.SameAt.trans {nodes : List NodeId} {one other last : Session}
    (first : SameAt nodes one other) (second : SameAt nodes other last) : SameAt nodes one last :=
  fun node isNode => ⟨(first node isNode).1.trans (second node isNode).1,
    (first node isNode).2.trans (second node isNode).2⟩

theorem Session.findings_apply (act : Act) (session : Session) :
    (act.apply session).findings = session.findings ++ act.finding?.toList := by
  have replayed := session.findings_replay [act]
  rw [replay_cons, replay_nil] at replayed
  rw [replayed]
  cases act <;> rfl

/-- A walk goes on where the first part of it has led. -/
theorem Check.run_bind_of {α β : Type} {first : Check α} {rest : α -> Check β}
    {session later : Session} {value : α} (ran : first.run session = (value, later)) :
    (first >>= rest).run session = (rest value).run later := by
  rw [StateT.run_bind, ran]
  rfl

namespace Typing

/-! ### Written types of globals -/

section Written

variable {global : Global} {form : TypeForm} {type : Ty} {session : Session}

theorem run_recordedType (found : session.facts.forms.find? form.node = some type) :
    (Check.recordedType form).run session = (type, session) := by
  unfold Check.recordedType
  rw [StateT.run_bind, StateT.run_get, pure_bind, found]
  rfl

/-- A recorded type of a binding is its type. -/
theorem run_declaredType (name : Option Ident)
    (found : session.facts.forms.find? form.node = some type) (solid : type.isVoid = false) :
    (declaredType name (some form)).run session = (some type, session) := by
  unfold declaredType
  rw [Check.run_bind_of (run_recordedType found), if_neg (by rw [solid]; exact Bool.false_ne_true)]
  rfl

/-- Void is no type of a binding, which is reported. -/
theorem run_declaredType_void (name : Option Ident)
    (found : session.facts.forms.find? form.node = some type) (void : type.isVoid = true) :
    (declaredType name (some form)).run session =
      (some .unknown,
        Act.apply session (.report (.voidBinding form.span (name.map (·.name))))) := by
  unfold declaredType
  rw [Check.run_bind_of (run_recordedType found), if_pos void]
  rfl

theorem run_bindingType (demand : Demand) (name : Option Ident) (value : Option Expr)
    (found : session.facts.forms.find? form.node = some type) (solid : type.isVoid = false) :
    ((bindingType demand name (some form) value).run session).1 = type := by
  unfold bindingType
  rw [Check.run_bind_of (run_declaredType name found solid)]
  cases value <;> rfl

/-- The written type of a global is its type unless it is void. -/
theorem run_given (demand : Demand) (isForm : global.form = some form)
    (found : session.facts.forms.find? form.node = some type) (solid : type.isVoid = false) :
    ((global.given demand).run session).1 = type := by
  cases global with
  | const decl =>
    have written : decl.type = some form := isForm
    simp only [Global.given, written]
    cases decl.value with
    | some value => exact run_bindingType demand _ _ found solid
    | none =>
      have later : (Act.apply session (.report (.missingInitializer decl.span .constant))).facts.forms.find?
          form.node = some type := found
      exact congrArg Prod.fst (run_recordedType later)
  | static decl =>
    have written : decl.type = some form := isForm
    simp only [Global.given, written, Option.isNone_some, Bool.false_and, Bool.false_eq_true, if_false]
    exact run_bindingType demand _ _ found solid

theorem fatal_bindingType (name : Option Ident) (value : Option Expr)
    (found : session.facts.forms.find? form.node = some type) (void : type.isVoid = true) :
    ∃ finding, finding.isFatal = true ∧ session.findings ++ [finding] <+:
      ((bindingType idle name (some form) value).run session).2.findings := by
  refine ⟨.voidBinding form.span (name.map (·.name)), rfl, ?_⟩
  unfold bindingType
  rw [Check.run_bind_of (run_declaredType_void name found void)]
  have covered : ∀ expr ∈ value, Covers Regime.free expr.parts := fun _ _ _ _ form _ =>
    .inr ⟨fun _ => trivial, fun _ _ _ => trivial, fun _ _ _ => trivial⟩
  have obeys : Regime.free.Obeys (valueType idle name (some .unknown) value) :=
    obeys_valueType mayType_free (fun _ => .pure _) name _ value covered
  have grows (start : Session) : start.findings <+: _ := (obeys start trivial).findings
  exact grows (Act.apply session (.report (.voidBinding form.span (name.map (·.name)))))

/-- A void type of a global does not go unnoticed. -/
theorem fatal_given (isForm : global.form = some form)
    (found : session.facts.forms.find? form.node = some type) (void : type.isVoid = true) :
    ∃ finding, finding.isFatal = true ∧ session.findings ++ [finding] <+:
      ((global.given idle).run session).2.findings := by
  cases global with
  | const decl =>
    have written : decl.type = some form := isForm
    simp only [Global.given, written]
    cases decl.value with
    | some value => exact fatal_bindingType _ _ found void
    | none =>
      have later : (Act.apply session (.report (.missingInitializer decl.span .constant))).facts.forms.find?
          form.node = some type := found
      have reported : (Check.report (.missingInitializer decl.span .constant)).run session =
        ((), Act.apply session (.report (.missingInitializer decl.span .constant))) := rfl
      refine ⟨.missingInitializer decl.span .constant, rfl, ?_⟩
      rw [Check.run_bind_of reported, run_recordedType later]
      exact List.prefix_refl _
  | static decl =>
    have written : decl.type = some form := isForm
    simp only [Global.given, written, Option.isNone_some, Bool.false_and, Bool.false_eq_true, if_false]
    exact fatal_bindingType _ _ found void

end Written

namespace Plan

variable {plan : Plan} {item other : Item} {done new later allowed : List Item}
  {before middle after session : Session} {started : List NodeId} {found : List Finding}
  {answer : Global -> Check Ty} {global : Global}

/-! ### Typing is under way -/

/-- The values of some items have been typed, and all that is known of untyped globals is known
of these. -/
structure Standing (plan : Plan) (done : List Item) (session : Session) : Prop where
  file : session.file = plan.base.file
  options : session.options = plan.base.options
  table : session.table = plan.base.table
  entries : ∀ node, (∀ item ∈ plan.items, node ∉ item.valueSites) →
    session.entry node = plan.base.entry node
  known : ∀ id, (∀ item ∈ plan.items, ∀ node ∈ item.valueSites, id ≠ .node node) →
    (∀ item ∈ done, Declare.IsUntyped item → id ≠ .node item.span.node) →
    session.knownOf id = plan.base.knownOf id
  settled : ∀ item ∈ done, Declare.IsUntyped item →
    session.knownOf (.node item.span.node) = plan.full.knownOf (.node item.span.node)
  inItems : done ⊆ plan.items
  checked : ∀ node, node ∈ session.checked ↔
    ∃ item ∈ done, (global? item).isSome ∧ item.span.node = node

/-- Nothing has been done in the values of the item. -/
def Untouched (plan : Plan) (item : Item) (session : Session) : Prop :=
  session.SameAt item.valueSites plan.base

/-- On the way from one session to another the values of new items have been typed, and
something has been found at started nodes. -/
structure Advance (plan : Plan) (done : List Item) (started : List NodeId) (before : Session)
    (new : List Item) (found : List Finding) (after : Session) : Prop where
  standing : plan.Standing (new ++ done) after
  once : new.Nodup
  fresh : ∀ item ∈ new, item ∉ done
  own : ∀ item ∈ new, after.SameAt item.valueSites (plan.outcome item).2
  others : ∀ item ∈ plan.items, item ∉ new → ∀ node ∈ item.valueSites, node ∉ started →
    after.entry node = before.entry node ∧
      after.knownOf (.node node) = before.knownOf (.node node)
  findings : after.findings.Perm (before.findings ++ (new.flatMap plan.finds ++ found))

theorem Standing.advance (standing : plan.Standing done session) (started : List NodeId) :
    plan.Advance done started session [] [] session where
  standing := standing
  once := List.nodup_nil
  fresh := List.forall_mem_nil _
  own := List.forall_mem_nil _
  others _ _ _ _ _ _ := ⟨rfl, rfl⟩
  findings := by simp

theorem Advance.trans (first : plan.Advance done started before new found middle)
    (second : plan.Advance (new ++ done) [] middle later [] after) :
    plan.Advance done started before (later ++ new) found after where
  standing := by
    rw [List.append_assoc]
    exact second.standing
  once := List.nodup_append.mpr ⟨second.once, first.once, by
    rintro item isLater _ isNew rfl
    exact second.fresh item isLater (List.mem_append_left _ isNew)⟩
  fresh item isItem isDone := by
    obtain isLater | isNew := List.mem_append.mp isItem
    · exact second.fresh item isLater (List.mem_append_right _ isDone)
    · exact first.fresh item isNew isDone
  own item isItem := by
    by_cases isLater : item ∈ later
    · exact second.own item isLater
    · have isNew := (List.mem_append.mp isItem).resolve_left isLater
      have inItems := first.standing.inItems (List.mem_append_left _ isNew)
      refine Session.SameAt.trans (fun node isSite => ?_) (first.own item isNew)
      exact second.others item inItems isLater node isSite List.not_mem_nil
  others item isItem isOld node isSite apart := by
    obtain ⟨notLater, notNew⟩ := not_or.mp fun isIn => isOld (List.mem_append.mpr isIn)
    obtain ⟨entry, known⟩ := second.others item isItem notLater node isSite List.not_mem_nil
    obtain ⟨entryFirst, knownFirst⟩ := first.others item isItem notNew node isSite apart
    exact ⟨entry.trans entryFirst, known.trans knownFirst⟩
  findings := by
    refine second.findings.trans ?_
    rw [List.append_nil, List.flatMap_append, List.append_assoc]
    refine (first.findings.append_right _).trans ?_
    rw [List.append_assoc]
    refine List.Perm.append_left _ (List.perm_append_comm.trans ?_)
    rfl

/-! ### What may be done in the values of one item -/

/-- What is done at the nodes of values changes nothing else. -/
theorem Standing.act (standing : plan.Standing done session) (isItem : item ∈ plan.items)
    {act : Act} (permitted : (plan.outlook item).Permits act) :
    plan.Standing done (act.apply session) where
  file := by
    cases act <;> exact standing.file
  options := by
    cases act <;> exact standing.options
  table := by
    cases act <;> first | exact standing.table | exact permitted.elim | exact permitted.1.elim
  entries node apart := by
    rw [Act.entry_apply, if_neg fun site => apart item isItem (Outlook.owns_of_site permitted site)]
    exact standing.entries node apart
  known id apart unsettled := by
    rw [Act.knownOf_apply, if_neg]
    · exact standing.known id apart unsettled
    · intro subject
      obtain ⟨node, owned, same⟩ := Outlook.owns_of_subject permitted subject
      exact apart item isItem node owned same
  settled other isDone untyped := by
    rw [Act.knownOf_apply, if_neg]
    · exact standing.settled other isDone untyped
    · intro subject
      obtain ⟨_, owned, ⟨⟩⟩ := Outlook.owns_of_subject permitted subject
      exact not_valueSite (declared_node (standing.inItems isDone) (isSome_of_untyped untyped)) isItem
        owned
  inItems := standing.inItems
  checked node := by
    have same : (act.apply session).checked = session.checked := by
      cases act <;> first | rfl | exact permitted.elim
    rw [same]
    exact standing.checked node

theorem Advance.act (advance : plan.Advance done item.valueSites before new found after)
    (isItem : item ∈ plan.items) (isOld : item ∉ new) {act : Act}
    (permitted : (plan.outlook item).Permits act) :
    plan.Advance done item.valueSites before new (found ++ act.finding?.toList)
      (act.apply after) := by
  have kept (node : NodeId) (apart : node ∉ item.valueSites) :
      (act.apply after).entry node = after.entry node ∧
        (act.apply after).knownOf (.node node) = after.knownOf (.node node) := by
    have changed := Kept.act permitted after
    exact ⟨changed.entries node apart, changed.knownOf_node apart⟩
  refine ⟨advance.standing.act isItem permitted, advance.once, advance.fresh,
    fun other isNew => Session.SameAt.trans (fun node isSite => kept node fun isOpen => ?_)
      (advance.own other isNew),
    fun other isOther isLater node isSite apart => ?_, ?_⟩
  · have isOther := advance.standing.inItems (List.mem_append_left _ isNew)
    obtain rfl := eq_of_valueSite isItem isOther isOpen isSite
    exact isOld isNew
  · rw [(kept node apart).1, (kept node apart).2]
    exact advance.others other isOther isLater node isSite apart
  · rw [Session.findings_apply, ← List.append_assoc, ← List.append_assoc]
    refine (advance.findings.append_right _).trans ?_
    rw [← List.append_assoc]

section Standing

variable (standing : plan.Standing done session) (isItem : item ∈ plan.items)

include standing isItem

/-- What is steady is known as it was when typing started. -/
theorem Standing.knownOf_of_steady (untouched : plan.Untouched item session) {id : SymbolId}
    (steady : (plan.outlook item).steady id) : session.knownOf id = plan.base.knownOf id := by
  by_cases inside : ∃ node ∈ item.valueSites, id = .node node
  · obtain ⟨node, isSite, rfl⟩ := inside
    exact (untouched node isSite).2
  · refine standing.known id (fun other isOther node isSite same => ?_)
      fun other isDone untyped same => ?_
    · subst same
      obtain ⟨isDeclared, -⟩ := (steady node rfl).resolve_right fun isOwn => inside ⟨node, isOwn, rfl⟩
      exact not_valueSite isDeclared isOther isSite
    · exact not_steady isItem (standing.inItems isDone) untyped (same ▸ steady)

/-- Nothing is known of a global that is not done but what was known at first. -/
theorem Standing.knownOf_of_open (isGlobal : (global? item).isSome) (isOpen : item ∉ done) :
    session.knownOf (.node item.span.node) = plan.base.knownOf (.node item.span.node) := by
  refine standing.known _ (fun other isOther node isSite => ?_) fun other isDone untyped same => ?_
  · rintro ⟨⟩
    exact not_valueSite (declared_node isItem isGlobal) isOther isSite
  · obtain rfl := eq_of_node isItem (standing.inItems isDone) isGlobal (isSome_of_untyped untyped)
      (SymbolId.node.inj same)
    exact isOpen isDone

/-- Declarations are known to mention declarations only. -/
theorem Standing.within (id : SymbolId) (met : (plan.outlook item).Meets id) :
    (session.knownOf id).Within plan.declared := by
  by_cases isSettled : ∃ other ∈ done, Declare.IsUntyped other ∧ id = .node other.span.node
  · obtain ⟨other, isDone, untyped, rfl⟩ := isSettled
    rw [standing.settled other isDone untyped]
    exact plan.apprised.within item isItem _ met
  · rw [standing.known id]
    · exact (plan.enclosed item isItem).known id met
    · rintro other isOther node isSite rfl
      exact not_valueSite met isOther isSite
    · exact fun other isDone untyped same => isSettled ⟨other, isDone, untyped, same⟩

/-- Where the values of an item have not been touched, they look as when typing started. -/
theorem Standing.enclosed (untouched : plan.Untouched item session) :
    Enclosed (plan.outlook item) session := by
  have enclosed := plan.enclosed item isItem
  refine ⟨standing.table ▸ enclosed.globals, standing.table ▸ enclosed.locals,
    standing.within isItem, fun node inside => ?_⟩
  have same : session.entry node = plan.base.entry node := by
    obtain isDeclared | isSite := inside
    · exact standing.entries node fun other isOther => not_valueSite isDeclared isOther
    · exact (untouched node isSite).1
  rw [same]
  exact enclosed.entries node inside

/-- There they look as where the types of all untyped globals are known. -/
theorem Standing.agree (untouched : plan.Untouched item session) :
    Agree (plan.outlook item) session plan.full := by
  have same : plan.full = { plan.base with known := plan.full.known } :=
    plan.informed_same plan.schedule
  refine ⟨?_, ?_, fun space name _ => ?_, ?_, ?_, fun id steady => ?_, fun node inside => ?_⟩
  · rw [standing.file, same]
    rfl
  · rw [standing.options, same]
  · rw [standing.table, same]
  · rw [standing.table, same]
  · rw [standing.table, same]
  · rw [standing.knownOf_of_steady isItem untouched steady,
      knownOf_informed_of_steady plan.apprised.inSchedule isItem steady]
  · rw [entry_informed]
    obtain isDeclared | isSite := inside
    · exact standing.entries node fun other isOther => not_valueSite isDeclared isOther
    · exact (untouched node isSite).1

end Standing

/-- Elsewhere typing may go on meanwhile. -/
theorem Advance.untouched (advance : plan.Advance done started before new found after)
    (isOther : other ∈ plan.items) (isOld : other ∉ new)
    (apart : ∀ node ∈ other.valueSites, node ∉ started)
    (untouched : plan.Untouched other before) : plan.Untouched other after := by
  refine Session.SameAt.trans (fun node isSite => ?_) untouched
  exact advance.others other isOther isOld node isSite (apart node isSite)

section Advance

variable (advance : plan.Advance done [] before new found after)
  (standing : plan.Standing done before) (isItem : item ∈ plan.items) (isOld : item ∉ new)

include advance standing isItem isOld

/-- What an item looks at stays where others are typed. -/
theorem Advance.entry {node : NodeId} (inside : (plan.outlook item).inside node) :
    after.entry node = before.entry node := by
  obtain isDeclared | isSite := inside
  · have apart (other : Item) (isOther : other ∈ plan.items) : node ∉ other.valueSites :=
      not_valueSite isDeclared isOther
    rw [advance.standing.entries node apart, standing.entries node apart]
  · exact (advance.others item isItem isOld node isSite List.not_mem_nil).1

theorem Advance.knownOf {id : SymbolId} (steady : (plan.outlook item).steady id) :
    after.knownOf id = before.knownOf id := by
  by_cases inside : ∃ node ∈ item.valueSites, id = .node node
  · obtain ⟨node, isSite, rfl⟩ := inside
    exact (advance.others item isItem isOld node isSite List.not_mem_nil).2
  · have apart : ∀ other ∈ plan.items, ∀ node ∈ other.valueSites, id ≠ .node node := by
      rintro other isOther node isSite rfl
      obtain ⟨isDeclared, -⟩ := (steady node rfl).resolve_right fun isOwn => inside ⟨node, isOwn, rfl⟩
      exact not_valueSite isDeclared isOther isSite
    have unsettled {done : List Item} (inItems : done ⊆ plan.items) :
        ∀ other ∈ done, Declare.IsUntyped other → id ≠ .node other.span.node :=
      fun other isDone untyped same => not_steady isItem (inItems isDone) untyped (same ▸ steady)
    rw [advance.standing.known id apart (unsettled advance.standing.inItems),
      standing.known id apart (unsettled standing.inItems)]

theorem Advance.agree {last : Session} (agree : Agree (plan.outlook item) before last) :
    Agree (plan.outlook item) after last where
  file := by rw [← agree.file, advance.standing.file, standing.file]
  options := by rw [← agree.options, advance.standing.options, standing.options]
  globals space name called := by
    rw [← agree.globals space name called, advance.standing.table, standing.table]
  locals := by rw [← agree.locals, advance.standing.table, standing.table]
  frames := by rw [← agree.frames, advance.standing.table, standing.table]
  known id steady := by
    rw [← agree.known id steady, advance.knownOf standing isItem isOld steady]
  entries node inside := by
    rw [← agree.entries node inside, advance.entry standing isItem isOld inside]

theorem Advance.enclosed (enclosed : Enclosed (plan.outlook item) before) :
    Enclosed (plan.outlook item) after where
  globals := by
    rw [advance.standing.table, ← standing.table]
    exact enclosed.globals
  locals := by
    rw [advance.standing.table, ← standing.table]
    exact enclosed.locals
  known := advance.standing.within isItem
  entries node inside := by
    rw [advance.entry standing isItem isOld inside]
    exact enclosed.entries node inside

end Advance

/-! ### What the values of an item come to -/

/-- The values of an item are being typed, the first time while other globals are still open. -/
structure Beside (plan : Plan) (item : Item) (done allowed : List Item)
    (before one other : Session) : Prop where
  agree : Agree (plan.outlook item) one other
  enclosed : Enclosed (plan.outlook item) one
  kept : Kept (plan.outlook item).owns plan.full other
  advanced : ∃ new found, new ⊆ allowed ∧
    plan.Advance done item.valueSites before new found one ∧
    other.findings = plan.full.findings ++ found

/-- Sessions in which the values of an item are being typed. -/
def beside (isItem : item ∈ plan.items) (isApart : item ∉ allowed) (done : List Item)
    (before : Session) : Pairing (plan.outlook item) where
  alike := plan.Beside item done allowed before
  agree beside := beside.agree
  enclosed beside := beside.enclosed
  act beside permitted := by
    obtain ⟨agree, enclosed, kept, new, found, inAllowed, advance, findings⟩ := beside
    refine ⟨agree.act permitted, enclosed.act permitted, kept.trans (.act permitted _), new, _,
      inAllowed, advance.act isItem (fun isNew => isApart (inAllowed isNew)) permitted, ?_⟩
    rw [Session.findings_apply, findings, List.append_assoc]

/-- Where they have not been typed yet, untyped globals that are asked for get the types that
they have where all of these are known. -/
def Answers (plan : Plan) (allowed : List Item) (answer : Global -> Check Ty) : Prop :=
  ∀ other ∈ allowed, ∀ global ∈ global? other, ∀ done before, plan.Standing done before →
    (∀ another ∈ allowed, another ∉ done → plan.Untouched another before) → other ∉ done →
    ((answer global).run before).1 = (plan.outcome other).1 ∧
      ∃ new, new ⊆ allowed ∧ plan.Advance done [] before new [] ((answer global).run before).2

/-- What is known of an untyped global is what is known in the end, or what was known at first. -/
theorem Standing.knownOf_of_untyped (standing : plan.Standing done session)
    (isOther : other ∈ plan.items) (untyped : Declare.IsUntyped other) :
    (other ∈ done ∧
        session.knownOf (.node other.span.node) = plan.full.knownOf (.node other.span.node)) ∨
      (other ∉ done ∧
        session.knownOf (.node other.span.node) = plan.base.knownOf (.node other.span.node)) := by
  by_cases isDone : other ∈ done
  · exact .inl ⟨isDone, standing.settled other isDone untyped⟩
  · exact .inr ⟨isDone, standing.knownOf_of_open isOther (isSome_of_untyped untyped) isDone⟩

/-- A global that is needed is answered for. -/
theorem inStep_needed (isItem : item ∈ plan.items) (isApart : item ∉ allowed)
    (inSchedule : allowed ⊆ plan.schedule)
    (ahead : ∀ other ∈ allowed, other ∉ done → plan.Untouched other before)
    (answers : plan.Answers allowed answer) (isAllowed : other ∈ allowed) {symbol : Symbol}
    (same : symbol.id = .node other.span.node) :
    (beside isItem isApart done before).InStep (symbolType (plan.asking answer) symbol)
        (symbolType idle symbol) (plan.outlook item).Holds ∧
      ∀ one last, (beside isItem isApart done before).alike one last →
        (one.knownOf symbol.id).variadic = (last.knownOf symbol.id).variadic := by
  obtain ⟨isOther, untyped⟩ := (plan.covers other).mp (inSchedule isAllowed)
  have isDeclared : plan.declared other.span.node :=
    declared_node isOther (isSome_of_untyped untyped)
  have full (last : Session) (kept : Kept (plan.outlook item).owns plan.full last) :
      last.knownOf symbol.id = plan.full.knownOf (.node other.span.node) := by
    rw [same]
    exact kept.knownOf_node (not_valueSite isDeclared isItem)
  have holds : (plan.outlook item).Holds (plan.outcome other).1 := by
    have within := plan.apprised.within item isItem (.node other.span.node) isDeclared
    rw [knownOf_full (inSchedule isAllowed)] at within
    exact within.type _ rfl
  have known (new : List Item) (found : List Finding) (one : Session)
      (advance : plan.Advance done item.valueSites before new found one) :
      (other ∈ new ++ done ∧ one.knownOf symbol.id = plan.full.knownOf (.node other.span.node)) ∨
        (other ∉ new ++ done ∧
          one.knownOf symbol.id = plan.base.knownOf (.node other.span.node)) := by
    rw [same]
    exact advance.standing.knownOf_of_untyped isOther untyped
  refine ⟨.read fun one last beside => ?_, fun one last beside => ?_⟩
  · obtain ⟨agree, enclosed, kept, new, found, inAllowed, advance, findings⟩ := beside
    have lastKnown : (last.knownOf symbol.id).type = some (plan.outcome other).1 := by
      rw [full last kept, knownOf_full (inSchedule isAllowed)]
    simp only [lastKnown]
    obtain ⟨-, isKnown⟩ | ⟨isOpen, isKnown⟩ := known new found one advance
    · have oneKnown : (one.knownOf symbol.id).type = some (plan.outcome other).1 := by
        rw [isKnown, knownOf_full (inSchedule isAllowed)]
      simp only [oneKnown]
      exact Pairing.InStep.pure holds one last
        ⟨agree, enclosed, kept, new, found, inAllowed, advance, findings⟩
    · have oneKnown : (one.knownOf symbol.id).type = none := by
        rw [isKnown, plan.blank other isOther untyped]
      simp only [oneKnown]
      obtain ⟨global, declares, -⟩ := untyped
      have asked : plan.asking answer symbol = answer global := by
        unfold asking
        rw [find?_untyped isOther declares same]
      rw [asked]
      have isOld {another : Item} (isAnother : another ∈ allowed) : another ≠ item :=
        fun sameItem => isApart (sameItem ▸ isAnother)
      obtain ⟨value, later, inLater, advanced⟩ := answers other isAllowed global declares _ one
        advance.standing (fun another isAnother isNew => by
          obtain ⟨notNew, notDone⟩ := not_or.mp fun isIn => isNew (List.mem_append.mpr isIn)
          have inItems := ((plan.covers another).mp (inSchedule isAnother)).1
          exact advance.untouched inItems notNew
            (fun node isSite isOwn => isOld isAnother (eq_of_valueSite inItems isItem isSite isOwn))
            (ahead another isAnother notDone)) isOpen
      have notLater : item ∉ later := fun isLater => isApart (inLater isLater)
      exact ⟨value, value ▸ holds, advanced.agree advance.standing isItem notLater agree,
        advanced.enclosed advance.standing isItem notLater enclosed, kept, later ++ new, found,
        List.append_subset.mpr ⟨inLater, inAllowed⟩, advance.trans advanced, findings⟩
  · obtain ⟨-, -, kept, new, found, -, advance, -⟩ := beside
    rw [full last kept]
    obtain ⟨-, isKnown⟩ | ⟨-, isKnown⟩ := known new found one advance
    · rw [isKnown]
    · rw [isKnown, knownOf_full (inSchedule isAllowed)]

/-- Whatever has been typed already, typing the values of an item comes to the same. -/
theorem run_typeValues (standing : plan.Standing done before) (isItem : item ∈ plan.items)
    (isApart : item ∉ allowed) (inSchedule : allowed ⊆ plan.schedule)
    (untouched : plan.Untouched item before)
    (ahead : ∀ other ∈ allowed, other ∉ done → plan.Untouched other before)
    (needs : ∀ other, Needs plan.items plan.base item other → other ∈ allowed)
    (answers : plan.Answers allowed answer) :
    ((typeValues (plan.asking answer) item).run before).1 = (plan.outcome item).1 ∧
      ∃ new, new ⊆ allowed ∧
        plan.Advance done item.valueSites before new (plan.finds item)
          ((typeValues (plan.asking answer) item).run before).2 ∧
        ((typeValues (plan.asking answer) item).run before).2.SameAt item.valueSites
          (plan.outcome item).2 := by
  have start : (beside isItem isApart done before).alike before plan.full :=
    ⟨standing.agree isItem untouched, standing.enclosed isItem untouched, .refl, [], [],
      List.nil_subset _, standing.advance _, (List.append_nil _).symm⟩
  have fixed (one other : Session) (alike : (beside isItem isApart done before).alike one other)
      (symbol : Symbol) (proper : (plan.outlook item).Proper symbol)
      (steady : (plan.outlook item).steady symbol.id) :
      one.knownOf symbol.id = plan.base.knownOf symbol.id := by
    have last : other.knownOf symbol.id = plan.full.knownOf symbol.id := by
      refine alike.kept.known _ fun node isSite same => ?_
      have met := proper.met
      rw [same] at met
      exact not_valueSite met isItem isSite
    rw [alike.agree.known _ steady, last,
      knownOf_informed_of_steady plan.apprised.inSchedule isItem steady]
  have answersAlike : AnswerAlike (beside isItem isApart done before) (plan.asking answer) idle :=
    answerAlike_of_needed isItem fixed (fun _ steady => asking_of_steady isItem steady)
      fun other needed _ same =>
        inStep_needed isItem isApart inSchedule ahead answers (needs other needed) same
  have inStep := inStep_values isItem answersAlike fun one other alike node apart => by
    obtain ⟨-, -, kept, new, found, -, advance, -⟩ := alike
    refine ⟨advance.standing.entries node apart, ?_⟩
    rw [kept.entries node (apart item isItem), entry_informed]
  obtain ⟨value, -, agree, -, -, new, found, inAllowed, advance, findings⟩ :=
    inStep before plan.full start
  have isFound : found = plan.finds item := by
    unfold finds outcome
    rw [findings, List.drop_left]
  refine ⟨value, new, inAllowed, isFound ▸ advance, fun node isSite => ?_⟩
  exact ⟨agree.entries node (.inr isSite), agree.known _ fun _ same => .inr (by
    cases same
    exact isSite)⟩

/-! ### An item is finished -/

/-- An item whose values have been typed is done when that is noted. -/
theorem Advance.close (advance : plan.Advance done item.valueSites before new (plan.finds item) middle)
    (isItem : item ∈ plan.items) (isNew : item ∉ new ++ done)
    (own : middle.SameAt item.valueSites (plan.outcome item).2)
    (standing : plan.Standing (item :: (new ++ done)) after)
    (still : ∀ other ∈ plan.items, after.SameAt other.valueSites middle)
    (findings : after.findings = middle.findings) :
    plan.Advance done [] before (item :: new) [] after := by
  obtain ⟨notNew, notDone⟩ := not_or.mp fun isIn => isNew (List.mem_append.mpr isIn)
  refine ⟨standing, List.nodup_cons.mpr ⟨notNew, advance.once⟩,
    List.forall_mem_cons.mpr ⟨notDone, advance.fresh⟩,
    List.forall_mem_cons.mpr ⟨(still item isItem).trans own, fun other isOther => ?_⟩,
    fun other isOther isOld node isSite _ => ?_, ?_⟩
  · have inItems := advance.standing.inItems (List.mem_append_left _ isOther)
    exact (still other inItems).trans (advance.own other isOther)
  · obtain ⟨apart, notLater⟩ := not_or.mp fun isIn => isOld (List.mem_cons.mpr isIn)
    obtain ⟨entry, known⟩ := still other isOther node isSite
    have kept := advance.others other isOther notLater node isSite fun isOwn =>
      apart (eq_of_valueSite isOther isItem isSite isOwn)
    exact ⟨entry.trans kept.1, known.trans kept.2⟩
  · rw [findings, List.append_nil, List.flatMap_cons]
    exact advance.findings.trans (List.Perm.append_left _ List.perm_append_comm)

/-- An item that declares no global is done when its values have been typed. -/
theorem Advance.finish (advance : plan.Advance done item.valueSites before new (plan.finds item) after)
    (isItem : item ∈ plan.items) (isNew : item ∉ new ++ done) (none : global? item = none)
    (own : after.SameAt item.valueSites (plan.outcome item).2) :
    plan.Advance done [] before (item :: new) [] after := by
  have apart (untyped : Declare.IsUntyped item) : False := by
    have isGlobal := isSome_of_untyped untyped
    rw [none] at isGlobal
    cases isGlobal
  refine advance.close isItem isNew own ?_ (fun _ _ _ _ => ⟨rfl, rfl⟩) rfl
  have standing := advance.standing
  refine ⟨standing.file, standing.options, standing.table, standing.entries,
    fun id sites unsettled => standing.known id sites (List.forall_mem_cons.mp unsettled).2,
    List.forall_mem_cons.mpr ⟨fun untyped => (apart untyped).elim, standing.settled⟩,
    List.cons_subset.mpr ⟨isItem, standing.inItems⟩, fun node => ?_⟩
  rw [standing.checked node, List.exists_mem_cons_iff, none]
  simp

/-- A global is done when its type has been settled and that has been noted. -/
theorem Advance.settle (advance : plan.Advance done item.valueSites before new (plan.finds item) middle)
    (isItem : item ∈ plan.items) (isNew : item ∉ new ++ done) (isGlobal : (global? item).isSome)
    (own : middle.SameAt item.valueSites (plan.outcome item).2)
    (signed : ¬Declare.IsUntyped item →
      (plan.base.knownOf (.node item.span.node)).type = some (plan.outcome item).1) :
    plan.Advance done [] before (item :: new) []
      (Act.apply (Act.apply middle (.settles (.node item.span.node) (plan.outcome item).1))
        (.checked item.span.node)) := by
  have standing := advance.standing
  have isDeclared := declared_node isItem isGlobal
  have known (id : SymbolId) :
      (Act.apply (Act.apply middle (.settles (.node item.span.node) (plan.outcome item).1))
        (.checked item.span.node)).knownOf id =
      if SymbolId.node item.span.node = id then
        { middle.knownOf id with type := some (plan.outcome item).1 } else middle.knownOf id := by
    rw [Act.knownOf_apply, Act.knownOf_apply]
    simp only [Act.subject?, Act.learn, Option.some.injEq, reduceCtorEq, if_false]
  have apart (other : Item) (isOther : other ∈ plan.items) (untyped : Declare.IsUntyped other)
      (same : SymbolId.node item.span.node = .node other.span.node) : item = other :=
    eq_of_node isItem isOther isGlobal (isSome_of_untyped untyped) (SymbolId.node.inj same)
  have unsettled := standing.knownOf_of_open isItem isGlobal isNew
  refine advance.close isItem isNew own ?_ (fun other isOther node isSite => ⟨?_, ?_⟩) rfl
  · refine ⟨standing.file, standing.options, standing.table, fun node sites => ?_,
      fun id sites others => ?_, List.forall_mem_cons.mpr ⟨fun untyped => ?_,
      fun other isOther untyped => ?_⟩, List.cons_subset.mpr ⟨isItem, standing.inItems⟩,
      fun node => ?_⟩
    · rw [Act.entry_apply, Act.entry_apply]
      exact standing.entries node sites
    · obtain ⟨notOwn, notOthers⟩ := List.forall_mem_cons.mp others
      rw [known]
      split
      · rename_i same
        rw [← same, unsettled]
        have type := signed fun untyped => notOwn untyped same.symm
        generalize plan.base.knownOf (.node item.span.node) = symbol at type
        cases symbol
        cases type
        rfl
      · exact standing.known id sites notOthers
    · rw [known, if_pos rfl, unsettled,
        knownOf_full ((plan.covers item).mpr ⟨isItem, untyped⟩)]
    · rw [known, if_neg, standing.settled other isOther untyped]
      intro same
      obtain rfl := apart other (standing.inItems isOther) untyped same
      exact isNew isOther
    · change node ∈ item.span.node :: middle.checked ↔ _
      rw [List.mem_cons, standing.checked node, List.exists_mem_cons_iff]
      exact or_congr_left ⟨fun same => ⟨isGlobal, same.symm⟩, fun same => same.2.symm⟩
  · rw [Act.entry_apply, Act.entry_apply]
    rfl
  · rw [known, if_neg]
    rintro ⟨⟩
    exact not_valueSite isDeclared isOther isSite

/-! ### A global is asked for -/

/-- Settles the type of a global and notes that it has been gone through. -/
def concluded (node : NodeId) (type : Ty) : Check Ty := do
  let type <- Typing.settled node type
  markChecked node
  return type

/-- What is settled of a global is settled of the symbol it declares. -/
theorem Standing.run_concluded (standing : plan.Standing done session) (isItem : item ∈ plan.items)
    (declares : global? item = some global) (type : Ty) :
    (concluded global.node type).run session =
      (type, Act.apply (Act.apply session (.settles (.node item.span.node) type))
        (.checked item.span.node)) := by
  obtain ⟨symbol, introduced, own⟩ :=
    plan.introduced global (List.mem_filterMap.mpr ⟨item, isItem, declares⟩)
  rw [← node_of_global declares] at introduced own ⊢
  have entry := standing.entries item.span.node fun other isOther =>
    not_valueSite (declared_node isItem (by rw [declares]; rfl)) isOther
  have found : session.facts.decls.find? item.span.node = some symbol :=
    (congrArg Entry.decl entry).trans introduced
  have settles : (setDeclType item.span.node type).run session =
      ((), Act.apply session (.settles (.node item.span.node) type)) := by
    unfold setDeclType
    rw [StateT.run_bind, StateT.run_get, pure_bind, found]
    dsimp only
    rw [own]
    rfl
  unfold concluded Typing.settled
  simp only [StateT.run_bind, settles]
  rfl

theorem Standing.contains_iff (standing : plan.Standing done session) (isItem : item ∈ plan.items)
    (declares : global? item = some global) :
    session.checked.contains global.node = true ↔ item ∈ done := by
  have isGlobal : (global? item).isSome := by
    rw [declares]
    rfl
  rw [List.contains_iff_mem, ← node_of_global declares, standing.checked]
  refine ⟨?_, fun isDone => ⟨item, isDone, isGlobal, rfl⟩⟩
  rintro ⟨other, isDone, isOther, same⟩
  obtain rfl := eq_of_node isItem (standing.inItems isDone) isGlobal isOther same.symm
  exact isDone

/-- Nothing fatal is found in the values of the item. -/
def Calm (plan : Plan) (item : Item) : Prop :=
  ∀ finding ∈ plan.finds item, finding.isFatal = false

/-- Where nothing fatal is found a global has the type that is written down for it. -/
theorem signed_of_calm (isItem : item ∈ plan.items) (declares : global? item = some global)
    (typed : ¬Declare.IsUntyped item) (calm : plan.Calm item) :
    (plan.base.knownOf (.node item.span.node)).type = some (plan.outcome item).1 := by
  obtain ⟨form, isForm⟩ : ∃ form, global.form = some form :=
    Option.ne_none_iff_exists'.mp fun none => typed ⟨global, declares, none⟩
  obtain ⟨type, found, known⟩ :=
    plan.signed global (List.mem_filterMap.mpr ⟨item, isItem, declares⟩) form isForm
  have written : plan.full.facts.forms.find? form.node = some type :=
    (congrArg Entry.form (entry_informed plan plan.schedule form.node)).trans found
  have given : typeValues idle item = global.given idle := by
    unfold typeValues
    rw [declares]
  rw [node_of_global declares, known]
  unfold outcome
  rw [given]
  cases isVoid : type.isVoid with
  | false => rw [run_given idle isForm written isVoid]
  | true =>
    obtain ⟨finding, isFatal, later, grows⟩ := fatal_given isForm written isVoid
    have isFound : finding ∈ plan.finds item := by
      unfold finds outcome
      rw [given, ← grows, List.append_assoc, List.drop_left]
      exact List.mem_cons_self
    rw [calm finding isFound] at isFatal
    cases isFatal

/-- A global that has not been gone through gets the type that its value has where the types
of all untyped globals are known. -/
theorem run_checkGlobal {fuel : Nat} {path : List NodeId} (standing : plan.Standing done before)
    (isItem : item ∈ plan.items) (declares : global? item = some global)
    (isNew : item ∉ done) (isApart : item ∉ allowed) (off : global.node ∉ path)
    (inSchedule : allowed ⊆ plan.schedule) (untouched : plan.Untouched item before)
    (ahead : ∀ other ∈ allowed, other ∉ done → plan.Untouched other before)
    (needs : ∀ other, Needs plan.items plan.base item other → other ∈ allowed)
    (answers : plan.Answers allowed (checkGlobal (globals plan.items) fuel (global.node :: path)))
    (calm : ¬Declare.IsUntyped item → plan.Calm item ∨
      ((checkGlobal (globals plan.items) (fuel + 1) path global).run before).2.Quiet) :
    ((checkGlobal (globals plan.items) (fuel + 1) path global).run before).1 =
        (plan.outcome item).1 ∧
      ∃ new, new ⊆ allowed ∧ plan.Advance done [] before (item :: new) []
        ((checkGlobal (globals plan.items) (fuel + 1) path global).run before).2 := by
  have unchecked : before.checked.contains global.node ≠ true :=
    fun isChecked => isNew ((standing.contains_iff isItem declares).mp isChecked)
  have isOff : path.contains global.node ≠ true := by simpa using off
  have shape : (checkGlobal (globals plan.items) (fuel + 1) path global).run before =
      (typeValues (plan.asking (checkGlobal (globals plan.items) fuel (global.node :: path))) item
        >>= concluded global.node).run before := by
    unfold checkGlobal typeValues
    rw [StateT.run_bind, StateT.run_get, pure_bind, if_neg unchecked, if_neg isOff, declares]
    dsimp only
    rw [Global.check_eq, bind_assoc]
    rfl
  obtain ⟨value, new, inAllowed, advance, own⟩ :=
    run_typeValues standing isItem isApart inSchedule untouched ahead needs answers
  have isOld : item ∉ new ++ done := fun isIn =>
    (List.mem_append.mp isIn).elim (fun isLater => isApart (inAllowed isLater)) isNew
  have isGlobal : (global? item).isSome := by
    rw [declares]
    rfl
  have runs (first : Check Ty) : (first >>= concluded global.node).run before =
      (concluded global.node (first.run before).1).run (first.run before).2 := rfl
  rw [shape, runs, value, advance.standing.run_concluded isItem declares] at calm ⊢
  dsimp only at calm ⊢
  refine ⟨rfl, new, inAllowed, advance.settle isItem isOld isGlobal own fun typed => ?_⟩
  refine signed_of_calm isItem declares typed ((calm typed).elim id fun quiet finding isFound => ?_)
  refine quiet finding (advance.findings.mem_iff.mpr ?_)
  exact List.mem_append_right _ (List.mem_append_right _ isFound)

/-- Along the schedule every global that is asked for is answered for. -/
theorem answers_checkGlobal {list : List Item} (scheduled : Scheduled (Needs plan.items plan.base) list)
    (once : list.Nodup) (inSchedule : list ⊆ plan.schedule) {fuel : Nat} {path : List NodeId}
    (enough : list.length ≤ fuel) (off : ∀ item ∈ list, item.span.node ∉ path) :
    plan.Answers list (checkGlobal (globals plan.items) fuel path) := by
  induction list generalizing fuel path with
  | nil => exact List.forall_mem_nil _
  | cons item earlier inductionHypothesis =>
    obtain ⟨needs, before⟩ := scheduled
    obtain ⟨isApart, onceBefore⟩ := List.nodup_cons.mp once
    obtain ⟨isScheduled, inBefore⟩ := List.cons_subset.mp inSchedule
    obtain ⟨offFirst, offBefore⟩ := List.forall_mem_cons.mp off
    obtain ⟨isItem, untyped⟩ := (plan.covers item).mp isScheduled
    rw [List.length_cons] at enough
    intro other isOther global declares done session standing ahead isNew
    obtain ⟨untouched, aheadBefore⟩ := List.forall_mem_cons.mp ahead
    obtain rfl | isEarlier := List.mem_cons.mp isOther
    · obtain ⟨fuel, rfl⟩ : ∃ less, fuel = less + 1 := ⟨fuel - 1, by omega⟩
      have apart : ∀ item ∈ earlier, item.span.node ∉ global.node :: path := by
        intro item isEarlier onPath
        obtain same | onPath := List.mem_cons.mp onPath
        · obtain ⟨inItems, untypedToo⟩ := (plan.covers item).mp (inBefore isEarlier)
          rw [← node_of_global declares] at same
          obtain rfl := eq_of_node inItems isItem (isSome_of_untyped untypedToo)
            (isSome_of_untyped untyped) same
          exact isApart isEarlier
        · exact offBefore item isEarlier onPath
      have answers := inductionHypothesis before onceBefore inBefore (Nat.le_of_succ_le_succ enough)
        apart
      obtain ⟨value, new, inEarlier, advance⟩ := run_checkGlobal standing isItem declares isNew
        isApart (node_of_global declares ▸ offFirst) inBefore (untouched isNew) aheadBefore needs
        answers fun typed => (typed untyped).elim
      exact ⟨value, _, List.cons_subset_cons _ inEarlier, advance⟩
    · obtain ⟨value, new, inEarlier, advance⟩ := inductionHypothesis before onceBefore inBefore
        (Nat.le_of_succ_le enough) offBefore other isEarlier global declares done session standing
        aheadBefore isNew
      exact ⟨value, new, List.subset_cons_of_subset _ inEarlier, advance⟩

/-! ### The first round -/

/-- Items that are not done have not been touched. -/
def Ready (plan : Plan) (done : List Item) (session : Session) : Prop :=
  ∀ item ∈ plan.items, item ∉ done → plan.Untouched item session

theorem Advance.ready (advance : plan.Advance done [] before new found after)
    (ready : plan.Ready done before) : plan.Ready (new ++ done) after := by
  intro item isItem isOpen
  obtain ⟨notNew, notDone⟩ := not_or.mp fun isIn => isOpen (List.mem_append.mpr isIn)
  exact advance.untouched isItem notNew (fun _ _ => List.not_mem_nil) (ready item isItem notDone)

/-- Nothing has been typed where typing starts. -/
theorem standing_base (plan : Plan) : plan.Standing [] plan.base where
  file := rfl
  options := rfl
  table := rfl
  entries _ _ := rfl
  known _ _ _ := rfl
  settled := List.forall_mem_nil _
  inItems := List.nil_subset _
  checked node := by
    rw [plan.unchecked]
    simp

theorem ready_base (plan : Plan) : plan.Ready [] plan.base := fun _ _ _ _ _ => ⟨rfl, rfl⟩

/-- There are no more untyped globals than globals. -/
theorem length_schedule (plan : Plan) : plan.schedule.length ≤ (globals plan.items).length := by
  have inItems : plan.schedule ⊆ plan.items.filter fun item => (global? item).isSome :=
    fun item isScheduled => by
      obtain ⟨isItem, untyped⟩ := (plan.covers item).mp isScheduled
      exact List.mem_filter.mpr ⟨isItem, isSome_of_untyped untyped⟩
  rw [globals, List.length_filterMap_eq_countP, List.countP_eq_length_filter]
  exact (List.subperm_of_subset plan.once inItems).length_le

/-- The untyped globals are answered for. -/
theorem answers_schedule {fuel : Nat} {path : List NodeId}
    (enough : (globals plan.items).length ≤ fuel)
    (off : ∀ item ∈ plan.schedule, item.span.node ∉ path) :
    plan.Answers plan.schedule (checkGlobal (globals plan.items) fuel path) :=
  answers_checkGlobal plan.scheduled plan.once (List.Subset.refl _)
    (Nat.le_trans plan.length_schedule enough) off

theorem mem_schedule (needed : Needs plan.items plan.base item other) :
    other ∈ plan.schedule :=
  (plan.covers other).mpr ⟨needed.member, needed.untyped⟩

/-- An item without nodes has no values. -/
theorem checkGlobalItem_of_sites (all : List Global) (none : item.sites = []) :
    checkGlobalItem all item = pure () := by
  cases item <;> first | rfl | cases none

/-- The untyped globals are to be typed yet, or have been. -/
theorem Ready.ahead (ready : plan.Ready done before) :
    ∀ other ∈ plan.schedule, other ∉ done → plan.Untouched other before :=
  fun other isScheduled => ready other ((plan.covers other).mp isScheduled).1

/-- A visit to a global types its value unless that has been done. -/
theorem advance_global (standing : plan.Standing done before) (ready : plan.Ready done before)
    (isItem : item ∈ plan.items) {global : Global} (declares : global? item = some global)
    (calm : plan.Calm item ∨ ((checkGlobal (globals plan.items)
      ((globals plan.items).length + 1) [] global).run before).2.Quiet) :
    ∃ new, new ⊆ item :: plan.schedule ∧ item ∈ new ++ done ∧
      plan.Advance done [] before new []
        ((checkGlobal (globals plan.items) ((globals plan.items).length + 1) [] global).run
          before).2 := by
  by_cases isDone : item ∈ done
  · have isChecked := (standing.contains_iff isItem declares).mpr isDone
    refine ⟨[], List.nil_subset _, isDone, ?_⟩
    unfold checkGlobal
    rw [StateT.run_bind, StateT.run_get, pure_bind, if_pos isChecked, run_declType]
    exact standing.advance []
  by_cases untyped : Declare.IsUntyped item
  · have isScheduled := (plan.covers item).mpr ⟨isItem, untyped⟩
    obtain ⟨-, new, inSchedule, advance⟩ := answers_schedule (Nat.le_succ _)
      (fun _ _ => List.not_mem_nil) item isScheduled global declares done before standing
      ready.ahead isDone
    refine ⟨new, List.subset_cons_of_subset _ inSchedule, ?_, advance⟩
    have isChecked := mem_checked_checkGlobal (globals plan.items) (globals plan.items).length
      global before
    exact (advance.standing.contains_iff isItem declares).mp (List.contains_iff_mem.mpr isChecked)
  · have isApart : item ∉ plan.schedule := fun isScheduled =>
      untyped ((plan.covers item).mp isScheduled).2
    have answers : plan.Answers plan.schedule
        (checkGlobal (globals plan.items) (globals plan.items).length [global.node]) := by
      refine answers_schedule (Nat.le_refl _) fun other isScheduled onPath => ?_
      obtain ⟨isOther, untypedOther⟩ := (plan.covers other).mp isScheduled
      rw [← node_of_global declares] at onPath
      obtain rfl := eq_of_node isOther isItem (isSome_of_untyped untypedOther)
        (by rw [declares]; rfl) (List.mem_singleton.mp onPath)
      exact isApart isScheduled
    obtain ⟨-, new, inSchedule, advance⟩ := run_checkGlobal standing isItem declares isDone
      isApart List.not_mem_nil (List.Subset.refl _) (ready item isItem isDone) ready.ahead
      (fun _ needed => mem_schedule needed) answers fun _ => calm
    exact ⟨item :: new, List.cons_subset_cons _ inSchedule, List.mem_cons_self, advance⟩

/-- A visit to an item types its values unless that has been done. -/
theorem advance_checkGlobalItem (standing : plan.Standing done before)
    (ready : plan.Ready done before) (isItem : item ∈ plan.items)
    (again : item ∈ done → Declare.IsUntyped item ∨ item.sites = [])
    (calm : plan.Calm item ∨ (before.after (checkGlobalItem (globals plan.items) item)).Quiet) :
    ∃ new, new ⊆ item :: plan.schedule ∧ item ∈ new ++ done ∧ plan.Advance done [] before new []
      (before.after (checkGlobalItem (globals plan.items) item)) := by
  cases declares : global? item with
  | some global =>
    have visit : before.after (checkGlobalItem (globals plan.items) item) =
        ((checkGlobal (globals plan.items) ((globals plan.items).length + 1) [] global).run
          before).2 := by
      cases item <;> cases declares <;> rfl
    rw [visit] at calm ⊢
    exact advance_global standing ready isItem declares calm
  | none =>
    have typed : ¬Declare.IsUntyped item := fun untyped => by
      have isGlobal := isSome_of_untyped untyped
      rw [declares] at isGlobal
      cases isGlobal
    by_cases isDone : item ∈ done
    · rw [checkGlobalItem_of_sites _ ((again isDone).resolve_left typed)]
      exact ⟨[], List.nil_subset _, isDone, standing.advance []⟩
    · have isApart : item ∉ plan.schedule := fun isScheduled =>
        typed ((plan.covers item).mp isScheduled).2
      obtain ⟨-, new, inSchedule, advance, own⟩ := run_typeValues standing isItem isApart
        (List.Subset.refl _) (ready item isItem isDone) ready.ahead
        (fun _ needed => mem_schedule needed)
        (answers_schedule (Nat.le_succ _) fun _ _ => List.not_mem_nil)
      have visit : before.after (checkGlobalItem (globals plan.items) item) =
          ((typeValues (plan.asking (checkGlobal (globals plan.items)
            ((globals plan.items).length + 1) [])) item).run before).2 := by
        rw [checkGlobalItem_eq _ declares]
        unfold typeValues
        rw [declares]
        rfl
      have isOld : item ∉ new ++ done := fun isIn =>
        (List.mem_append.mp isIn).elim (fun isNew => isApart (inSchedule isNew)) isDone
      rw [visit]
      exact ⟨item :: new, List.cons_subset_cons _ inSchedule, List.mem_cons_self,
        advance.finish isItem isOld declares own⟩

/-- Visits to several items type their values, in whatever order. -/
theorem advance_visits {list : List Item} (inItems : list ⊆ plan.items)
    (distinct : (list.flatMap Item.sites).Nodup) (standing : plan.Standing done before)
    (ready : plan.Ready done before)
    (again : ∀ item ∈ list, item ∈ done → Declare.IsUntyped item ∨ item.sites = [])
    (calm : (∀ item ∈ list, plan.Calm item) ∨
      (before.after (list.forM (checkGlobalItem (globals plan.items)))).Quiet) :
    ∃ new, list ⊆ new ++ done ∧ plan.Advance done [] before new []
      (before.after (list.forM (checkGlobalItem (globals plan.items)))) := by
  induction list generalizing done before with
  | nil => exact ⟨[], List.nil_subset _, standing.advance []⟩
  | cons item rest inductionHypothesis =>
    obtain ⟨isItem, inRest⟩ := List.cons_subset.mp inItems
    obtain ⟨againFirst, againRest⟩ := List.forall_mem_cons.mp again
    rw [List.flatMap_cons, List.nodup_append] at distinct
    obtain ⟨-, distinctRest, apart⟩ := distinct
    have shape : before.after ((item :: rest).forM (checkGlobalItem (globals plan.items))) =
        (before.after (checkGlobalItem (globals plan.items) item)).after
          (rest.forM (checkGlobalItem (globals plan.items))) := rfl
    rw [shape] at calm ⊢
    have grows : Regime.free.Obeys (rest.forM (checkGlobalItem (globals plan.items))) :=
      .forM rest fun other isOther => obeys_checkGlobalItem mayType_free
        (fun another _ => mayCheckItem_free another) other (inRest isOther)
    obtain ⟨new, inNew, isDone, advance⟩ := advance_checkGlobalItem standing ready isItem againFirst
      (calm.imp (fun calm => calm item List.mem_cons_self)
        fun quiet => quiet.of_prefix (grows _ trivial).findings)
    have againLater : ∀ other ∈ rest, other ∈ new ++ done →
        Declare.IsUntyped other ∨ other.sites = [] := by
      intro other isOther isIn
      obtain isNew | isOld := List.mem_append.mp isIn
      · obtain rfl | isScheduled := List.mem_cons.mp (inNew isNew)
        · refine .inr (List.eq_nil_iff_forall_not_mem.mpr fun node isSite => ?_)
          exact apart node isSite node (List.mem_flatMap.mpr ⟨_, isOther, isSite⟩) rfl
        · exact .inl ((plan.covers other).mp isScheduled).2
      · exact againRest other isOther isOld
    obtain ⟨later, inLater, advanced⟩ := inductionHypothesis inRest distinctRest advance.standing
      (advance.ready ready) againLater
      (calm.imp_left fun calm other isOther => calm other (List.mem_cons_of_mem _ isOther))
    refine ⟨later ++ new, ?_, advance.trans advanced⟩
    rw [List.append_assoc]
    exact List.cons_subset.mpr ⟨List.mem_append_right _ isDone, inLater⟩

/-- Where all items are done, sessions match whatever the order. -/
theorem Advance.matches {others : List Item} {last : Session}
    (advance : plan.Advance [] [] plan.base new [] after)
    (advanceOther : plan.Advance [] [] plan.base others [] last)
    (all : plan.items ⊆ new) (allOther : plan.items ⊆ others) : after.Matches last := by
  have standing := advance.standing
  have standingOther := advanceOther.standing
  have isDone {item : Item} (isItem : item ∈ plan.items) {list : List Item}
      (all : plan.items ⊆ list) : item ∈ list ++ [] := List.mem_append_left _ (all isItem)
  have inItems : new ⊆ plan.items := fun item isNew => standing.inItems (List.mem_append_left _ isNew)
  have inItemsOther : others ⊆ plan.items :=
    fun item isNew => standingOther.inItems (List.mem_append_left _ isNew)
  have perm : new.Perm others := (List.perm_ext_iff_of_nodup advance.once advanceOther.once).mpr
    fun item => ⟨fun isNew => allOther (inItems isNew), fun isNew => all (inItemsOther isNew)⟩
  have values (node : NodeId) (isSite : ∃ item ∈ plan.items, node ∈ item.valueSites) :
      after.entry node = last.entry node ∧
        after.knownOf (.node node) = last.knownOf (.node node) := by
    obtain ⟨item, isItem, isSite⟩ := isSite
    obtain ⟨entry, known⟩ := advance.own item (all isItem) node isSite
    obtain ⟨entryOther, knownOther⟩ := advanceOther.own item (allOther isItem) node isSite
    exact ⟨entry.trans entryOther.symm, known.trans knownOther.symm⟩
  refine ⟨?_, ?_, ?_, fun space name => ?_, ?_, ?_, fun id => ?_, fun node => ?_, ?_⟩
  · rw [standing.file, standingOther.file]
  · rw [standing.options, standingOther.options]
  · rw [standing.table, standingOther.table]
  · rw [standing.table, standingOther.table]
  · rw [standing.table, standingOther.table]
  · rw [standing.table, standingOther.table]
  · by_cases isValue : ∃ item ∈ plan.items, ∃ node ∈ item.valueSites, id = .node node
    · obtain ⟨item, isItem, node, isSite, rfl⟩ := isValue
      exact (values node ⟨item, isItem, isSite⟩).2
    by_cases isUntyped : ∃ item ∈ plan.items, Declare.IsUntyped item ∧ id = .node item.span.node
    · obtain ⟨item, isItem, untyped, rfl⟩ := isUntyped
      rw [standing.settled item (isDone isItem all) untyped,
        standingOther.settled item (isDone isItem allOther) untyped]
    have apart : ∀ item ∈ plan.items, ∀ node ∈ item.valueSites, id ≠ .node node :=
      fun item isItem node isSite same => isValue ⟨item, isItem, node, isSite, same⟩
    have untyped {list : List Item} (inItems : list ⊆ plan.items) :
        ∀ item ∈ list, Declare.IsUntyped item → id ≠ .node item.span.node :=
      fun item isItem untyped same => isUntyped ⟨item, inItems isItem, untyped, same⟩
    rw [standing.known id apart (untyped standing.inItems),
      standingOther.known id apart (untyped standingOther.inItems)]
  · by_cases isValue : ∃ item ∈ plan.items, node ∈ item.valueSites
    · exact (values node isValue).1
    · have apart : ∀ item ∈ plan.items, node ∉ item.valueSites :=
        fun item isItem isSite => isValue ⟨item, isItem, isSite⟩
      rw [standing.entries node apart, standingOther.entries node apart]
  · refine advance.findings.trans (.trans ?_ advanceOther.findings.symm)
    exact List.Perm.append_left _ ((perm.flatMap_right plan.finds).append_right _)

/-- Where the first round is quiet it may go through the items in any order. -/
theorem matches_visits {others : List Item} (perm : others.Perm plan.items)
    (quiet : (plan.base.after (typeGlobals plan.items)).Quiet) :
    (plan.base.after (typeGlobals plan.items)).Matches
      (plan.base.after (others.forM (checkGlobalItem (globals plan.items)))) := by
  have unvisited (list : List Item) :
      ∀ item ∈ list, item ∈ [] → Declare.IsUntyped item ∨ item.sites = [] :=
    fun _ _ impossible => by cases impossible
  obtain ⟨new, all, advance⟩ := advance_visits (List.Subset.refl _) plan.distinct
    plan.standing_base plan.ready_base (unvisited _) (.inr quiet)
  rw [List.append_nil] at all
  have calm : ∀ item ∈ others, plan.Calm item := by
    intro item isOther finding isFound
    refine quiet finding (advance.findings.mem_iff.mpr ?_)
    refine List.mem_append_right _ (List.mem_append_left _ (List.mem_flatMap.mpr ⟨item, ?_, isFound⟩))
    exact all (perm.mem_iff.mp isOther)
  obtain ⟨later, allOther, advanceOther⟩ := advance_visits perm.subset
    ((perm.flatMap_right _).nodup_iff.mpr plan.distinct) plan.standing_base plan.ready_base
    (unvisited _) (.inl calm)
  rw [List.append_nil] at allOther
  exact advance.matches advanceOther all fun item isItem => allOther (perm.mem_iff.mpr isItem)

end Plan
end Typing
end UnitCheck
