import UnitCheck.Proofs.Session.Trace
import UnitCheck.Proofs.Type.Within

/-!
# Walks in step

What a walk does depends only on what it looks at. An `Outlook` says which nodes a walk
looks at, which declarations it may meet in symbols and types, which nodes it may write
to, about which symbols the same has to be known, which functions it may look up, and of
which symbols it may ask the type. Two sessions that `Agree` in an outlook, one of them
`Enclosed` in it, look the same to the walk. A `Pairing` relates
sessions that agree, and `InStep` says of two walks that from paired sessions they give
the same result, report the same, and end in paired sessions.
-/

namespace UnitCheck

/-! ### What a session keeps for a node -/

/-- Everything that a session keeps for one node, apart from what is known of a symbol. -/
structure Entry where
  expr : Option Ty
  form : Option Ty
  ref : Option Symbol
  decl : Option Symbol
  members : Option (List MemberStep)
  struct : StructBody
  enum : Option EnumBody

/-- What the session keeps for a node. -/
def Session.entry (session : Session) (node : NodeId) : Entry where
  expr := session.facts.exprs.find? node
  form := session.facts.forms.find? node
  ref := session.facts.refs.find? node
  decl := session.facts.decls.find? node
  members := session.facts.members.find? node
  struct := session.definitions.struct node
  enum := session.definitions.enum? node

namespace Act

/-- The node that the act writes to. -/
def site? : Act -> Option NodeId
  | .typed node _ | .written node _ | .refers node _ | .declares node _ | .hops node _
  | .struct node _ | .enum node _ => some node
  | .report _ | .say _ | .knows _ _ | .settles _ _ | .global _ | .locals _ _ | .checked _ => none

/-- The symbol that something is found out about. -/
def subject? : Act -> Option SymbolId
  | .knows id _ | .settles id _ => some id
  | _ => none

/-- What an act makes of the entry it writes to. -/
def note (entry : Entry) : Act -> Entry
  | .typed _ type => { entry with expr := some type }
  | .written _ type => { entry with form := some type }
  | .refers _ symbol => { entry with ref := some symbol }
  | .declares _ symbol => { entry with decl := some symbol }
  | .hops _ steps => { entry with members := some steps }
  | .struct _ body => { entry with struct := body }
  | .enum _ body => { entry with enum := some body }
  | _ => entry

/-- What an act makes of what is known of its subject. -/
def learn (known : SymbolType) : Act -> SymbolType
  | .knows _ found => found
  | .settles _ type => { known with type := some type }
  | _ => known

/-- An act changes the entry it writes to and no other. -/
theorem entry_apply (act : Act) (session : Session) (node : NodeId) :
    (act.apply session).entry node =
      if act.site? = some node then act.note (session.entry node) else session.entry node := by
  have looked {α : Type} (log : List (NodeId × α)) (site : NodeId) (value : α) :
      ((site, value) :: log).lookup node = if site = node then some value else log.lookup node := by
    rw [List.lookup_cons]
    by_cases same : site = node
    · simp [same]
    · rw [if_neg same, beq_false_of_ne (Ne.symm same)]
  cases act <;>
    simp only [Act.apply, site?, note, Session.entry, FactLog.find?, FactLog.record,
      Definitions.setStruct, Definitions.setEnum, Definitions.struct, Definitions.enum?, looked,
      reduceCtorEq, if_false, Option.some.injEq] <;>
    split <;> rfl

/-- An act changes what is known of its subject and of no other symbol. -/
theorem knownOf_apply (act : Act) (session : Session) (id : SymbolId) :
    (act.apply session).knownOf id =
      if act.subject? = some id then act.learn (session.knownOf id) else session.knownOf id := by
  have looked (log : List (SymbolId × SymbolType)) (subject : SymbolId) (value : SymbolType) :
      ((subject, value) :: log).lookup id = if subject = id then some value else log.lookup id := by
    rw [List.lookup_cons]
    by_cases same : subject = id
    · simp [same]
    · rw [if_neg same, beq_false_of_ne (Ne.symm same)]
  cases act with
  | knows subject known =>
    simp only [Act.apply, subject?, learn, Session.knownOf, looked, Option.some.injEq]
    split <;> rfl
  | settles subject type =>
    simp only [Act.apply, subject?, learn, Session.knownOf, looked, Option.some.injEq]
    split
    · rename_i same
      rw [same]
      rfl
    · rfl
  | _ => rfl

end Act

/-! ### Outlooks -/

/-- What a walk may look at, meet and write to. -/
structure Outlook where
  /-- The nodes that are looked at. -/
  inside : NodeId -> Prop
  /-- The declarations that symbols and types may stand for. -/
  visible : NodeId -> Prop
  /-- The nodes that may be written to. -/
  owns : NodeId -> Prop
  /-- The symbols of which the same has to be known. -/
  steady : SymbolId -> Prop
  /-- The names that functions may be looked up by. -/
  calls : String -> Prop := fun _ => True
  /-- The symbols whose types may be asked for. -/
  asks : Symbol -> Prop := fun _ => True
  /-- Whether blocks may be opened and closed. -/
  opens : Prop := True
  asks_of_isType : ∀ symbol, symbol.isType = true → asks symbol := by exact fun _ _ => trivial
  inside_of_visible : ∀ node, visible node → inside node
  inside_of_owns : ∀ node, owns node → inside node
  steady_of_owns : ∀ node, owns node → steady (.node node)

namespace Outlook

/-- The node that the item declares is looked at, and the same is known of its symbol. -/
def Anchors (outlook : Outlook) (item : Item) : Prop :=
  ∀ node ∈ item.ownNode, outlook.inside node ∧ outlook.steady (.node node)

/-- Builtin symbols may be met anywhere, others where their declarations are visible. -/
def Meets (outlook : Outlook) : SymbolId -> Prop
  | .builtin _ => True
  | .node node => outlook.visible node

/-- A symbol that may be met. The type that a name of a type stands for is needed. -/
structure Proper (outlook : Outlook) (symbol : Symbol) : Prop where
  met : outlook.Meets symbol.id
  steady : symbol.isType = true → outlook.steady symbol.id

/-- The type mentions visible declarations only. -/
def Holds (outlook : Outlook) (type : Ty) : Prop := type.Within outlook.visible

/-- What is kept for a node mentions visible declarations only. -/
structure Fits (outlook : Outlook) (node : NodeId) (entry : Entry) : Prop where
  expr : ∀ type ∈ entry.expr, outlook.Holds type
  form : ∀ type ∈ entry.form, outlook.Holds type
  ref : ∀ symbol ∈ entry.ref, outlook.Proper symbol ∧ outlook.asks symbol
  decl : ∀ symbol ∈ entry.decl, outlook.Proper symbol ∧ symbol.id = .node node
  struct : entry.struct.Within outlook.visible
  enum : ∀ body ∈ entry.enum, body.Within outlook.visible

/-- The acts that write to owned nodes and mention visible declarations only. -/
def Permits (outlook : Outlook) : Act -> Prop
  | .report _ | .say _ => True
  | .typed node type | .written node type => outlook.owns node ∧ outlook.Holds type
  | .refers node symbol => outlook.owns node ∧ outlook.Proper symbol ∧ outlook.asks symbol
  | .declares node symbol => outlook.owns node ∧ outlook.Proper symbol ∧ symbol.id = .node node
  | .hops node _ => outlook.owns node
  | .knows id known => (∃ node, outlook.owns node ∧ id = .node node) ∧ known.Within outlook.visible
  | .settles id type => (∃ node, outlook.owns node ∧ id = .node node) ∧ outlook.Holds type
  | .locals arena _ => outlook.opens ∧ ∀ symbol ∈ arena, outlook.Proper symbol
  | .struct id body => outlook.owns id ∧ body.Within outlook.visible
  | .enum id body => outlook.owns id ∧ body.Within outlook.visible
  | .global _ | .checked _ => False

variable {outlook : Outlook}

/-- A permitted act writes to owned nodes. -/
theorem owns_of_site {act : Act} (permitted : outlook.Permits act) {node : NodeId}
    (site : act.site? = some node) : outlook.owns node := by
  cases act <;> simp only [Act.site?, Option.some.injEq, reduceCtorEq] at site <;>
    subst site <;> first | exact permitted.1 | exact permitted

/-- A permitted act finds out about symbols of owned nodes. -/
theorem owns_of_subject {act : Act} (permitted : outlook.Permits act) {id : SymbolId}
    (subject : act.subject? = some id) : ∃ node, outlook.owns node ∧ id = .node node := by
  cases act <;> simp only [Act.subject?, Option.some.injEq, reduceCtorEq] at subject <;>
    subst subject <;> exact permitted.1

/-- What a permitted act notes mentions visible declarations only. -/
theorem Fits.note {act : Act} {node : NodeId} {entry : Entry} (fits : outlook.Fits node entry)
    (permitted : outlook.Permits act) (site : act.site? = some node) :
    outlook.Fits node (act.note entry) := by
  obtain ⟨expr, form, ref, decl, struct, enum⟩ := fits
  have only {α : Type} {property : α -> Prop} {value : α} (holds : property value) :
      ∀ found ∈ some value, property found := by
    rintro _ ⟨⟩
    exact holds
  cases act <;> simp only [Act.site?, Option.some.injEq, reduceCtorEq] at site <;>
    subst site
  case typed => exact ⟨only permitted.2, form, ref, decl, struct, enum⟩
  case written => exact ⟨expr, only permitted.2, ref, decl, struct, enum⟩
  case refers => exact ⟨expr, form, only permitted.2, decl, struct, enum⟩
  case declares => exact ⟨expr, form, ref, only permitted.2, struct, enum⟩
  case hops => exact ⟨expr, form, ref, decl, struct, enum⟩
  case struct => exact ⟨expr, form, ref, decl, permitted.2, enum⟩
  case enum => exact ⟨expr, form, ref, decl, struct, only permitted.2⟩

/-- What a permitted act finds out mentions visible declarations only. -/
theorem within_learn {act : Act} {known : SymbolType} (within : known.Within outlook.visible)
    (permitted : outlook.Permits act) : (act.learn known).Within outlook.visible := by
  cases act with
  | knows _ _ => exact permitted.2
  | settles _ type =>
    refine ⟨?_, within.params⟩
    rintro _ ⟨⟩
    exact permitted.2
  | _ => exact within

end Outlook

/-- The sessions look the same in the outlook. -/
structure Agree (outlook : Outlook) (one other : Session) : Prop where
  file : one.file = other.file
  options : one.options = other.options
  globals : ∀ space name, (space = .function → outlook.calls name) →
    one.table.global? space name = other.table.global? space name
  locals : one.table.locals = other.table.locals
  frames : one.table.frames = other.table.frames
  known : ∀ id, outlook.steady id → one.knownOf id = other.knownOf id
  entries : ∀ node, outlook.inside node → one.entry node = other.entry node

/-- Whatever can be met in the session may be met in the outlook. -/
structure Enclosed (outlook : Outlook) (session : Session) : Prop where
  globals : ∀ symbol ∈ session.table.globals, outlook.Proper symbol
  locals : ∀ symbol ∈ session.table.locals, outlook.Proper symbol
  known : ∀ id, outlook.Meets id → (session.knownOf id).Within outlook.visible
  entries : ∀ node, outlook.inside node → outlook.Fits node (session.entry node)

section Reading

variable {outlook : Outlook} {one other : Session}

/-- The same permitted act keeps sessions in agreement. -/
theorem Agree.act {act : Act} (agree : Agree outlook one other) (permitted : outlook.Permits act) :
    Agree outlook (act.apply one) (act.apply other) where
  file := by
    cases act <;> exact agree.file
  options := by
    cases act <;> exact agree.options
  globals := by
    cases act <;> first | exact agree.globals | exact permitted.elim
  locals := by
    cases act <;> first | exact agree.locals | rfl
  frames := by
    cases act <;> first | exact agree.frames | rfl
  known id steady := by
    rw [Act.knownOf_apply, Act.knownOf_apply, agree.known id steady]
  entries node inside := by
    rw [Act.entry_apply, Act.entry_apply, agree.entries node inside]

/-- A permitted act keeps a session enclosed. -/
theorem Enclosed.act {act : Act} (enclosed : Enclosed outlook one)
    (permitted : outlook.Permits act) : Enclosed outlook (act.apply one) where
  globals := by
    cases act <;> first | exact enclosed.globals | exact permitted.elim
  locals := by
    cases act <;> first | exact enclosed.locals | exact permitted.2
  known id met := by
    rw [Act.knownOf_apply]
    split
    · exact Outlook.within_learn (enclosed.known id met) permitted
    · exact enclosed.known id met
  entries node inside := by
    rw [Act.entry_apply]
    split
    · rename_i site
      exact (enclosed.entries node inside).note permitted site
    · exact enclosed.entries node inside

/-- A global may be met. -/
theorem Enclosed.global? (enclosed : Enclosed outlook one) {space : Namespace} {name : String}
    {symbol : Symbol} (found : one.table.global? space name = some symbol) :
    outlook.Proper symbol :=
  enclosed.globals symbol (List.mem_of_find?_eq_some found)

theorem Agree.local? (agree : Agree outlook one other) (name : String) :
    one.table.local? name = other.table.local? name := by
  unfold Table.local?
  rw [agree.locals]

theorem Agree.types (agree : Agree outlook one other) (name : String) :
    one.table.global? .type name = other.table.global? .type name :=
  agree.globals .type name fun impossible => by cases impossible

theorem Agree.resolveType? (agree : Agree outlook one other) (name : String) :
    one.table.resolveType? name = other.table.resolveType? name := by
  simp only [Table.resolveType?, agree.locals, agree.types]

theorem Agree.resolveFunction? (agree : Agree outlook one other) {name : String}
    (called : outlook.calls name) :
    one.table.resolveFunction? name = other.table.resolveFunction? name :=
  agree.globals .function name fun _ => called

theorem Agree.resolve? (agree : Agree outlook one other) {name : String}
    (called : outlook.calls name) : one.table.resolve? name = other.table.resolve? name := by
  have values := agree.globals .value name fun impossible => by cases impossible
  have functions := agree.globals .function name fun _ => called
  simp only [Table.resolve?, agree.local?, agree.types, values, functions]

/-- Where two look-ups are tried in turn, one of them succeeds. -/
theorem eq_some_of_orElse {α : Type} {first second : Option α} {value : α}
    (found : (first <|> second) = some value) : first = some value ∨ second = some value := by
  cases first with
  | none => exact .inr found
  | some _ => exact .inl found

/-- What a name stands for as a type names a type. -/
theorem isType_of_resolveType? {table : Table} {name : String} {symbol : Symbol}
    (found : table.resolveType? name = some symbol) : symbol.isType = true := by
  obtain isLocal | isGlobal := eq_some_of_orElse found
  · have holds := List.find?_some isLocal
    simp only [Bool.and_eq_true] at holds
    exact holds.2
  · have holds := List.find?_some isGlobal
    simp only [Bool.and_eq_true, decide_eq_true_eq] at holds
    unfold Symbol.isType
    cases kind : symbol.kind <;> simp_all [SymbolKind.space, SymbolKind.isType]

theorem Enclosed.resolve? (enclosed : Enclosed outlook one) {name : String} {symbol : Symbol}
    (found : one.table.resolve? name = some symbol) : outlook.Proper symbol := by
  obtain isLocal | found := eq_some_of_orElse found
  · exact enclosed.locals symbol (List.mem_of_find?_eq_some isLocal)
  · obtain isValue | found := eq_some_of_orElse found
    · exact enclosed.global? isValue
    · exact (eq_some_of_orElse found).elim enclosed.global? enclosed.global?

theorem Enclosed.resolveType? (enclosed : Enclosed outlook one) {name : String} {symbol : Symbol}
    (found : one.table.resolveType? name = some symbol) : outlook.Proper symbol :=
  (eq_some_of_orElse found).elim
    (fun isLocal => enclosed.locals symbol (List.mem_of_find?_eq_some isLocal)) enclosed.global?

end Reading

/-! ### Pairings -/

/-- A relation of sessions that agree in an outlook, which the same permitted act on both
sides keeps. -/
structure Pairing (outlook : Outlook) where
  alike : Session -> Session -> Prop
  agree : ∀ {one other}, alike one other → Agree outlook one other
  enclosed : ∀ {one other}, alike one other → Enclosed outlook one
  act : ∀ {one other act}, alike one other → outlook.Permits act →
    alike (Act.apply one act) (Act.apply other act)

namespace Pairing

variable {outlook : Outlook} {pairing : Pairing outlook} {α β : Type}

/-- From these sessions the walks give the same result, of which something holds, and end
in paired sessions. -/
def InStepAt (pairing : Pairing outlook) (one other : Session) (first second : Check α)
    (post : α -> Prop) : Prop :=
  (first.run one).1 = (second.run other).1 ∧ post (first.run one).1 ∧
    pairing.alike (first.run one).2 (second.run other).2

/-- The walks stay in step from any paired sessions. -/
def InStep (pairing : Pairing outlook) (first second : Check α) (post : α -> Prop) : Prop :=
  ∀ one other, pairing.alike one other → pairing.InStepAt one other first second post

/-- The walk stays in step with itself. -/
abbrev Steps (pairing : Pairing outlook) (walk : Check α) (post : α -> Prop) : Prop :=
  pairing.InStep walk walk post

namespace InStep

variable {first second : Check α} {next others : α -> Check β} {post weaker : α -> Prop}
  {goal : β -> Prop}

theorem pure {value : α} (holds : post value) :
    pairing.InStep (pure value) (pure value) post :=
  fun _ _ alike => ⟨rfl, holds, alike⟩

theorem bind (ahead : pairing.InStep first second post)
    (behind : ∀ value, post value → pairing.InStep (next value) (others value) goal) :
    pairing.InStep (first >>= next) (second >>= others) goal := by
  intro one other alike
  obtain ⟨same, holds, after⟩ := ahead one other alike
  have rest : pairing.InStepAt (first.run one).2 (second.run other).2
      (next (first.run one).1) (others (second.run other).1) goal := by
    rw [← same]
    exact behind _ holds _ _ after
  exact rest

theorem mono (inStep : pairing.InStep first second post)
    (weaken : ∀ value, post value → weaker value) : pairing.InStep first second weaker := by
  intro one other alike
  obtain ⟨same, holds, after⟩ := inStep one other alike
  exact ⟨same, weaken _ holds, after⟩

/-- Walks that look at the sessions first. -/
theorem read {rest more : Session -> Check α}
    (inStep : ∀ one other, pairing.alike one other →
      pairing.InStepAt one other (rest one) (more other) post) :
    pairing.InStep (get >>= rest) (get >>= more) post :=
  inStep

/-- Walks over the same list. -/
theorem forM {visit others : α -> Check Unit} (values : List α)
    (inStep : ∀ value ∈ values,
      pairing.InStep (visit value) (others value) fun _ => True) :
    pairing.InStep (values.forM visit) (values.forM others) fun _ => True := by
  induction values with
  | nil => exact .pure trivial
  | cons value rest inductionHypothesis =>
    refine .bind (inStep value List.mem_cons_self) fun _ _ => inductionHypothesis ?_
    intro later isLater
    exact inStep later (List.mem_cons_of_mem value isLater)

/-- Walks over the same list that hand a value on. -/
theorem foldlM {visit : β -> α -> Check β} (values : List α)
    (inStep : ∀ value ∈ values, ∀ state, pairing.Steps (visit state value) fun _ => True)
    (state : β) : pairing.Steps (values.foldlM visit state) fun _ => True := by
  induction values generalizing state with
  | nil => exact .pure trivial
  | cons value rest inductionHypothesis =>
    rw [List.foldlM_cons]
    refine .bind (inStep value List.mem_cons_self state) fun next _ => inductionHypothesis ?_ next
    intro later isLater
    exact inStep later (List.mem_cons_of_mem value isLater)

/-- Walks that turn every value of the same list into another. -/
theorem mapM {visit : α -> Check β} (values : List α)
    (inStep : ∀ value ∈ values, pairing.Steps (visit value) goal) :
    pairing.Steps (values.mapM visit) fun found => ∀ value ∈ found, goal value := by
  induction values with
  | nil => exact .pure (List.forall_mem_nil _)
  | cons value rest inductionHypothesis =>
    rw [List.mapM_cons]
    refine .bind (inStep value List.mem_cons_self) fun first holds =>
      .bind (inductionHypothesis ?_) fun others othersHold =>
        .pure (List.forall_mem_cons.mpr ⟨holds, othersHold⟩)
    intro later isLater
    exact inStep later (List.mem_cons_of_mem value isLater)

end InStep

/-! ### The elementary steps of passes -/

variable {node : NodeId} {type : Ty} {symbol : Symbol} {id : SymbolId}

/-- A walk that is one permitted act. -/
theorem steps_act {walk : Check Unit} (act : Act)
    (runs : ∀ session, (walk.run session).2 = act.apply session)
    (permitted : outlook.Permits act) : pairing.Steps walk fun _ => True := by
  intro one other alike
  refine ⟨rfl, trivial, ?_⟩
  rw [runs, runs]
  exact pairing.act alike permitted

theorem steps_report (finding : Finding) : pairing.Steps (Check.report finding) fun _ => True :=
  steps_act (.report finding) (fun _ => rfl) trivial

theorem steps_say (style : Style) (text : String) :
    pairing.Steps (Check.say style text) fun _ => True := by
  intro one other alike
  have outcome (session : Session) : ((Check.say style text).run session).2 =
      if session.options.debug then Act.apply session (.say (style.paint text)) else session := rfl
  refine ⟨rfl, trivial, ?_⟩
  rw [outcome, outcome, (pairing.agree alike).options]
  split
  · exact pairing.act alike trivial
  · exact alike

theorem steps_recordExpr (owned : outlook.owns node) (holds : outlook.Holds type) :
    pairing.Steps (Check.recordExpr node type) fun _ => True :=
  steps_act (.typed node type) (fun _ => rfl) ⟨owned, holds⟩

theorem steps_recordForm (owned : outlook.owns node) (holds : outlook.Holds type) :
    pairing.Steps (Check.recordForm node type) fun _ => True :=
  steps_act (.written node type) (fun _ => rfl) ⟨owned, holds⟩

theorem steps_recordRef (owned : outlook.owns node) (proper : outlook.Proper symbol)
    (asked : outlook.asks symbol) : pairing.Steps (Check.recordRef node symbol) fun _ => True :=
  steps_act (.refers node symbol) (fun _ => rfl) ⟨owned, proper, asked⟩

theorem steps_recordDecl (owned : outlook.owns node) (proper : outlook.Proper symbol)
    (own : symbol.id = .node node) :
    pairing.Steps (Check.recordDecl node symbol) fun _ => True :=
  steps_act (.declares node symbol) (fun _ => rfl) ⟨owned, proper, own⟩

theorem steps_recordMembers (owned : outlook.owns node) (steps : List MemberStep) :
    pairing.Steps (Check.recordMembers node steps) fun _ => True :=
  steps_act (.hops node steps) (fun _ => rfl) owned

theorem steps_setKnown {known : SymbolType} (owned : outlook.owns node) (own : id = .node node)
    (within : known.Within outlook.visible) :
    pairing.Steps (Check.setKnown id known) fun _ => True :=
  steps_act (.knows id known) (fun _ => rfl) ⟨⟨node, owned, own⟩, within⟩

theorem steps_setType (owned : outlook.owns node) (own : id = .node node)
    (holds : outlook.Holds type) : pairing.Steps (Check.setType id type) fun _ => True :=
  steps_act (.settles id type) (fun _ => rfl) ⟨⟨node, owned, own⟩, holds⟩

/-! ### Written types -/

theorem steps_namedType (name : String) {span : Span} (owned : outlook.owns span.node) :
    pairing.Steps (Check.namedType name span) fun found => outlook.Holds found.1 := by
  unfold Check.namedType
  cases Prim.ofName? name with
  | some builtin => exact .pure trivial
  | none =>
    refine .read fun one other alike => ?_
    have agree := pairing.agree alike
    have enclosed := pairing.enclosed alike
    rw [← agree.resolveType? name]
    cases found : one.table.resolveType? name with
    | none => exact InStep.pure trivial one other alike
    | some symbol =>
      have proper := enclosed.resolveType? found
      have isType := isType_of_resolveType? found
      simp only
      rw [← agree.known symbol.id (proper.steady isType)]
      refine (InStep.bind (steps_recordRef owned proper (outlook.asks_of_isType _ isType))
        fun _ _ => .pure ?_) one other alike
      cases known : (one.knownOf symbol.id).type with
      | none => trivial
      | some type => exact (enclosed.known symbol.id proper.met).type type known

mutual

theorem steps_resolveForm :
    (form : TypeForm) -> (∀ node ∈ form.nodes, outlook.owns node) ->
    pairing.Steps (Check.resolveForm form) fun found => outlook.Holds found.1
  | .named name span, owned => by
    unfold Check.resolveForm
    have own := owned span.node (by simp [TypeForm.nodes])
    exact .bind (steps_namedType name own) fun _ holds =>
      .bind (steps_recordForm own holds) fun _ _ => .pure holds
  | .opaquePointer span, owned | .address span, owned => by
    unfold Check.resolveForm
    have own := owned span.node (by simp [TypeForm.nodes])
    exact .bind (steps_recordForm own trivial) fun _ _ => .pure trivial
  | .pointer element span, owned | .array element span, owned
  | .fixedArray element _ span, owned | .const element span, owned
  | .mutable element span, owned => by
    simp only [TypeForm.nodes, List.forall_mem_cons] at owned
    unfold Check.resolveForm
    exact .bind (steps_resolveForm element owned.2) fun _ holds =>
      .bind (steps_recordForm owned.1 holds) fun _ _ => .pure holds
  | .function params result variadic span, owned => by
    simp only [TypeForm.nodes, List.forall_mem_cons, List.forall_mem_append] at owned
    unfold Check.resolveForm
    refine .bind (steps_resolveForms params owned.2.1) fun found paramsHold =>
      .bind (steps_resolveForm result owned.2.2) fun _ holds => ?_
    have functionHolds : outlook.Holds (.function found.1 _ "" variadic) :=
      ⟨Ty.allWithin_iff.mpr paramsHold, holds⟩
    exact .bind (steps_recordForm owned.1 functionHolds) fun _ _ => .pure functionHolds

theorem steps_resolveForms :
    (forms : List TypeForm) -> (∀ node ∈ TypeForm.nodesAll forms, outlook.owns node) ->
    pairing.Steps (Check.resolveForms forms) fun found => ∀ type ∈ found.1, outlook.Holds type
  | [], _ => by
    unfold Check.resolveForms
    exact .pure (List.forall_mem_nil _)
  | form :: rest, owned => by
    simp only [TypeForm.nodesAll, List.forall_mem_append] at owned
    unfold Check.resolveForms
    exact .bind (steps_resolveForm form owned.1) fun _ holds =>
      .bind (steps_resolveForms rest owned.2) fun _ restHolds =>
        .pure (List.forall_mem_cons.mpr ⟨holds, restHolds⟩)

end

theorem steps_typeOf (form : TypeForm) (owned : ∀ node ∈ form.nodes, outlook.owns node) :
    pairing.Steps (Check.typeOf form) outlook.Holds :=
  .bind (steps_resolveForm form owned) fun _ holds =>
    .bind (.forM _ fun _ _ => steps_report _) fun _ _ => .pure holds

theorem steps_typeOf? (form : Option TypeForm)
    (owned : ∀ node ∈ form.toList.flatMap TypeForm.nodes, outlook.owns node) :
    pairing.Steps (Check.typeOf? form) fun found => ∀ type ∈ found, outlook.Holds type := by
  cases form with
  | none => exact .pure fun _ impossible => by cases impossible
  | some form =>
    refine .bind (steps_typeOf form (by simpa using owned)) fun type holds => .pure ?_
    rintro _ ⟨⟩
    exact holds

theorem steps_recordedType (form : TypeForm) (owned : ∀ node ∈ form.nodes, outlook.owns node) :
    pairing.Steps (Check.recordedType form) outlook.Holds := by
  refine .read fun one other alike => ?_
  have inside : outlook.inside form.node :=
    outlook.inside_of_owns _ (owned _ form.node_mem_nodes)
  have same : one.facts.forms.find? form.node = other.facts.forms.find? form.node :=
    congrArg Entry.form ((pairing.agree alike).entries form.node inside)
  rw [← same]
  cases found : one.facts.forms.find? form.node with
  | some type =>
    exact InStep.pure (((pairing.enclosed alike).entries _ inside).form type found) one other alike
  | none =>
    exact (InStep.bind (steps_resolveForm form owned) fun _ holds => .pure holds) one other alike

end Pairing
end UnitCheck
