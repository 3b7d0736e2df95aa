import UnitCheck.Proofs.Tree.Sites
import UnitCheck.Session.WrittenType

/-!
# What walks do to a session

Everything a walk over a unit does to its session is a sequence of elementary
changes. `Act` lists them and `Trace` runs them one after the other. A `Regime`
says which acts a walk may take and what it relies on; that a walk obeys its
regime is shown once, and every frame condition follows from the acts alone.
-/

namespace UnitCheck

/-- What is looked up in a log is an entry of it. -/
theorem mem_of_lookup {α β : Type} [BEq α] [LawfulBEq α] {log : List (α × β)} {key : α}
    {value : β} (found : log.lookup key = some value) : (key, value) ∈ log := by
  obtain ⟨before, after, split, -⟩ := List.lookup_eq_some_iff.mp found
  rw [split]
  simp

/-- Where no key occurs twice, the entries of a log are what is looked up in it. -/
theorem mem_iff_find? {α : Type} {log : FactLog α} (distinct : (log.map Prod.fst).Nodup)
    {node : NodeId} {fact : α} : (node, fact) ∈ log ↔ log.find? node = some fact := by
  refine ⟨fun inside => ?_, mem_of_lookup⟩
  induction log with
  | nil => cases inside
  | cons entry rest inductionHypothesis =>
    obtain ⟨key, value⟩ := entry
    rw [List.map_cons, List.nodup_cons] at distinct
    change List.lookup node ((key, value) :: rest) = some fact
    rw [List.lookup_cons]
    obtain same | later := List.mem_cons.mp inside
    · cases same
      simp
    · have other : node ≠ key := by
        rintro rfl
        exact distinct.1 (List.mem_map.mpr ⟨_, later, rfl⟩)
      rw [beq_false_of_ne other]
      exact inductionHypothesis distinct.2 later

/-- An elementary change of a session. -/
inductive Act where
  | report (finding : Finding)
  | say (text : String)
  /-- An expression gets a type. -/
  | typed (node : NodeId) (type : Ty)
  /-- A written type gets its meaning. -/
  | written (node : NodeId) (type : Ty)
  | refers (node : NodeId) (symbol : Symbol)
  | declares (node : NodeId) (symbol : Symbol)
  | hops (node : NodeId) (steps : List MemberStep)
  /-- Replaces what is known about a symbol. -/
  | knows (id : SymbolId) (known : SymbolType)
  /-- Sets the type of a symbol and leaves the rest of what is known. -/
  | settles (id : SymbolId) (type : Ty)
  | global (symbol : Symbol)
  | locals (arena : List Symbol) (frames : List Nat)
  | struct (id : TypeId) (body : StructBody)
  | enum (id : TypeId) (body : EnumBody)
  | checked (node : NodeId)

/-- The session after one act. -/
def Act.apply (session : Session) : Act -> Session
  | .report finding => { session with findings := session.findings ++ [finding] }
  | .say text => { session with progress := session.progress ++ [text] }
  | .typed node type =>
    { session with facts := { session.facts with exprs := session.facts.exprs.record node type } }
  | .written node type =>
    { session with facts := { session.facts with forms := session.facts.forms.record node type } }
  | .refers node symbol =>
    { session with facts := { session.facts with refs := session.facts.refs.record node symbol } }
  | .declares node symbol =>
    { session with facts := { session.facts with decls := session.facts.decls.record node symbol } }
  | .hops node steps =>
    { session with
      facts := { session.facts with members := session.facts.members.record node steps } }
  | .knows id known => { session with known := (id, known) :: session.known }
  | .settles id type =>
    { session with known := (id, { session.knownOf id with type := some type }) :: session.known }
  | .global symbol =>
    { session with
      table := { session.table with globals := session.table.globals ++ [symbol] } }
  | .locals arena frames =>
    { session with table := { session.table with locals := arena, frames := frames } }
  | .struct id body => { session with definitions := session.definitions.setStruct id body }
  | .enum id body => { session with definitions := session.definitions.setEnum id body }
  | .checked node => { session with checked := node :: session.checked }

/-- Any number of permitted acts in turn. -/
inductive Trace (permitted : Act -> Prop) : Session -> Session -> Prop where
  | refl {session : Session} : Trace permitted session session
  | step {before session : Session} (prior : Trace permitted before session) (act : Act)
      (allowed : permitted act) : Trace permitted before (act.apply session)

namespace Trace

variable {permitted others : Act -> Prop} {before middle after : Session}

/-- Traces that meet make one trace. -/
theorem trans (first : Trace permitted before middle) (second : Trace permitted middle after) :
    Trace permitted before after := by
  induction second with
  | refl => exact first
  | step _ act allowed inductionHypothesis => exact inductionHypothesis.step act allowed

/-- A single act. -/
theorem single {act : Act} (allowed : permitted act) : Trace permitted before (act.apply before) :=
  Trace.refl.step act allowed

section

variable (trace : Trace permitted before after)

include trace

/-- A trace under one permission is one under a wider permission. -/
theorem mono (wider : ∀ act, permitted act → others act) : Trace others before after := by
  induction trace with
  | refl => exact .refl
  | step _ act allowed inductionHypothesis => exact inductionHypothesis.step act (wider act allowed)

/-- What every permitted act keeps, a trace keeps. -/
theorem keeps {α : Type} {view : Session -> α}
    (kept : ∀ act session, permitted act → view (Act.apply session act) = view session) :
    view after = view before := by
  induction trace with
  | refl => rfl
  | step _ act allowed inductionHypothesis => rw [kept act _ allowed, inductionHypothesis]

/-- What every permitted act preserves, a trace preserves. -/
theorem preserves {property : Session -> Prop}
    (kept : ∀ act session, permitted act → property session → property (Act.apply session act))
    (holds : property before) : property after := by
  induction trace with
  | refl => exact holds
  | step _ act allowed inductionHypothesis => exact kept act _ allowed inductionHypothesis

/-- No act changes the unit. -/
theorem unit : after.unit = before.unit :=
  trace.keeps fun act _ _ => by cases act <;> rfl

/-- No act changes the options. -/
theorem options : after.options = before.options :=
  trace.keeps fun act _ _ => by cases act <;> rfl

/-- No act completes a pass. -/
theorem passes : after.passes = before.passes :=
  trace.keeps fun act _ _ => by cases act <;> rfl

/-- The items of the unit stay. -/
theorem items : after.items = before.items := by
  unfold Session.items
  rw [trace.unit]

/-- Findings stay where they are; new ones come behind them. -/
theorem findings : before.findings <+: after.findings := by
  induction trace with
  | refl => exact List.prefix_refl _
  | step _ act _ inductionHypothesis =>
    refine inductionHypothesis.trans ?_
    cases act <;> first | exact List.prefix_append _ _ | exact List.prefix_refl _

/-- What every act only adds to in front, a trace only adds to. -/
theorem adds {α : Type} (log : Session -> List α)
    (added : ∀ act session, log session <:+ log (Act.apply session act)) :
    log before <:+ log after := by
  induction trace with
  | refl => exact List.suffix_refl _
  | step _ act _ inductionHypothesis => exact inductionHypothesis.trans (added act _)

/-- Types of expressions are only ever added. -/
theorem exprs : before.facts.exprs <:+ after.facts.exprs :=
  trace.adds (·.facts.exprs) fun act _ => by
    cases act <;> first | exact List.suffix_cons _ _ | exact List.suffix_refl _

/-- Meanings of written types are only ever added. -/
theorem forms : before.facts.forms <:+ after.facts.forms :=
  trace.adds (·.facts.forms) fun act _ => by
    cases act <;> first | exact List.suffix_cons _ _ | exact List.suffix_refl _

/-- References are only ever added. -/
theorem refs : before.facts.refs <:+ after.facts.refs :=
  trace.adds (·.facts.refs) fun act _ => by
    cases act <;> first | exact List.suffix_cons _ _ | exact List.suffix_refl _

/-- Declarations are only ever added. -/
theorem decls : before.facts.decls <:+ after.facts.decls :=
  trace.adds (·.facts.decls) fun act _ => by
    cases act <;> first | exact List.suffix_cons _ _ | exact List.suffix_refl _

end
end Trace

/-! ### Regimes -/

/-- What a walk relies on and which acts it may take. -/
structure Regime where
  holds : Session -> Prop
  permits : Act -> Prop
  stable : ∀ act session, permits act → holds session → holds (Act.apply session act)

/-- A walk that relies on nothing and may do anything. -/
def Regime.free : Regime where
  holds _ := True
  permits _ := True
  stable _ _ _ _ := trivial

/-- Where it can rely on what the regime asks for, the walk takes permitted acts only. -/
def Regime.Obeys {α : Type} (regime : Regime) (walk : Check α) : Prop :=
  ∀ session, regime.holds session → Trace regime.permits session (walk.run session).2

/-- What a regime relies on holds all along its traces. -/
theorem Trace.holds {regime : Regime} {before after : Session}
    (trace : Trace regime.permits before after) (holds : regime.holds before) :
    regime.holds after :=
  trace.preserves regime.stable holds

/-- A walk that obeys may follow any trace. -/
theorem Trace.bind {regime : Regime} {α β : Type} {first : Check α} {rest : α -> Check β}
    {session : Session} (trace : Trace regime.permits session (first.run session).2)
    (holds : regime.holds session) (obeysRest : ∀ value, regime.Obeys (rest value)) :
    Trace regime.permits session ((first >>= rest).run session).2 :=
  trace.trans (obeysRest _ _ (trace.holds holds))

namespace Regime

variable {regime : Regime} {α β : Type}

/-- A walk that does nothing obeys. -/
theorem Obeys.pure (value : α) : regime.Obeys (pure value) :=
  fun _ _ => .refl

/-- Walks that obey do so one after the other. -/
theorem Obeys.bind {first : Check α} {rest : α -> Check β} (obeysFirst : regime.Obeys first)
    (obeysRest : ∀ value, regime.Obeys (rest value)) : regime.Obeys (first >>= rest) :=
  fun session holds => (obeysFirst session holds).bind holds obeysRest

/-- `Obeys.bind` where something is known about the value that is handed on. -/
theorem Obeys.bindYields (yields : α -> Prop) {first : Check α} {rest : α -> Check β}
    (obeysFirst : regime.Obeys first)
    (value : ∀ session, regime.holds session → yields (first.run session).1)
    (obeysRest : ∀ value, yields value → regime.Obeys (rest value)) :
    regime.Obeys (first >>= rest) := by
  intro session holds
  have trace := obeysFirst session holds
  exact trace.trans (obeysRest _ (value session holds) _ (trace.holds holds))

/-- A walk that looks at the session first. -/
theorem Obeys.read {rest : Session -> Check α}
    (obeysRest : ∀ session, regime.Obeys (rest session)) : regime.Obeys (get >>= rest) :=
  fun session holds => obeysRest session session holds

/-- A walk that looks at the session first, and relies on what it finds there. -/
theorem Obeys.readAt {rest : Session -> Check α}
    (obeysRest : ∀ session, regime.holds session →
      Trace regime.permits session ((rest session).run session).2) :
    regime.Obeys (get >>= rest) :=
  obeysRest

/-- A walk over a list. -/
theorem Obeys.forM {visit : α -> Check Unit} (values : List α)
    (obeys : ∀ value ∈ values, regime.Obeys (visit value)) :
    regime.Obeys (values.forM visit) := by
  induction values with
  | nil => exact .pure _
  | cons value rest inductionHypothesis =>
    refine .bind (obeys value List.mem_cons_self) fun _ => inductionHypothesis ?_
    intro other later
    exact obeys other (List.mem_cons_of_mem value later)

/-- A walk over a list that hands a value on. -/
theorem Obeys.foldlM {visit : β -> α -> Check β} (values : List α)
    (obeys : ∀ value ∈ values, ∀ state, regime.Obeys (visit state value)) (state : β) :
    regime.Obeys (values.foldlM visit state) := by
  induction values generalizing state with
  | nil => exact .pure _
  | cons value rest inductionHypothesis =>
    rw [List.foldlM_cons]
    refine .bind (obeys value List.mem_cons_self state) fun next => inductionHypothesis ?_ next
    intro other later
    exact obeys other (List.mem_cons_of_mem value later)

/-- A walk that turns every value of a list into another. -/
theorem Obeys.mapM {visit : α -> Check β} (values : List α)
    (obeys : ∀ value ∈ values, regime.Obeys (visit value)) : regime.Obeys (values.mapM visit) := by
  induction values with
  | nil => exact .pure _
  | cons value rest inductionHypothesis =>
    rw [List.mapM_cons]
    refine .bind (obeys value List.mem_cons_self) fun _ => .bind (inductionHypothesis ?_) fun _ =>
      .pure _
    intro other later
    exact obeys other (List.mem_cons_of_mem value later)

end Regime

/-! ### The elementary steps of passes -/

namespace Check

variable {regime : Regime}

theorem obeys_report {finding : Finding} (permitted : regime.permits (.report finding)) :
    regime.Obeys (report finding) :=
  fun _ _ => .single permitted

theorem obeys_say {style : Style} {text : String} (permitted : ∀ text, regime.permits (.say text)) :
    regime.Obeys (say style text) := by
  intro session _
  have outcome : ((say style text).run session).2 =
      if session.options.debug then Act.apply session (.say (style.paint text)) else session := rfl
  rw [outcome]
  split
  · exact .single (permitted _)
  · exact .refl

theorem obeys_recordExpr {node : NodeId} {type : Ty} (permitted : regime.permits (.typed node type)) :
    regime.Obeys (recordExpr node type) :=
  fun _ _ => .single permitted

theorem obeys_recordForm {node : NodeId} {type : Ty}
    (permitted : regime.permits (.written node type)) : regime.Obeys (recordForm node type) :=
  fun _ _ => .single permitted

theorem obeys_recordRef {node : NodeId} {symbol : Symbol}
    (permitted : regime.permits (.refers node symbol)) : regime.Obeys (recordRef node symbol) :=
  fun _ _ => .single permitted

theorem obeys_recordDecl {node : NodeId} {symbol : Symbol}
    (permitted : regime.permits (.declares node symbol)) : regime.Obeys (recordDecl node symbol) :=
  fun _ _ => .single permitted

theorem obeys_recordMembers {node : NodeId} {steps : List MemberStep}
    (permitted : regime.permits (.hops node steps)) : regime.Obeys (recordMembers node steps) :=
  fun _ _ => .single permitted

theorem obeys_setKnown {id : SymbolId} {known : SymbolType}
    (permitted : regime.permits (.knows id known)) : regime.Obeys (setKnown id known) :=
  fun _ _ => .single permitted

theorem obeys_setType {id : SymbolId} {type : Ty} (permitted : regime.permits (.settles id type)) :
    regime.Obeys (setType id type) :=
  fun _ _ => .single permitted

/-! ### Written types -/

/-- The regime lets written types be resolved that have their nodes inside. -/
structure MayResolve (regime : Regime) (inside : NodeId -> Prop) : Prop where
  report : ∀ finding, regime.permits (.report finding)
  written : ∀ node type, inside node → regime.permits (.written node type)
  refers : ∀ node symbol, inside node → regime.permits (.refers node symbol)

/-- The regime lets written types be read that have their nodes inside. -/
structure MayRead (regime : Regime) (inside : NodeId -> Prop) : Prop where
  unknownType : ∀ name, regime.permits (.report (.unknownType name))
  written : ∀ node type, inside node → regime.permits (.written node type)
  refers : ∀ node symbol, inside node → regime.permits (.refers node symbol)

variable {inside : NodeId -> Prop}

theorem MayResolve.mayRead (may : MayResolve regime inside) : MayRead regime inside :=
  ⟨fun name => may.report (.unknownType name), may.written, may.refers⟩

theorem obeys_namedType (may : MayRead regime inside) (name : String) {span : Span}
    (isInside : inside span.node) : regime.Obeys (namedType name span) := by
  unfold namedType
  cases Prim.ofName? name with
  | some builtin => exact .pure _
  | none =>
    refine .read fun session => ?_
    cases session.table.resolveType? name with
    | none => exact .pure _
    | some symbol => exact .bind (obeys_recordRef (may.refers _ _ isInside)) fun _ => .pure _

mutual

/-- Resolving a written type records meanings and references at its nodes. -/
theorem obeys_resolveForm (may : MayRead regime inside) :
    (form : TypeForm) -> (∀ node ∈ form.nodes, inside node) -> regime.Obeys (resolveForm form)
  | .named name span, within => by
    simp only [TypeForm.nodes, List.forall_mem_singleton] at within
    unfold resolveForm
    exact .bind (obeys_namedType may name within) fun _ =>
      .bind (obeys_recordForm (may.written _ _ within)) fun _ => .pure _
  | .opaquePointer span, within | .address span, within => by
    simp only [TypeForm.nodes, List.forall_mem_singleton] at within
    unfold resolveForm
    exact .bind (obeys_recordForm (may.written _ _ within)) fun _ => .pure _
  | .pointer inner span, within | .array inner span, within | .fixedArray inner _ span, within
  | .const inner span, within | .mutable inner span, within => by
    simp only [TypeForm.nodes, List.forall_mem_cons] at within
    unfold resolveForm
    exact .bind (obeys_resolveForm may inner within.2) fun _ =>
      .bind (obeys_recordForm (may.written _ _ within.1)) fun _ => .pure _
  | .function params result variadic span, within => by
    simp only [TypeForm.nodes, List.forall_mem_cons, List.forall_mem_append] at within
    unfold resolveForm
    exact .bind (obeys_resolveForms may params within.2.1) fun _ =>
      .bind (obeys_resolveForm may result within.2.2) fun _ =>
      .bind (obeys_recordForm (may.written _ _ within.1)) fun _ => .pure _

/-- `obeys_resolveForm` for several written types. -/
theorem obeys_resolveForms (may : MayRead regime inside) :
    (forms : List TypeForm) -> (∀ node ∈ TypeForm.nodesAll forms, inside node) ->
    regime.Obeys (resolveForms forms)
  | [], _ => by
    unfold resolveForms
    exact .pure _
  | form :: rest, within => by
    simp only [TypeForm.nodesAll, List.forall_mem_append] at within
    unfold resolveForms
    exact .bind (obeys_resolveForm may form within.1) fun _ =>
      .bind (obeys_resolveForms may rest within.2) fun _ => .pure _

end

theorem obeys_typeOf (may : MayRead regime inside) (form : TypeForm)
    (within : ∀ node ∈ form.nodes, inside node) : regime.Obeys (typeOf form) := by
  unfold typeOf
  exact .bind (obeys_resolveForm may form within) fun _ =>
    .bind (.forM _ fun _ _ => obeys_report (may.unknownType _)) fun _ => .pure _

theorem obeys_typeOf? (may : MayRead regime inside) :
    (form : Option TypeForm) -> (∀ node ∈ form.toList.flatMap TypeForm.nodes, inside node) ->
    regime.Obeys (typeOf? form)
  | none, _ => .pure _
  | some form, within => .bind (obeys_typeOf may form (by simpa using within)) fun _ => .pure _

end Check
end UnitCheck
