import UnitCheck.Proofs.Declare.Order
import UnitCheck.Proofs.Resolve.Globals
import UnitCheck.Proofs.Resolve.Lockstep

/-!
# Constants and statics with a written type

The first pass records the type that is written down for a constant or static and makes it
the type of the global, and the second pass leaves both as they are. The symbol that stands
for a constant or static is that of a value.
-/

namespace UnitCheck

/-- What a written type stands for is recorded for it. -/
theorem Check.find?_resolveForm (form : TypeForm) (session : Session) :
    ((Check.resolveForm form).run session).2.facts.forms.find? form.node =
      some ((Check.resolveForm form).run session).1.1 := by
  have found (node : NodeId) (type : Ty) (after : Session) :
      ((Check.recordForm node type).run after).2.facts.forms.find? node = some type := by
    change List.lookup node ((node, type) :: after.facts.forms) = some type
    rw [List.lookup_cons, beq_self_eq_true]
  cases form <;> unfold Check.resolveForm <;> exact found _ _ _

namespace Declare

/-- The written type stands for what is known of the node. -/
def Signed (node written : NodeId) (session : Session) : Prop :=
  ∃ type, session.facts.forms.find? written = some type ∧
    (session.knownOf (.node node)).type = some type

/-- Bookkeeping makes no difference. -/
theorem Signed.alike {node written : NodeId} {before after : Session}
    (signed : Signed node written before) (alike : before.Alike after) :
    Signed node written after := by
  rw [alike.same]
  exact signed

/-- Whatever leaves one written type and what is known of one node alone. -/
def reserving (node written : NodeId) : Regime where
  holds _ := True
  permits
    | .knows id _ | .settles id _ => id ≠ .node node
    | .written place _ => place ≠ written
    | _ => True
  stable _ _ _ _ := trivial

variable {items : List Item} {node written : NodeId} {before after session : Session}

theorem mayInspect_reserving : MayInspect (reserving node written) (· ≠ written) :=
  ⟨⟨fun _ => trivial, fun _ _ apart => apart, fun _ _ _ => trivial⟩, fun _ _ _ _ => trivial⟩

theorem mayBind_reserving :
    Resolve.MayBind (reserving node written) (· ≠ node) (· ≠ written) where
  report _ := trivial
  written _ _ apart := apart
  refers _ _ _ := trivial
  declares _ _ _ _ := trivial
  knows _ _ apart same := apart (SymbolId.node.inj same)
  locals _ _ := trivial
  struct _ _ _ := trivial

theorem kept_of_reserving (trace : Trace (reserving node written).permits before after) :
    after.facts.forms.find? written = before.facts.forms.find? written ∧
      after.knownOf (.node node) = before.knownOf (.node node) := by
  let view (session : Session) : Option Ty × SymbolType :=
    (session.facts.forms.find? written, session.knownOf (.node node))
  have kept (act : Act) (session : Session) (permitted : (reserving node written).permits act) :
      view (act.apply session) = view session := by
    refine Prod.ext ?_ ?_
    · cases act with
      | written place other =>
        change List.lookup written ((place, other) :: session.facts.forms) = _
        rw [List.lookup_cons, beq_false_of_ne (Ne.symm permitted)]
        rfl
      | _ => rfl
    · change (act.apply session).knownOf _ = _
      rw [Act.knownOf_apply, if_neg]
      intro subject
      cases act <;> first | exact permitted (Option.some.inj subject) | cases subject
  have same : view after = view before := trace.keeps kept
  exact ⟨congrArg Prod.fst same, congrArg Prod.snd same⟩

theorem Signed.reserved (signed : Signed node written before)
    (trace : Trace (reserving node written).permits before after) : Signed node written after := by
  obtain ⟨forms, known⟩ := kept_of_reserving trace
  obtain ⟨type, isForm, isKnown⟩ := signed
  exact ⟨type, forms.trans isForm, (congrArg SymbolType.type known).trans isKnown⟩

/-- Resolving the signature of a global gives it the type that is written down for it. -/
theorem signed_resolveSignature {entry : Pending} {global : Typing.Global} {form : TypeForm}
    (declares : Typing.global? entry.item = some global) (isForm : global.form = some form)
    (isAt : entry.symbol.id = .node node) (session : Session) :
    Signed node form.node (session.after (resolveSignature entry)) := by
  have value : Signed node form.node
      (session.after (valueSignature entry.symbol (some form))) := by
    have reports (missing : List Ident) :
        (missing.forM fun name => Check.report (.unknownType name)) =
          (missing.map Finding.unknownType).forM Check.report :=
      (List.forM_map (m := Check)).symm
    have kept : ((Check.typeOf form).run session).2.facts.forms =
        ((Check.resolveForm form).run session).2.facts.forms := by
      change (Session.after ((Check.resolveForm form).run session).2
        (((Check.resolveForm form).run session).1.2.forM fun name =>
          Check.report (.unknownType name))).facts.forms = _
      rw [reports, after_reports]
    refine ⟨((Check.typeOf form).run session).1, ?_, ?_⟩
    · change ((Check.typeOf form).run session).2.facts.forms.find? form.node = _
      rw [kept]
      exact Check.find?_resolveForm form session
    · change ((Act.apply ((Check.typeOf form).run session).2
        (.settles entry.symbol.id ((Check.typeOf form).run session).1)).knownOf _).type = _
      rw [Act.knownOf_apply, if_pos (by rw [← isAt]; rfl)]
      rfl
  unfold resolveSignature
  cases isItem : entry.item with
  | const decl | static decl =>
    rw [isItem] at declares
    cases declares
    have written : decl.type = some form := isForm
    simp only [written]
    exact value
  | _ =>
    rw [isItem] at declares
    cases declares

/-- Behind the signatures a value that waits with a written type has that type. -/
theorem signed_resolveSignatures {pending : List Pending} {entry : Pending}
    {global : Typing.Global} {form : TypeForm} (isEntry : entry ∈ pending)
    (isAt : entry.symbol.id = .node node) (isForm : global.form = some form)
    (declares : ∀ other ∈ pending, other.symbol.id = .node node →
      Typing.global? other.item = some global)
    (apart : ∀ other ∈ pending, other.symbol.id ≠ .node node → Lie (· ≠ form.node) other.item.forms)
    (session : Session) :
    Signed node form.node (session.after (resolveSignatures pending)) := by
  rw [after_resolveSignatures]
  refine forM_establishes (fun other isOther session holds => ?_) _
    (.inr ⟨entry, isEntry, signed_resolveSignature (declares entry isEntry isAt) isForm isAt⟩)
  by_cases isOwn : other.symbol.id = .node node
  · exact signed_resolveSignature (declares other isOther isOwn) isForm isOwn session
  · exact holds.reserved (obeys_resolveSignature mayInspect_reserving other
      (fun _ => ⟨fun _ => isOwn, fun _ => isOwn⟩) (apart other isOther isOwn) session trivial)

/-- The node of a written type lies in the item of its global. -/
theorem form_mem_inner {item : Item} {global : Typing.Global} {form : TypeForm}
    (declares : Typing.global? item = some global) (isForm : global.form = some form) :
    form.node ∈ item.forms.flatMap TypeForm.nodes ∧ form.node ∈ item.inner := by
  have inForms : form.node ∈ item.forms.flatMap TypeForm.nodes := by
    refine List.mem_flatMap.mpr ⟨form, ?_, form.node_mem_nodes⟩
    cases item <;> cases declares <;> exact Option.mem_toList.mpr isForm
  exact ⟨inForms, List.mem_append_right _ inForms⟩

variable {pending : List Pending}

/-- Resolving signatures declares nothing. -/
theorem decls_resolveSignatures (pending : List Pending) (session : Session) :
    (session.after (resolveSignatures pending)).facts.decls = session.facts.decls := by
  have spares : Trace (sparing fun _ => False).permits session
      (session.after (resolveSignatures pending)) :=
    obeys_resolveSignatures_sparing (fun _ _ => .inr fun _ impossible => impossible.elim) session
      trivial
  exact (kept_of_sparing spares).2

/-- Resolving signatures gives a declared value the type that is written down for it. -/
theorem Roster.signed (roster : Roster items pending session)
    (distinct : (items.flatMap Item.sites).Nodup) {global : Typing.Global}
    (isGlobal : global ∈ Typing.globals items)
    (declared : Declared global.node (session.after (resolveSignatures pending)))
    {form : TypeForm} (isForm : global.form = some form) :
    Signed global.node form.node (session.after (resolveSignatures pending)) := by
  unfold Declared at declared
  rw [decls_resolveSignatures] at declared
  obtain ⟨entry, isEntry, isAt⟩ := (roster.declared global.node).mp declared
  obtain ⟨item, isItem, declares⟩ := List.mem_filterMap.mp isGlobal
  refine signed_resolveSignatures isEntry isAt isForm
    (fun _ isOther => roster.declares distinct isOther isGlobal) (fun other isOther isElse => ?_) _
  rintro _ inForms rfl
  obtain ⟨isOtherItem, own⟩ := roster.listed other isOther
  have same := Item.eq_of_mem_nodes distinct isOtherItem isItem
    (other.item.inner_subset_sites (List.mem_append_right _ inForms))
    (item.inner_subset_sites (form_mem_inner declares isForm).2)
  rw [own, same, node_of_global declares] at isElse
  exact isElse rfl

/-- What is declared for a value is no type. -/
theorem isType_of_enrolls (enrolls : Enrolls pending before after) (none : before.facts.decls = [])
    (listed : ∀ entry ∈ pending, entry.item ∈ items) (distinct : (items.flatMap Item.sites).Nodup)
    {global : Typing.Global} (isGlobal : global ∈ Typing.globals items) {symbol : Symbol}
    (found : after.facts.decls.find? global.node = some symbol) : symbol.isType = false := by
  have isDecl := mem_of_lookup found
  rw [enrolls.decls, none, List.append_nil, List.mem_reverse] at isDecl
  obtain ⟨entry, isEntry, same⟩ := List.mem_map.mp isDecl
  obtain ⟨isAt, rfl⟩ := Prod.mk.inj same
  obtain ⟨header, name, isHeader, isSymbol⟩ := enrolls.symbols entry isEntry
  have declares := global?_of_node distinct (listed entry isEntry) (by rw [isHeader]; rfl) isGlobal
    isAt
  rw [isSymbol]
  exact isType_of_value declares isHeader name

/-- Behind the first pass a declared value with a written type has that type, and the symbol
that is declared for a value is no type. -/
theorem signed_walk {unit : Module} {options : Options}
    (distinct : (unit.items.flatMap Item.sites).Nodup)
    (start : (Session.start (some unit) options).Alike session) {global : Typing.Global}
    (isGlobal : global ∈ Typing.globals unit.items) :
    (Declared global.node (session.after walk) → ∀ form ∈ global.form,
        Signed global.node form.node (session.after walk)) ∧
      ∀ symbol, (session.after walk).facts.decls.find? global.node = some symbol →
        symbol.isType = false := by
  rw [after_walk_eq session start.items]
  have roster := roster_collect start unit.items
  obtain ⟨-, noDecls, -⟩ := blank_intrinsics start
  have enrolls := enrolls_collect unit.items none (session.after (declareIntrinsics 0 intrinsics))
  refine ⟨fun declared form isForm => roster.signed distinct isGlobal declared isForm,
    fun symbol found => ?_⟩
  rw [decls_resolveSignatures] at found
  exact isType_of_enrolls enrolls noDecls (fun entry isEntry => (roster.listed entry isEntry).1)
    distinct isGlobal found

/-! ### Behind the second pass -/

section Resolved

variable {declared : NodeId -> Prop} {item : Item} {global : Typing.Global}

/-- Resolving names leaves the type of a global and its written type alone. -/
theorem Signed.resolved {form : TypeForm} (signed : Signed global.node form.node before)
    (spread : Spread declared items) (housed : Housed declared items before)
    (isUnit : before.items = items) (isItem : item ∈ items)
    (declares : Typing.global? item = some global) (isForm : global.form = some form) :
    Signed global.node form.node (before.after Resolve.walk) := by
  obtain ⟨inForms, isInner⟩ := form_mem_inner declares isForm
  have apart : ∀ node ∈ global.value.toList.flatMap Expr.sites, node ≠ form.node := by
    rintro _ isSite rfl
    have distinct : item.inner.Nodup := (List.pairwise_flatMap.mp spread.distinct).1 item isItem
    unfold Item.inner at distinct
    refine (List.nodup_append.mp distinct).2.2 _ (List.mem_append_right _ ?_) _ inForms rfl
    cases item <;> cases declares <;> exact isSite
  have obeys : (reserving global.node form.node).Obeys (Resolve.resolveItem item) := by
    have may : Resolve.MayBind (reserving global.node form.node) _ _ := mayBind_reserving
    have resolves := Resolve.obeys_resolveExpr? may global.value apart
    cases item <;> cases declares <;> exact resolves
  have isDeclared : declared global.node := by
    refine spread.own item isItem _ ?_
    rw [ownNode_of_global declares]
    exact List.mem_singleton_self _
  obtain ⟨type, found, known⟩ := signed
  have visited := Resolve.visited_walk spread housed isUnit
  have entry := congrArg Entry.form (visited.own item isItem form.node isInner).1
  refine ⟨type, entry.trans ((kept_of_reserving (obeys before trivial)).1.trans found), ?_⟩
  rw [(visited.outside spread isDeclared).2]
  exact known

end Resolved

end Declare
end UnitCheck
