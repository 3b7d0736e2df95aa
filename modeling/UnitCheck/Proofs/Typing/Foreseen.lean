import UnitCheck.Proofs.Declare.Signed
import UnitCheck.Proofs.Typing.Acyclic
import UnitCheck.Proofs.Typing.GlobalOrder

/-!
# A plan for the globals of an accepted unit

Behind the first two passes the names in the values of an item refer to what they mean, and
a global with a written type has it. Where typing ends quiet, the order in which it finishes
the other globals is a schedule for these.
-/

namespace UnitCheck

namespace Lexical

/-- A name in an item stands inside the item. -/
theorem node_mem_inner {globals : List Symbol} {item : Item} {use : Use}
    (isUse : use ∈ itemUses globals item) : use.node ∈ item.inner := by
  have counted := count_itemUses globals use.node item
  have isThere : 0 < ((itemUses globals item).map Use.node).count use.node :=
    List.count_pos_iff.mpr (List.mem_map_of_mem isUse)
  have inside : use.node ∈ Stmt.sitesAll item.stmts ++ item.values.flatMap Expr.sites := by
    refine List.count_pos_iff.mp ?_
    rw [List.count_append]
    omega
  unfold Item.inner
  simp only [List.mem_append] at inside ⊢
  tauto

end Lexical

namespace Typing

/-- What is known behind the first two passes of the names in values and of globals. -/
structure Foreseen (items : List Item) (base : Session) : Prop where
  named : ∀ item ∈ items, ∀ node ∈ item.valueSites, ∀ symbol,
    base.facts.refs.find? node = some symbol → symbol.isType = true ∨ node ∈ item.valueNames
  unnamed : ∀ item ∈ items, ∀ node ∈ item.ownNode, base.facts.refs.find? node = none
  listed : ∀ symbol ∈ base.table.globals, ∀ global ∈ globals items,
    symbol.id = .node global.node → symbol.isType = false
  referred : ∀ item ∈ items, ∀ node ∈ item.valueSites, ∀ symbol,
    base.facts.refs.find? node = some symbol → ∀ global ∈ globals items,
      symbol.id = .node global.node → symbol.isType = false
  introduced : ∀ global ∈ globals items, ∀ symbol,
    base.facts.decls.find? global.node = some symbol → symbol.isType = false
  signed : ∀ global ∈ globals items, Declared global.node base → ∀ form ∈ global.form,
    Declare.Signed global.node form.node base

section Ahead

variable {unit : Module} (distinct : (unit.items.flatMap Item.sites).Nodup)

include distinct

/-- What is inside an item is in no other. -/
theorem eq_of_inner {item other : Item} (isItem : item ∈ unit.items) (isOther : other ∈ unit.items)
    {node : NodeId} (inItem : node ∈ item.inner) (inOther : node ∈ other.inner) : item = other :=
  Item.eq_of_mem_nodes (spread_of_nodup distinct).distinct isItem isOther inItem inOther

/-- No node of a value is one of a signature. -/
theorem shown_of_valueSite {item : Item} (isItem : item ∈ unit.items) {node : NodeId}
    (isSite : node ∈ item.valueSites) : node ∉ Lexical.signatureNodes unit.items := by
  intro isShown
  obtain ⟨other, isOther, inForms⟩ := List.mem_flatMap.mp isShown
  obtain rfl := eq_of_inner distinct isItem isOther (item.valueSites_subset_inner isSite)
    (List.mem_append_right _ inForms)
  have inner := Item.nodup_sites_of_mem distinct isItem
  rw [Item.sites, List.nodup_append] at inner
  exact inner.2.2 _ (List.mem_append_right _ isSite) _ inForms rfl

section Resolved

variable {scope : Session} (outside : Lexical.Outside unit.items scope) {item : Item}
  (isItem : item ∈ unit.items) {node : NodeId}

include outside isItem

/-- What refers to a value inside a value is a name there. -/
theorem isName_or_isType (isSite : node ∈ item.valueSites) {symbol : Symbol}
    (found : (scope.after Resolve.walk).facts.refs.find? node = some symbol) :
    symbol.isType = true ∨ node ∈ item.valueNames := by
  obtain ⟨other, isOther, use, isUse, rfl, means⟩ :=
    Lexical.use_of_ref outside (shown_of_valueSite distinct isItem isSite) found
  obtain rfl := eq_of_inner distinct isItem isOther (item.valueSites_subset_inner isSite)
    (Lexical.node_mem_inner isUse)
  have valued : item.values ≠ [] := by
    intro none
    unfold Item.valueSites at isSite
    rw [none] at isSite
    cases isSite
  exact (Lexical.namedAt_values _ valued use isUse).imp_left fun isName =>
    Lexical.Use.isType_of_meaning isName means

/-- The node of a declaration refers to nothing. -/
theorem no_ref_of_ownNode (isOwn : node ∈ item.ownNode) :
    (scope.after Resolve.walk).facts.refs.find? node = none := by
  have spread := spread_of_nodup distinct
  have isDeclared := spread.own item isItem node isOwn
  by_contra isSome
  obtain ⟨symbol, found⟩ := Option.ne_none_iff_exists'.mp isSome
  have isShown : node ∉ Lexical.signatureNodes unit.items := by
    intro inForms
    obtain ⟨other, isOther, inForms⟩ := List.mem_flatMap.mp inForms
    exact spread.apart other isOther node (List.mem_append_right _ inForms) isDeclared
  obtain ⟨other, isOther, use, isUse, rfl, -⟩ := Lexical.use_of_ref outside isShown found
  exact spread.apart other isOther _ (Lexical.node_mem_inner isUse) isDeclared

end Resolved

/-- Behind the first two passes this is known. -/
theorem foreseen_ahead (options : Options) :
    Foreseen unit.items (.ahead (some unit) options .typeCheck) := by
  have spread := spread_of_nodup distinct
  obtain ⟨housed, -⟩ := housed_ahead distinct options
  obtain ⟨first, second, third, -⟩ := check_walks (some unit) options
  have items := items_ahead (some unit) options .scope
  have presented := (setting_ahead distinct options).1.presented
  rw [items_ahead (some unit) options .typeCheck] at presented
  generalize Session.ahead (some unit) options .declare = declare at first second
  generalize Session.ahead (some unit) options .scope = scope at *
  generalize Session.ahead (some unit) options .typeCheck = typeCheck at *
  change (declare.after Declare.walk).Alike scope at second
  change (scope.after Resolve.walk).Alike typeCheck at third
  change scope.items = unit.items at items
  have start : Lexical.Outside unit.items (Session.start (some unit) options) :=
    ⟨rfl, rfl, fun _ _ => rfl⟩
  have outside : Lexical.Outside unit.items scope :=
    (Lexical.outside_after_declare (start.alike first)).alike second
  have enrolled : Declare.Enrolled unit.items scope :=
    (Declare.enrolled_walk distinct first).alike second
  have visited := Resolve.visited_walk spread housed items
  have decls {global : Global} (isGlobal : global ∈ globals unit.items) :
      typeCheck.facts.decls.find? global.node =
        (declare.after Declare.walk).facts.decls.find? global.node := by
    obtain ⟨item, isItem, declares⟩ := List.mem_filterMap.mp isGlobal
    have isDeclared : global.node ∈ unit.items.flatMap Item.ownNode :=
      spread.own item isItem _ (by rw [ownNode_of_global declares]; exact List.mem_singleton_self _)
    rw [third.facts, ← second.facts]
    exact congrArg Entry.decl (visited.outside spread isDeclared).1
  refine ⟨fun item isItem node isSite symbol found => ?_, fun item isItem node isOwn => ?_,
    fun symbol isListed global isGlobal same => ?_,
    fun item isItem node isSite symbol found global isGlobal same => ?_,
    fun global isGlobal symbol found => ?_, fun global isGlobal declared form isForm => ?_⟩
  · rw [third.facts] at found
    exact isName_or_isType distinct outside isItem isSite found
  · rw [third.facts]
    exact no_ref_of_ownNode distinct outside isItem isOwn
  · rw [third.table, visited.table] at isListed
    exact (enrolled.values symbol isListed global isGlobal same).1
  · exact (presented.names node (shown_of_valueSite distinct isItem isSite) symbol found global
      isGlobal same).1
  · rw [decls isGlobal] at found
    exact (Declare.signed_walk distinct first isGlobal).2 symbol found
  · obtain ⟨item, isItem, declares⟩ := List.mem_filterMap.mp isGlobal
    have declaredFirst : Declared global.node (declare.after Declare.walk) := by
      unfold Declared at declared ⊢
      rw [decls isGlobal] at declared
      exact declared
    have signed := (Declare.signed_walk distinct first isGlobal).1 declaredFirst form isForm
    exact ((signed.alike second).resolved spread housed items isItem declares isForm).alike third

end Ahead

/-! ### What the values of an item see -/

section Sees

variable {declared : NodeId -> Prop} {items : List Item} {base : Session} {item : Item}
  {named : Symbol -> Prop} {symbol : Symbol} {node : NodeId}

theorem valueSites_subset_founds (item : Item) : item.valueSites ⊆ item.founds := by
  intro node isSite
  have inItem := item.inner_subset_sites (item.valueSites_subset_inner isSite)
  cases item with
  | const _ | static _ | enum _ => exact inItem
  | _ => cases isSite

/-- What is declared globally may be met in a value unless it is the type of an untyped
global. -/
theorem proper_of_global (proper : (Outlook.global declared).Proper symbol)
    (values : ∀ global ∈ globals items, symbol.id = .node global.node → symbol.isType = false) :
    (valueOutlook declared (Unsigned items) named item).Proper symbol := by
  have met {node : NodeId} (same : symbol.id = .node node) : declared node := by
    have met := proper.met
    rw [same] at met
    exact met.resolve_right List.not_mem_nil
  refine ⟨?_, fun isType node same => .inl ⟨met same, ?_⟩⟩
  · cases id : symbol.id with
    | builtin number => trivial
    | node node => exact met id
  · rintro ⟨other, isOther, ⟨global, declares, -⟩, rfl⟩
    have isGlobal : global ∈ globals items := List.mem_filterMap.mpr ⟨other, isOther, declares⟩
    rw [node_of_global declares] at same
    rw [values global isGlobal same] at isType
    cases isType

/-- Where this is known, the values of an item are enclosed. -/
theorem Foreseen.enclosed (foreseen : Foreseen items base)
    (spread : Spread (· ∈ items.flatMap Item.ownNode) items)
    (housed : Housed (· ∈ items.flatMap Item.ownNode) items base)
    (untyped : base.facts.exprs = []) (isItem : item ∈ items) :
    Enclosed (valueOutlook (· ∈ items.flatMap Item.ownNode) (Unsigned items) (NamedBy base item) item)
      base := by
  have founded := Enclosed.founded spread housed
  have visible (node : NodeId)
      (met : (Outlook.founded (· ∈ items.flatMap Item.ownNode) items).visible node) :
      node ∈ items.flatMap Item.ownNode := met.resolve_right List.not_mem_nil
  refine ⟨fun symbol isGlobal => ?_, ?_, fun id met => ?_, fun node inside => ?_⟩
  · exact proper_of_global (housed.globals.globals symbol isGlobal) (foreseen.listed symbol isGlobal)
  · rw [housed.locals]
    exact List.forall_mem_nil _
  · refine (housed.globals.known id ?_).mono visible
    cases id with
    | builtin number => trivial
    | node node => exact .inl met
  · have seen : (Outlook.founded (· ∈ items.flatMap Item.ownNode) items).inside node :=
      inside.imp_right fun isSite =>
        List.mem_flatMap.mpr ⟨item, isItem, valueSites_subset_founds item isSite⟩
    obtain ⟨-, form, ref, decl, struct, enum⟩ := founded.entries node seen
    refine ⟨fun type isType => ?_, fun type isType => Ty.within_mono visible type (form type isType),
      fun symbol isRef => ?_, fun symbol isDecl => ?_,
      fun field isField => Ty.within_mono visible field.type (struct field isField),
      fun body isBody => Ty.within_mono visible body.base (enum body isBody)⟩
    · have isTyped : base.facts.exprs.find? node = some type := isType
      rw [untyped] at isTyped
      cases isTyped
    · obtain isDeclared | isSite := inside
      · obtain ⟨other, isOther, isOwn⟩ := List.mem_flatMap.mp isDeclared
        cases (foreseen.unnamed other isOther node isOwn).symm.trans isRef
      · refine ⟨proper_of_global ((ref symbol isRef).1.around fun _ => id)
          (foreseen.referred item isItem node isSite symbol isRef), ?_⟩
        exact (foreseen.named item isItem node isSite symbol isRef).imp_right fun isName =>
          ⟨node, isName, isRef⟩
    · obtain ⟨proper, same⟩ := decl symbol isDecl
      refine ⟨proper_of_global (proper.around fun _ => id) fun global isGlobal sameGlobal => ?_, same⟩
      obtain rfl : node = global.node := SymbolId.node.inj (same.symm.trans sameGlobal)
      exact foreseen.introduced global isGlobal symbol isDecl

end Sees

/-! ### The order in which globals are finished -/

/-- Whether the item is a global without a written type at the node. -/
def isUntypedAt (node : NodeId) (item : Item) : Bool :=
  (global? item).any (·.form.isNone) && item.span.node = node

/-- The untyped globals among the items in the order of their nodes. -/
def finished (items : List Item) (order : List NodeId) : List Item :=
  order.filterMap fun node => items.find? (isUntypedAt node)

section Finished

variable {items : List Item} {order : List NodeId} {item other : Item} {node : NodeId}

theorem isUntypedAt_iff :
    isUntypedAt node item = true ↔ Declare.IsUntyped item ∧ item.span.node = node := by
  unfold isUntypedAt Declare.IsUntyped
  simp [Option.any_eq_true]

theorem of_find?_untyped (found : items.find? (isUntypedAt node) = some item) :
    item ∈ items ∧ Declare.IsUntyped item ∧ item.span.node = node :=
  ⟨List.mem_of_find?_eq_some found, isUntypedAt_iff.mp (List.find?_some found)⟩

variable (distinct : (items.flatMap Item.sites).Nodup)

include distinct

/-- An untyped global is the one at its node. -/
theorem find?_isUntypedAt (isItem : item ∈ items) (untyped : Declare.IsUntyped item) :
    items.find? (isUntypedAt item.span.node) = some item := by
  have isSome : (items.find? (isUntypedAt item.span.node)).isSome :=
    List.find?_isSome.mpr ⟨item, isItem, isUntypedAt_iff.mpr ⟨untyped, rfl⟩⟩
  obtain ⟨other, found⟩ := Option.isSome_iff_exists.mp isSome
  obtain ⟨isOther, untypedOther, same⟩ := of_find?_untyped found
  have inSites {item : Item} (untyped : Declare.IsUntyped item) : item.span.node ∈ item.sites :=
    Plan.node_mem_sites (Plan.isSome_of_untyped untyped)
  rw [found, Item.eq_of_mem_nodes distinct isOther isItem (inSites untypedOther)
    (same ▸ inSites untyped)]

/-- The untyped globals whose nodes are in the order are there. -/
theorem mem_finished : item ∈ finished items order ↔
    item ∈ items ∧ Declare.IsUntyped item ∧ item.span.node ∈ order := by
  unfold finished
  rw [List.mem_filterMap]
  constructor
  · rintro ⟨node, isNode, found⟩
    obtain ⟨isItem, untyped, rfl⟩ := of_find?_untyped found
    exact ⟨isItem, untyped, isNode⟩
  · rintro ⟨isItem, untyped, isNode⟩
    exact ⟨_, isNode, find?_isUntypedAt distinct isItem untyped⟩

/-- What is finished behind all that it needs is scheduled behind it. -/
theorem scheduled_finished {needs : Item -> Item -> Prop}
    (precedes : ∀ one ∈ items, ∀ other, Declare.IsUntyped one → needs one other →
      other ∈ items ∧ Declare.IsUntyped other ∧ Precedes order one.span.node other.span.node) :
    Scheduled needs (finished items order) := by
  -- the nodes that are left are always the ones that came before
  have behind (rest : List NodeId) (isSuffix : rest <:+ order) :
      Scheduled needs (finished items rest) := by
    induction rest with
    | nil => trivial
    | cons node rest inductionHypothesis =>
      have scheduled := inductionHypothesis ((List.suffix_cons node rest).trans isSuffix)
      unfold finished at scheduled ⊢
      rw [List.filterMap_cons]
      cases found : items.find? (isUntypedAt node) with
      | none => exact scheduled
      | some one =>
        obtain ⟨isOne, untyped, rfl⟩ := of_find?_untyped found
        refine ⟨fun other needed => ?_, scheduled⟩
        obtain ⟨isOther, untypedOther, precedes⟩ := precedes one isOne other untyped needed
        exact (mem_finished distinct).mpr ⟨isOther, untypedOther, precedes.behind rest isSuffix⟩
  exact behind order (List.suffix_refl _)

end Finished

theorem nodup_finished {items : List Item} {order : List NodeId} (once : order.Nodup) :
    (finished items order).Nodup := by
  refine once.filterMap fun node other item isItem isOther => ?_
  rw [← (of_find?_untyped isItem).2.2, (of_find?_untyped isOther).2.2]

/-! ### The plan -/

section Accepted

variable {unit : Module} {options : Options}

/-- What a value needs it mentions. -/
theorem mentions_of_needs {base : Session} {items : List Item} (isUnit : base.items = items)
    {one other : Item} (isOne : one ∈ items) {global last : Global}
    (declares : global? one = some global) (declaresLast : global? other = some last)
    (needs : Needs items (fresh base) one other) : Mentions base global last := by
  obtain ⟨isOther, -, symbol, ⟨node, isName, found⟩, same⟩ := needs
  subst isUnit
  refine ⟨List.mem_filterMap.mpr ⟨other, isOther, declaresLast⟩, node,
    ⟨List.mem_filterMap.mpr ⟨one, isOne, declares⟩, ?_⟩, symbol, found, ?_⟩
  · obtain ⟨value, isValue, isName⟩ := List.mem_flatMap.mp isName
    refine ⟨value, ?_, isName⟩
    cases one <;> cases declares <;> exact Option.mem_toList.mp isValue
  · rw [same, node_of_global declaresLast]

/-- The nodes of globals in an order in which they can be finished. -/
structure Finishing (items : List Item) (base : Session) (order : List NodeId) : Prop where
  once : order.Nodup
  all : ∀ global ∈ globals items, global.node ∈ order
  precedes : ∀ one other, Mentions base one other → other.form = none →
    Precedes order one.node other.node

/-- The plan for globals that can be finished in an order. -/
def Finishing.plan {base : Session} {order : List NodeId}
    (finishing : Finishing unit.items base order)
    (distinct : (unit.items.flatMap Item.sites).Nodup) (prepared : Prepared unit base)
    (presented : Resolve.Presented unit.items base) (foreseen : Foreseen unit.items base)
    (housed : Housed (· ∈ unit.items.flatMap Item.ownNode) unit.items base) : Plan where
  declared node := node ∈ unit.items.flatMap Item.ownNode
  items := unit.items
  schedule := finished unit.items order
  base := fresh base
  distinct := distinct
  spread := spread_of_nodup distinct
  enclosed item isItem :=
    (foreseen.enclosed (spread_of_nodup distinct) housed prepared.untyped isItem).showsAs ⟨rfl⟩
  introduced global isGlobal := by
    obtain ⟨item, isItem, declares⟩ := List.mem_filterMap.mp isGlobal
    have declared := prepared.declared item isItem (header?_of_global declares)
    obtain ⟨symbol, found⟩ := Option.isSome_iff_exists.mp declared
    rw [node_of_global declares] at found
    exact ⟨symbol, found, prepared.settles _ symbol found⟩
  blank item isItem untyped := by
    obtain ⟨global, declares, none⟩ := untyped
    rw [node_of_global declares]
    exact presented.untyped global (List.mem_filterMap.mpr ⟨item, isItem, declares⟩) none
  signed global isGlobal form isForm := by
    obtain ⟨item, isItem, declares⟩ := List.mem_filterMap.mp isGlobal
    have declared := prepared.declared item isItem (header?_of_global declares)
    rw [node_of_global declares] at declared
    exact foreseen.signed global isGlobal declared form isForm
  unchecked := rfl
  scheduled := by
    refine scheduled_finished distinct fun one isOne other untyped needs => ?_
    obtain ⟨global, declares, -⟩ := untyped
    obtain ⟨last, declaresLast, none⟩ := needs.untyped
    refine ⟨needs.member, needs.untyped, ?_⟩
    rw [node_of_global declares, node_of_global declaresLast]
    exact finishing.precedes global last
      (mentions_of_needs prepared.items isOne declares declaresLast needs) none
  once := nodup_finished finishing.once
  covers item := by
    rw [mem_finished distinct]
    refine ⟨fun ⟨isItem, untyped, _⟩ => ⟨isItem, untyped⟩, fun ⟨isItem, untyped⟩ =>
      ⟨isItem, untyped, ?_⟩⟩
    obtain ⟨global, declares, -⟩ := untyped
    rw [node_of_global declares]
    exact finishing.all global (List.mem_filterMap.mpr ⟨item, isItem, declares⟩)

/-- Where a check ends quiet, typing has finished all globals in such an order. -/
theorem finishing_ahead (distinct : (unit.items.flatMap Item.sites).Nodup)
    (quiet : (Session.check (some unit) options).Quiet) :
    Finishing unit.items (.ahead (some unit) options .typeCheck)
      ((Session.ahead (some unit) options .typeCheck).after walk).checked := by
  obtain ⟨once, precedes⟩ := precedes_ahead distinct quiet
  refine ⟨once, fun global isGlobal => mem_checked_walk ?_, precedes⟩
  rwa [items_ahead (some unit) options .typeCheck]

/-- There is a plan for the globals of a unit whose check ends quiet. -/
theorem exists_plan_ahead (distinct : (unit.items.flatMap Item.sites).Nodup)
    (quiet : (Session.check (some unit) options).Quiet) :
    ∃ plan : Plan, plan.items = unit.items ∧
      plan.base = fresh (.ahead (some unit) options .typeCheck) := by
  have presented := (setting_ahead distinct options).1.presented
  rw [items_ahead (some unit) options .typeCheck] at presented
  exact ⟨(finishing_ahead distinct quiet).plan distinct (prepared_ahead quiet).1 presented
    (foreseen_ahead distinct options) (housed_ahead distinct options).2, rfl, rfl⟩

end Accepted

end Typing
end UnitCheck
