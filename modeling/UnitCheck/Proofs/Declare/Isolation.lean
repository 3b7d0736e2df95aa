import UnitCheck.Proofs.Declare.Lockstep
import UnitCheck.Proofs.Resolve.Binding
import UnitCheck.Proofs.Session.Itemwise

/-!
# Declaring looks at no body

Of a function with a body and one without, the first pass makes the same. Units that
differ in bodies only are therefore declared in step: the pass says the same of both, and
it leaves housed sessions behind that look alike from every item.
-/

namespace UnitCheck

namespace Item

/-- The item without its body. -/
def bare : Item -> Item
  | .function decl => .function { decl with body := none }
  | other => other

@[simp] theorem span_bare (item : Item) : item.bare.span = item.span := by
  cases item <;> rfl

@[simp] theorem ownNode_bare (item : Item) : item.bare.ownNode = item.ownNode := by
  cases item <;> rfl

@[simp] theorem forms_bare (item : Item) : item.bare.forms = item.forms := by
  cases item <;> rfl

/-- The nodes of an item that the first pass writes to. -/
def outer (item : Item) : List NodeId := item.ownNode ++ item.forms.flatMap TypeForm.nodes

@[simp] theorem outer_bare (item : Item) : item.bare.outer = item.outer := by
  simp [outer]

end Item

namespace Declare

/-- What is pending, without its body. -/
def Pending.bare (pending : Pending) : Pending := { pending with item := pending.item.bare }

/-! ### What declaring does not see -/

/-- A change of items that is not seen where they are declared. -/
structure Unseen (change : Item -> Item) : Prop where
  header : ∀ item, header? (change item) = header? item
  span : ∀ item header, header? item = some header → (change item).span = item.span
  symbol : ∀ item header, header? item = some header →
    ∀ name, symbolOf (change item) header name = symbolOf item header name
  aliased : ∀ item decl, change item = .typeAlias decl ↔ item = .typeAlias decl
  struct : ∀ item decl, change item = .struct decl ↔ item = .struct decl
  define : ∀ symbol item, defineType ⟨symbol, change item⟩ = defineType ⟨symbol, item⟩
  resolve : ∀ symbol item, resolveSignature ⟨symbol, change item⟩ = resolveSignature ⟨symbol, item⟩

/-- What is pending, with its item changed. -/
def Pending.change (change : Item -> Item) (pending : Pending) : Pending :=
  { pending with item := change pending.item }

section Unseen

variable {change : Item -> Item} (unseen : Unseen change)

include unseen

theorem declareGlobal_change {item : Item} {header : Header}
    (declares : header? item = some header) : declareGlobal (change item) header =
      Option.map (Pending.change change) <$> declareGlobal item header := by
  have introduces (symbol : Symbol) : introduce (change item) symbol = introduce item symbol := by
    unfold introduce
    rw [unseen.span item header declares]
  unfold declareGlobal
  cases header.name with
  | none =>
    simp only [unseen.span item header declares, map_bind, map_pure, Option.map_none]
  | some name =>
    simp only [unseen.symbol item header declares, introduces, unseen.span item header declares]
    split
    · simp only [map_bind, map_pure, Option.map_none]
    · simp only [map_bind]
      refine bind_congr fun session => ?_
      split
      · simp only [map_bind, map_pure, Option.map_none]
      · simp only [map_pure, Option.map_none]
      · simp only [map_bind, map_pure, Option.map_some, Pending.change]

omit unseen in
theorem collectItem_of_header {item : Item} {header : Header}
    (declares : header? item = some header) (entry : Option Span) :
    collectItem entry item = (do return (entry, <- declareGlobal item header)) := by
  cases item <;> cases declares <;> rfl

/-- Collecting an item that is declared does not see the change. -/
theorem collectItem_change {item : Item} {header : Header} (declares : header? item = some header)
    (entry : Option Span) : collectItem entry (change item) =
      Prod.map id (Option.map (Pending.change change)) <$> collectItem entry item := by
  rw [collectItem_of_header declares,
    collectItem_of_header ((unseen.header item).trans declares)]
  simp only [declareGlobal_change unseen declares, bind_map_left, map_bind, map_pure, Prod.map, id]

theorem resolveSignatures_change (pending : List Pending) :
    resolveSignatures (pending.map (Pending.change change)) = resolveSignatures pending := by
  have sameAliases : aliases (pending.map (Pending.change change)) = aliases pending := by
    unfold aliases
    rw [List.filterMap_map]
    refine List.filterMap_congr fun ⟨symbol, item⟩ _ => ?_
    have same := unseen.aliased item
    simp only [Function.comp, Pending.change]
    split
    · rename_i decl isAlias
      rw [(same decl).mp isAlias]
    · rename_i notAlias
      cases item with
      | typeAlias decl => exact (notAlias decl ((same decl).mpr rfl)).elim
      | _ => rfl
  have sameCut : cutRecursion (pending.map (Pending.change change)) = cutRecursion pending := by
    unfold cutRecursion
    rw [List.foldlM_map, List.length_map]
    congr 2
    funext done ⟨symbol, item⟩
    have same := unseen.struct item
    simp only [Pending.change]
    split
    · rename_i decl isStruct
      rw [(same decl).mp isStruct]
    · rename_i notStruct
      cases item with
      | struct decl => exact (notStruct decl ((same decl).mpr rfl)).elim
      | _ => rfl
  have each (visit : Pending -> Check Unit)
      (same : ∀ entry, visit (entry.change change) = visit entry) :
      (pending.map (Pending.change change)).forM visit = pending.forM visit := by
    have mapped : (pending.map (Pending.change change)).forM visit =
        pending.forM (visit ∘ Pending.change change) := List.forM_map (m := Check) (f := visit)
    have unchanged : visit ∘ Pending.change change = visit := funext same
    rw [mapped, unchanged]
  unfold resolveSignatures
  rw [sameAliases, each _ fun entry => unseen.define entry.symbol entry.item,
    each _ fun entry => unseen.resolve entry.symbol entry.item, sameCut]

end Unseen

/-! ### Declaring without bodies -/

theorem unseen_bare : Unseen Item.bare where
  header item := by
    cases item <;> rfl
  span item _ _ := item.span_bare
  symbol item _ _ _ := by
    cases item <;> rfl
  aliased item _ := by
    cases item <;> simp [Item.bare]
  struct item _ := by
    cases item <;> simp [Item.bare]
  define _ item := by
    cases item <;> rfl
  resolve _ item := by
    cases item <;> rfl

theorem collectItem_bare (entry : Option Span) (item : Item) :
    collectItem entry item.bare =
      (fun found => (found.1, found.2.map Pending.bare)) <$> collectItem entry item := by
  cases item with
  | entry decl =>
    simp only [Item.bare, collectItem]
    cases entry with
    | none => simp only [map_pure, Option.map_none]
    | some first => simp only [map_bind, map_pure, Option.map_none]
  | stray stmt =>
    simp only [Item.bare]
    cases stmt <;> simp only [collectItem, map_bind, map_pure, Option.map_none]
  | _ => exact collectItem_change unseen_bare rfl entry

theorem collect_bare (items : List Item) (entry : Option Span) :
    collect entry (items.map Item.bare) =
      (fun pending => pending.map Pending.bare) <$> collect entry items := by
  induction items generalizing entry with
  | nil => rfl
  | cons item rest inductionHypothesis =>
    rw [List.map_cons]
    simp only [collect, collectItem_bare, inductionHypothesis, bind_map_left, map_bind, map_pure,
      List.map_append, Option.toList_map]

/-- The walk of the first pass over items. -/
def walkOver (items : List Item) : Check Unit := do
  declareIntrinsics 0 intrinsics
  resolveSignatures (<- collect none items)

theorem walkOver_bare (items : List Item) : walkOver (items.map Item.bare) = walkOver items := by
  unfold walkOver
  have same (pending : List Pending) :
      resolveSignatures (pending.map Pending.bare) = resolveSignatures pending :=
    resolveSignatures_change unseen_bare pending
  simp only [collect_bare, bind_map_left, same]

/-- The walk does not look beyond its items, and these not at their bodies. -/
theorem after_walk (session : Session) :
    session.after walk = session.after (walkOver (session.items.map Item.bare)) := by
  have items : (session.after (declareIntrinsics 0 intrinsics)).items = session.items :=
    (obeys_declareIntrinsics mayDeclare_free.mayCollect 0 intrinsics session trivial).items
  rw [walkOver_bare]
  unfold Session.after at items ⊢
  unfold walk walkOver
  simp only [StateT.run_bind, StateT.run_get, pure_bind]
  rw [← items]
  rfl

/-! ### Declaring in step -/

/-- What declaring some items looks at and meets: everything, and their declarations. It
writes to their nodes and signatures. -/
def signatures (items : List Item) : Outlook where
  inside _ := True
  visible node := node ∈ items.flatMap Item.ownNode
  owns node := node ∈ items.flatMap Item.outer
  steady _ := True
  inside_of_visible _ _ := trivial
  inside_of_owns _ _ := trivial
  steady_of_owns _ _ := trivial

variable {items : List Item} {first second : Session}

theorem owned_of_mem {item : Item} (isItem : item ∈ items) (declares : item.ownNode ≠ []) :
    Owned (signatures items) item := by
  have isOwn : item.span.node ∈ item.ownNode := by
    cases item <;> simp [Item.ownNode] at declares ⊢
  refine ⟨List.mem_flatMap.mpr ⟨item, isItem, isOwn⟩, ?_, fun node isNode => ?_,
    fun _ _ _ _ => trivial⟩
  · exact List.mem_flatMap.mpr ⟨item, isItem, List.mem_append_left _ isOwn⟩
  · exact List.mem_flatMap.mpr ⟨item, isItem, List.mem_append_right _ isNode⟩

theorem mayDeclareAlike_since (outlook : Outlook) (first second : Session) :
    MayDeclareAlike (Pairing.since outlook first second) where
  global symbol since proper :=
    ⟨since.agree.global symbol, since.enclosed.global proper, since.checked, since.spared,
      since.sparedOther, since.found.act _⟩
  builtin number known since within := by
    have learnt (session : Session) (node : NodeId) :
        (Act.apply session (.knows (.builtin number) known)).knownOf (.node node) =
          session.knownOf (.node node) := by
      rw [Act.knownOf_apply, if_neg]
      simp [Act.subject?]
    refine ⟨since.agree.builtin number known, since.enclosed.builtin number within, since.checked,
      fun node apart => ?_, fun node apart => ?_, since.found.act _⟩
    · rw [learnt]
      exact since.spared node apart
    · rw [learnt]
      exact since.sparedOther node apart

/-- Declaring the same items stays in step. -/
theorem steps_walkOver (first second : Session) :
    (Pairing.since (signatures items) first second).Steps (walkOver items) fun _ => True := by
  have may := mayDeclareAlike_since (signatures items) first second
  refine .bind (steps_declareIntrinsics may 0 intrinsics (fun _ => id) fun _ _ => trivial)
    fun _ _ => .bind (steps_collect may items (fun item isItem => owned_of_mem isItem) none)
      fun pending owned => steps_resolveSignatures (fun node visible => ?_) pending owned
  obtain ⟨item, isItem, isOwn⟩ := List.mem_flatMap.mp visible
  exact List.mem_flatMap.mpr ⟨item, isItem, List.mem_append_left _ isOwn⟩

variable {unit unitOther : Module} {options : Options} {base other : Session}

/-- At the start nothing is known. -/
theorem agree_start (start : (Session.start (some unit) options).Alike base)
    (startOther : (Session.start (some unitOther) options).Alike other)
    (file : unit.file = unitOther.file) (outlook : Outlook) : Agree outlook base other := by
  have same : Agree outlook (Session.start (some unit) options)
      (Session.start (some unitOther) options) :=
    ⟨file, rfl, fun _ _ _ => rfl, rfl, rfl, fun _ _ => rfl, fun _ _ => rfl⟩
  exact same.showsAs start.showsAs startOther.showsAs

theorem enclosed_start (start : (Session.start (some unit) options).Alike base)
    (outlook : Outlook) : Enclosed outlook base := by
  have nothing {α : Type} {property : α -> Prop} : ∀ value ∈ (none : Option α), property value :=
    fun _ impossible => by cases impossible
  have enclosed : Enclosed outlook (Session.start (some unit) options) :=
    ⟨List.forall_mem_nil _, List.forall_mem_nil _, fun _ _ => ⟨nothing, List.forall_mem_nil _⟩,
      fun _ _ => ⟨nothing, nothing, nothing, nothing, List.forall_mem_nil _, nothing⟩⟩
  exact enclosed.showsAs start.showsAs

/-- Units that differ in bodies only are declared in step. -/
theorem since_walk (start : (Session.start (some unit) options).Alike base)
    (startOther : (Session.start (some unitOther) options).Alike other)
    (file : unit.file = unitOther.file)
    (same : unit.items.map Item.bare = unitOther.items.map Item.bare) :
    Since (signatures unit.items) base other (base.after walk) (other.after walk) := by
  have bare : signatures (unit.items.map Item.bare) = signatures unit.items := by
    unfold signatures
    simp only [List.flatMap_map, Item.ownNode_bare, Item.outer_bare]
  have checked : base.checked = other.checked := by
    rw [start.same, startOther.same]
    rfl
  have items : base.items = unit.items := start.items
  have itemsOther : other.items = unitOther.items := startOther.items
  rw [after_walk, after_walk, ← bare, items, itemsOther, ← same]
  exact (steps_walkOver _ _ _ _ (.start (agree_start start startOther file _)
    (enclosed_start start _) checked)).2.2

/-- No signature lies where an item declares its locals. -/
theorem not_outer_of_local (distinct : (unit.items.flatMap Item.sites).Nodup) {item : Item}
    (isItem : item ∈ unit.items) {node : NodeId} (isLocal : node ∈ item.locals) :
    node ∉ unit.items.flatMap Item.outer := by
  intro isOuter
  obtain ⟨other, isOther, isOuter⟩ := List.mem_flatMap.mp isOuter
  have isInner := item.locals_subset_inner isLocal
  have inItem : node ∈ item.sites := by
    rw [Item.sites_eq]
    exact List.mem_append_right _ isInner
  have inOther : node ∈ other.sites := by
    unfold Item.outer at isOuter
    unfold Item.sites
    simp only [List.mem_append] at isOuter ⊢
    tauto
  cases Item.eq_of_mem_nodes distinct isItem isOther inItem inOther
  obtain isOwn | isForm := List.mem_append.mp isOuter
  · exact (spread_of_nodup distinct).apart item isItem node isInner
      (List.mem_flatMap.mpr ⟨item, isItem, isOwn⟩)
  · have own := Item.nodup_sites_of_mem distinct isItem
    unfold Item.sites at own
    refine (List.nodup_append.mp own).2.2 node ?_ node isForm rfl
    have isSite := Item.mem_of_local isLocal
    simp only [List.mem_append] at isSite ⊢
    tauto

/-- What is known after declaring a unit mentions its declarations only. -/
theorem enclosed_walk (start : (Session.start (some unit) options).Alike base)
    {inner locals : List NodeId} {within : locals ⊆ inner}
    (fresh : ∀ node ∈ locals, node ∉ unit.items.flatMap Item.outer) :
    Enclosed (.around (· ∈ unit.items.flatMap Item.ownNode) inner locals within)
      (base.after walk) := by
  have since := since_walk start start rfl rfl
  have visible (node : NodeId) (met : (signatures unit.items).visible node) :
      node ∈ unit.items.flatMap Item.ownNode ∨ node ∈ locals := .inl met
  refine ⟨fun symbol isGlobal => (since.enclosed.globals symbol isGlobal).around visible,
    fun symbol isLocal => (since.enclosed.locals symbol isLocal).around visible,
    fun id met => ?_, fun node _ => ?_⟩
  · cases id with
    | builtin number => exact (since.enclosed.known (.builtin number) trivial).mono visible
    | node node =>
      obtain isDeclared | isLocal := met
      · exact (since.enclosed.known (.node node) isDeclared).mono visible
      · rw [(since.spared node (fresh node isLocal)).2]
        have nothing := enclosed_start start
          (.around (· ∈ unit.items.flatMap Item.ownNode) inner locals within)
        exact nothing.known (.node node) (.inr isLocal)
  · exact (since.enclosed.entries node trivial).mono visible
      (fun symbol proper => proper.around visible) fun _ _ => trivial

/-- The first pass leaves a housed session behind. -/
theorem housed_walk (distinct : (unit.items.flatMap Item.sites).Nodup)
    (start : (Session.start (some unit) options).Alike base) :
    Housed (· ∈ unit.items.flatMap Item.ownNode) unit.items (base.after walk) := by
  have outside : Lexical.Outside unit.items base := by
    rw [start.same]
    exact ⟨rfl, rfl, fun _ _ => rfl⟩
  have table := (Lexical.outside_after_declare outside).table
  refine ⟨?_, ?_, enclosed_walk start (List.forall_mem_nil _), fun item isItem =>
    enclosed_walk start fun node isLocal => not_outer_of_local distinct isItem isLocal⟩
  · rw [table]
    rfl
  · rw [table]
    rfl

/-- Of units that differ in bodies only the first pass says the same, and behind it they
look alike from everywhere. -/
theorem lookAlike_walk (start : (Session.start (some unit) options).Alike base)
    (startOther : (Session.start (some unitOther) options).Alike other)
    (sameFile : unit.file = unitOther.file)
    (same : unit.items.map Item.bare = unitOther.items.map Item.bare) (items : List Item) :
    LookAlike (· ∈ unit.items.flatMap Item.ownNode) items (base.after walk) (other.after walk) ∧
      base.finds walk = other.finds walk := by
  obtain ⟨agree, -, -, -, -, found⟩ := since_walk start startOther sameFile same
  have everywhere (outlook : Outlook) : Agree outlook (base.after walk) (other.after walk) :=
    ⟨agree.file, agree.options, fun space name _ => agree.globals space name fun _ => trivial,
      agree.locals, agree.frames, fun id _ => agree.known id trivial,
      fun node _ => agree.entries node trivial⟩
  exact ⟨⟨everywhere _, fun _ _ => everywhere _⟩, found.finds_eq.1⟩

end Declare
end UnitCheck
