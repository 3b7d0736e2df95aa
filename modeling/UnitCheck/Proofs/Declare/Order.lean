import UnitCheck.Proofs.Declare.AliasOrder
import UnitCheck.Proofs.Declare.Founded
import UnitCheck.Proofs.Declare.Gathering
import UnitCheck.Proofs.Declare.Isolation
import Mathlib.Tactic.Choose

/-!
# Declarations may come in any order

Every step of the first pass goes over what is pending, and what it does for one global is
written down in a script that keeps to the item of the global. Where nothing fatal is found,
the scripts do not depend on the order of the items, so the pass declares the same in any
order. Structs are the exception: the search for one that holds itself has no script, but
where it is quiet it has found none and cuts nothing.
-/

namespace UnitCheck.Declare

/-- The globals that some items make pending. -/
def pendings (items : List Item) : List Pending := items.filterMap pendingOf?

variable {items others : List Item} {pending : Pending}

/-! ### What is pending -/

theorem mem_pendings : pending ∈ pendings items ↔ ∃ item ∈ items, pendingOf? item = some pending :=
  List.mem_filterMap

/-- What makes a global pending. -/
structure Pending.Of (pending : Pending) (origin : Item) : Prop where
  item : pending.item = origin
  id : pending.symbol.id = .node origin.span.node
  own : origin.ownNode = [origin.span.node]
  kind : ∀ header ∈ header? origin, pending.symbol.kind = symbolKind header.kind

theorem of_pendingOf? {item : Item} (isPending : pendingOf? item = some pending) :
    pending.Of item := by
  unfold pendingOf? at isPending
  obtain ⟨header, declares, rest⟩ := Option.bind_eq_some_iff.mp isPending
  obtain ⟨name, -, same⟩ := Option.bind_eq_some_iff.mp rest
  cases same
  refine ⟨rfl, id_symbolOf item header name, ?_, ?_⟩
  · cases item <;> first | rfl | cases declares
  · intro other isOther
    rw [declares] at isOther
    cases isOther
    cases item <;> rfl

theorem of_mem_pendings (isPending : pending ∈ pendings items) :
    pending.item ∈ items ∧ pendingOf? pending.item = some pending ∧ pending.Of pending.item := by
  obtain ⟨item, isItem, found⟩ := mem_pendings.mp isPending
  have isOf := of_pendingOf? found
  obtain rfl := isOf.item
  exact ⟨isItem, found, isOf⟩

section Distinct

variable (distinct : (items.flatMap Item.sites).Nodup)

include distinct

/-- One node makes at most one global pending. -/
theorem eq_of_same_node {one other : Pending} (isOne : one ∈ pendings items)
    (isOther : other ∈ pendings items) {node : NodeId} (inOne : node ∈ one.item.sites)
    (inOther : node ∈ other.item.sites) : one = other := by
  obtain ⟨isItem, found, -⟩ := of_mem_pendings isOne
  obtain ⟨isOtherItem, foundOther, -⟩ := of_mem_pendings isOther
  have same := Item.eq_of_mem_nodes distinct isItem isOtherItem inOne inOther
  rw [same] at found
  exact Option.some.inj (found.symm.trans foundOther)

omit distinct in
theorem node_mem_sites (isPending : pending ∈ pendings items) :
    pending.item.span.node ∈ pending.item.sites := by
  have own := (of_mem_pendings isPending).2.2.own
  rw [Item.sites_eq, own]
  exact List.mem_cons_self

/-- One identity belongs to at most one global that is pending. -/
theorem eq_of_same_id {one other : Pending} (isOne : one ∈ pendings items)
    (isOther : other ∈ pendings items) (same : one.symbol.id = other.symbol.id) : one = other := by
  rw [(of_mem_pendings isOne).2.2.id, (of_mem_pendings isOther).2.2.id] at same
  have sameNode : one.item.span.node = other.item.span.node := by
    injection same
  refine eq_of_same_node distinct isOne isOther (node_mem_sites isOne) ?_
  rw [sameNode]
  exact node_mem_sites isOther

theorem nodup_ids : ((pendings items).map (·.symbol.id)).Nodup := by
  have sublist (items : List Item) :
      ((pendings items).map (·.item.span.node)).Sublist (items.flatMap Item.sites) := by
    induction items with
    | nil => exact List.Sublist.refl _
    | cons item rest inductionHypothesis =>
      unfold pendings at inductionHypothesis ⊢
      rw [List.flatMap_cons]
      cases found : pendingOf? item with
      | none =>
        rw [List.filterMap_cons_none found]
        exact inductionHypothesis.trans (List.sublist_append_right _ _)
      | some pending =>
        rw [List.filterMap_cons_some found, List.map_cons]
        have isOf := of_pendingOf? found
        have isSite : [pending.item.span.node].Sublist item.sites := by
          rw [Item.sites_eq, isOf.own, isOf.item]
          exact List.sublist_append_left _ _
        exact isSite.append inductionHypothesis
  have ids : (pendings items).map (·.symbol.id) =
      ((pendings items).map (·.item.span.node)).map SymbolId.node := by
    rw [List.map_map]
    exact List.map_congr_left fun pending isPending => (of_mem_pendings isPending).2.2.id
  rw [ids]
  exact (distinct.sublist (sublist items)).map fun _ _ same => by injection same

theorem nodup_aliasIds : (aliasIds (aliases (pendings items))).Nodup := by
  have sublist (list : List Pending) :
      (aliasIds (aliases list)).Sublist (list.map (·.symbol.id)) := by
    induction list with
    | nil => exact List.Sublist.refl _
    | cons pending rest inductionHypothesis =>
      unfold aliases at inductionHypothesis ⊢
      rw [List.filterMap_cons, List.map_cons]
      split
      · exact inductionHypothesis.cons _
      · rename_i found
        split at found
        · cases found
          exact inductionHypothesis.cons_cons _
        · cases found
  exact (nodup_ids distinct).sublist (sublist _)

end Distinct

/-- A list in which at most one member is looked for gives it up in any order. -/
theorem find?_perm {α : Type} {list other : List α} {looked : α -> Bool} (perm : list.Perm other)
    (single : ∀ one ∈ list, ∀ another ∈ list, looked one = true → looked another = true →
      one = another) : list.find? looked = other.find? looked := by
  cases found : list.find? looked with
  | none =>
    refine (List.find?_eq_none.mpr fun value isValue => ?_).symm
    exact List.find?_eq_none.mp found value (perm.mem_iff.mpr isValue)
  | some value =>
    have isValue := List.mem_of_find?_eq_some found
    have isLooked : looked value = true := List.find?_some found
    obtain ⟨another, foundOther⟩ := Option.isSome_iff_exists.mp
      (List.find?_isSome.mpr ⟨value, perm.mem_iff.mp isValue, isLooked⟩)
    have isAnother := perm.mem_iff.mpr (List.mem_of_find?_eq_some foundOther)
    rw [foundOther, single value isValue another isAnother isLooked (List.find?_some foundOther)]

theorem mem_aliases {pending : List Pending} {entry : DeclaredAlias} :
    entry ∈ aliases pending ↔
      ∃ other ∈ pending, other.symbol = entry.symbol ∧ other.item = .typeAlias entry.decl := by
  unfold aliases
  rw [List.mem_filterMap]
  constructor
  · rintro ⟨other, isPending, found⟩
    split at found
    · rename_i decl isItem
      cases found
      exact ⟨other, isPending, rfl, isItem⟩
    · cases found
  · rintro ⟨other, isPending, same, isItem⟩
    refine ⟨other, isPending, ?_⟩
    rw [isItem, same]

/-! ### Collecting -/

/-- A session in which these items are declared. -/
structure Registered (items : List Item) (session : Session) : Prop where
  symbols : ∀ symbol ∈ session.table.globals, symbol.isType = true →
    ∃ pending ∈ pendings items, pending.symbol = symbol
  locals : session.table.locals = []

/-- What stands for a type is a global that was pending. -/
theorem Registered.resolveType? {session : Session} (registered : Registered items session)
    {name : String} {symbol : Symbol} (found : session.table.resolveType? name = some symbol) :
    symbol.isType = true ∧ ∃ pending ∈ pendings items, pending.symbol = symbol := by
  have isType := isType_of_resolveType? found
  refine ⟨isType, registered.symbols symbol ?_ isType⟩
  unfold Table.resolveType? at found
  rw [registered.locals] at found
  exact List.mem_of_find?_eq_some found

theorem Registered.of_table {before after : Session} (registered : Registered items before)
    (table : after.table = before.table) : Registered items after := by
  obtain ⟨symbols, locals⟩ := registered
  exact ⟨table ▸ symbols, table ▸ locals⟩

/-- Declaring an item keeps to its own node. -/
theorem inside_gatherActs (item : Item) :
    ∀ act ∈ gatherActs item, act.Inside (· ∈ item.ownNode) := by
  intro act isAct
  unfold gatherActs at isAct
  cases found : pendingOf? item with
  | none => simp [found] at isAct
  | some pending =>
    have isOf := of_pendingOf? found
    have own : item.span.node ∈ item.ownNode := by
      rw [isOf.own]
      exact List.mem_cons_self
    simp only [found, Option.toList_some, List.flatMap_singleton] at isAct
    have never {α : Type} {property : α -> Prop} (value : α) (same : none = some value) :
        property value := by
      cases same
    have subject (id : SymbolId) (same : some pending.symbol.id = some id) :
        ∃ node, node ∈ item.ownNode ∧ id = .node node := by
      cases same
      exact ⟨_, own, isOf.id⟩
    unfold Pending.acts introduceActs at isAct
    rw [isOf.item] at isAct
    cases kind : pending.symbol.kind <;>
      simp only [kind, List.cons_append, List.nil_append, List.mem_cons, List.not_mem_nil,
        or_false] at isAct <;>
      obtain rfl | isAct := isAct <;>
      first
        | exact ⟨never, never⟩
        | (obtain rfl | rfl := isAct <;>
            first
              | exact ⟨never, subject⟩
              | exact ⟨fun _ same => by cases same; exact own, never⟩)
        | (obtain rfl | rfl | rfl := isAct <;>
            first
              | exact ⟨never, subject⟩
              | exact ⟨fun _ same => by cases same; exact own, never⟩)

/-- Declaring items adds what is pending to the table. -/
theorem globals_gathered (items : List Item) :
    (items.flatMap gatherActs).filterMap Act.global? = (pendings items).map (·.symbol) := by
  unfold pendings
  induction items with
  | nil => rfl
  | cons item rest inductionHypothesis =>
    rw [List.flatMap_cons, List.filterMap_append, globals_gatherActs, inductionHypothesis,
      List.filterMap_cons]
    cases pendingOf? item <;> rfl

/-- Declaring items opens no block and declares no local. -/
theorem locals_gathered (items : List Item) (session : Session) :
    (session.replay (items.flatMap gatherActs)).table.locals = session.table.locals ∧
      (session.replay (items.flatMap gatherActs)).table.frames = session.table.frames := by
  have outer : ∀ act ∈ items.flatMap gatherActs, ∀ arena frames, act ≠ .locals arena frames := by
    intro act isAct
    obtain ⟨item, -, isAct⟩ := List.mem_flatMap.mp isAct
    unfold gatherActs at isAct
    obtain ⟨pending, -, isAct⟩ := List.mem_flatMap.mp isAct
    rintro arena frames rfl
    unfold Pending.acts introduceActs at isAct
    cases kind : pending.symbol.kind <;> simp [kind] at isAct
  let view (session : Session) := (session.table.locals, session.table.frames)
  have same : view (session.replay (items.flatMap gatherActs)) = view session := by
    refine (Session.trace_replay outer session).keeps fun act start fine => ?_
    cases act <;> first | rfl | exact absurd rfl (fine _ _)
  exact Prod.mk.inj same

/-- A session ahead of all declarations. -/
structure Opening (session : Session) : Prop where
  symbols : ∀ symbol ∈ session.table.globals, symbol.isType = false
  locals : session.table.locals = []
  unknown : ∀ node, (session.knownOf (.node node)).type = none

/-- Declaring the intrinsics. -/
def intrinsicActs : List Act :=
  intrinsics.zipIdx.flatMap fun entry =>
    [.global (entry.1.symbol entry.2), .knows (entry.1.symbol entry.2).id entry.1.known]

/-- Ahead of all other names those of the intrinsics are free. -/
theorem after_declareIntrinsics {session : Session} (table : session.table = .empty) :
    session.after (declareIntrinsics 0 intrinsics) = session.replay intrinsicActs := by
  obtain ⟨unit, options, _, definitions, known, facts, findings, passes, checked, progress⟩ := session
  cases table
  rfl

/-- Behind the intrinsics no type is declared. -/
theorem opening_declareIntrinsics {unit : Option Module} {options : Options} {base : Session}
    (start : (Session.start unit options).Alike base) :
    Opening (base.after (declareIntrinsics 0 intrinsics)) := by
  rw [after_declareIntrinsics start.table, start.same]
  refine ⟨fun symbol isGlobal => ?_, rfl, fun _ => rfl⟩
  have functions : ∀ symbol ∈ intrinsicActs.filterMap Act.global?, symbol.isType = false := by
    decide
  rw [Session.globals_replay] at isGlobal
  exact functions symbol isGlobal

/-- While a global is declared something is found out about its symbol only, and of an alias
nothing. -/
theorem knows_of_subject {act : Act} {id : SymbolId} (isAct : act ∈ pending.acts)
    (isSubject : act.subject? = some id) : pending.symbol.id = id ∧
      (pending.symbol.kind = .typeAlias → act = .knows id (.ofType none)) := by
  unfold Pending.acts at isAct
  obtain isIntroduced | isLast := List.mem_append.mp isAct
  · obtain rfl | isIntroduced := List.mem_cons.mp isIntroduced
    · cases isSubject
    · unfold introduceActs at isIntroduced
      split at isIntroduced
      all_goals
        rename_i kind
        simp only [List.mem_cons, List.not_mem_nil, or_false] at isIntroduced
      · obtain rfl | rfl := isIntroduced
        · cases isSubject
        · cases isSubject
          exact ⟨rfl, fun isAlias => by rw [kind] at isAlias; cases isAlias⟩
      · obtain rfl | rfl := isIntroduced
        · cases isSubject
        · cases isSubject
          exact ⟨rfl, fun isAlias => by rw [kind] at isAlias; cases isAlias⟩
      · subst isIntroduced
        cases isSubject
        exact ⟨rfl, fun _ => rfl⟩
  · cases List.mem_singleton.mp isLast
    cases isSubject

/-- What is found out about a symbol of an alias while items are declared is nothing. -/
theorem unsettled_gathered {session : Session} {entry : DeclaredAlias}
    (distinct : (items.flatMap Item.sites).Nodup) (isAlias : entry ∈ aliases (pendings items))
    (unknown : (session.knownOf entry.symbol.id).type = none) :
    ((session.replay (items.flatMap gatherActs)).knownOf entry.symbol.id).type = none := by
  obtain ⟨pending, isPending, sameSymbol, isItem⟩ := mem_aliases.mp isAlias
  have fine : ∀ act ∈ items.flatMap gatherActs, act.subject? = some entry.symbol.id →
      act = .knows entry.symbol.id (.ofType none) := by
    intro act isAct isSubject
    obtain ⟨item, isOrigin, isAct⟩ := List.mem_flatMap.mp isAct
    unfold gatherActs at isAct
    obtain ⟨other, isOther, isAct⟩ := List.mem_flatMap.mp isAct
    have found := Option.mem_toList.mp isOther
    have isOtherPending : other ∈ pendings items := mem_pendings.mpr ⟨item, isOrigin, found⟩
    obtain ⟨same, isKnown⟩ := knows_of_subject isAct isSubject
    rw [← sameSymbol] at same
    refine isKnown ?_
    rw [eq_of_same_id distinct isOtherPending isPending same]
    refine (of_mem_pendings isPending).2.2.kind
      ⟨.typeAlias, entry.decl.name, entry.decl.attributes⟩ ?_
    rw [isItem]
    rfl
  let property (session : Session) : Prop := (session.knownOf entry.symbol.id).type = none
  have kept : property session → property (session.replay (items.flatMap gatherActs)) :=
    (Session.trace_replay fine session).preserves ?_
  · exact kept unknown
  intro act start isFine holds
  change ((act.apply start).knownOf entry.symbol.id).type = none
  rw [Act.knownOf_apply]
  split
  · rename_i isSubject
    rw [isFine isSubject]
    rfl
  · exact holds

/-- Items that are declared quietly may come in any order. -/
theorem matches_collect {one other : Session} (matched : one.Matches other)
    (perm : items.Perm others) (distinct : (items.flatMap Item.sites).Nodup)
    (opening : Opening one) (quiet : ((collect none items).run one).2.Quiet) :
    ∃ after afterOther, (collect none items).run one = (pendings items, after) ∧
      (collect none others).run other = (pendings others, afterOther) ∧
      after.Matches afterOther ∧ Registered items after ∧
      (one.replay (items.flatMap gatherActs)).Alike after := by
  have gathers := gathers_of_collect quiet
  have taken : Taken other = Taken one := by
    unfold Taken
    funext place
    rw [matched.names]
  obtain ⟨after, run, alike⟩ := run_collect gathers
  have gathersOther : Gathers none (Taken other) others := taken ▸ gathers.perm perm
  obtain ⟨afterOther, runOther, alikeOther⟩ := run_collect gathersOther
  refine ⟨after, afterOther, run, runOther, ?_, ?_, alike⟩
  · refine Session.Matches.of_alike (matched.replay_perm perm (fun item _ => inside_gatherActs item)
      (fun item isItem other isOther node inItem inOther => ?_) (fun space name => ?_) ?_ ?_) alike
      alikeOther
    · have inItemSites : node ∈ item.sites := by
        rw [Item.sites_eq]
        exact List.mem_append_left _ inItem
      have inOtherSites : node ∈ other.sites := by
        rw [Item.sites_eq]
        exact List.mem_append_left _ inOther
      exact Item.eq_of_mem_nodes distinct isItem isOther inItemSites inOtherSites
    · have same := matched.names space name
      unfold Table.global? at same ⊢
      rw [Session.globals_replay, Session.globals_replay, List.find?_append, List.find?_append,
        globals_gathered, globals_gathered, same]
      congr 1
      refine find?_perm ((perm.filterMap pendingOf?).map _) fun one isOne another isAnother looked
        lookedOther => ?_
      obtain ⟨pending, isPending, rfl⟩ := List.mem_map.mp isOne
      obtain ⟨later, isLater, rfl⟩ := List.mem_map.mp isAnother
      simp only [Bool.and_eq_true, decide_eq_true_eq] at looked lookedOther
      have samePlace : pending.place = later.place := by
        unfold Pending.place
        rw [looked.1, looked.2, lookedOther.1, lookedOther.2]
      rw [List.inj_on_of_nodup_map gathers.distinct isPending isLater samePlace]
    · rw [(locals_gathered _ _).1, (locals_gathered _ _).1, matched.locals]
    · rw [(locals_gathered _ _).2, (locals_gathered _ _).2, matched.frames]
  · refine ⟨fun symbol isGlobal isType => ?_, ?_⟩
    · rw [alike.table, Session.globals_replay, globals_gathered] at isGlobal
      obtain isOld | isNew := List.mem_append.mp isGlobal
      · rw [opening.symbols symbol isOld] at isType
        cases isType
      · obtain ⟨pending, isPending, same⟩ := List.mem_map.mp isNew
        exact ⟨pending, isPending, same⟩
    · rw [alike.table, (locals_gathered _ _).1, opening.locals]

/-! ### What is pending is visited in any order -/

/-- A walk that resolves what one pending global mentions. -/
abbrev pendingRegime (names : Naming) (pending : Pending) : Regime :=
  names.regime Naming.anywhere (· ∈ pending.item.sites) (· = pending.symbol.id)

/-- What is pending can be visited in any order when each visit follows a script that keeps
to its item. -/
theorem matches_visits {visit : Pending -> Check Unit} {one other : Session}
    (matched : one.Matches other) (perm : items.Perm others)
    (distinct : (items.flatMap Item.sites).Nodup)
    (scripted : ∀ pending ∈ pendings items,
      (pendingRegime (.of one) pending).Scripted (visit pending)) :
    (one.after ((pendings items).forM visit)).Matches (other.after ((pendings others).forM visit)) ∧
      (one.after ((pendings items).forM visit)).table = one.table := by
  have script (pending : Pending) : ∃ acts : List Act, pending ∈ pendings items →
      (pendingRegime (.of one) pending).Follows (visit pending) () acts := by
    by_cases isPending : pending ∈ pendings items
    · obtain ⟨_, acts, follows⟩ := scripted pending isPending
      exact ⟨acts, fun _ => follows⟩
    · exact ⟨[], fun impossible => absurd impossible isPending⟩
  choose acts follows using script
  let regime := (Naming.of one).regime Naming.anywhere (fun _ => True) fun _ => True
  have followsAll : ∀ pending ∈ pendings items,
      regime.Follows (visit pending) () (acts pending) := by
    refine fun _ isPending => (follows _ isPending).weaken (fun _ holds => holds) ?_
    intro act permitted
    refine ⟨fun _ _ => trivial, fun id isSubject => ⟨trivial, (permitted.2.1 id isSubject).2⟩, ?_⟩
    have allowed := permitted.2.2
    cases act <;> first | exact allowed | trivial
  have holds : regime.holds one := fun _ _ => ⟨rfl, fun _ _ => rfl⟩
  have holdsOther : regime.holds other := fun name _ =>
    ⟨(matched.resolveType? name).symm, fun symbol _ => (matched.known symbol.id).symm⟩
  have inside : ∀ pending ∈ pendings items, ∀ act ∈ acts pending,
      act.Inside (· ∈ pending.item.sites) := by
    intro pending isPending act isAct
    obtain ⟨site, subject, -⟩ := (follows pending isPending).allowed act isAct
    refine ⟨site, fun id isSubject => ?_⟩
    cases (subject id isSubject).1
    exact ⟨_, node_mem_sites isPending, (of_mem_pendings isPending).2.2.id⟩
  have followed : regime.Follows ((pendings items).forM visit) () ((pendings items).flatMap acts) :=
    .forM (pendings items) followsAll
  have after : one.after ((pendings items).forM visit) =
      one.replay ((pendings items).flatMap acts) := by
    unfold Session.after
    rw [followed.runs one holds]
  refine ⟨matched.forM (perm.filterMap pendingOf?) followsAll inside (fun first isFirst second isSecond
    node inFirst inSecond => eq_of_same_node distinct isFirst isSecond inFirst inSecond)
    (fun _ session permitted => Naming.table_of_allows permitted.2.2 session) holds holdsOther, ?_⟩
  rw [after]
  exact Session.table_replay (fun act isAct session =>
    Naming.table_of_allows (followed.allowed act isAct).2.2 session) one

theorem forms_subset_sites (item : Item) : ∀ node ∈ item.forms.flatMap TypeForm.nodes,
    node ∈ item.sites := by
  intro node isNode
  unfold Item.sites
  exact List.mem_append_right _ isNode

/-- The types that are pending may be defined in any order. -/
theorem matches_defineTypes {one other : Session} (matched : one.Matches other)
    (perm : items.Perm others) (distinct : (items.flatMap Item.sites).Nodup) :
    (one.after ((pendings items).forM defineType)).Matches
        (other.after ((pendings others).forM defineType)) ∧
      (one.after ((pendings items).forM defineType)).table = one.table :=
  matches_visits matched perm distinct fun _ isPending =>
    Naming.scripted_defineType (node_mem_sites isPending) (of_mem_pendings isPending).2.2.id.symm
      (forms_subset_sites _)

/-- The signatures that are pending may be resolved in any order. -/
theorem matches_resolveSignatures {one other : Session} (matched : one.Matches other)
    (perm : items.Perm others) (distinct : (items.flatMap Item.sites).Nodup)
    (registered : Registered items one) :
    (one.after ((pendings items).forM resolveSignature)).Matches
        (other.after ((pendings others).forM resolveSignature)) ∧
      (one.after ((pendings items).forM resolveSignature)).table = one.table := by
  have scripted : ∀ pending ∈ pendings items,
      (pendingRegime (.of one) pending).Scripted (resolveSignature pending) := by
    intro pending isPending
    refine Naming.scripted_resolveSignature (fun isValue => ⟨rfl, ?_⟩)
      (of_mem_pendings isPending).2.2.kind (forms_subset_sites _)
    intro name _ symbol isMeant sameId
    obtain ⟨isType, another, isAnother, rfl⟩ := registered.resolveType? isMeant
    cases eq_of_same_id distinct isAnother isPending sameId
    rw [isValue] at isType
    cases isType
  exact matches_visits matched perm distinct scripted

/-! ### Aliases -/

/-- The nodes of the global with an identity. -/
def territoryOf (items : List Item) (id : SymbolId) (node : NodeId) : Prop :=
  ∃ pending ∈ pendings items, pending.symbol.id = id ∧ node ∈ pending.item.sites

section Aliases

variable {all allOther : List DeclaredAlias} (perm : all.Perm allOther)
  (distinct : (aliasIds all).Nodup) {look : String -> Option Symbol}

include perm distinct

/-- Aliases are found under the same names in any order. -/
theorem aliasOf?_perm (name : String) : aliasOf? all look name = aliasOf? allOther look name := by
  unfold aliasOf?
  congr 1
  funext symbol
  refine find?_perm perm fun one isOne another isAnother looked lookedOther => ?_
  refine List.inj_on_of_nodup_map distinct isOne isAnother ?_
  rw [of_decide_eq_true looked, of_decide_eq_true lookedOther]

/-- A schedule of aliases is one of the same aliases in another order. -/
theorem Searched.reorder {schedule : List SymbolId} (searched : Searched all look [] schedule) :
    Searched allOther look [] schedule := by
  have needs : AliasNeeds allOther look = AliasNeeds all look := by
    funext first second
    unfold AliasNeeds mentioned
    simp only [perm.mem_iff, aliasOf?_perm perm distinct]
  refine ⟨?_, searched.distinct, fun id isScheduled =>
    (perm.map _).mem_iff.mp (searched.inside isScheduled), List.forall_mem_nil _⟩
  rw [needs]
  exact searched.scheduled

end Aliases

/-- Searches that settle all of a schedule settle the same, in whatever order. -/
theorem Reached.perm {start startOther session last : Session} {schedule done doneOther : List SymbolId}
    {type : SymbolId -> Ty} {acts : SymbolId -> List Act}
    (reached : Reached start schedule type acts done session)
    (reachedOther : Reached startOther schedule type acts doneOther last)
    (covered : schedule ⊆ done) (coveredOther : schedule ⊆ doneOther) : done.Perm doneOther :=
  (List.perm_ext_iff_of_nodup reached.distinct reachedOther.distinct).mpr fun _ =>
    ⟨fun isDone => coveredOther (reached.inside isDone),
      fun isDone => covered (reachedOther.inside isDone)⟩

/-- Settling an alias keeps to the nodes of its item. -/
theorem inside_settleActs {look : String -> Option Symbol} {known : SymbolId -> SymbolType}
    {schedule : List SymbolId} {type : SymbolId -> Ty} {acts : SymbolId -> List Act}
    (determines : Determines (aliases (pendings items)) look known schedule type acts)
    {id : SymbolId} (isAlias : id ∈ aliasIds (aliases (pendings items))) (isScheduled : id ∈ schedule) :
    ∀ act ∈ settleActs type acts id, act.Inside (territoryOf items id) := by
  intro act isAct
  obtain ⟨entry, isEntry, rfl⟩ := List.mem_map.mp isAlias
  obtain ⟨pending, isPending, sameSymbol, isItem⟩ := mem_aliases.mp isEntry
  obtain isAct | isLast := List.mem_append.mp isAct
  · obtain ⟨site, subject, -⟩ := (determines entry isEntry isScheduled).allowed act isAct
    refine ⟨fun node isSite => ⟨pending, isPending, by rw [sameSymbol], ?_⟩,
      fun id isSubject => (subject id isSubject).1.elim⟩
    refine forms_subset_sites _ node ?_
    rw [isItem]
    exact site node isSite
  · cases List.mem_singleton.mp isLast
    refine ⟨fun _ impossible => (by cases impossible), ?_⟩
    rintro _ ⟨⟩
    refine ⟨pending.item.span.node, ⟨pending, isPending, by rw [sameSymbol],
      node_mem_sites isPending⟩, ?_⟩
    rw [← sameSymbol]
    exact (of_mem_pendings isPending).2.2.id

/-- Aliases may be resolved in any order. -/
theorem matches_resolveAliases {one other : Session} (matched : one.Matches other)
    (perm : items.Perm others) (distinct : (items.flatMap Item.sites).Nodup)
    (unsettled : ∀ entry ∈ aliases (pendings items), (one.knownOf entry.symbol.id).type = none)
    (quiet : (one.after (resolveAliases (aliases (pendings items)))).Quiet) :
    (one.after (resolveAliases (aliases (pendings items)))).Matches
        (other.after (resolveAliases (aliases (pendings others)))) ∧
      (one.after (resolveAliases (aliases (pendings items)))).table = one.table := by
  have permAll : (aliases (pendings items)).Perm (aliases (pendings others)) :=
    (perm.filterMap pendingOf?).filterMap _
  have single := nodup_aliasIds distinct
  have known : other.knownOf = one.knownOf := funext fun id => (matched.known id).symm
  unfold Session.after at quiet ⊢
  obtain ⟨schedule, searched, covers⟩ :=
    scheduled_resolveAliases single (fun _ => rfl : LooksUp one.table.resolveType? one) quiet
  obtain ⟨type, acts, determines⟩ := exists_determines one.knownOf searched.scheduled
    searched.distinct searched.inside single
  have determinesOther : Determines (aliases (pendings others)) one.table.resolveType? other.knownOf
      schedule type acts := by
    rw [known]
    exact fun entry isEntry => determines entry (permAll.mem_iff.mpr isEntry)
  obtain ⟨done, same, reached, covered⟩ :=
    run_resolveAliases searched determines (fun _ => rfl) unsettled covers
  obtain ⟨doneOther, sameOther, reachedOther, coveredOther⟩ :=
    run_resolveAliases (searched.reorder permAll single) determinesOther
      (fun name => (matched.resolveType? name).symm)
      (fun entry isEntry => by
        rw [known]
        exact unsettled entry (permAll.mem_iff.mpr isEntry))
      fun entry isEntry => covers entry (permAll.mem_iff.mpr isEntry)
  have settled {id : SymbolId} (isScheduled : id ∈ schedule) : id ∈ done ∧ id ∈ doneOther := by
    obtain ⟨entry, isEntry, rfl⟩ := List.mem_map.mp (searched.inside isScheduled)
    exact ⟨covered entry isEntry, coveredOther entry (permAll.mem_iff.mp isEntry)⟩
  have permDone : done.reverse.Perm doneOther.reverse :=
    (List.reverse_perm _).trans ((reached.perm reachedOther (fun _ isIn => (settled isIn).1)
      fun _ isIn => (settled isIn).2).trans (List.reverse_perm _).symm)
  have inside (id : SymbolId) (isDone : id ∈ done.reverse) :
      ∀ act ∈ settleActs type acts id, act.Inside (territoryOf items id) := by
    have isScheduled := reached.inside (List.mem_reverse.mp isDone)
    exact inside_settleActs determines (searched.inside isScheduled) isScheduled
  refine ⟨?_, reached.table⟩
  have table := reached.table
  have tableOther := reachedOther.table
  rw [same] at table ⊢
  rw [sameOther] at tableOther ⊢
  refine matched.replay_perm permDone inside ?_ (fun space name => ?_) ?_ ?_
  · rintro first isFirst second isSecond node ⟨pending, isPending, rfl, inFirst⟩
      ⟨another, isAnother, rfl, inSecond⟩
    rw [eq_of_same_node distinct isPending isAnother inFirst inSecond]
  · rw [table, tableOther, matched.names]
  · rw [table, tableOther, matched.locals]
  · rw [table, tableOther, matched.frames]

/-! ### Structs -/

/-- A quiet search has found no struct that holds itself, so it cuts nothing in any order. -/
theorem matches_cutRecursion {one other : Session} (matched : one.Matches other)
    (pending pendingOther : List Pending) (drafted : Drafted (· ∈ structIds pending) one)
    (quiet : (one.after (cutRecursion pending)).Quiet) :
    one.after (cutRecursion pending) = one ∧
      other.after (cutRecursion pendingOther) = other := by
  obtain same | ⟨finding, isFinding, isRecursion⟩ := cutRecursion_reports one pending
  · have founded := cutRecursion_founded (fun outer _ ⟨field, isField, _⟩ =>
      drafted.listed outer fun empty => by simp [empty] at isField) drafted.integers
    rw [same] at founded
    exact ⟨same, cutRecursion_of_acyclic (founded.acyclic.congr (funext fun id =>
      congrArg Entry.struct (matched.entries id))) pendingOther⟩
  · have isFatal : finding.isFatal = true := by
      rw [Finding.isFatal, error_of_isRecursion isRecursion]
      rfl
    rw [quiet finding isFinding] at isFatal
    cases isFatal

/-! ### The whole pass -/

/-- What signatures are resolved in, one behind the other. -/
theorem after_resolveSignatures (pending : List Pending) (session : Session) :
    session.after (resolveSignatures pending) =
      (((session.after (resolveAliases (aliases pending))).after (pending.forM defineType)).after
        (cutRecursion pending)).after (pending.forM resolveSignature) := rfl

/-- What resolves signatures adds to the findings at every step. -/
theorem grows_resolveSignatures (pending : List Pending) :
    Regime.free.Obeys (resolveAliases (aliases pending)) ∧
      Regime.free.Obeys (pending.forM defineType) ∧ Regime.free.Obeys (cutRecursion pending) ∧
      Regime.free.Obeys (pending.forM resolveSignature) :=
  ⟨obeys_resolveAliases mayDeclare_free.mayResolveAliases _ (fun _ _ => mayDeclare_free.mayLearn _)
      fun _ _ _ _ => trivial,
    .forM _ fun entry _ => obeys_defineType mayDeclare_free.mayDefine entry fun _ _ => trivial,
    obeys_cutRecursion mayDeclare_free.mayDefine pending,
    .forM _ fun entry _ => obeys_resolveSignature mayDeclare_free.mayDefine.toMayInspect entry
      (fun _ => mayDeclare_free.mayLearn _) fun _ _ => trivial⟩

/-- Quiet signatures may be resolved in any order. -/
theorem matches_signatures {one other : Session} (matched : one.Matches other)
    (perm : items.Perm others) (distinct : (items.flatMap Item.sites).Nodup)
    (registered : Registered items one)
    (unsettled : ∀ entry ∈ aliases (pendings items), (one.knownOf entry.symbol.id).type = none)
    (drafted : Drafted (· ∈ structIds (pendings items))
      ((one.after (resolveAliases (aliases (pendings items)))).after
        ((pendings items).forM defineType)))
    (quiet : (one.after (resolveSignatures (pendings items))).Quiet) :
    (one.after (resolveSignatures (pendings items))).Matches
      (other.after (resolveSignatures (pendings others))) := by
  obtain ⟨resolves, defines, cuts, signs⟩ := grows_resolveSignatures (pendings items)
  rw [after_resolveSignatures] at quiet ⊢
  rw [after_resolveSignatures]
  have quietCut := quiet.of_prefix (signs _ trivial).findings
  have quietDefined := quietCut.of_prefix (cuts _ trivial).findings
  have quietAliases := quietDefined.of_prefix (defines _ trivial).findings
  obtain ⟨resolved, tableAliases⟩ :=
    matches_resolveAliases matched perm distinct unsettled quietAliases
  obtain ⟨defined, tableTypes⟩ := matches_defineTypes resolved perm distinct
  obtain ⟨same, sameOther⟩ :=
    matches_cutRecursion defined (pendings items) (pendings others) drafted quietCut
  rw [same, sameOther]
  refine (matches_resolveSignatures defined perm distinct (registered.of_table ?_)).1
  rw [tableTypes, tableAliases]

/-- The first pass drafts what its items make pending. -/
theorem drafted_of_collect {base after : Session}
    (run : (collect none base.items).run (base.after (declareIntrinsics 0 intrinsics)) =
      (pendings items, after))
    (blank : Drafted (fun _ => False) base) :
    Drafted (· ∈ structIds (pendings items))
      ((after.after (resolveAliases (aliases (pendings items)))).after
        ((pendings items).forM defineType)) := by
  have same : (base.after (declareIntrinsics 0 intrinsics)).items = base.items :=
    (obeys_declareIntrinsics mayDeclare_free.mayCollect 0 intrinsics base trivial).items
  have drafts := drafted_draft blank
  have split : draft.run base = (do
      let pending <- collect none base.items
      resolveAliases (aliases pending)
      pending.forM defineType
      return pending : Check (List Pending)).run (base.after (declareIntrinsics 0 intrinsics)) := by
    rw [← same]
    rfl
  rw [split, StateT.run_bind, run] at drafts
  exact drafts

/-- Where the first pass is quiet the items may come in any order: it says the same and leaves
the same behind. -/
theorem matches_walk {unit unitOther : Module} {options : Options} {base other : Session}
    (start : (Session.start (some unit) options).Alike base)
    (startOther : (Session.start (some unitOther) options).Alike other)
    (sameFile : unit.file = unitOther.file) (perm : unit.items.Perm unitOther.items)
    (distinct : (unit.items.flatMap Item.sites).Nodup) (quiet : (base.after walk).Quiet) :
    (base.after walk).Matches (other.after walk) := by
  have matched : base.Matches other := by
    refine Session.Matches.of_alike ?_ start startOther
    exact ⟨sameFile, rfl, .refl _, fun _ _ => rfl, rfl, rfl, fun _ => rfl, fun _ => rfl, .refl _⟩
  have opened : (base.after (declareIntrinsics 0 intrinsics)).Matches
      (other.after (declareIntrinsics 0 intrinsics)) := by
    rw [after_declareIntrinsics start.table, after_declareIntrinsics startOther.table]
    exact matched.replay intrinsicActs
  have opening := opening_declareIntrinsics start
  have items : base.items = unit.items := start.items
  have itemsOther : other.items = unitOther.items := startOther.items
  rw [after_walk_eq base items] at quiet ⊢
  rw [after_walk_eq other itemsOther]
  have quietCollect : ((collect none unit.items).run
      (base.after (declareIntrinsics 0 intrinsics))).2.Quiet := by
    obtain ⟨resolves, defines, cuts, signs⟩ := grows_resolveSignatures
      ((collect none unit.items).run (base.after (declareIntrinsics 0 intrinsics))).1
    rw [after_resolveSignatures] at quiet
    have quietCut := quiet.of_prefix (signs _ trivial).findings
    have quietDefined := quietCut.of_prefix (cuts _ trivial).findings
    have quietAliases := quietDefined.of_prefix (defines _ trivial).findings
    exact quietAliases.of_prefix (resolves _ trivial).findings
  obtain ⟨after, afterOther, run, runOther, collected, registered, alike⟩ :=
    matches_collect opened perm distinct opening quietCollect
  rw [run] at quiet ⊢
  rw [runOther]
  refine matches_signatures collected perm distinct registered ?_ ?_ quiet
  · intro entry isAlias
    obtain ⟨pending, isPending, sameSymbol, -⟩ := mem_aliases.mp isAlias
    have known : after.knownOf entry.symbol.id =
        ((base.after (declareIntrinsics 0 intrinsics)).replay
          (unit.items.flatMap gatherActs)).knownOf entry.symbol.id := by
      unfold Session.knownOf
      rw [alike.known]
    rw [known]
    refine unsettled_gathered distinct isAlias ?_
    rw [← sameSymbol, (of_mem_pendings isPending).2.2.id]
    exact opening.unknown _
  · refine drafted_of_collect (by rw [items]; exact run) ?_
    have blank := blank_start (some unit) options
    rw [start.same]
    exact ⟨blank.listed, blank.integers, blank.silent⟩

end UnitCheck.Declare
