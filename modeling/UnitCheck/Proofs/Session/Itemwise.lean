import UnitCheck.Proofs.Session.Alone
import UnitCheck.Proofs.Tree.Distinct

/-!
# Passes item by item

Behind its own node an item has nodes of its own, and of the other items it sees no more
than what they declare globally. A session that is `Housed` keeps to that: nothing that is
kept for an item mentions what is declared inside another one. Visits that keep within
their items leave such a session behind, and each finds there what it finds alone.
-/

namespace UnitCheck

variable {declared : NodeId -> Prop} {items others : List Item}

/-! ### What an item sees -/

/-- An item declares its locals at parameters and inside its statements. -/
theorem Item.mem_of_local {item : Item} {node : NodeId} (isLocal : node ∈ item.locals) :
    node ∈ item.params.map (·.span.node) ++ Stmt.sitesAll item.stmts := by
  unfold Item.locals at isLocal
  obtain isParam | isDeclared := List.mem_append.mp isLocal
  · exact List.mem_append_left _ isParam
  · obtain ⟨part, isPart, isOwn⟩ := List.mem_flatMap.mp isDeclared
    exact List.mem_append_right _
      (List.mem_flatMap.mpr ⟨part, isPart, by simp [Stmt.ownSites, isOwn]⟩)

theorem Item.locals_subset_inner (item : Item) : item.locals ⊆ item.inner := by
  intro node isLocal
  have isSite := Item.mem_of_local isLocal
  unfold Item.inner
  simp only [List.mem_append] at isSite ⊢
  exact .inl (.inl isSite)

/-- What can be seen of the global declarations and of some nodes, and met of these and of
the locals among the nodes. -/
def Outlook.around (declared : NodeId -> Prop) (inner locals : List NodeId)
    (within : locals ⊆ inner) : Outlook where
  inside node := declared node ∨ node ∈ inner
  visible node := declared node ∨ node ∈ locals
  owns node := node ∈ inner
  steady id := ∀ node, id = .node node → declared node ∨ node ∈ inner
  inside_of_visible _ := .imp_right fun isLocal => within isLocal
  inside_of_owns _ := .inr
  steady_of_owns node owns := by
    rintro _ ⟨⟩
    exact .inr owns

/-- What an item sees and meets of its unit. It writes behind its own node only. -/
abbrev Item.outlook (declared : NodeId -> Prop) (item : Item) : Outlook :=
  .around declared item.inner item.locals item.locals_subset_inner

/-- What can be seen and met outside of all items. -/
abbrev Outlook.global (declared : NodeId -> Prop) : Outlook :=
  .around declared [] [] (List.Subset.refl [])

namespace Outlook

variable {outlook wider : Outlook}

/-- What may be met in another outlook may be met around the same declarations. -/
theorem Proper.around {inner locals : List NodeId} {within : locals ⊆ inner} {symbol : Symbol}
    (proper : outlook.Proper symbol)
    (visible : ∀ node, outlook.visible node → declared node ∨ node ∈ locals) :
    (Outlook.around declared inner locals within).Proper symbol := by
  have met := proper.met
  refine ⟨?_, fun _ node same => ?_⟩
  · cases id : symbol.id with
    | builtin number => trivial
    | node node =>
      rw [id] at met
      exact visible node met
  · rw [same] at met
    exact (visible node met).imp_right fun isLocal => within isLocal

/-- What mentions what may be met mentions what may be met in a wider outlook. -/
theorem Fits.mono {node : NodeId} {entry : Entry} (fits : outlook.Fits node entry)
    (visible : ∀ node, outlook.visible node → wider.visible node)
    (proper : ∀ symbol, outlook.Proper symbol → wider.Proper symbol)
    (asks : ∀ symbol ∈ entry.ref, wider.asks symbol) : wider.Fits node entry where
  expr type isType := Ty.within_mono visible type (fits.expr type isType)
  form type isType := Ty.within_mono visible type (fits.form type isType)
  ref symbol isRef := ⟨proper symbol (fits.ref symbol isRef).1, asks symbol isRef⟩
  decl symbol isDecl := ⟨proper symbol (fits.decl symbol isDecl).1, (fits.decl symbol isDecl).2⟩
  struct field isField := Ty.within_mono visible field.type (fits.struct field isField)
  enum body isBody := Ty.within_mono visible body.base (fits.enum body isBody)

end Outlook

theorem SymbolType.Within.mono {visible wider : TypeId -> Prop} {known : SymbolType}
    (within : known.Within visible) (more : ∀ id, visible id → wider id) : known.Within wider where
  type type isType := Ty.within_mono more type (within.type type isType)
  params param isParam := Ty.within_mono more param (within.params param isParam)

/-! ### Housed sessions -/

/-- The items are declared globally and nothing is behind their nodes, which differ. -/
structure Spread (declared : NodeId -> Prop) (items : List Item) : Prop where
  own : ∀ item ∈ items, ∀ node ∈ item.ownNode, declared node
  distinct : (items.flatMap Item.inner).Nodup
  apart : ∀ item ∈ items, ∀ node ∈ item.inner, ¬declared node

/-- Items whose nodes differ are spread behind the nodes of their declarations. -/
theorem spread_of_nodup (distinct : (items.flatMap Item.sites).Nodup) :
    Spread (· ∈ items.flatMap Item.ownNode) items := by
  refine ⟨fun item isItem node isOwn => List.mem_flatMap.mpr ⟨item, isItem, isOwn⟩,
    distinct.sublist (Item.sublist_flatMap _ fun item => ?_), ?_⟩
  · rw [Item.sites_eq]
    exact List.sublist_append_right _ _
  · intro item isItem node isInner isDeclared
    obtain ⟨other, isOther, isOwn⟩ := List.mem_flatMap.mp isDeclared
    have inItem : node ∈ item.sites := by
      rw [Item.sites_eq]
      exact List.mem_append_right _ isInner
    have inOther : node ∈ other.sites := by
      rw [Item.sites_eq]
      exact List.mem_append_left _ isOwn
    cases Item.eq_of_mem_nodes distinct isItem isOther inItem inOther
    have ownDistinct := Item.nodup_sites_of_mem distinct isItem
    rw [Item.sites_eq, List.nodup_append] at ownDistinct
    exact ownDistinct.2.2 node isOwn node isInner rfl

/-- The items of a decoded unit are spread behind the nodes of their declarations. -/
theorem spread_of_decode {file text : String} {unit : Module}
    (read : Module.decode file text = .ok unit) :
    Spread (· ∈ unit.items.flatMap Item.ownNode) unit.items :=
  spread_of_nodup (Module.nodup_sites read)

/-- Outside of all blocks, what is kept for an item mentions global declarations and the
item's own ones only, and what is kept for these mentions global declarations only. -/
structure Housed (declared : NodeId -> Prop) (items : List Item) (session : Session) : Prop where
  locals : session.table.locals = []
  frames : session.table.frames = []
  globals : Enclosed (.global declared) session
  items : ∀ item ∈ items, Enclosed (item.outlook declared) session

/-- The sessions look the same from all these items. -/
structure LookAlike (declared : NodeId -> Prop) (items : List Item) (one other : Session) :
    Prop where
  globals : Agree (.global declared) one other
  items : ∀ item ∈ items, Agree (item.outlook declared) one other

/-- The sessions differ at most in what no outlook shows: in findings, in bookkeeping, and
in the globals that have been gone through. -/
structure Session.ShowsAs (before after : Session) : Prop where
  same : after = { before with
    findings := after.findings
    passes := after.passes
    checked := after.checked
    progress := after.progress }

theorem Session.Alike.showsAs {before after : Session} (alike : before.Alike after) :
    before.ShowsAs after := by
  refine ⟨?_⟩
  rw [alike.same]

section Shown

variable {one other after last : Session}

theorem Enclosed.showsAs {outlook : Outlook} (enclosed : Enclosed outlook one)
    (shown : one.ShowsAs after) : Enclosed outlook after := by
  rw [shown.same]
  exact ⟨enclosed.globals, enclosed.locals, enclosed.known, enclosed.entries⟩

theorem Housed.showsAs (housed : Housed declared items one) (shown : one.ShowsAs after) :
    Housed declared items after where
  locals := by
    rw [shown.same]
    exact housed.locals
  frames := by
    rw [shown.same]
    exact housed.frames
  globals := housed.globals.showsAs shown
  items item isItem := (housed.items item isItem).showsAs shown

theorem Agree.showsAs {outlook : Outlook} (agree : Agree outlook one other)
    (shown : one.ShowsAs after) (shownOther : other.ShowsAs last) : Agree outlook after last := by
  rw [shown.same, shownOther.same]
  exact ⟨agree.file, agree.options, agree.globals, agree.locals, agree.frames, agree.known,
    agree.entries⟩

theorem LookAlike.showsAs (look : LookAlike declared items one other) (shown : one.ShowsAs after)
    (shownOther : other.ShowsAs last) : LookAlike declared items after last :=
  ⟨look.globals.showsAs shown shownOther,
    fun item isItem => (look.items item isItem).showsAs shown shownOther⟩

end Shown

section Visits

variable {base other after last : Session} {visit visitOther : Item -> Check Unit} {item : Item}

/-- A visit that keeps within its item does what it does alone. -/
theorem alone_visit (spread : Spread declared items)
    (enclosed : Enclosed (item.outlook declared) base)
    (steps : ∀ session, session.checked = base.checked →
      (Pairing.tracked (item.outlook declared) session base).Steps (visit item) fun _ => True)
    (balanced : ∀ session : Session, session.table = base.table →
      (session.after (visit item)).table = session.table) :
    Alone base (fun node => node ∉ item.inner ∧ ∃ other ∈ items, node ∈ other.inner) item.inner
      (visit item) := by
  have unseen (node : NodeId) (seen : declared node ∨ node ∈ item.inner) :
      ¬(node ∉ item.inner ∧ ∃ other ∈ items, node ∈ other.inner) := by
    rintro ⟨outside, other, isOther, inOther⟩
    exact seen.elim (spread.apart other isOther node inOther) outside
  refine alone_of_steps (fun node => Iff.rfl) unseen
    (fun node (steady : (item.outlook declared).steady (.node node)) =>
      unseen node (steady node rfl)) ?_ enclosed steps fun session _ table => balanced session table
  rintro node visible _ ⟨⟩
  exact visible.imp_right fun isLocal => item.locals_subset_inner isLocal

/-- Visits that keep within their items do what each does alone. -/
theorem visited_items (spread : Spread declared items) (housed : Housed declared items base)
    (steps : ∀ item ∈ items, ∀ session, session.checked = base.checked →
      (Pairing.tracked (item.outlook declared) session base).Steps (visit item) fun _ => True)
    (balanced : ∀ item ∈ items, ∀ session : Session, session.table = base.table →
      (session.after (visit item)).table = session.table) :
    Visited base visit Item.inner items (base.after (items.forM visit)) ∧
      base.findsEach visit items = items.map fun item => base.finds (visit item) :=
  Visited.forM .nil spread.distinct fun item isItem =>
    alone_visit spread (housed.items item isItem) (steps item isItem) (balanced item isItem)

/-- Visits leave alone what is not behind an item. -/
theorem Visited.outside (visited : Visited base visit Item.inner items after)
    (spread : Spread declared items) {node : NodeId} (isDeclared : declared node) :
    after.entry node = base.entry node ∧
      after.knownOf (.node node) = base.knownOf (.node node) := by
  have apart : ¬∃ item ∈ items, node ∈ item.inner := by
    rintro ⟨item, isItem, isInner⟩
    exact spread.apart item isItem node isInner isDeclared
  exact ⟨visited.kept.entries node apart, visited.kept.knownOf_node apart⟩

/-- Visits leave builtin symbols alone. -/
theorem Visited.builtin (visited : Visited base visit Item.inner items after) (number : Nat) :
    after.knownOf (.builtin number) = base.knownOf (.builtin number) :=
  visited.kept.known _ fun _ _ impossible => by cases impossible

/-- What is enclosed before the visits and, at some items, behind the visits alone, is
enclosed behind all of them. -/
theorem Visited.enclosed {inner locals : List NodeId} {within : locals ⊆ inner}
    (visited : Visited base visit Item.inner items after) (spread : Spread declared items)
    (before : Enclosed (.around declared inner locals within) base)
    (behind : ∀ node ∈ inner, ∃ item ∈ items, node ∈ item.inner ∧
      Enclosed (.around declared inner locals within) (base.after (visit item))) :
    Enclosed (.around declared inner locals within) after where
  globals := by
    rw [visited.table]
    exact before.globals
  locals := by
    rw [visited.table]
    exact before.locals
  known id met := by
    cases id with
    | builtin number =>
      rw [visited.builtin]
      exact before.known _ trivial
    | node node =>
      obtain isDeclared | isLocal := met
      · rw [(visited.outside spread isDeclared).2]
        exact before.known _ (.inl isDeclared)
      · obtain ⟨item, isItem, isInner, enclosed⟩ := behind node (within isLocal)
        rw [(visited.own item isItem node isInner).2]
        exact enclosed.known _ (.inr isLocal)
  entries node inside := by
    obtain isDeclared | isInner := inside
    · rw [(visited.outside spread isDeclared).1]
      exact before.entries _ (.inl isDeclared)
    · obtain ⟨item, isItem, inItem, enclosed⟩ := behind node isInner
      rw [(visited.own item isItem node inItem).1]
      exact enclosed.entries _ (.inr isInner)

/-- A walk that stays in step ends enclosed. -/
theorem Enclosed.behind {outlook : Outlook} {walk : Check Unit} (enclosed : Enclosed outlook base)
    (steps : (Pairing.tracked outlook base base).Steps walk fun _ => True) :
    Enclosed outlook (base.after walk) := by
  have agree : Agree outlook base base := ⟨rfl, rfl, fun _ _ _ => rfl, rfl, rfl, fun _ _ => rfl,
    fun _ _ => rfl⟩
  have tracked : Tracked outlook base base (base.after walk) (base.after walk) :=
    (steps base base (.start agree enclosed)).2.2
  exact tracked.enclosed

/-- Visits that keep within their items leave a housed session behind. -/
theorem Visited.housed (visited : Visited base visit Item.inner items after)
    (spread : Spread declared items) (housed : Housed declared items base)
    (steps : ∀ item ∈ items,
      (Pairing.tracked (item.outlook declared) base base).Steps (visit item) fun _ => True) :
    Housed declared items after where
  locals := by rw [visited.table, housed.locals]
  frames := by rw [visited.table, housed.frames]
  globals := visited.enclosed spread housed.globals (List.forall_mem_nil _)
  items item isItem := visited.enclosed spread (housed.items item isItem) fun _ isInner =>
    ⟨item, isItem, isInner, (housed.items item isItem).behind (steps item isItem)⟩

/-- Behind visits the sessions still agree about what is declared globally. -/
theorem Agree.visits {inner locals : List NodeId} {within : locals ⊆ inner}
    (visited : Visited base visit Item.inner items after)
    (visitedOther : Visited other visitOther Item.inner others last)
    (spread : Spread declared items) (spreadOther : Spread declared others)
    (agree : Agree (.around declared inner locals within) base other)
    (behind : ∀ node ∈ inner, after.entry node = last.entry node ∧
      after.knownOf (.node node) = last.knownOf (.node node)) :
    Agree (.around declared inner locals within) after last where
  file := by
    unfold Session.file
    rw [visited.kept.unit, visitedOther.kept.unit]
    exact agree.file
  options := by
    rw [visited.kept.options, visitedOther.kept.options, agree.options]
  globals := by
    rw [visited.table, visitedOther.table]
    exact agree.globals
  locals := by
    rw [visited.table, visitedOther.table, agree.locals]
  frames := by
    rw [visited.table, visitedOther.table, agree.frames]
  known id steady := by
    cases id with
    | builtin number => rw [visited.builtin, visitedOther.builtin, agree.known _ steady]
    | node node =>
      obtain isDeclared | isInner := steady node rfl
      · rw [(visited.outside spread isDeclared).2, (visitedOther.outside spreadOther isDeclared).2,
          agree.known _ steady]
      · exact (behind node isInner).2
  entries node inside := by
    obtain isDeclared | isInner := inside
    · rw [(visited.outside spread isDeclared).1, (visitedOther.outside spreadOther isDeclared).1,
        agree.entries node (.inl isDeclared)]
    · exact (behind node isInner).1

/-- From sessions that look alike, visits that stay in step find the same at each of the
items, whatever else is visited, and leave sessions behind that look alike. -/
theorem LookAlike.visits {shared : List Item} (alike : LookAlike declared shared base other)
    (visited : Visited base visit Item.inner items after)
    (visitedOther : Visited other visitOther Item.inner others last)
    (spread : Spread declared items) (spreadOther : Spread declared others)
    (housed : Housed declared items base) (inItems : shared ⊆ items) (inOthers : shared ⊆ others)
    (inStep : ∀ item ∈ shared, (Pairing.tracked (item.outlook declared) base other).InStep
      (visit item) (visitOther item) fun _ => True) :
    LookAlike declared shared after last ∧
      ∀ item ∈ shared, base.finds (visit item) = other.finds (visitOther item) := by
  have tracked (item : Item) (isShared : item ∈ shared) : Tracked (item.outlook declared) base other
      (base.after (visit item)) (other.after (visitOther item)) :=
    (inStep item isShared base other
      (.start (alike.items item isShared) (housed.items item (inItems isShared)))).2.2
  refine ⟨⟨?_, fun item isShared => ?_⟩, fun item isShared => ?_⟩
  · exact .visits visited visitedOther spread spreadOther alike.globals (List.forall_mem_nil _)
  · refine .visits visited visitedOther spread spreadOther (alike.items item isShared)
      fun node isInner => ?_
    obtain ⟨entry, known⟩ := visited.own item (inItems isShared) node isInner
    obtain ⟨entryOther, knownOther⟩ := visitedOther.own item (inOthers isShared) node isInner
    have agree := (tracked item isShared).agree
    rw [entry, entryOther, known, knownOther]
    refine ⟨agree.entries node (.inr isInner), agree.known _ ?_⟩
    rintro _ ⟨⟩
    exact .inr isInner
  · exact (tracked item isShared).found.finds_eq.1

end Visits
end UnitCheck
