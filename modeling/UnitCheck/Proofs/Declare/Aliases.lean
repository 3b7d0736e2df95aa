import Mathlib.Data.List.Perm.Subperm
import Mathlib.Logic.Relation
import UnitCheck.Proofs.Declare.TopLevel
import UnitCheck.Tree.Decode

/-!
# Aliases are resolved

The search over aliases settles an alias behind the ones that its target mentions. An alias
that is met on the path of the search is on a cycle and reported. As long as none is
reported, every settled alias mentions only aliases that were settled before it, so the
list of what is settled is an order that excludes cycles. An alias from which no cycle can be
reached finds the full expansions of all names in its target.
-/

namespace UnitCheck

/-!
### Expanding aliases

The full expansion of a written type has no alias left in it: a name that means an alias is
replaced by the expansion of the alias's target, wherever in the unit the alias is declared.
A written type has one expansion at most. Which aliases an alias mentions in its target makes
a graph; along its edges an alias may come back to itself, and then it has no expansion.
-/

/-- What a name means at top level when aliases are expanded. What has no meaning or no
target is unknown. -/
inductive NameExpands (items : List Item) : String -> Ty -> Prop where
  | builtin {name : String} {builtin : Prim} (isBuiltin : Prim.ofName? name = some builtin) :
    NameExpands items name (.prim builtin)
  | struct {name : String} {decl : StructDecl} (means : typeNamed? items name = some (.struct decl)) :
    NameExpands items name (.struct name decl.span.node)
  | enum {name : String} {decl : EnumDecl} (means : typeNamed? items name = some (.enum decl)) :
    NameExpands items name (.enum name decl.span.node)
  /-- The target with the expansions of the names in it. -/
  | typeAlias {name : String} {decl : AliasDecl} {target : TypeForm} (named : String -> Ty)
    (means : typeNamed? items name = some (.typeAlias decl)) (isTarget : decl.target = some target)
    (expand : ∀ mention ∈ target.mentions, NameExpands items mention.name (named mention.name)) :
    NameExpands items name (target.meaning named)
  | bare {name : String} {decl : AliasDecl} (means : typeNamed? items name = some (.typeAlias decl))
    (noTarget : decl.target = none) : NameExpands items name .unknown
  | missing {name : String} (notBuiltin : Prim.ofName? name = none)
    (means : typeNamed? items name = none) : NameExpands items name .unknown

/-- The type is the written type with the expansions of the names in it. -/
def Expands (items : List Item) (form : TypeForm) (type : Ty) : Prop :=
  ∃ named, (∀ mention ∈ form.mentions, NameExpands items mention.name (named mention.name)) ∧
    type = form.meaning named

variable {items : List Item}

/-- A name has one expansion at most. -/
theorem NameExpands.unique {name : String} {one other : Ty} (expands : NameExpands items name one)
    (expandsOther : NameExpands items name other) : one = other := by
  induction expands generalizing other with
  | builtin isBuiltin =>
    have noMeaning : typeNamed? items _ = none := typeNamed?_of_builtin isBuiltin
    cases expandsOther <;> simp_all
  | struct means | enum means | bare means _ =>
    cases expandsOther with
    | builtin isBuiltin =>
      have noMeaning : typeNamed? items _ = none := typeNamed?_of_builtin isBuiltin
      simp_all
    | _ => simp_all
  | @typeAlias _ _ target named means isTarget _ inductionHypothesis =>
    cases expandsOther with
    | builtin isBuiltin =>
      have noMeaning : typeNamed? items _ = none := typeNamed?_of_builtin isBuiltin
      simp_all
    | @typeAlias _ _ targetOther _ meansOther isOther expand =>
      obtain rfl : targetOther = target := by simp_all
      exact TypeForm.meaning_congr targetOther fun mention isMention =>
        inductionHypothesis mention isMention (expand mention isMention)
    | _ => simp_all
  | missing notBuiltin means => cases expandsOther <;> simp_all

/-- A written type has one expansion at most. -/
theorem Expands.unique {form : TypeForm} {one other : Ty} (expands : Expands items form one)
    (expandsOther : Expands items form other) : one = other := by
  obtain ⟨named, expand, rfl⟩ := expands
  obtain ⟨namedOther, expandOther, rfl⟩ := expandsOther
  exact TypeForm.meaning_congr form fun mention isMention =>
    (expand mention isMention).unique (expandOther mention isMention)

/-- The expansion of an alias is the expansion of its target. -/
theorem NameExpands.target {name : String} {decl : AliasDecl} {target : TypeForm} {type : Ty}
    (expands : NameExpands items name type) (means : typeNamed? items name = some (.typeAlias decl))
    (isTarget : decl.target = some target) : Expands items target type := by
  cases expands with
  | builtin isBuiltin =>
    rw [typeNamed?_of_builtin isBuiltin] at means
    cases means
  | @typeAlias _ _ targetOther named meansOther isOther expand =>
    obtain rfl : targetOther = target := by simp_all
    exact ⟨named, expand, rfl⟩
  | _ => simp_all

/-! ### The graph of aliases -/

/-- The name means an alias. -/
def IsAlias (items : List Item) (name : String) : Prop :=
  ∃ decl, typeNamed? items name = some (.typeAlias decl)

/-- The alias of one name mentions that of another somewhere in its target. -/
def AliasMentions (items : List Item) (name other : String) : Prop :=
  ∃ decl target, typeNamed? items name = some (.typeAlias decl) ∧ decl.target = some target ∧
    (∃ mention ∈ target.mentions, mention.name = other) ∧ IsAlias items other

/-- Along mentions the alias comes back to itself. -/
def AliasCycle (items : List Item) (name : String) : Prop :=
  Relation.TransGen (AliasMentions items) name name

/-- No alias that can be reached from the alias along mentions comes back to itself. -/
def Unwinds (items : List Item) (name : String) : Prop :=
  ∀ other, Relation.ReflTransGen (AliasMentions items) name other → ¬AliasCycle items other

/-- What an alias mentions unwinds with the alias. -/
theorem Unwinds.mentioned {name other : String} (unwinds : Unwinds items name)
    (mentions : AliasMentions items name other) : Unwinds items other :=
  fun further reaches => unwinds further (.head mentions reaches)

/-- An alias that unwinds is on no cycle. -/
theorem Unwinds.not_cycle {name : String} (unwinds : Unwinds items name) :
    ¬AliasCycle items name :=
  unwinds name .refl

end UnitCheck

/-! ### Aliases are resolved -/

namespace UnitCheck.Declare

variable {items : List Item} {all : List DeclaredAlias} {entry : DeclaredAlias}
  {settled path : List SymbolId} {session after : Session} {fuel : Nat}

/-! ### The declared aliases -/

/-- The declared aliases of some items, told apart by their nodes. -/
structure Register (items : List Item) (all : List DeclaredAlias) : Prop where
  sound : ∀ entry ∈ all, typeNamed? items entry.symbol.name = some (.typeAlias entry.decl)
  complete : ∀ name decl, typeNamed? items name = some (.typeAlias decl) →
    ∃ entry ∈ all, entry.symbol.name = name
  node : ∀ entry ∈ all, entry.symbol.id = .node entry.decl.span.node
  unique : ∀ one ∈ all, ∀ other ∈ all, one.symbol.id = other.symbol.id → one = other
  alone : ∀ entry ∈ all, ∀ name item, typeNamed? items name = some item →
    item.span.node = entry.decl.span.node → item = .typeAlias entry.decl

/-- Where no two nodes coincide, what collecting lists is a register. -/
theorem Lists.register (lists : Lists [] items all)
    (distinct : (items.flatMap Item.sites).Nodup) : Register items all := by
  have sound : ∀ entry ∈ all, typeNamed? items entry.symbol.name = some (.typeAlias entry.decl) := by
    intro entry isEntry
    obtain ⟨name, -, symbol, means⟩ := lists.sound entry isEntry
    rw [symbol]
    exact means
  have node : ∀ entry ∈ all, entry.symbol.id = .node entry.decl.span.node := by
    intro entry isEntry
    obtain ⟨name, -, symbol, -⟩ := lists.sound entry isEntry
    rw [symbol]
    rfl
  have alone : ∀ entry ∈ all, ∀ name item, typeNamed? items name = some item →
      item.span.node = entry.decl.span.node → item = .typeAlias entry.decl :=
    fun entry isEntry _ _ means same =>
      item_of_typeNamed? distinct means (sound entry isEntry) same
  refine ⟨sound, fun name decl means => ?_, node, fun one isOne other isOther same => ?_, alone⟩
  · obtain ⟨entry, isEntry, rfl⟩ := lists.complete name decl means rfl
    exact ⟨entry, isEntry, name_of_typeNamed? (sound entry isEntry) means⟩
  · rw [node one isOne, node other isOther] at same
    obtain ⟨name, named, symbol, -⟩ := lists.sound one isOne
    obtain ⟨nameOther, namedOther, symbolOther, -⟩ := lists.sound other isOther
    have sameDecl : one.decl = other.decl :=
      Item.typeAlias.inj (alone _ isOther _ _ (sound _ isOne) (SymbolId.node.inj same))
    rw [sameDecl] at named symbol
    cases named.symm.trans namedOther
    obtain ⟨oneSymbol, oneDecl⟩ := one
    obtain ⟨otherSymbol, otherDecl⟩ := other
    rw [DeclaredAlias.mk.injEq]
    exact ⟨symbol.trans symbolOther.symm, sameDecl⟩

/-- A name is that of one declared alias at most. -/
theorem Register.eq_of_name (register : Register items all) {one other : DeclaredAlias}
    (isOne : one ∈ all) (isOther : other ∈ all) (same : one.symbol.name = other.symbol.name) :
    one = other := by
  have means := register.sound one isOne
  rw [same, register.sound other isOther] at means
  refine register.unique one isOne other isOther ?_
  rw [register.node one isOne, register.node other isOther,
    Item.typeAlias.inj (Option.some.inj means)]

/-- An alias is looked up by its name. -/
theorem run_aliasNamed? (register : Register items all) (means : Means items session)
    (name : String) : ∃ found, (aliasNamed? all name).run session = (found, session) ∧
      ∀ other, found = some other ↔ other ∈ all ∧ other.symbol.name = name := by
  have types := means.types name
  cases resolved : session.table.resolveType? name with
  | none =>
    refine ⟨none, ?_, fun other => Iff.intro (fun impossible => by cases impossible) ?_⟩
    · simp only [aliasNamed?, StateT.run_bind, StateT.run_get, pure_bind, resolved]
      rfl
    · rintro ⟨isOther, rfl⟩
      rw [resolved, register.sound other isOther] at types
      cases types
  | some symbol =>
    refine ⟨all.find? (·.symbol.id = symbol.id), ?_, fun other => ⟨fun found => ?_, ?_⟩⟩
    · simp only [aliasNamed?, StateT.run_bind, StateT.run_get, pure_bind, resolved]
      rfl
    · have isOther := List.mem_of_find?_eq_some found
      have same : other.symbol.id = symbol.id := by simpa using List.find?_some found
      cases meant : typeNamed? items name with
      | none =>
        rw [resolved, meant] at types
        cases types
      | some item =>
        rw [resolved, meant, Option.map_some, Option.map_some, ← same, register.node other isOther]
          at types
        obtain rfl := register.alone other isOther name item meant
          (SymbolId.node.inj (Option.some.inj types)).symm
        exact ⟨isOther, name_of_typeNamed? (register.sound other isOther) meant⟩
    · rintro ⟨isOther, rfl⟩
      rw [resolved, register.sound other isOther, Option.map_some, Option.map_some,
        Option.some.injEq] at types
      have id : other.symbol.id = symbol.id := (register.node other isOther).trans types.symm
      cases found : all.find? (·.symbol.id = symbol.id) with
      | none =>
        have apart := List.find?_eq_none.mp found other isOther
        simp [id] at apart
      | some first =>
        have same : first.symbol.id = symbol.id := by simpa using List.find?_some found
        rw [register.unique first (List.mem_of_find?_eq_some found) other isOther
          (same.trans id.symm)]

/-! ### An order without cycles -/

/-- Each alias of the list mentions only aliases behind it. -/
def Ordered (items : List Item) (all : List DeclaredAlias) : List SymbolId -> Prop
  | [] => True
  | id :: rest =>
    (∀ entry ∈ all, entry.symbol.id = id → ∀ other ∈ all,
      AliasMentions items entry.symbol.name other.symbol.name → other.symbol.id ∈ rest) ∧
    Ordered items all rest

/-- Along mentions an ordered list is not left. -/
theorem Ordered.reaches (register : Register items all) {ids : List SymbolId}
    (ordered : Ordered items all ids) {name : String}
    (reaches : Relation.ReflTransGen (AliasMentions items) entry.symbol.name name)
    (isEntry : entry ∈ all) (inside : entry.symbol.id ∈ ids) :
    ∃ other ∈ all, other.symbol.name = name ∧ other.symbol.id ∈ ids := by
  have step (ids : List SymbolId) (ordered : Ordered items all ids) :
      ∀ one ∈ all, one.symbol.id ∈ ids → ∀ other ∈ all,
        AliasMentions items one.symbol.name other.symbol.name → other.symbol.id ∈ ids := by
    induction ids with
    | nil => exact fun _ _ impossible => by cases impossible
    | cons id rest inductionHypothesis =>
      intro one isOne inside other isOther mentions
      obtain same | later := List.mem_cons.mp inside
      · exact List.mem_cons_of_mem _ (ordered.1 one isOne same other isOther mentions)
      · exact List.mem_cons_of_mem _
          (inductionHypothesis ordered.2 one isOne later other isOther mentions)
  induction reaches with
  | refl => exact ⟨entry, isEntry, rfl, inside⟩
  | tail _ mentions inductionHypothesis =>
    obtain ⟨one, isOne, rfl, isInside⟩ := inductionHypothesis
    obtain ⟨decl, means⟩ := mentions.choose_spec.choose_spec.2.2.2
    obtain ⟨other, isOther, rfl⟩ := register.complete _ decl means
    exact ⟨other, isOther, rfl, step ids ordered one isOne isInside other isOther mentions⟩

/-- No alias of an ordered list refers to itself. -/
theorem Ordered.not_cycle (register : Register items all) {ids : List SymbolId}
    (ordered : Ordered items all ids) (isEntry : entry ∈ all) (inside : entry.symbol.id ∈ ids) :
    ¬AliasCycle items entry.symbol.name := by
  induction ids with
  | nil => cases inside
  | cons id rest inductionHypothesis =>
    intro cycle
    have later : entry.symbol.id ∈ rest := by
      obtain same | later := List.mem_cons.mp inside
      · -- the cycle enters the rest of the list, and leads back to the alias inside it
        obtain ⟨name, mentions, reaches⟩ := Relation.TransGen.head'_iff.mp cycle
        obtain ⟨decl, means⟩ := mentions.choose_spec.choose_spec.2.2.2
        obtain ⟨other, isOther, rfl⟩ := register.complete _ decl means
        obtain ⟨back, isBack, sameName, isInside⟩ := ordered.2.reaches register reaches isOther
          (ordered.1 entry isEntry same other isOther mentions)
        rwa [← register.eq_of_name isBack isEntry sameName]
      · exact later
    exact inductionHypothesis ordered.2 later cycle

/-! ### How far the search has come -/

/-- What is known of a symbol when one has been settled. -/
theorem type_settles (id other : SymbolId) (type : Ty) :
    ((Act.apply session (.settles id type)).knownOf other).type =
      if other = id then some type else (session.knownOf other).type := by
  unfold Session.knownOf
  simp only [Act.apply, List.lookup_cons]
  split_ifs with same
  · simp [same]
  · simp [beq_false_of_ne same]

/-- Settling an alias leaves names their meanings. -/
theorem Means.settles (register : Register items all) (means : Means items session)
    (isEntry : entry ∈ all) (type : Ty) :
    Means items (Act.apply session (.settles entry.symbol.id type)) where
  types := means.types
  own name item meant own isOwn := by
    have apart : (SymbolId.node item.span.node) ≠ entry.symbol.id := by
      intro same
      rw [register.node entry isEntry] at same
      cases register.alone entry isEntry name item meant (SymbolId.node.inj same)
      cases isOwn
    rw [type_settles, if_neg apart]
    exact means.own name item meant own isOwn

theorem Means.report (means : Means items session) (finding : Finding) :
    Means items (Act.apply session (.report finding)) :=
  ⟨means.types, means.own⟩

/-- How far the search over aliases has come when some of them are settled: these have
types, which are their full expansions unless a cycle can be reached. Others have no type,
unless they have been met on a cycle. A report means a cycle, and without one the settled
aliases are in an order without cycles. -/
structure Progress (items : List Item) (all : List DeclaredAlias) (settled : List SymbolId)
    (session : Session) : Prop where
  means : Means items session
  typed : ∀ entry ∈ all, entry.symbol.id ∈ settled →
    (session.knownOf entry.symbol.id).type.isSome
  expanded : ∀ entry ∈ all, entry.symbol.id ∈ settled → Unwinds items entry.symbol.name →
    ∃ type, (session.knownOf entry.symbol.id).type = some type ∧
      NameExpands items entry.symbol.name type
  blank : ∀ entry ∈ all, entry.symbol.id ∉ settled →
    (session.knownOf entry.symbol.id).type = none ∨ AliasCycle items entry.symbol.name
  blamed : session.ReportsCycle → ∃ name, AliasCycle items name
  ordered : ¬session.ReportsCycle → Ordered items all settled

/-- Reading written types reports no cycle. -/
theorem reportsCycle_of_reads (reads : Check.Reads session after) :
    after.ReportsCycle ↔ session.ReportsCycle := by
  refine ⟨fun ⟨finding, isFinding, isCycle⟩ => ?_, fun ⟨finding, isFinding, isCycle⟩ =>
    ⟨finding, reads.earlier.subset isFinding, isCycle⟩⟩
  obtain earlier | ⟨name, rfl⟩ := reads.findings finding isFinding
  · exact ⟨finding, earlier, isCycle⟩
  · cases isCycle

namespace Progress

variable (progress : Progress items all settled session) (register : Register items all)

include progress register

/-- All that plays a part is what names mean, what is known of these meanings, and whether a
cycle has been reported. -/
theorem congr (table : after.table = session.table)
    (known : ∀ name item, typeNamed? items name = some item →
      after.knownOf (.node item.span.node) = session.knownOf (.node item.span.node))
    (reports : after.ReportsCycle ↔ session.ReportsCycle) :
    Progress items all settled after := by
  have same (entry : DeclaredAlias) (isEntry : entry ∈ all) :
      after.knownOf entry.symbol.id = session.knownOf entry.symbol.id := by
    rw [register.node entry isEntry]
    exact known _ _ (register.sound entry isEntry)
  obtain ⟨means, typed, expanded, blank, blamed, ordered⟩ := progress
  refine ⟨⟨fun name => ?_, fun name item meant type isOwn => ?_⟩, fun entry isEntry isSettled => ?_,
    fun entry isEntry isSettled unwinds => ?_, fun entry isEntry isNew => ?_,
    fun reported => blamed (reports.mp reported), fun silent => ordered fun reported =>
      silent (reports.mpr reported)⟩
  · rw [table]
    exact means.types name
  · rw [known name item meant]
    exact means.own name item meant type isOwn
  · rw [same entry isEntry]
    exact typed entry isEntry isSettled
  · rw [same entry isEntry]
    exact expanded entry isEntry isSettled unwinds
  · rw [same entry isEntry]
    exact blank entry isEntry isNew

/-- An alias that is met on the path of the search is reported and gets the unknown type. -/
theorem blame (isEntry : entry ∈ all) (cycle : AliasCycle items entry.symbol.name) (name : Ident) :
    Progress items all settled (Act.apply (Act.apply session (.report (.cyclicAlias name)))
      (.settles entry.symbol.id .unknown)) := by
  obtain ⟨means, typed, expanded, blank, -, -⟩ := progress
  have reported : (Act.apply (Act.apply session (.report (.cyclicAlias name)))
      (.settles entry.symbol.id .unknown)).ReportsCycle := reportsCycle_report.mpr (.inr rfl)
  have known (id : SymbolId) : ((Act.apply (Act.apply session (.report (.cyclicAlias name)))
      (.settles entry.symbol.id .unknown)).knownOf id).type =
        if id = entry.symbol.id then some .unknown else (session.knownOf id).type :=
    type_settles entry.symbol.id id .unknown
  refine ⟨(means.report _).settles register isEntry _, fun other isOther isSettled => ?_,
    fun other isOther isSettled unwinds => ?_, fun other isOther isNew => ?_,
    fun _ => ⟨_, cycle⟩, fun silent => (silent reported).elim⟩
  · rw [known]
    split
    · rfl
    · exact typed other isOther isSettled
  · rw [known, if_neg]
    · exact expanded other isOther isSettled unwinds
    · intro same
      rw [register.unique other isOther entry isEntry same] at unwinds
      exact unwinds.not_cycle cycle
  · rw [known]
    split
    · rename_i same
      rw [register.unique other isOther entry isEntry same]
      exact .inr cycle
    · exact blank other isOther isNew

/-- One more alias is settled when it has its type already or gets the right one, and the
aliases that it mentions are settled. -/
theorem more (isEntry : entry ∈ all) (means : Means items after)
    (others : ∀ id ≠ entry.symbol.id, (after.knownOf id).type = (session.knownOf id).type)
    (typed : (after.knownOf entry.symbol.id).type.isSome)
    (expanded : Unwinds items entry.symbol.name →
      ∃ type, (after.knownOf entry.symbol.id).type = some type ∧
        NameExpands items entry.symbol.name type)
    (reports : after.ReportsCycle ↔ session.ReportsCycle)
    (ahead : ¬session.ReportsCycle → ∀ other ∈ all,
      AliasMentions items entry.symbol.name other.symbol.name → other.symbol.id ∈ settled) :
    Progress items all (entry.symbol.id :: settled) after where
  means := means
  typed other isOther isSettled := by
    by_cases same : other.symbol.id = entry.symbol.id
    · rw [same]
      exact typed
    · rw [others _ same]
      exact progress.typed other isOther ((List.mem_cons.mp isSettled).resolve_left same)
  expanded other isOther isSettled unwinds := by
    by_cases same : other.symbol.id = entry.symbol.id
    · rw [register.unique other isOther entry isEntry same] at unwinds ⊢
      exact expanded unwinds
    · rw [others _ same]
      exact progress.expanded other isOther ((List.mem_cons.mp isSettled).resolve_left same) unwinds
  blank other isOther isNew := by
    obtain ⟨apart, isNew⟩ := not_or.mp (List.mem_cons.not.mp isNew)
    rw [others _ apart]
    exact progress.blank other isOther isNew
  blamed reported := progress.blamed (reports.mp reported)
  ordered silent := by
    have quiet : ¬session.ReportsCycle := fun reported => silent (reports.mpr reported)
    refine ⟨fun one isOne same other isOther mentions => ?_, progress.ordered quiet⟩
    rw [register.unique one isOne entry isEntry same] at mentions
    exact ahead quiet other isOther mentions

/-- An alias gets its type. -/
theorem fill (isEntry : entry ∈ all) {type : Ty}
    (right : Unwinds items entry.symbol.name → NameExpands items entry.symbol.name type)
    (ahead : ¬session.ReportsCycle → ∀ other ∈ all,
      AliasMentions items entry.symbol.name other.symbol.name → other.symbol.id ∈ settled) :
    Progress items all (entry.symbol.id :: settled)
      (Act.apply session (.settles entry.symbol.id type)) := by
  have known : ((Act.apply session (.settles entry.symbol.id type)).knownOf
      entry.symbol.id).type = some type := by
    rw [type_settles, if_pos rfl]
  refine progress.more register isEntry (progress.means.settles register isEntry type)
    (fun id apart => by rw [type_settles, if_neg apart]) ?_
    (fun unwinds => ⟨type, known, right unwinds⟩) Iff.rfl ahead
  rw [known]
  rfl

/-- Names in the target of an alias stand for their expansions, when the aliases among them
are settled or met on a cycle and the alias unwinds. -/
theorem named {decl : AliasDecl} {name : String} {target : TypeForm}
    (means : typeNamed? items name = some (.typeAlias decl)) (isTarget : decl.target = some target)
    (unwinds : Unwinds items name)
    (ahead : ∀ other ∈ all, AliasMentions items name other.symbol.name →
      other.symbol.id ∈ settled ∨ AliasCycle items other.symbol.name)
    {mention : Ident} (isMention : mention ∈ target.mentions) :
    NameExpands items mention.name (session.named mention.name) := by
  unfold Session.named
  cases isBuiltin : Prim.ofName? mention.name with
  | some builtin => exact .builtin isBuiltin
  | none =>
    have types := progress.means.types mention.name
    cases meant : typeNamed? items mention.name with
    | none =>
      rw [meant, Option.map_none, Option.map_eq_none_iff] at types
      rw [types]
      exact .missing isBuiltin meant
    | some item =>
      rw [meant, Option.map_some, Option.map_eq_some_iff] at types
      obtain ⟨symbol, resolved, id⟩ := types
      simp only [resolved, id]
      have own := progress.means.own mention.name item meant
      have declares := (Item.declaresType_iff.mp (declares_of_typeNamed? meant).2).1
      cases item with
      | struct decl =>
        rw [own _ rfl]
        exact .struct meant
      | enum decl =>
        rw [own _ rfl]
        exact .enum meant
      | typeAlias next =>
        obtain ⟨other, isOther, sameName⟩ := register.complete _ next meant
        have mentions : AliasMentions items name other.symbol.name := by
          refine ⟨decl, target, means, isTarget, ⟨mention, isMention, sameName.symm⟩, next, ?_⟩
          rw [sameName]
          exact meant
        have unwindsOther := unwinds.mentioned mentions
        obtain isSettled | cycle := ahead other isOther mentions
        · obtain ⟨type, known, expands⟩ :=
            progress.expanded other isOther isSettled unwindsOther
          have sameDecl := register.sound other isOther
          rw [sameName, meant] at sameDecl
          cases sameDecl
          rw [register.node other isOther] at known
          change NameExpands items mention.name
            ((session.knownOf (.node other.decl.span.node)).type.getD .unknown)
          rw [known, Option.getD_some, ← sameName]
          exact expands
        · exact (unwindsOther.not_cycle cycle).elim
      | _ => cases declares

/-- Settling an alias behind the ones that it mentions. -/
theorem settle (isEntry : entry ∈ all)
    (ahead : ∀ other ∈ all, AliasMentions items entry.symbol.name other.symbol.name →
      other.symbol.id ∈ settled ∨ (AliasCycle items other.symbol.name ∧ session.ReportsCycle)) :
    Progress items all (entry.symbol.id :: settled) (entry.settle.run session).2 ∧
      ((entry.settle.run session).2.ReportsCycle ↔ session.ReportsCycle) := by
  have means := register.sound entry isEntry
  have behind (quiet : ¬session.ReportsCycle) (other : DeclaredAlias) (isOther : other ∈ all)
      (mentions : AliasMentions items entry.symbol.name other.symbol.name) :
      other.symbol.id ∈ settled :=
    (ahead other isOther mentions).resolve_right fun reported => quiet reported.2
  unfold DeclaredAlias.settle
  rw [StateT.run_bind]
  simp only [StateT.run_get, pure_bind]
  cases known : (session.knownOf entry.symbol.id).type with
  | some type =>
    have progressed := progress.more register isEntry progress.means (fun _ _ => rfl)
      (by rw [known]; rfl) (fun unwinds => ?_) Iff.rfl behind
    · exact ⟨progressed, Iff.rfl⟩
    · refine progress.expanded entry isEntry ?_ unwinds
      by_contra isNew
      obtain noType | cycle := progress.blank entry isEntry isNew
      · rw [known] at noType
        cases noType
      · exact unwinds.not_cycle cycle
  | none =>
    cases isTarget : entry.decl.target with
    | none =>
      have same : (Act.apply session (.report
          (.malformed entry.decl.span (.aliasWithoutTarget entry.symbol.name)))).ReportsCycle ↔
            session.ReportsCycle :=
        reportsCycle_report.trans (or_iff_left Bool.false_ne_true)
      have between : Progress items all settled (Act.apply session (.report
          (.malformed entry.decl.span (.aliasWithoutTarget entry.symbol.name)))) :=
        progress.congr register rfl (fun _ _ _ => rfl) same
      exact ⟨between.fill register isEntry (fun _ => .bare means isTarget)
        fun quiet => behind fun reported => quiet (same.mpr reported), same⟩
    | some target =>
      have reads := Check.reads_typeOf target session
      have same := reportsCycle_of_reads reads
      have yields := Check.typeOf_yields target session
      simp only
      rw [StateT.run_bind]
      generalize (Check.typeOf target).run session = outcome at reads same yields
      obtain ⟨type, between⟩ := outcome
      obtain rfl : type = target.meaning session.named := yields
      have known (id : SymbolId) : between.knownOf id = session.knownOf id := by
        unfold Session.knownOf
        rw [reads.known]
      refine ⟨(progress.congr register reads.table (fun _ _ _ => known _) same).fill register isEntry
        (fun unwinds => ?_) fun quiet => behind fun reported => quiet (same.mpr reported), same⟩
      refine .typeAlias session.named means isTarget fun mention isMention => ?_
      exact progress.named register means isTarget unwinds (fun other isOther mentions =>
        (ahead other isOther mentions).imp_right And.left) isMention

end Progress

/-! ### The search -/

/-- The path of the search holds aliases, each of which leads to the one at hand; a longer
path would hold one of them twice. -/
structure OnWay (items : List Item) (all : List DeclaredAlias) (fuel : Nat) (path : List SymbolId)
    (entry : DeclaredAlias) : Prop where
  leads : ∀ id ∈ path, ∃ held ∈ all, held.symbol.id = id ∧
    Relation.TransGen (AliasMentions items) held.symbol.name entry.symbol.name
  nodup : path.Nodup
  enough : all.length < fuel + path.length

/-- What the search leaves behind an alias: it has come further, and the alias is settled
unless it was met on the path, so on a cycle, which is then reported. -/
structure Visited (items : List Item) (all : List DeclaredAlias) (path settled : List SymbolId)
    (before : Session) (entry : DeclaredAlias) (outcome : List SymbolId × Session) : Prop where
  progress : Progress items all outcome.1 outcome.2
  more : settled ⊆ outcome.1
  reports : before.ReportsCycle → outcome.2.ReportsCycle
  answer : entry.symbol.id ∈ outcome.1 ∨
    (entry.symbol.id ∈ path ∧ AliasCycle items entry.symbol.name ∧ outcome.2.ReportsCycle)

/-- The search never runs out of fuel. -/
theorem OnWay.fuel_ne_zero (onWay : OnWay items all fuel path entry) : fuel ≠ 0 := by
  have inside : path ⊆ all.map (·.symbol.id) := by
    intro id isHeld
    obtain ⟨held, isEntry, rfl, -⟩ := onWay.leads id isHeld
    exact List.mem_map_of_mem isEntry
  have short := (List.subperm_of_subset onWay.nodup inside).length_le
  have enough := onWay.enough
  rw [List.length_map] at short
  omega

/-- The search goes on with what the alias at hand mentions. -/
theorem OnWay.further {other : DeclaredAlias} (onWay : OnWay items all (fuel + 1) path entry)
    (isEntry : entry ∈ all) (isNew : entry.symbol.id ∉ path)
    (mentions : AliasMentions items entry.symbol.name other.symbol.name) :
    OnWay items all fuel (entry.symbol.id :: path) other where
  leads id isHeld := by
    obtain rfl | earlier := List.mem_cons.mp isHeld
    · exact ⟨entry, isEntry, rfl, .single mentions⟩
    · obtain ⟨held, isHeld, same, leads⟩ := onWay.leads id earlier
      exact ⟨held, isHeld, same, leads.tail mentions⟩
  nodup := List.nodup_cons.mpr ⟨isNew, onWay.nodup⟩
  enough := by
    have enough := onWay.enough
    rw [List.length_cons]
    omega

/-- What resolving an alias does at one of the names in its target. -/
def visitMention (all : List DeclaredAlias) (fuel : Nat) (path settled : List SymbolId)
    (mention : Ident) : Check (List SymbolId) := do
  match <- aliasNamed? all mention.name with
  | some other => resolveAlias all fuel path settled other
  | none => return settled

/-- An alias that is neither on the path nor settled is settled behind what it mentions. -/
theorem resolveAlias_succ (all : List DeclaredAlias) (fuel : Nat) (path settled : List SymbolId)
    (entry : DeclaredAlias) : resolveAlias all (fuel + 1) path settled entry =
      if path.contains entry.symbol.id then do
        Check.report (.cyclicAlias entry.ident)
        Check.setType entry.symbol.id .unknown
        return settled
      else if settled.contains entry.symbol.id then return settled
      else do
        let settled <- entry.mentions.foldlM
          (visitMention all fuel (entry.symbol.id :: path)) settled
        entry.settle
        return entry.symbol.id :: settled := rfl

/-- The search answers from wherever it may stand with this fuel. -/
def VisitsAll (items : List Item) (all : List DeclaredAlias) (fuel : Nat) : Prop :=
  ∀ path settled entry session, entry ∈ all → OnWay items all fuel path entry →
    Progress items all settled session →
    Visited items all path settled session entry
      ((resolveAlias all fuel path settled entry).run session)

/-- What the search leaves behind some of the names in the target of an alias. -/
structure Mentioned (items : List Item) (all : List DeclaredAlias) (settled : List SymbolId)
    (before : Session) (mentions : List Ident) (outcome : List SymbolId × Session) : Prop where
  progress : Progress items all outcome.1 outcome.2
  more : settled ⊆ outcome.1
  reports : before.ReportsCycle → outcome.2.ReportsCycle
  answer : ∀ mention ∈ mentions, ∀ other ∈ all, other.symbol.name = mention.name →
    other.symbol.id ∈ outcome.1 ∨ (AliasCycle items other.symbol.name ∧ outcome.2.ReportsCycle)

theorem mentioned_visitMention (register : Register items all) (visits : VisitsAll items all fuel)
    (progress : Progress items all settled session) (mention : Ident)
    (onWay : ∀ other ∈ all, other.symbol.name = mention.name → OnWay items all fuel path other) :
    Mentioned items all settled session [mention]
      ((visitMention all fuel path settled mention).run session) := by
  obtain ⟨found, looked, isFound⟩ := run_aliasNamed? register progress.means mention.name
  unfold visitMention
  rw [StateT.run_bind, looked]
  cases found with
  | none =>
    refine ⟨progress, List.Subset.refl _, id, List.forall_mem_singleton.mpr fun other isOther same => ?_⟩
    cases (isFound other).mpr ⟨isOther, same⟩
  | some other =>
    obtain ⟨isOther, same⟩ := (isFound other).mp rfl
    have visited := visits path settled other session isOther (onWay other isOther same) progress
    refine ⟨visited.progress, visited.more, visited.reports,
      List.forall_mem_singleton.mpr fun further isFurther sameName => ?_⟩
    rw [register.eq_of_name isFurther isOther (sameName.trans same.symm)]
    exact visited.answer.imp_right And.right

/-- What has been answered stays so along the names that follow. -/
theorem mentioned_foldlM (register : Register items all) (visits : VisitsAll items all fuel)
    (mentions : List Ident) (progress : Progress items all settled session)
    (onWay : ∀ mention ∈ mentions, ∀ other ∈ all, other.symbol.name = mention.name →
      OnWay items all fuel path other) :
    Mentioned items all settled session mentions
      ((mentions.foldlM (visitMention all fuel path) settled).run session) := by
  induction mentions generalizing settled session with
  | nil => exact ⟨progress, List.Subset.refl _, id, List.forall_mem_nil _⟩
  | cons mention rest inductionHypothesis =>
    obtain ⟨onWayFirst, onWayRest⟩ := List.forall_mem_cons.mp onWay
    have first := mentioned_visitMention register visits progress mention onWayFirst
    rw [List.foldlM_cons, StateT.run_bind]
    generalize (visitMention all fuel path settled mention).run session = outcome at first
    obtain ⟨between, middle⟩ := outcome
    have later := inductionHypothesis first.progress onWayRest
    refine ⟨later.progress, List.Subset.trans first.more later.more,
      fun reported => later.reports (first.reports reported),
      List.forall_mem_cons.mpr ⟨fun other isOther same => ?_, later.answer⟩⟩
    refine (first.answer mention List.mem_cons_self other isOther same).imp ?_ ?_
    · exact fun isSettled => later.more isSettled
    · exact And.imp_right later.reports

/-- The search answers, whatever the fuel. -/
theorem visitsAll (register : Register items all) (fuel : Nat) : VisitsAll items all fuel := by
  induction fuel with
  | zero => exact fun _ _ _ _ _ onWay _ => (onWay.fuel_ne_zero rfl).elim
  | succ fuel inductionHypothesis =>
    intro path settled entry session isEntry onWay progress
    rw [resolveAlias_succ]
    split
    · rename_i isHeld
      rw [List.contains_iff_mem] at isHeld
      obtain ⟨held, isOther, same, leads⟩ := onWay.leads _ isHeld
      rw [register.unique held isOther entry isEntry same] at leads
      exact ⟨progress.blame register isEntry leads _, List.Subset.refl _,
        fun reported => reportsCycle_report.mpr (.inl reported),
        .inr ⟨isHeld, leads, reportsCycle_report.mpr (.inr rfl)⟩⟩
    · split
      · rename_i isSettled
        exact ⟨progress, List.Subset.refl _, id, .inl (List.contains_iff_mem.mp isSettled)⟩
      · rename_i isNew _
        have notHeld : entry.symbol.id ∉ path := fun held => isNew (List.contains_iff_mem.mpr held)
        have mentionsOf {other : DeclaredAlias} (isOther : other ∈ all) {mention : Ident}
            (isMention : mention ∈ entry.mentions) (same : other.symbol.name = mention.name) :
            AliasMentions items entry.symbol.name other.symbol.name := by
          unfold DeclaredAlias.mentions at isMention
          cases isTarget : entry.decl.target with
          | none =>
            rw [isTarget] at isMention
            cases isMention
          | some target =>
            rw [isTarget] at isMention
            exact ⟨_, target, register.sound entry isEntry, isTarget, ⟨mention, isMention, same.symm⟩,
              _, register.sound other isOther⟩
        have mentioned := mentioned_foldlM register inductionHypothesis entry.mentions progress
          fun mention isMention other isOther same =>
            onWay.further isEntry notHeld (mentionsOf isOther isMention same)
        rw [StateT.run_bind]
        generalize (entry.mentions.foldlM (visitMention all fuel (entry.symbol.id :: path))
          settled).run session = outcome at mentioned
        obtain ⟨between, middle⟩ := outcome
        obtain ⟨progressed, same⟩ := mentioned.progress.settle register isEntry
          fun other isOther mentions => by
            obtain ⟨decl, target, means, isTarget, ⟨mention, isMention, isName⟩, -⟩ := mentions
            cases means.symm.trans (register.sound entry isEntry)
            refine mentioned.answer mention ?_ other isOther isName.symm
            unfold DeclaredAlias.mentions
            rw [isTarget]
            exact isMention
        exact ⟨progressed, fun id isSettled => List.mem_cons_of_mem _ (mentioned.more isSettled),
          fun reported => same.mpr (mentioned.reports reported), .inl List.mem_cons_self⟩

/-- Where no alias has a type yet, nothing is settled. -/
theorem progress_nil (register : Register items all) (gathered : Gathered items session) :
    Progress items all [] session where
  means := gathered.means
  typed _ _ impossible := by cases impossible
  expanded _ _ impossible := by cases impossible
  blank entry isEntry _ := by
    rw [register.node entry isEntry]
    exact .inl (gathered.known _ _ (register.sound entry isEntry))
  blamed reported := (gathered.silent reported).elim
  ordered _ := trivial

/-- Resolving all aliases settles each of them. -/
theorem progress_resolveAliases (register : Register items all)
    (gathered : Gathered items session) :
    ∃ settled, Progress items all settled (session.after (resolveAliases all)) ∧
      ∀ entry ∈ all, entry.symbol.id ∈ settled := by
  have each (rest : List DeclaredAlias) (inside : ∀ entry ∈ rest, entry ∈ all)
      {settled : List SymbolId} {session : Session} (progress : Progress items all settled session) :
      let outcome := (rest.foldlM (fun settled entry =>
        resolveAlias all (all.length + 1) [] settled entry) settled).run session
      Progress items all outcome.1 outcome.2 ∧ settled ⊆ outcome.1 ∧
        ∀ entry ∈ rest, entry.symbol.id ∈ outcome.1 := by
    induction rest generalizing settled session with
    | nil => exact ⟨progress, List.Subset.refl _, List.forall_mem_nil _⟩
    | cons entry rest inductionHypothesis =>
      obtain ⟨isEntry, insideRest⟩ := List.forall_mem_cons.mp inside
      have onWay : OnWay items all (all.length + 1) [] entry :=
        ⟨List.forall_mem_nil _, List.nodup_nil, Nat.lt_succ_self _⟩
      have first := visitsAll register (all.length + 1) [] settled entry session isEntry onWay progress
      simp only [List.foldlM_cons, StateT.run_bind]
      generalize (resolveAlias all (all.length + 1) [] settled entry).run session = outcome at first
      obtain ⟨between, middle⟩ := outcome
      obtain ⟨progressed, more, answer⟩ := inductionHypothesis insideRest first.progress
      -- nothing stands on an empty path
      have isSettled := first.answer.resolve_right fun onPath => List.not_mem_nil onPath.1
      exact ⟨progressed, List.Subset.trans first.more more,
        List.forall_mem_cons.mpr ⟨more isSettled, answer⟩⟩
  obtain ⟨progressed, -, answer⟩ := each all (fun _ isEntry => isEntry)
    (progress_nil register gathered)
  exact ⟨_, progressed, answer⟩

end UnitCheck.Declare
