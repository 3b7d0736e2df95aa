import UnitCheck.Proofs.Declare.Collected
import UnitCheck.Proofs.Declare.Expanded

/-!
# What the first pass knows about constants and statics

Collecting adds to the table the symbols of what is pending and nothing else, records each of
them at the node of its item, and knows types of structs and enumerations only. What follows
gives a type to a constant or static when one is written. So behind the pass a declared
constant or static has a type just where one is written.
-/

namespace UnitCheck.Declare

variable {items : List Item} {item : Item} {before middle after session : Session}
  {pending others : List Pending}

/-! ### Collecting -/

/-- What collecting adds to a session when it leaves something pending. -/
structure Enrolls (pending : List Pending) (before after : Session) : Prop where
  globals : after.table.globals = before.table.globals ++ pending.map Pending.symbol
  decls : after.facts.decls =
    (pending.map fun entry => (entry.item.span.node, entry.symbol)).reverse ++ before.facts.decls
  known : ∀ id, (after.knownOf id).type.isSome → (before.knownOf id).type.isSome ∨
    ∃ entry ∈ pending, id = .node entry.item.span.node ∧
      (entry.item.ownType? entry.symbol.name).isSome
  symbols : ∀ entry ∈ pending, ∃ header name, header? entry.item = some header ∧
    entry.symbol = symbolOf entry.item header name

/-- What changes neither the table nor what is recorded and known adds nothing. -/
theorem enrolls_nil (table : after.table = before.table) (facts : after.facts = before.facts)
    (known : after.known = before.known) : Enrolls [] before after where
  globals := by rw [table, List.map_nil, List.append_nil]
  decls := by rw [facts]; rfl
  known id isKnown := by
    unfold Session.knownOf at isKnown ⊢
    exact .inl (known ▸ isKnown)
  symbols := List.forall_mem_nil _

theorem Enrolls.trans (first : Enrolls pending before middle)
    (second : Enrolls others middle after) : Enrolls (pending ++ others) before after where
  globals := by rw [second.globals, first.globals, List.map_append, List.append_assoc]
  decls := by
    rw [second.decls, first.decls, List.map_append, List.reverse_append, List.append_assoc]
  known id isKnown := by
    obtain isKnown | ⟨entry, isEntry, found⟩ := second.known id isKnown
    · obtain isKnown | ⟨entry, isEntry, found⟩ := first.known id isKnown
      · exact .inl isKnown
      · exact .inr ⟨entry, List.mem_append_left _ isEntry, found⟩
    · exact .inr ⟨entry, List.mem_append_right _ isEntry, found⟩
  symbols := List.forall_mem_append.mpr ⟨first.symbols, second.symbols⟩

theorem enrolls_declareGlobal {header : Header} (isHeader : header? item = some header)
    (session : Session) : Enrolls ((declareGlobal item header).run session).1.toList session
      ((declareGlobal item header).run session).2 := by
  have outcome := declares_declareGlobal isHeader session
  generalize (declareGlobal item header).run session = result at outcome ⊢
  obtain ⟨pending, after⟩ := result
  cases outcome with
  | unnamed | reserved | taken => exact enrolls_nil rfl rfl rfl
  | enters name _ _ _ _ enters recorded =>
    refine ⟨?_, recorded, fun id isKnown => ?_,
      List.forall_mem_singleton.mpr ⟨header, name, isHeader, rfl⟩⟩
    · rw [enters.table]
      rfl
    · rw [enters.known] at isKnown
      split at isKnown
      · exact .inr ⟨_, List.mem_singleton_self _, ‹_›, isKnown⟩
      · exact .inl isKnown

theorem enrolls_collectItem (entry : Option Span) (item : Item) (session : Session) :
    Enrolls ((collectItem entry item).run session).1.2.toList session
      ((collectItem entry item).run session).2 := by
  cases found : header? item with
  | some header =>
    have same : collectItem entry item = (do return (entry, <- declareGlobal item header)) := by
      cases item <;> simp_all [collectItem, header?]
    rw [same]
    exact enrolls_declareGlobal found session
  | none =>
    cases item with
    | entry decl =>
      cases entry <;> exact enrolls_nil rfl rfl rfl
    | stray stmt =>
      cases stmt with
      | block body span =>
        have said := alike_skipNestedAll body session
        exact enrolls_nil said.table said.facts said.known
      | _ => exact enrolls_nil rfl rfl rfl
    | _ => cases found

/-- Collecting items adds what it leaves pending. -/
theorem enrolls_collect (items : List Item) (entry : Option Span) (session : Session) :
    Enrolls ((collect entry items).run session).1 session
      ((collect entry items).run session).2 := by
  induction items generalizing entry session with
  | nil => exact enrolls_nil rfl rfl rfl
  | cons item rest inductionHypothesis =>
    exact (enrolls_collectItem entry item session).trans (inductionHypothesis _ _)

/-! ### Behind collecting -/

/-- Whatever leaves the table, the declarations and what is known at some nodes alone. -/
def sparing (spared : NodeId -> Prop) : Regime where
  holds _ := True
  permits
    | .knows id _ | .settles id _ => ∀ node, spared node → id ≠ .node node
    | .global _ | .locals _ _ | .declares _ _ => False
    | _ => True
  stable _ _ _ _ := trivial

variable {spared : NodeId -> Prop}

theorem mayDefine_sparing : MayDefine (sparing spared) fun _ => True where
  unknownType _ := trivial
  written _ _ _ := trivial
  refers _ _ _ := trivial
  report _ _ _ _ := trivial
  recursion _ _ := trivial
  struct _ _ := trivial
  enum _ _ := trivial

/-- What is known at a spared node stays. -/
theorem knownOf_of_sparing (trace : Trace (sparing spared).permits before after) {node : NodeId}
    (isSpared : spared node) : after.knownOf (.node node) = before.knownOf (.node node) := by
  have kept (act : Act) (session : Session) (permitted : (sparing spared).permits act) :
      (act.apply session).knownOf (.node node) = session.knownOf (.node node) := by
    rw [Act.knownOf_apply]
    cases act with
    | knows id _ | settles id _ =>
      exact if_neg fun same => permitted node isSpared (Option.some.inj same)
    | _ => rfl
  exact @Trace.keeps _ _ _ trace _ (·.knownOf (.node node)) kept

theorem kept_of_sparing (trace : Trace (sparing spared).permits before after) :
    after.table = before.table ∧ after.facts.decls = before.facts.decls := by
  have kept (act : Act) (session : Session) (permitted : (sparing spared).permits act) :
      ((act.apply session).table, (act.apply session).facts.decls) =
        (session.table, session.facts.decls) := by
    cases act <;> first | rfl | exact permitted.elim
  have same := @Trace.keeps _ _ _ trace _ (fun session => (session.table, session.facts.decls)) kept
  exact ⟨congrArg Prod.fst same, congrArg Prod.snd same⟩

/-- A constant or a static without a written type. -/
def IsUntyped (item : Item) : Prop :=
  ∃ global, Typing.global? item = some global ∧ global.form = none

/-- Without a written type there is nothing to resolve. -/
theorem resolveSignature_untyped {entry : Pending} (untyped : IsUntyped entry.item) :
    resolveSignature entry = pure () := by
  obtain ⟨symbol, item⟩ := entry
  obtain ⟨global, declares, isNone⟩ := untyped
  cases item with
  | const decl | static decl =>
    cases declares
    have noForm : decl.type = none := isNone
    simp only [resolveSignature, valueSignature, noForm]
  | _ => cases declares

/-- Resolving signatures spares nodes at which nothing is pending but untyped values. -/
theorem obeys_resolveSignature_sparing {entry : Pending}
    (apart : IsUntyped entry.item ∨ ∀ node, spared node → entry.symbol.id ≠ .node node) :
    (sparing spared).Obeys (resolveSignature entry) := by
  obtain untyped | apart := apart
  · rw [resolveSignature_untyped untyped]
    exact .pure _
  · exact obeys_resolveSignature mayDefine_sparing.toMayInspect entry
      (fun _ => ⟨fun _ => apart, fun _ => apart⟩) fun _ _ => trivial

theorem obeys_resolveSignatures_sparing (apart : ∀ entry ∈ pending,
      IsUntyped entry.item ∨ ∀ node, spared node → entry.symbol.id ≠ .node node) :
    (sparing spared).Obeys (resolveSignatures pending) := by
  have may : MayDefine (sparing spared) fun _ => True := mayDefine_sparing
  refine .bind (obeys_resolveAliases ⟨may.toMayInspect, fun _ => trivial⟩ _ ?_ ?_) fun _ =>
    .bind (.forM _ fun entry _ => obeys_defineType may entry fun _ _ => trivial) fun _ =>
    .bind (obeys_cutRecursion may pending) fun _ =>
    .forM _ fun entry isEntry => obeys_resolveSignature_sparing (apart entry isEntry)
  · intro declared isAlias
    obtain ⟨other, isPending, isItem, same⟩ := item_of_aliases isAlias
    obtain ⟨global, declares, _⟩ | apart := apart other isPending
    · rw [isItem] at declares
      cases declares
    · rw [← same]
      exact ⟨fun _ => apart, fun _ => apart⟩
  · exact fun _ _ _ _ => trivial

/-- A written type is known behind its signature. -/
theorem isSome_resolveSignature {entry : Pending} {global : Typing.Global}
    (declares : Typing.global? entry.item = some global) (typed : global.form.isSome)
    (session : Session) :
    ((session.after (resolveSignature entry)).knownOf entry.symbol.id).type.isSome := by
  have value (form : TypeForm) : ((session.after
      (valueSignature entry.symbol (some form))).knownOf entry.symbol.id).type.isSome := by
    change ((Act.apply ((Check.typeOf form).run session).2
      (.settles entry.symbol.id ((Check.typeOf form).run session).1)).knownOf _).type.isSome
    rw [Act.knownOf_apply, if_pos (by rfl)]
    rfl
  obtain ⟨form, isForm⟩ := Option.isSome_iff_exists.mp typed
  unfold resolveSignature
  cases isItem : entry.item with
  | const decl | static decl =>
    rw [isItem] at declares
    cases declares
    have written : decl.type = some form := isForm
    simp only [written]
    exact value form
  | _ =>
    rw [isItem] at declares
    cases declares

/-- What all visits keep and one of them establishes holds behind them. -/
theorem forM_establishes {α : Type} {property : Session -> Prop} {visit : α -> Check Unit}
    {values : List α} (keeps : ∀ value ∈ values, ∀ session : Session, property session →
      property (session.after (visit value)))
    (session : Session) (makes : property session ∨
      ∃ value ∈ values, ∀ session : Session, property (session.after (visit value))) :
    property (session.after (values.forM visit)) := by
  induction values generalizing session with
  | nil =>
    obtain holds | ⟨value, isValue, _⟩ := makes
    · exact holds
    · cases isValue
  | cons first rest inductionHypothesis =>
    obtain ⟨keepsFirst, keepsRest⟩ := List.forall_mem_cons.mp keeps
    refine inductionHypothesis keepsRest (session.after (visit first)) ?_
    obtain holds | ⟨value, isValue, makesValue⟩ := makes
    · exact .inl (keepsFirst session holds)
    · obtain rfl | isLater := List.mem_cons.mp isValue
      · exact .inl (makesValue session)
      · exact .inr ⟨value, isLater, makesValue⟩

/-- A value that waits with a written type has a type behind the signatures. -/
theorem isSome_resolveSignatures {entry : Pending} {global : Typing.Global} {node : NodeId}
    (isEntry : entry ∈ pending) (isAt : entry.symbol.id = .node node)
    (declares : ∀ other ∈ pending, other.symbol.id = .node node →
      Typing.global? other.item = some global)
    (typed : global.form.isSome) (session : Session) :
    ((session.after (resolveSignatures pending)).knownOf (.node node)).type.isSome := by
  let isKnown (session : Session) : Prop := (session.knownOf (.node node)).type.isSome = true
  have gives (other : Pending) (isOther : other ∈ pending) (isAt : other.symbol.id = .node node)
      (session : Session) : isKnown (session.after (resolveSignature other)) := by
    have found := isSome_resolveSignature (declares other isOther isAt) typed session
    rwa [isAt] at found
  have signs (session : Session) : isKnown (session.after (pending.forM resolveSignature)) := by
    refine forM_establishes (fun other isOther session holds => ?_) session
      (.inr ⟨entry, isEntry, gives entry isEntry isAt⟩)
    by_cases isOwn : other.symbol.id = .node node
    · exact gives other isOther isOwn session
    · have spares : (sparing (· = node)).Obeys (resolveSignature other) :=
        obeys_resolveSignature_sparing (.inr fun _ isNode => isNode ▸ isOwn)
      have stays := knownOf_of_sparing (spares session trivial) rfl
      change (((resolveSignature other).run session).2.knownOf (.node node)).type.isSome = true
      rw [stays]
      exact holds
  exact signs _

/-! ### The whole pass -/

/-- What the first pass knows about constants and statics. -/
structure Enrolled (items : List Item) (session : Session) : Prop where
  values : ∀ symbol ∈ session.table.globals, ∀ global ∈ Typing.globals items,
    symbol.id = .node global.node → symbol.isType = false ∧ Declared global.node session
  untyped : ∀ global ∈ Typing.globals items, global.form = none →
    (session.knownOf (.node global.node)).type = none
  typed : ∀ global ∈ Typing.globals items, global.form.isSome → Declared global.node session →
    (session.knownOf (.node global.node)).type.isSome

theorem Enrolled.alike (enrolled : Enrolled items before) (alike : before.Alike after) :
    Enrolled items after :=
  alike.carries enrolled fun _ _ holds => ⟨holds.values, holds.untyped, holds.typed⟩

/-- Builtin symbols stand at no node, and nothing is declared or known ahead of the items. -/
theorem blank_intrinsics {unit : Option Module} {options : Options}
    (alike : (Session.start unit options).Alike session) :
    (∀ symbol ∈ (session.after (declareIntrinsics 0 intrinsics)).table.globals,
        ∀ node, symbol.id ≠ .node node) ∧
      (session.after (declareIntrinsics 0 intrinsics)).facts.decls = [] ∧
      ∀ node, ((session.after (declareIntrinsics 0 intrinsics)).knownOf (.node node)).type =
        none := by
  rw [alike.same]
  refine ⟨fun symbol isGlobal node => ?_, rfl, fun _ => rfl⟩
  have builtin : (((Session.start unit options).after
      (declareIntrinsics 0 intrinsics)).table.globals.all fun symbol =>
        symbol.id matches .builtin _) = true := rfl
  have isBuiltin := List.all_eq_true.mp builtin symbol isGlobal
  intro same
  rw [same] at isBuiltin
  cases isBuiltin

/-- The symbol of a value is no type. -/
theorem isType_of_value {global : Typing.Global} {header : Header}
    (declares : Typing.global? item = some global) (isHeader : header? item = some header)
    (name : Ident) : (symbolOf item header name).isType = false := by
  rw [Symbol.isType, (symbolOf_fields item header name).2]
  cases item with
  | const _ | static _ =>
    cases isHeader
    rfl
  | _ => cases declares

/-- A value is introduced without a type. -/
theorem ownType?_of_value {global : Typing.Global} (declares : Typing.global? item = some global)
    (name : String) : item.ownType? name = none := by
  cases item with
  | const _ | static _ => rfl
  | _ => cases declares

/-- What is pending at the node of a value declares the value. -/
theorem global?_of_node (distinct : (items.flatMap Item.sites).Nodup) {item : Item}
    (isItem : item ∈ items) (hasHeader : (header? item).isSome) {global : Typing.Global}
    (isGlobal : global ∈ Typing.globals items) (same : item.span.node = global.node) :
    Typing.global? item = some global := by
  obtain ⟨other, isOther, declares⟩ := List.mem_filterMap.mp isGlobal
  have node : item.span.node = other.span.node := same.trans (node_of_global declares).symm
  obtain rfl : item = other := Item.eq_of_mem_nodes distinct isItem isOther
    (node_mem_sites_of_header hasHeader)
    (node ▸ node_mem_sites_of_header (header?_of_global declares))
  exact declares

/-- What collecting leaves behind of a unit: its pending items are those that are declared,
and what is known is known of them. -/
structure Roster (items : List Item) (pending : List Pending) (session : Session) : Prop where
  listed : ∀ entry ∈ pending, entry.item ∈ items ∧ entry.symbol.id = .node entry.item.span.node
  headed : ∀ entry ∈ pending, ∃ header name, header? entry.item = some header ∧
    entry.symbol = symbolOf entry.item header name
  globals : ∀ symbol ∈ session.table.globals, ∀ node, symbol.id = .node node →
    ∃ entry ∈ pending, entry.symbol = symbol
  declared : ∀ node, Declared node session ↔ ∃ entry ∈ pending, entry.symbol.id = .node node
  known : ∀ node, (session.knownOf (.node node)).type.isSome → ∃ entry ∈ pending,
    entry.symbol.id = .node node ∧ (entry.item.ownType? entry.symbol.name).isSome

/-- Collecting the items of a unit behind the builtins. -/
theorem roster_collect {unit : Option Module} {options : Options}
    (start : (Session.start unit options).Alike session) (items : List Item) :
    let collected := (collect none items).run (session.after (declareIntrinsics 0 intrinsics))
    Roster items collected.1 collected.2 := by
  obtain ⟨builtin, noDecls, noTypes⟩ := blank_intrinsics start
  have listed := id_of_collect items none (session.after (declareIntrinsics 0 intrinsics))
  have enrolls := enrolls_collect items none (session.after (declareIntrinsics 0 intrinsics))
  generalize session.after (declareIntrinsics 0 intrinsics) = blank at *
  generalize (collect none items).run blank = collected at *
  obtain ⟨pending, middle⟩ := collected
  refine ⟨listed, enrolls.symbols, fun symbol isSymbol node same => ?_, fun node => ?_,
    fun node isKnown => ?_⟩
  · rw [enrolls.globals] at isSymbol
    obtain isBuiltin | isPending := List.mem_append.mp isSymbol
    · exact absurd same (builtin symbol isBuiltin node)
    · exact List.mem_map.mp isPending
  · unfold Declared FactLog.find?
    rw [enrolls.decls, noDecls, List.append_nil, List.lookup_isSome_iff]
    simp only [List.mem_reverse, List.mem_map, exists_exists_and_eq_and, beq_iff_eq]
    refine exists_congr fun entry => and_congr_right fun isEntry => ?_
    rw [(listed entry isEntry).2, SymbolId.node.injEq, eq_comm]
  · obtain earlier | ⟨entry, isEntry, same, owns⟩ := enrolls.known _ isKnown
    · rw [noTypes] at earlier
      cases earlier
    · exact ⟨entry, isEntry, (listed entry isEntry).2.trans same.symm, owns⟩

/-- What is pending at the node of a value declares the value. -/
theorem Roster.declares (roster : Roster items pending session)
    (distinct : (items.flatMap Item.sites).Nodup) {entry : Pending} (isEntry : entry ∈ pending)
    {global : Typing.Global} (isGlobal : global ∈ Typing.globals items)
    (same : entry.symbol.id = .node global.node) :
    Typing.global? entry.item = some global := by
  obtain ⟨isItem, own⟩ := roster.listed entry isEntry
  obtain ⟨header, name, isHeader, _⟩ := roster.headed entry isEntry
  exact global?_of_node distinct isItem (by rw [isHeader]; rfl) isGlobal
    (SymbolId.node.inj (own.symm.trans same))

/-- Resolving signatures gives a declared value a type just where one is written. -/
theorem Roster.enrolled (roster : Roster items pending session)
    (distinct : (items.flatMap Item.sites).Nodup) :
    Enrolled items (session.after (resolveSignatures pending)) := by
  let untyped (node : NodeId) : Prop :=
    ∃ global ∈ Typing.globals items, global.form = none ∧ global.node = node
  have spares : Trace (sparing untyped).permits session
      (session.after (resolveSignatures pending)) := by
    refine obeys_resolveSignatures_sparing (fun entry isEntry => ?_) session trivial
    by_cases isUntyped : IsUntyped entry.item
    · exact .inl isUntyped
    · refine .inr ?_
      rintro _ ⟨global, isGlobal, isNone, rfl⟩ same
      exact isUntyped ⟨global, roster.declares distinct isEntry isGlobal same, isNone⟩
  obtain ⟨table, decls⟩ := kept_of_sparing spares
  have declared_iff (node : NodeId) :
      Declared node (session.after (resolveSignatures pending)) ↔
        ∃ entry ∈ pending, entry.symbol.id = .node node := by
    rw [← roster.declared]
    unfold Declared
    rw [decls]
  refine ⟨fun symbol isSymbol global isGlobal same => ?_, fun global isGlobal isNone => ?_,
    fun global isGlobal typed declared => ?_⟩
  · rw [table] at isSymbol
    obtain ⟨entry, isEntry, rfl⟩ := roster.globals symbol isSymbol global.node same
    refine ⟨?_, (declared_iff global.node).mpr ⟨entry, isEntry, same⟩⟩
    obtain ⟨header, name, isHeader, isSymbol⟩ := roster.headed entry isEntry
    rw [isSymbol]
    exact isType_of_value (roster.declares distinct isEntry isGlobal same) isHeader name
  · rw [knownOf_of_sparing spares ⟨global, isGlobal, isNone, rfl⟩]
    refine Option.not_isSome_iff_eq_none.mp fun isKnown => ?_
    obtain ⟨entry, isEntry, same, owns⟩ := roster.known _ isKnown
    rw [ownType?_of_value (roster.declares distinct isEntry isGlobal same)] at owns
    cases owns
  · obtain ⟨entry, isEntry, same⟩ := (declared_iff global.node).mp declared
    exact isSome_resolveSignatures isEntry same
      (fun _ isOther => roster.declares distinct isOther isGlobal) typed session

/-- Behind the first pass a declared value has a type just where one is written. -/
theorem enrolled_walk {unit : Module} {options : Options}
    (distinct : (unit.items.flatMap Item.sites).Nodup)
    (start : (Session.start (some unit) options).Alike session) :
    Enrolled unit.items (session.after walk) := by
  rw [after_walk_eq session start.items]
  exact (roster_collect start unit.items).enrolled distinct

/-!
### Where every declared type has its name to itself

A type whose name is taken is refused with an error. Behind a quiet pass every declaration
of a type at top level is what its name means there, so no two of them share a name.
-/

variable {done : List Item}

/-- The item is what the name means under which it declares a type. -/
def Named (items : List Item) (item : Item) : Prop :=
  ∀ name, item.typeName? = some name → typeNamed? items name = some item

/-- A global that is not refused is the first type of its name. -/
theorem named_declareGlobal {header : Header} (isHeader : header? item = some header)
    (gathered : Gathered done session)
    (quiet : ((declareGlobal item header).run session).2.Quiet) : Named (done ++ [item]) item := by
  intro name isName
  rw [typeName?_of_header isHeader] at isName
  split at isName
  case isFalse => cases isName
  case isTrue isType =>
    have outcome := declares_declareGlobal isHeader session
    generalize (declareGlobal item header).run session = result at outcome quiet
    obtain ⟨pending, after⟩ := result
    cases outcome with
    | unnamed | reserved | taken =>
      exact (Session.not_quiet_report (by rfl) quiet).elim
    | enters ident _ isNamed free isNew _ =>
      rw [isNamed] at isName
      cases isName
      have declares : item.declaresType ident.name = true := by
        refine Item.declaresType_iff.mpr ⟨?_, free isType⟩
        rw [typeName?_of_header isHeader, if_pos isType, isNamed]
        rfl
      have types := gathered.types ident.name
      rw [(space_type_iff header.kind).mpr isType] at isNew
      rw [isNew] at types
      rw [typeNamed?_append_singleton, Option.map_eq_none_iff.mp types.symm, if_pos declares]
      rfl

theorem named_collectItem (entry : Option Span) (gathered : Gathered done session)
    (quiet : ((collectItem entry item).run session).2.Quiet) : Named (done ++ [item]) item := by
  cases found : header? item with
  | some header =>
    have same : collectItem entry item = (do return (entry, <- declareGlobal item header)) := by
      cases item <;> simp_all [collectItem, header?]
    rw [same] at quiet
    exact named_declareGlobal found gathered quiet
  | none =>
    intro name isName
    cases item <;> first | cases isName | cases found

/-- Where collecting items ends quiet, each is what the name of its type means. -/
theorem named_collect (rest : List Item) (entry : Option Span) (gathered : Gathered done session)
    (distinct : ((done ++ rest).flatMap Item.sites).Nodup)
    (quiet : ((collect entry rest).run session).2.Quiet) :
    ∀ item ∈ rest, Named (done ++ rest) item := by
  induction rest generalizing entry done session with
  | nil => exact List.forall_mem_nil _
  | cons item rest inductionHypothesis =>
    have collected := collects_collectItem gathered (fresh_of_distinct distinct) entry
    have quietRest : ((collect ((collectItem entry item).run session).1.1 rest).run
        ((collectItem entry item).run session).2).2.Quiet := quiet
    have quietItem := quietRest.of_prefix
      (obeys_collect mayDeclare_free.mayCollect rest _ _ trivial).findings
    have same : done ++ item :: rest = done ++ [item] ++ rest := by simp
    rw [same] at distinct ⊢
    refine List.forall_mem_cons.mpr ⟨fun name isName => ?_,
      inductionHypothesis _ collected.gathered distinct quietRest⟩
    exact typeNamed?_append (named_collectItem entry gathered quietItem name isName)

/-- In a unit in which nothing fatal is found every declaration of a type is what its name
means at top level. -/
theorem named_check {unit : Module} {options : Options}
    (distinct : (unit.items.flatMap Item.sites).Nodup)
    (quiet : (Session.check (some unit) options).Quiet) :
    ∀ item ∈ unit.items, Named unit.items item := by
  obtain ⟨session, scope, typeCheck, first, second, third, findings, passes, progress, last⟩ :=
    check_typed (some unit) options
  rw [last] at quiet
  have quietTyped : (typeCheck.after Typing.walk).Quiet :=
    quiet.of_prefix (List.prefix_append _ _)
  have quietScope := third.quiet (quiet_before_walk .typeCheck quietTyped)
  have quietDeclare := second.quiet (quiet_before_walk .scope quietScope)
  rw [after_walk_eq session first.items] at quietDeclare
  refine named_collect unit.items none (gathered_intrinsics first) distinct ?_
  exact quietDeclare.of_prefix ((ensures_resolveSignatures _).grows _ trivial).findings

end UnitCheck.Declare
