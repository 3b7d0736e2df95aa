import Mathlib.Data.List.Basic
import UnitCheck.Proofs.Session.Meaning
import UnitCheck.Proofs.Session.Passes
import UnitCheck.Proofs.Type.Containment

/-!
# The types that a unit declares

At top level a name means the first type that is declared under it, unless it is the name
of a builtin type. Collecting the globals of a unit leaves a session in which names mean
just that: structs and enumerations have their types, aliases have none yet, and every
declared alias waits for its own.
-/

namespace UnitCheck

namespace Item

/-- The name under which the item declares a type. -/
def typeName? : Item -> Option String
  | .struct decl => decl.name.map (·.name)
  | .enum decl => decl.name.map (·.name)
  | .typeAlias decl => decl.name.map (·.name)
  | _ => none

/-- Whether the item declares a type of that name. Names of builtin types are taken. -/
def declaresType (item : Item) (name : String) : Bool :=
  item.typeName? = some name && !Prim.isReserved name

/-- The type that the declaration of a type brings along; that of an alias comes later. -/
def ownType? (item : Item) (name : String) : Option Ty :=
  match item with
  | .struct decl => some (.struct name decl.span.node)
  | .enum decl => some (.enum name decl.span.node)
  | _ => none

theorem declaresType_iff {item : Item} {name : String} :
    item.declaresType name = true ↔ item.typeName? = some name ∧ Prim.isReserved name = false := by
  simp [declaresType]

/-- Items that declare types stand at a node of their own. -/
theorem node_mem_sites_of_declaresType {item : Item} {name : String}
    (declares : item.declaresType name = true) : item.span.node ∈ item.sites := by
  have named := (declaresType_iff.mp declares).1
  cases item <;> first | cases named | simp [sites, ownNode, span]

end Item

/-- The declaration that a name means as a type at top level: the first under that name. -/
def typeNamed? (items : List Item) (name : String) : Option Item :=
  items.find? (·.declaresType name)

section TypeNamed

variable {items : List Item} {item other : Item} {name otherName : String}

theorem declares_of_typeNamed? (means : typeNamed? items name = some item) :
    item ∈ items ∧ item.declaresType name = true :=
  ⟨List.mem_of_find?_eq_some means, by simpa using List.find?_some means⟩

theorem typeNamed?_append_singleton : typeNamed? (items ++ [item]) name =
    (typeNamed? items name).or (if item.declaresType name then some item else none) := by
  unfold typeNamed?
  rw [List.find?_append, List.find?_singleton]

/-- Names of builtin types mean no declaration. -/
theorem typeNamed?_of_builtin {builtin : Prim} (isBuiltin : Prim.ofName? name = some builtin) :
    typeNamed? items name = none := by
  refine List.find?_eq_none.mpr fun item _ declares => ?_
  have free := (Item.declaresType_iff.mp declares).2
  rw [Prim.isReserved, isBuiltin] at free
  cases free

/-- An item declares one name at most. -/
theorem name_of_typeNamed? (means : typeNamed? items name = some item)
    (meansOther : typeNamed? items otherName = some item) : name = otherName := by
  have first := (Item.declaresType_iff.mp (declares_of_typeNamed? means).2).1
  have second := (Item.declaresType_iff.mp (declares_of_typeNamed? meansOther).2).1
  exact Option.some.inj (first.symm.trans second)

/-- Where no two nodes coincide, the node of a declaration tells what is declared. -/
theorem item_of_typeNamed? (distinct : (items.flatMap Item.sites).Nodup)
    (means : typeNamed? items name = some item)
    (meansOther : typeNamed? items otherName = some other)
    (same : item.span.node = other.span.node) : item = other := by
  obtain ⟨isItem, declares⟩ := declares_of_typeNamed? means
  obtain ⟨isOther, declaresOther⟩ := declares_of_typeNamed? meansOther
  exact Item.eq_of_mem_nodes distinct isItem isOther (Item.node_mem_sites_of_declaresType declares)
    (same ▸ Item.node_mem_sites_of_declaresType declaresOther)

end TypeNamed

/-- An alias has been reported to refer to itself. -/
def Session.ReportsCycle (session : Session) : Prop :=
  ∃ finding ∈ session.findings, finding.isCyclicAlias = true

theorem reportsCycle_report {session : Session} {finding : Finding} :
    (Act.apply session (.report finding)).ReportsCycle ↔
      session.ReportsCycle ∨ finding.isCyclicAlias = true := by
  simp [Session.ReportsCycle, Act.apply, or_and_right, exists_or]

namespace Declare

/-! ### Collecting types -/

/-- The symbol of a declared alias. -/
def aliasSymbol (decl : AliasDecl) (name : Ident) : Symbol :=
  symbolOf (.typeAlias decl) ⟨.typeAlias, decl.name, decl.attributes⟩ name

/-- Names mean the types that some items declare, and what these bring along is known. -/
structure Means (items : List Item) (session : Session) : Prop where
  types : ∀ name, (session.table.resolveType? name).map (·.id) =
    (typeNamed? items name).map fun item => .node item.span.node
  own : ∀ name item, typeNamed? items name = some item → ∀ type ∈ item.ownType? name,
    (session.knownOf (.node item.span.node)).type = some type

/-- Some items have been collected: nothing is local, the globals that are types are the
declared ones, and of these just what their declarations bring along is known. -/
structure Gathered (done : List Item) (session : Session) : Prop where
  locals : session.table.locals = []
  types : ∀ name, (session.table.global? .type name).map (·.id) =
    (typeNamed? done name).map fun item => .node item.span.node
  known : ∀ name item, typeNamed? done name = some item →
    (session.knownOf (.node item.span.node)).type = item.ownType? name
  silent : ¬session.ReportsCycle

variable {done items ahead : List Item} {item : Item} {before session after : Session}

theorem Gathered.means (gathered : Gathered done session) : Means done session where
  types name := by
    unfold Table.resolveType?
    rw [gathered.locals]
    exact gathered.types name
  own name item means type isOwn := by
    rw [gathered.known name item means]
    exact isOwn

/-- Nothing has been collected at the start of a check. -/
theorem gathered_nil (locals : session.table.locals = []) (globals : ∀ symbol ∈ session.table.globals,
    symbol.kind.space ≠ .type) (silent : ¬session.ReportsCycle) : Gathered [] session where
  locals := locals
  types name := by
    have none : session.table.global? .type name = none :=
      List.find?_eq_none.mpr fun symbol isGlobal same => by simp_all
    rw [none]
    rfl
  known _ _ means := by cases means
  silent := silent

/-- An item that declares no new type adds nothing to what is gathered. -/
theorem Gathered.skip (gathered : Gathered done session)
    (old : ∀ name, item.declaresType name = true → (typeNamed? done name).isSome)
    (locals : after.table.locals = session.table.locals)
    (types : ∀ name, after.table.global? .type name = session.table.global? .type name)
    (known : ∀ name other, typeNamed? done name = some other →
      (after.knownOf (.node other.span.node)).type = (session.knownOf (.node other.span.node)).type)
    (silent : ¬after.ReportsCycle) : Gathered (done ++ [item]) after := by
  have same (name : String) : typeNamed? (done ++ [item]) name = typeNamed? done name := by
    rw [typeNamed?_append_singleton]
    split
    · rename_i declares
      obtain ⟨other, means⟩ := Option.isSome_iff_exists.mp (old name declares)
      rw [means, Option.some_or]
    · rw [Option.or_none]
  refine ⟨locals.trans gathered.locals, fun name => ?_, fun name other means => ?_, silent⟩
  · rw [same, types]
    exact gathered.types name
  · rw [same] at means
    rw [known name other means]
    exact gathered.known name other means

/-- The declared aliases are the ones that are declared in some items and not in those
ahead of them. -/
structure Lists (ahead items : List Item) (all : List DeclaredAlias) : Prop where
  sound : ∀ entry ∈ all, ∃ name, entry.decl.name = some name ∧
    entry.symbol = aliasSymbol entry.decl name ∧
    typeNamed? items name.name = some (.typeAlias entry.decl)
  complete : ∀ name decl, typeNamed? items name = some (.typeAlias decl) →
    typeNamed? ahead name = none → ∃ entry ∈ all, entry.decl = decl

/-- What has a meaning keeps it when more items follow. -/
theorem typeNamed?_append {more : List Item} {name : String}
    (means : typeNamed? items name = some item) : typeNamed? (items ++ more) name = some item := by
  unfold typeNamed? at means ⊢
  rw [List.find?_append, means, Option.some_or]

theorem Lists.append {middle : List Item} {first rest : List DeclaredAlias}
    {more : List Item} (lists : Lists ahead middle first)
    (listsRest : Lists middle (middle ++ more) rest) :
    Lists ahead (middle ++ more) (first ++ rest) where
  sound entry isEntry := by
    obtain isFirst | isRest := List.mem_append.mp isEntry
    · obtain ⟨name, named, symbol, means⟩ := lists.sound entry isFirst
      exact ⟨name, named, symbol, typeNamed?_append means⟩
    · exact listsRest.sound entry isRest
  complete name decl means isNew := by
    cases meansMiddle : typeNamed? middle name with
    | none =>
      obtain ⟨entry, isEntry, same⟩ := listsRest.complete name decl means meansMiddle
      exact ⟨entry, List.mem_append_right _ isEntry, same⟩
    | some item =>
      cases (typeNamed?_append meansMiddle).symm.trans means
      obtain ⟨entry, isEntry, same⟩ := lists.complete name decl meansMiddle isNew
      exact ⟨entry, List.mem_append_left _ isEntry, same⟩

/-- An item that declares no new type declares no new alias. -/
theorem lists_nil (old : ∀ name, item.declaresType name = true → (typeNamed? ahead name).isSome) :
    Lists ahead (ahead ++ [item]) [] where
  sound _ impossible := by cases impossible
  complete name decl means isNew := by
    rw [typeNamed?_append_singleton, isNew, Option.none_or] at means
    split at means
    · rename_i declares
      have isOld := old name declares
      rw [isNew] at isOld
      cases isOld
    · cases means

/-! ### Collecting one item -/

/-- The name under which an item declares a type is the one in its header. -/
theorem typeName?_of_header {header : Header} (isHeader : header? item = some header) :
    item.typeName? =
      if (symbolKind header.kind).isType then header.name.map (·.name) else none := by
  cases item <;> cases isHeader <;> rfl

/-- An item without a header declares no type. -/
theorem not_declaresType (noHeader : header? item = none) (name : String) :
    item.declaresType name = false := by
  cases item <;> first | rfl | cases noHeader

/-- An item with a header stands at a node of its own. -/
theorem node_mem_sites_of_header (hasHeader : (header? item).isSome) :
    item.span.node ∈ item.sites := by
  cases item with
  | entry | stray => cases hasHeader
  | _ => simp [Item.sites, Item.ownNode, Item.span]

/-- What the symbol of an item is called and stands for. -/
theorem symbolOf_fields (item : Item) (header : Header) (name : Ident) :
    (symbolOf item header name).name = name.name ∧
      (symbolOf item header name).kind = symbolKind header.kind := by
  cases item <;> exact ⟨rfl, rfl⟩

theorem space_type_iff (kind : DeclKind) :
    (symbolKind kind).space = .type ↔ (symbolKind kind).isType = true := by
  cases kind <;> decide

/-- What is left when the symbol of an item has become a global. -/
structure Enters (item : Item) (symbol : Symbol) (before after : Session) : Prop where
  table : after.table = { before.table with globals := before.table.globals ++ [symbol] }
  known : ∀ id, (after.knownOf id).type =
    if id = .node item.span.node then item.ownType? symbol.name else (before.knownOf id).type
  structs : ∀ id, id ≠ item.span.node → after.definitions.struct id = before.definitions.struct id
  findings : after.findings = before.findings

/-- What declaring a global comes to. -/
inductive Declares (item : Item) (header : Header) (before : Session) :
    Option Pending -> Session -> Prop where
  | unnamed (isUnnamed : header.name = none) :
    Declares item header before none
      (Act.apply before (.report (.malformed item.span (.unnamed header.kind))))
  | reserved (name : Ident) (isNamed : header.name = some name)
    (isType : (symbolKind header.kind).isType = true) (isReserved : Prim.isReserved name.name = true) :
    Declares item header before none
      (Act.apply before (.report (.malformed name.span (.reservedName name.name))))
  | taken (name : Ident) (previous : Symbol) (isNamed : header.name = some name)
    (isTaken : before.table.global? (symbolKind header.kind).space name.name = some previous)
    (free : (symbolKind header.kind).isType = true → Prim.isReserved name.name = false) :
    Declares item header before none
      (Act.apply before (.report (.redeclared name.span previous.site (.symbol name.name))))
  | enters (name : Ident) (after : Session) (isNamed : header.name = some name)
    (free : (symbolKind header.kind).isType = true → Prim.isReserved name.name = false)
    (isNew : before.table.global? (symbolKind header.kind).space name.name = none)
    (enters : Enters item (symbolOf item header name) before after)
    (recorded : after.facts.decls =
      (item.span.node, symbolOf item header name) :: before.facts.decls) :
    Declares item header before (some ⟨symbolOf item header name, item⟩) after

/-- A struct or an enumeration is introduced with its type, and any other item without one. -/
theorem enters_introduce {header : Header} (isHeader : header? item = some header) (name : Ident)
    (session : Session) : Enters item (symbolOf item header name) session
      ((introduce item (symbolOf item header name)).run
        { session with table := { session.table with
            globals := session.table.globals ++ [symbolOf item header name] } }).2 := by
  have learnt (known : SymbolType) (id : SymbolId) :
      ((List.lookup id ((.node item.span.node, known) :: session.known)).getD (.ofType none)).type =
        if id = .node item.span.node then known.type else (session.knownOf id).type := by
    rw [List.lookup_cons]
    by_cases same : id = .node item.span.node
    · simp [same]
    · simp [same, beq_false_of_ne same, Session.knownOf]
  have kept (body : StructBody) (id : TypeId) (other : id ≠ item.span.node) :
      (session.definitions.setStruct item.span.node body).struct id =
        session.definitions.struct id :=
    (Definitions.struct_setStruct _ _ _ _).trans (if_neg other)
  cases item <;> cases isHeader <;> first
    | exact ⟨rfl, learnt _, kept _, rfl⟩
    | exact ⟨rfl, learnt _, fun _ _ => rfl, rfl⟩

/-- Introducing an item records nothing. -/
theorem facts_introduce (item : Item) (symbol : Symbol) (session : Session) :
    ((introduce item symbol).run session).2.facts = session.facts := by
  unfold introduce
  split <;> rfl

/-- A message and a declaration record the declaration. -/
theorem decls_noted (node : NodeId) (symbol : Symbol) (text : String) (session : Session) :
    ((do
      Check.say .green text
      Check.recordDecl node symbol : Check Unit).run session).2.facts.decls =
        (node, symbol) :: session.facts.decls := by
  have said := (alike_say session .green text).1.facts
  exact congrArg (fun facts : Facts => (node, symbol) :: facts.decls) said

/-- The rest of declaring a global writes a message and the declaration. -/
theorem Enters.noted {symbol : Symbol} (enters : Enters item symbol before after) (text : String) :
    Enters item symbol before ((do
      Check.say .green text
      Check.recordDecl item.span.node symbol : Check Unit).run after).2 := by
  obtain ⟨said, -⟩ := alike_say after .green text
  have table := said.table
  have known := said.known
  have findings := said.findings
  have definitions := said.definitions
  refine ⟨table.trans enters.table, fun id => ?_, fun id other => ?_,
    findings.trans enters.findings⟩
  · rw [← enters.known id]
    unfold Session.knownOf
    rw [← known]
    rfl
  · rw [← enters.structs id other, ← definitions]
    rfl

/-- Declaring a global either refuses it, for one of three reasons, or enters its symbol. -/
theorem declares_declareGlobal {header : Header} (isHeader : header? item = some header)
    (session : Session) :
    Declares item header session ((declareGlobal item header).run session).1
      ((declareGlobal item header).run session).2 := by
  unfold declareGlobal
  cases isNamed : header.name with
  | none => exact .unnamed isNamed
  | some name =>
    obtain ⟨sameName, sameKind⟩ := symbolOf_fields item header name
    simp only [Symbol.isType, sameName, sameKind]
    split
    · rename_i refused
      rw [Bool.and_eq_true] at refused
      exact .reserved name isNamed refused.1 refused.2
    · rename_i usable
      have free : (symbolKind header.kind).isType = true → Prim.isReserved name.name = false :=
        fun isType => by simpa [isType] using usable
      rw [StateT.run_bind]
      simp only [StateT.run_get, pure_bind]
      unfold Table.declareGlobal
      rw [sameName, sameKind]
      cases found : session.table.global? (symbolKind header.kind).space name.name with
      | some previous => exact .taken name previous isNamed found free
      | none =>
        let symbol := symbolOf item header name
        let text := "declared " ++ (symbolKind header.kind).text ++ " " ++ name.name ++ "\n"
        let introduced := ((introduce item symbol).run { session with table :=
          { session.table with globals := session.table.globals ++ [symbol] } }).2
        have recorded := decls_noted item.span.node symbol text introduced
        rw [facts_introduce] at recorded
        exact .enters name _ isNamed free found
          ((enters_introduce isHeader name session).noted text) recorded

/-- What is left when one item has been collected. -/
structure Collects (done : List Item) (item : Item) (after : Session) (pending : Option Pending) :
    Prop where
  gathered : Gathered (done ++ [item]) after
  lists : Lists done (done ++ [item]) (aliases pending.toList)

/-- An item that declares no new type, and is refused or none. -/
theorem collects_skip (gathered : Gathered done session)
    (old : ∀ name, item.declaresType name = true → (typeNamed? done name).isSome)
    (table : after.table = session.table) (known : after.known = session.known)
    (silent : ¬after.ReportsCycle) : Collects done item after none where
  gathered := gathered.skip old (by rw [table]) (fun _ => by rw [table])
    (fun _ _ _ => by unfold Session.knownOf; rw [known]) silent
  lists := lists_nil old

/-- A refused item leaves a finding. -/
theorem collects_refused (gathered : Gathered done session) {finding : Finding}
    (old : ∀ name, item.declaresType name = true → (typeNamed? done name).isSome)
    (isOther : finding.isCyclicAlias = false) :
    Collects done item (Act.apply session (.report finding)) none := by
  refine collects_skip gathered old rfl rfl fun reports => ?_
  obtain earlier | isCycle := reportsCycle_report.mp reports
  · exact gathered.silent earlier
  · rw [isOther] at isCycle
    cases isCycle

/-- The name of a global that is a type and taken has a meaning. -/
theorem Gathered.means_of_taken (gathered : Gathered done session) {name : String}
    {previous : Symbol} (isTaken : session.table.global? .type name = some previous) :
    (typeNamed? done name).isSome := by
  have types := gathered.types name
  rw [isTaken] at types
  cases found : typeNamed? done name with
  | some other => rfl
  | none =>
    rw [found] at types
    cases types

/-- A refused declaration of a type is one of a name that is reserved or taken. -/
theorem old_of_taken {header : Header} (isHeader : header? item = some header)
    (gathered : Gathered done session) {name : Ident} {previous : Symbol}
    (isNamed : header.name = some name)
    (isTaken : session.table.global? (symbolKind header.kind).space name.name = some previous)
    (other : String) (declares : item.declaresType other = true) :
    (typeNamed? done other).isSome := by
  obtain ⟨typeName, -⟩ := Item.declaresType_iff.mp declares
  rw [typeName?_of_header isHeader, isNamed] at typeName
  split at typeName
  · rename_i isType
    cases typeName
    rw [(space_type_iff header.kind).mpr isType] at isTaken
    exact gathered.means_of_taken isTaken
  · cases typeName

/-- An item whose symbol enters the table is the declaration of its name. -/
theorem collects_enters {header : Header} (isHeader : header? item = some header)
    (gathered : Gathered done session)
    (fresh : ∀ name other, typeNamed? done name = some other → other.span.node ≠ item.span.node)
    {name : Ident} (isNamed : header.name = some name)
    (free : (symbolKind header.kind).isType = true → Prim.isReserved name.name = false)
    (isNew : session.table.global? (symbolKind header.kind).space name.name = none)
    (enters : Enters item (symbolOf item header name) session after) :
    Collects done item after (some ⟨symbolOf item header name, item⟩) := by
  obtain ⟨sameName, sameKind⟩ := symbolOf_fields item header name
  have declares (other : String) : item.declaresType other =
      ((symbolKind header.kind).isType && decide (name.name = other)) := by
    unfold Item.declaresType
    rw [typeName?_of_header isHeader, isNamed]
    cases isType : (symbolKind header.kind).isType with
    | false => simp
    | true =>
      by_cases same : name.name = other
      · simp [← same, free isType]
      · simp [same]
  have isType_of {other : String} (isDeclared : item.declaresType other = true) :
      (symbolKind header.kind).isType = true ∧ name.name = other := by
    simpa [declares] using isDeclared
  have typeNamed (other : String) : typeNamed? (done ++ [item]) other =
      (typeNamed? done other).or (if item.declaresType other then some item else none) :=
    typeNamed?_append_singleton
  refine ⟨⟨by rw [enters.table]; exact gathered.locals, fun other => ?_,
    fun other found means => ?_, fun ⟨finding, isFinding, isCycle⟩ => ?_⟩, ?_⟩
  · have global : after.table.global? .type other = (session.table.global? .type other).or
        (if item.declaresType other then some (symbolOf item header name) else none) := by
      rw [enters.table]
      unfold Table.global?
      rw [List.find?_append, List.find?_singleton, sameName, sameKind, declares]
      cases isType : (symbolKind header.kind).isType with
      | true => simp [(space_type_iff header.kind).mpr isType]
      | false =>
        have other : (symbolKind header.kind).space ≠ .type := fun same => by
          rw [(space_type_iff header.kind).mp same] at isType
          cases isType
        simp [other]
    rw [global, typeNamed, Option.map_or, Option.map_or, gathered.types other]
    split
    · rw [Option.map_some, Option.map_some, id_symbolOf]
    · rfl
  · rw [enters.known]
    rw [typeNamed] at means
    cases meansDone : typeNamed? done other with
    | some earlier =>
      rw [meansDone, Option.some_or] at means
      cases means
      have apart : (SymbolId.node found.span.node) ≠ .node item.span.node := fun same =>
        fresh other found meansDone (SymbolId.node.inj same)
      rw [if_neg apart]
      exact gathered.known other found meansDone
    | none =>
      rw [meansDone, Option.none_or] at means
      split at means
      · rename_i isDeclared
        cases means
        rw [if_pos rfl, sameName, (isType_of isDeclared).2]
      · cases means
  · rw [enters.findings] at isFinding
    exact gathered.silent ⟨finding, isFinding, isCycle⟩
  · refine ⟨fun entry isEntry => ?_, fun other decl means isUnknown => ?_⟩
    · cases item with
      | typeAlias decl =>
        cases isHeader
        cases List.mem_singleton.mp isEntry
        refine ⟨name, isNamed, rfl, ?_⟩
        have isDeclared : (Item.typeAlias decl).declaresType name.name = true := by
          rw [declares]
          simp [symbolKind, SymbolKind.isType]
        have global := gathered.types name.name
        have isFree : session.table.global? .type name.name = none := isNew
        rw [isFree] at global
        change typeNamed? (done ++ [.typeAlias decl]) name.name = some (.typeAlias decl)
        rw [typeNamed, isDeclared]
        cases meansDone : typeNamed? done name.name with
        | none => rfl
        | some earlier =>
          rw [meansDone] at global
          cases global
      | _ => cases isEntry
    · rw [typeNamed, isUnknown, Option.none_or] at means
      split at means
      · cases means
        exact ⟨_, List.mem_cons_self, rfl⟩
      · cases means

theorem collects_declareGlobal {header : Header} (isHeader : header? item = some header)
    (gathered : Gathered done session)
    (fresh : ∀ name other, typeNamed? done name = some other → other.span.node ≠ item.span.node) :
    Collects done item ((declareGlobal item header).run session).2
      ((declareGlobal item header).run session).1 := by
  have outcome := declares_declareGlobal isHeader session
  generalize (declareGlobal item header).run session = result at outcome ⊢
  obtain ⟨pending, after⟩ := result
  cases outcome with
  | unnamed isUnnamed =>
    refine collects_refused gathered (fun name declares => ?_) rfl
    obtain ⟨typeName, -⟩ := Item.declaresType_iff.mp declares
    rw [typeName?_of_header isHeader, isUnnamed] at typeName
    split at typeName <;> cases typeName
  | reserved name isNamed isType isReserved =>
    refine collects_refused gathered (fun other declares => ?_) rfl
    obtain ⟨typeName, free⟩ := Item.declaresType_iff.mp declares
    rw [typeName?_of_header isHeader, isNamed, if_pos isType] at typeName
    cases typeName
    rw [isReserved] at free
    cases free
  | taken name previous isNamed isTaken =>
    exact collects_refused gathered (old_of_taken isHeader gathered isNamed isTaken) rfl
  | enters name _ isNamed free isNew enters =>
    exact collects_enters isHeader gathered fresh isNamed free isNew enters

/-- A message about the session changes nothing else, whatever it says. -/
theorem alike_sayAbout (style : Style) (text : Session -> String) (session : Session) :
    session.Alike (session.after do
      let seen <- get
      Check.say style (text seen)) :=
  (alike_say session style (text session)).1

theorem alike_sayNested (span : Span) (session : Session) :
    session.Alike (session.after (sayNested span)) := by
  unfold sayNested
  exact alike_sayAbout _ _ session

mutual

/-- Passing over nested declarations writes messages only. -/
theorem alike_skipNested : (stmt : Stmt) -> (session : Session) ->
    session.Alike (session.after (skipNested stmt))
  | .block body _, session => by
    unfold skipNested
    exact alike_skipNestedAll body session
  | .const decl, session | .struct decl, session => by
    unfold skipNested
    exact alike_sayNested decl.span session
  | .expr _, _ | .letIn _, _ | .instr _, _ | .assign _ _ _, _ | .write _ _ _, _
  | .cond _ _ _ _ _, _ | .whileLoop _ _ _ _, _ | .loop _ _ _, _ | .forLoop _ _ _ _ _ _, _
  | .ret _ _, _ | .brk _, _ | .cont _, _ | .bad _, _ => by
    simp only [skipNested]
    exact ⟨rfl⟩

theorem alike_skipNestedAll : (body : List Stmt) -> (session : Session) ->
    session.Alike (session.after (skipNestedAll body))
  | [], _ => by
    unfold skipNestedAll
    exact ⟨rfl⟩
  | stmt :: rest, session => by
    unfold skipNestedAll
    exact (alike_skipNested stmt session).trans (alike_skipNestedAll rest _)

end

theorem collects_collectItem (gathered : Gathered done session)
    (fresh : (header? item).isSome → ∀ name other, typeNamed? done name = some other →
      other.span.node ≠ item.span.node)
    (entry : Option Span) :
    Collects done item ((collectItem entry item).run session).2
      ((collectItem entry item).run session).1.2 := by
  have silent : ∀ name, item.declaresType name = true → header? item = none →
      (typeNamed? done name).isSome := by
    intro name declares noHeader
    rw [not_declaresType noHeader] at declares
    cases declares
  cases found : header? item with
  | some header =>
    have same : collectItem entry item = (do return (entry, <- declareGlobal item header)) := by
      cases item <;> simp_all [collectItem, header?]
    rw [same]
    exact collects_declareGlobal found gathered (fresh (by rw [found]; rfl))
  | none =>
    have old := fun name declares => silent name declares found
    cases item with
    | entry decl =>
      cases entry with
      | some first => exact collects_refused gathered old rfl
      | none => exact collects_skip gathered old rfl rfl gathered.silent
    | stray stmt =>
      cases stmt with
      | block body span =>
        have said := alike_skipNestedAll body session
        refine collects_skip gathered old said.table said.known ?_
        rintro ⟨finding, isFinding, isCycle⟩
        exact gathered.silent ⟨finding, said.findings ▸ isFinding, isCycle⟩
      | _ => exact collects_refused gathered old rfl
    | _ => cases found

/-- The next item stands at another node than the types so far. -/
theorem fresh_of_distinct {rest : List Item}
    (distinct : ((done ++ item :: rest).flatMap Item.sites).Nodup)
    (isSome : (header? item).isSome) (name : String) (other : Item)
    (means : typeNamed? done name = some other) : other.span.node ≠ item.span.node := by
  obtain ⟨isDone, declares⟩ := declares_of_typeNamed? means
  rw [List.flatMap_append, List.nodup_append] at distinct
  have inDone := List.mem_flatMap.mpr ⟨other, isDone, Item.node_mem_sites_of_declaresType declares⟩
  exact distinct.2.2 _ inDone _
    (List.mem_flatMap.mpr ⟨item, List.mem_cons_self, node_mem_sites_of_header isSome⟩)

/-- Collecting items gathers the types that they declare, and lists their aliases. -/
theorem collects_collect (rest : List Item) (entry : Option Span) (gathered : Gathered done session)
    (distinct : ((done ++ rest).flatMap Item.sites).Nodup) :
    Gathered (done ++ rest) ((collect entry rest).run session).2 ∧
      Lists done (done ++ rest) (aliases ((collect entry rest).run session).1) := by
  induction rest generalizing entry done session with
  | nil =>
    rw [List.append_nil]
    refine ⟨gathered, List.forall_mem_nil _, fun name decl means isNew => ?_⟩
    rw [isNew] at means
    cases means
  | cons item rest inductionHypothesis =>
    have collected := collects_collectItem gathered (fresh_of_distinct distinct) entry
    have same : done ++ item :: rest = done ++ [item] ++ rest := by simp
    rw [same] at distinct ⊢
    obtain ⟨gatheredRest, listsRest⟩ := inductionHypothesis
      ((collectItem entry item).run session).1.1 collected.gathered distinct
    refine ⟨gatheredRest, ?_⟩
    have split : aliases ((collect entry (item :: rest)).run session).1 =
        aliases ((collectItem entry item).run session).1.2.toList ++
          aliases ((collect ((collectItem entry item).run session).1.1 rest).run
            ((collectItem entry item).run session).2).1 :=
      List.filterMap_append
    rw [split]
    exact collected.lists.append listsRest

/-- The first pass collects the items behind the intrinsics, and then resolves what is
pending. -/
theorem after_walk_eq (session : Session) (isUnit : session.items = items) :
    session.after walk = ((collect none items).run
      (session.after (declareIntrinsics 0 intrinsics))).2.after (resolveSignatures
        ((collect none items).run (session.after (declareIntrinsics 0 intrinsics))).1) := by
  have same : ((declareIntrinsics 0 intrinsics).run session).2.items = items :=
    (obeys_declareIntrinsics mayDeclare_free.mayCollect 0 intrinsics session trivial).items.trans
      isUnit
  unfold Session.after
  rw [← same, walk, StateT.run_bind]
  generalize (declareIntrinsics 0 intrinsics).run session = started
  rfl

end Declare
end UnitCheck
