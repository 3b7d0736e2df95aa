import UnitCheck.Proofs.Declare.Enrolled

/-!
# The globals of a unit

An item offers a symbol when it has a name and does not give a type the name of a builtin
one. Of what is offered under a name of a namespace the first is declared, where the builtin
functions come ahead of all items. An item that is not declared is refused for one reason;
stray blocks are passed over, with all that is in them. What follows collecting declares
nothing and refuses nothing.
-/

namespace UnitCheck.Declare

/-! ### What a unit declares -/

/-- The symbols that every unit finds declared. -/
def builtins : List Symbol :=
  intrinsics.mapIdx fun number intrinsic => intrinsic.symbol number

/-- The symbol that an item declares unless its name is taken. -/
def offered? (item : Item) : Option Symbol := do
  let header <- header? item
  let name <- header.name
  let symbol := symbolOf item header name
  if symbol.isType && Prim.isReserved symbol.name then none else some symbol

/-- The global that a name of a namespace means behind some items: the first one offered. -/
def globalNamed? (ahead : List Item) (space : Namespace) (name : String) : Option Symbol :=
  (builtins ++ ahead.filterMap offered?).find? fun symbol =>
    symbol.kind.space = space && symbol.name = name

/-- The symbol that an item declares behind others. -/
def declared? (ahead : List Item) (item : Item) : Option Symbol :=
  (offered? item).filter fun symbol => (globalNamed? ahead symbol.kind.space symbol.name).isNone

/-- Where an entrypoint stands. -/
def entrySpan? : Item -> Option Span
  | .entry decl => some decl.span
  | _ => none

/-- What is said of an item that is not declared behind others. -/
def refusal? (ahead : List Item) : Item -> Option Finding
  | .entry decl => (ahead.findSome? entrySpan?).map (.duplicateEntrypoint decl.span)
  | .stray (.block _ _) => none
  | .stray (.bad span) => some (.malformed span .unreadable)
  | .stray stmt => some (.malformed stmt.span .notDeclaration)
  | item => do
    let header <- header? item
    match header.name with
    | none => some (.malformed item.span (.unnamed header.kind))
    | some name =>
      match offered? item with
      | none => some (.malformed name.span (.reservedName name.name))
      | some symbol =>
        (globalNamed? ahead symbol.kind.space symbol.name).map fun previous =>
          .redeclared name.span previous.site (.symbol symbol.name)

/-- The code under which an item is refused: a second entrypoint has one of its own, and so
has a name that is taken. -/
def refusalCode : Item -> String
  | .entry _ => "F0002"
  | item => if (offered? item).isSome then "R0002" else "F0001"

/-- Items one behind the other, each with all that are ahead of it. -/
def succession (ahead : List Item) : List Item -> List (List Item × Item)
  | [] => []
  | item :: rest => (ahead, item) :: succession (ahead ++ [item]) rest

section Succession

variable {done items : List Item} {item : Item} {header : Header} {name : Ident}

theorem mem_succession {ahead : List Item} : (ahead, item) ∈ succession done items ↔
    ∃ earlier later, ahead = done ++ earlier ∧ items = earlier ++ item :: later := by
  induction items generalizing done with
  | nil => simp [succession]
  | cons first rest inductionHypothesis =>
    rw [succession, List.mem_cons, inductionHypothesis]
    constructor
    · rintro (same | ⟨earlier, later, rfl, rfl⟩)
      · cases same
        exact ⟨[], rest, by simp, rfl⟩
      · exact ⟨first :: earlier, later, by simp, rfl⟩
    · rintro ⟨_ | ⟨other, earlier⟩, later, rfl, split⟩
      · cases split
        exact .inl (by simp)
      · cases split
        exact .inr ⟨earlier, later, by simp, rfl⟩

/-! ### What an item offers -/

theorem offered?_of_header (isHeader : header? item = some header) (isNamed : header.name = some name) :
    offered? item = if (symbolKind header.kind).isType && Prim.isReserved name.name then none
      else some (symbolOf item header name) := by
  obtain ⟨sameName, sameKind⟩ := symbolOf_fields item header name
  simp [offered?, isHeader, isNamed, Symbol.isType, sameName, sameKind]

theorem offered?_of_unnamed (isHeader : header? item = some header) (isUnnamed : header.name = none) :
    offered? item = none := by
  simp [offered?, isHeader, isUnnamed]

theorem refusal?_of_header (isHeader : header? item = some header) (ahead : List Item) :
    refusal? ahead item = match header.name with
      | none => some (.malformed item.span (.unnamed header.kind))
      | some name =>
        match offered? item with
        | none => some (.malformed name.span (.reservedName name.name))
        | some symbol =>
          (globalNamed? ahead symbol.kind.space symbol.name).map fun previous =>
            .redeclared name.span previous.site (.symbol symbol.name) := by
  cases item with
  | entry | stray => cases isHeader
  | _ =>
    cases isHeader
    rfl

theorem globalNamed?_append_singleton (space : Namespace) (name : String) :
    globalNamed? (done ++ [item]) space name = (globalNamed? done space name).or
      ((offered? item).filter fun symbol => symbol.kind.space = space && symbol.name = name) := by
  unfold globalNamed?
  rw [List.filterMap_append, ← List.append_assoc, List.find?_append]
  congr 1
  cases offer : offered? item with
  | none => simp [offer]
  | some symbol => simp [offer, Option.filter, List.find?_singleton]

/-- An item that offers nothing new changes the meaning of no name. -/
theorem globalNamed?_skip (old : ∀ symbol, offered? item = some symbol →
      (globalNamed? done symbol.kind.space symbol.name).isSome) (space : Namespace) (name : String) :
    globalNamed? (done ++ [item]) space name = globalNamed? done space name := by
  rw [globalNamed?_append_singleton]
  cases offer : offered? item with
  | none => simp
  | some symbol =>
    rw [Option.filter_some]
    split
    · rename_i same
      obtain ⟨rfl, rfl⟩ : symbol.kind.space = space ∧ symbol.name = name := by simpa using same
      obtain ⟨previous, isPrevious⟩ := Option.isSome_iff_exists.mp (old symbol offer)
      rw [isPrevious, Option.some_or]
    · rw [Option.or_none]

end Succession

/-! ### Collecting -/

variable {done items : List Item} {item : Item} {header : Header} {before after session : Session}

/-- Names mean in the table what they mean behind the items. -/
def Tabled (done : List Item) (session : Session) : Prop :=
  ∀ space name, session.table.global? space name = globalNamed? done space name

/-- What collecting one item comes to. -/
structure Admits (done : List Item) (item : Item) (before : Session) (pending : Option Pending)
    (after : Session) : Prop where
  pending : pending = (declared? done item).map (⟨·, item⟩)
  findings : after.findings = before.findings ++ (refusal? done item).toList
  tabled : Tabled (done ++ [item]) after

/-- An item that offers nothing new leaves the table as it is. -/
theorem admits_skip (tabled : Tabled done before) (old : ∀ symbol, offered? item = some symbol →
      (globalNamed? done symbol.kind.space symbol.name).isSome)
    (table : after.table = before.table)
    (findings : after.findings = before.findings ++ (refusal? done item).toList) :
    Admits done item before none after where
  pending := by
    unfold declared?
    cases offer : offered? item with
    | none => rfl
    | some symbol =>
      obtain ⟨previous, isPrevious⟩ := Option.isSome_iff_exists.mp (old symbol offer)
      simp [isPrevious]
  findings := findings
  tabled space name := by
    rw [table, globalNamed?_skip old]
    exact tabled space name

theorem admits_declareGlobal (isHeader : header? item = some header) (tabled : Tabled done session) :
    Admits done item session ((declareGlobal item header).run session).1
      ((declareGlobal item header).run session).2 := by
  have outcome := declares_declareGlobal isHeader session
  generalize (declareGlobal item header).run session = result at outcome ⊢
  obtain ⟨pending, after⟩ := result
  have refused := refusal?_of_header isHeader done
  cases outcome with
  | unnamed isUnnamed =>
    refine admits_skip tabled (fun symbol offer => ?_) rfl ?_
    · rw [offered?_of_unnamed isHeader isUnnamed] at offer
      cases offer
    · rw [refused, isUnnamed]
      rfl
  | reserved name isNamed isType isReserved =>
    have nothing : offered? item = none := by
      rw [offered?_of_header isHeader isNamed, isType, isReserved]
      rfl
    refine admits_skip tabled (fun symbol offer => ?_) rfl ?_
    · rw [nothing] at offer
      cases offer
    · rw [refused, isNamed, nothing]
      rfl
  | taken name previous isNamed isTaken free =>
    obtain ⟨sameName, sameKind⟩ := symbolOf_fields item header name
    have offer : offered? item = some (symbolOf item header name) := by
      rw [offered?_of_header isHeader isNamed]
      exact if_neg (by simpa using free)
    have isPrevious : globalNamed? done (symbolOf item header name).kind.space
        (symbolOf item header name).name = some previous := by
      rw [← tabled, sameKind, sameName]
      exact isTaken
    refine admits_skip tabled (fun symbol isOffer => ?_) rfl ?_
    · cases offer.symm.trans isOffer
      rw [isPrevious]
      rfl
    · simp only [refused, isNamed, offer, isPrevious]
      rw [sameName]
      rfl
  | enters name _ isNamed free isNew enters recorded =>
    obtain ⟨sameName, sameKind⟩ := symbolOf_fields item header name
    have offer : offered? item = some (symbolOf item header name) := by
      rw [offered?_of_header isHeader isNamed]
      exact if_neg (by simpa using free)
    have isFree : globalNamed? done (symbolOf item header name).kind.space
        (symbolOf item header name).name = none := by
      rw [← tabled, sameKind, sameName]
      exact isNew
    refine ⟨?_, ?_, fun space other => ?_⟩
    · simp [declared?, offer, isFree]
    · simp only [refused, isNamed, offer, isFree]
      exact enters.findings.trans (List.append_nil _).symm
    · rw [globalNamed?_append_singleton, ← tabled, enters.table, offer]
      unfold Table.global?
      rw [List.find?_append, List.find?_singleton, Option.filter_some]

/-- Collecting an item declares and refuses as it should, and remembers the first entrypoint. -/
theorem admits_collectItem (item : Item) (tabled : Tabled done session) :
    ((collectItem (done.findSome? entrySpan?) item).run session).1.1 =
        (done ++ [item]).findSome? entrySpan? ∧
      Admits done item session ((collectItem (done.findSome? entrySpan?) item).run session).1.2
        ((collectItem (done.findSome? entrySpan?) item).run session).2 := by
  rw [List.findSome?_append, List.findSome?_singleton]
  cases found : header? item with
  | some header =>
    have same : collectItem (done.findSome? entrySpan?) item = (do
        return (done.findSome? entrySpan?, <- declareGlobal item header)) := by
      cases item <;> simp_all [collectItem, header?]
    have noEntry : entrySpan? item = none := by
      cases item <;> first | rfl | cases found
    rw [same, noEntry, Option.or_none]
    exact ⟨rfl, admits_declareGlobal found tabled⟩
  | none =>
    have nothing : ∀ symbol, offered? item = some symbol →
        (globalNamed? done symbol.kind.space symbol.name).isSome := by
      simp [offered?, found]
    cases item with
    | entry decl =>
      cases first : done.findSome? entrySpan? with
      | none => exact ⟨rfl, admits_skip tabled nothing rfl (by simp [refusal?, first]; rfl)⟩
      | some span => exact ⟨rfl, admits_skip tabled nothing rfl (by simp [refusal?, first]; rfl)⟩
    | stray stmt =>
      cases stmt with
      | block body span =>
        have said := alike_skipNestedAll body session
        refine ⟨by simp [entrySpan?]; rfl, admits_skip tabled nothing said.table ?_⟩
        exact said.findings.trans (List.append_nil _).symm
      | _ => exact ⟨(Option.or_none).symm, admits_skip tabled nothing rfl rfl⟩
    | _ => cases found

/-- Items are collected one behind the other. -/
theorem run_collect_cons (entry : Option Span) (item : Item) (rest : List Item)
    (session : Session) : (collect entry (item :: rest)).run session =
      (((collectItem entry item).run session).1.2.toList ++
          ((collect ((collectItem entry item).run session).1.1 rest).run
            ((collectItem entry item).run session).2).1,
        ((collect ((collectItem entry item).run session).1.1 rest).run
          ((collectItem entry item).run session).2).2) := rfl

/-- Collecting items leaves pending what they declare behind the ones ahead of them, and
reports those that are refused. -/
theorem admits_collect (items : List Item) (tabled : Tabled done session) :
    ((collect (done.findSome? entrySpan?) items).run session).1 =
        (succession done items).filterMap (fun place =>
          (declared? place.1 place.2).map (⟨·, place.2⟩)) ∧
      ((collect (done.findSome? entrySpan?) items).run session).2.findings =
        session.findings ++ (succession done items).filterMap fun place =>
          refusal? place.1 place.2 := by
  induction items generalizing done session with
  | nil => exact ⟨rfl, (List.append_nil _).symm⟩
  | cons item rest inductionHypothesis =>
    obtain ⟨entry, admits⟩ := admits_collectItem item tabled
    obtain ⟨pendingRest, findingsRest⟩ := inductionHypothesis admits.tabled
    rw [← entry] at pendingRest findingsRest
    rw [run_collect_cons]
    refine ⟨?_, ?_⟩
    · rw [pendingRest, admits.pending, succession, List.filterMap_cons]
      cases declared? done item <;> rfl
    · rw [findingsRest, admits.findings, succession, List.filterMap_cons, List.append_assoc]
      cases refusal? done item <;> rfl

/-! ### Behind collecting -/

/-- Whatever declares no global and refuses none. -/
def settling : Regime where
  holds _ := True
  permits
    | .report finding => finding.isRefusal = false
    | .global _ | .locals _ _ | .declares _ _ => False
    | _ => True
  stable _ _ _ _ := trivial

theorem mayDefine_settling : MayDefine settling fun _ => True where
  unknownType _ := rfl
  written _ _ _ := trivial
  refers _ _ _ := trivial
  report _ _ _ isOther := isOther
  recursion finding isRecursion := by
    change finding.isRefusal = false
    cases finding <;> first | rfl | cases isRecursion
  struct _ _ := trivial
  enum _ _ := trivial

theorem obeys_resolveSignatures_settling (pending : List Pending) :
    settling.Obeys (resolveSignatures pending) := by
  have learn (id : SymbolId) : MayLearn settling id := ⟨fun _ => trivial, fun _ => trivial⟩
  exact .bind (obeys_resolveAliases ⟨mayDefine_settling.toMayInspect, fun _ => rfl⟩ _
      (fun _ _ => learn _) fun _ _ _ _ => trivial) fun _ =>
    .bind (.forM _ fun entry _ => obeys_defineType mayDefine_settling entry fun _ _ => trivial)
      fun _ => .bind (obeys_cutRecursion mayDefine_settling pending) fun _ =>
    .forM _ fun entry _ => obeys_resolveSignature mayDefine_settling.toMayInspect entry
      (fun _ => learn _) fun _ _ => trivial

/-- What a session keeps while signatures are resolved: its globals and declarations, and of
the refusals no more than there were. -/
structure Settles (before after : Session) : Prop where
  globals : after.table.globals = before.table.globals
  decls : after.facts.decls = before.facts.decls
  findings : ∃ others, after.findings = before.findings ++ others ∧
    ∀ finding ∈ others, finding.isRefusal = false

theorem settles_resolveSignatures (pending : List Pending) (session : Session) :
    Settles session (session.after (resolveSignatures pending)) := by
  refine (obeys_resolveSignatures_settling pending session trivial).preserves
    (fun act current permitted settles => ?_) ⟨rfl, rfl, [], (List.append_nil _).symm, by simp⟩
  obtain ⟨globals, decls, others, findings, noRefusal⟩ := settles
  cases act with
  | report finding =>
    refine ⟨globals, decls, others ++ [finding], ?_,
      List.forall_mem_append.mpr ⟨noRefusal, List.forall_mem_singleton.mpr permitted⟩⟩
    rw [← List.append_assoc, ← findings]
    rfl
  | global | locals | declares => exact permitted.elim
  | _ => exact ⟨globals, decls, others, findings, noRefusal⟩

/-! ### The whole pass -/

/-- The nodes at which items declare something are nodes of theirs, in order. -/
theorem nodes_of_declared (done items : List Item) :
    (((succession done items).filterMap fun place =>
      (declared? place.1 place.2).map (place.2.span.node, ·)).map Prod.fst).Sublist
        (items.flatMap Item.sites) := by
  induction items generalizing done with
  | nil => exact List.Sublist.refl _
  | cons item rest inductionHypothesis =>
    have later := inductionHypothesis (done ++ [item])
    rw [succession, List.filterMap_cons, List.flatMap_cons]
    cases declares : declared? done item with
    | none => exact later.trans (List.sublist_append_right _ _)
    | some symbol =>
      have hasHeader : (header? item).isSome := by
        cases isHeader : header? item with
        | some header => rfl
        | none => simp [declared?, offered?, isHeader] at declares
      exact (List.singleton_sublist.mpr (node_mem_sites_of_header hasHeader)).append later

/-- What an item that is refused is told: a second entrypoint, a name that is taken, or
that it declares nothing under a usable name. -/
theorem code_of_refusal? {ahead : List Item} {item : Item} {finding : Finding}
    (refused : refusal? ahead item = some finding) :
    finding.isRefusal = true ∧ finding.code = refusalCode item := by
  cases isHeader : header? item with
  | some header =>
    have noEntry : refusalCode item = if (offered? item).isSome then "R0002" else "F0001" := by
      cases item <;> first | rfl | cases isHeader
    rw [noEntry]
    rw [refusal?_of_header isHeader] at refused
    cases isNamed : header.name with
    | none =>
      rw [isNamed] at refused
      cases refused
      rw [offered?_of_unnamed isHeader isNamed]
      exact ⟨rfl, rfl⟩
    | some name =>
      rw [isNamed] at refused
      cases offer : offered? item with
      | none =>
        rw [offer] at refused
        cases refused
        exact ⟨rfl, rfl⟩
      | some symbol =>
        rw [offer] at refused
        obtain ⟨previous, -, rfl⟩ := Option.map_eq_some_iff.mp refused
        exact ⟨rfl, rfl⟩
  | none =>
    cases item with
    | entry decl =>
      obtain ⟨first, -, rfl⟩ := Option.map_eq_some_iff.mp refused
      exact ⟨rfl, rfl⟩
    | stray stmt => cases stmt <;> cases refused <;> exact ⟨rfl, rfl⟩
    | _ => cases isHeader

/-- Ahead of the items just the builtin functions are declared. -/
theorem tabled_intrinsics (unit : Option Module) (options : Options) :
    let started := (Session.start unit options).after (declareIntrinsics 0 intrinsics)
    Tabled [] started ∧ started.table.globals = builtins ∧ started.facts.decls = [] ∧
      started.findings = [] :=
  ⟨fun _ _ => rfl, rfl, rfl, rfl⟩

variable {file text : String} {unit : Module}

/-- Behind the first pass over a decoded unit the globals are the builtin functions followed,
in order, by what the items declare, each behind the ones ahead of it: the symbol that it
offers, unless an earlier one has its name in its namespace. The declarations are recorded at
the nodes of just these items. Of the refusals just those of the items are reported, in
order. -/
theorem globals_of_unit (read : Module.decode file text = .ok unit) (options : Options) :
    let session := (Session.start (some unit) options).step .declare
    session.table.globals = builtins ++ (succession [] unit.items).filterMap (fun place =>
        declared? place.1 place.2) ∧
      (∀ node symbol, session.facts.decls.find? node = some symbol ↔ ∃ ahead item later,
        unit.items = ahead ++ item :: later ∧ item.span.node = node ∧
          declared? ahead item = some symbol) ∧
      (∃ others, session.findings = (succession [] unit.items).filterMap (fun place =>
          refusal? place.1 place.2) ++ others ∧
        ∀ finding ∈ others, finding.isRefusal = false) ∧
      ∀ ahead item finding, refusal? ahead item = some finding →
        finding.isRefusal = true ∧ finding.code = refusalCode item := by
  intro session
  have isUnit : (Session.start (some unit) options).items = unit.items := rfl
  have split := after_walk_eq _ isUnit
  obtain ⟨tabled, builtin, noDecls, noFindings⟩ := tabled_intrinsics (some unit) options
  generalize (Session.start (some unit) options).after (declareIntrinsics 0 intrinsics) =
    started at split tabled builtin noDecls noFindings
  obtain ⟨pending, findings⟩ := admits_collect unit.items tabled
  have enrolls := enrolls_collect unit.items none started
  rw [List.findSome?_nil] at pending findings
  generalize (collect none unit.items).run started = collected at pending findings enrolls split
  obtain ⟨waiting, middle⟩ := collected
  have ready : (Session.start (some unit) options).passes.missing .declare = [] := rfl
  have alike := (run_pass ready rfl).1
  rw [Pass.walk_declare, split] at alike
  obtain ⟨globals, decls, others, reported, noRefusal⟩ := settles_resolveSignatures waiting middle
  subst pending
  have table : session.table = (middle.after (resolveSignatures _)).table := alike.table
  have facts : session.facts = (middle.after (resolveSignatures _)).facts := alike.facts
  have found : session.findings = (middle.after (resolveSignatures _)).findings := alike.findings
  refine ⟨?_, fun node symbol => ?_, ⟨others, ?_, noRefusal⟩, fun ahead item finding =>
    code_of_refusal?⟩
  · rw [table, globals, enrolls.globals, builtin, List.map_filterMap]
    simp only [Option.map_map, Function.comp_def, Option.map_id']
  · have recorded : session.facts.decls = ((succession [] unit.items).filterMap fun place =>
        (declared? place.1 place.2).map (place.2.span.node, ·)).reverse := by
      rw [facts, decls, enrolls.decls, noDecls, List.append_nil, List.map_filterMap]
      simp only [Option.map_map, Function.comp_def]
    have distinct : (session.facts.decls.map Prod.fst).Nodup := by
      rw [recorded, List.map_reverse, List.nodup_reverse]
      exact (nodes_of_declared [] unit.items).nodup (Module.nodup_sites read)
    rw [← mem_iff_find? distinct, recorded, List.mem_reverse]
    simp only [List.mem_filterMap, Prod.exists, mem_succession, List.nil_append,
      Option.map_eq_some_iff, Prod.mk.injEq]
    constructor
    · rintro ⟨ahead, item, ⟨_, later, rfl, split⟩, symbol, declares, rfl, rfl⟩
      exact ⟨ahead, item, later, split, rfl, declares⟩
    · rintro ⟨ahead, item, later, split, rfl, declares⟩
      exact ⟨ahead, item, ⟨ahead, later, rfl, split⟩, symbol, declares, rfl, rfl⟩
  · rw [found, reported, findings, noFindings, List.nil_append]

/-- A constant that is called like a builtin function. -/
def abortConstant : ConstDecl :=
  ⟨[], some ⟨"abort", .ofLine 34 39⟩, some (.named "s32" (.ofLine 40 43)),
    some (.literal ⟨.integer, "1", .ofLine 44 45⟩), .ofLine 27 46⟩

/-- A function and a constant that are called like a builtin function, and a constant in a
stray block. -/
def crowdedUnit : Module :=
  ⟨"unit", [.function ⟨[], some ⟨"abort", .ofLine 4 9⟩, [], some (.named "void" (.ofLine 13 17)),
      some ⟨[], .ofLine 18 25⟩, .ofLine 0 26⟩,
    .const abortConstant,
    .stray (.block [.const ⟨[], some ⟨"x", .ofLine 61 62⟩, some (.named "s32" (.ofLine 63 66)),
      some (.literal ⟨.integer, "2", .ofLine 67 68⟩), .ofLine 54 69⟩] (.ofLine 47 70))],
    some (.ofLine 0 70)⟩

/-- The function is refused, the constant is declared, and the stray block is passed over. -/
theorem globals_of_unit_crowded :
    Module.decode "unit"
        "(fn abort () void (block)) (const abort s32 1) (block (const x s32 2))" = .ok crowdedUnit ∧
      let session := (Session.start (some crowdedUnit) .standard).step .declare
      session.table.globals = builtins ++ [symbolOf (.const abortConstant)
          ⟨.constant, abortConstant.name, []⟩ ⟨"abort", .ofLine 34 39⟩] ∧
        ∃ others, session.findings = .redeclared (.ofLine 4 9) none (.symbol "abort") :: others ∧
          ∀ finding ∈ others, finding.isRefusal = false := by
  have read : Module.decode "unit"
      "(fn abort () void (block)) (const abort s32 1) (block (const x s32 2))" =
        .ok crowdedUnit := Module.decode_chars (by cbv)
  obtain ⟨globals, -, ⟨others, findings, noRefusal⟩, -⟩ := globals_of_unit read .standard
  exact ⟨read, globals, others, findings, noRefusal⟩

end UnitCheck.Declare
