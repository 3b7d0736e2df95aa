import UnitCheck.Declare.Signature
import UnitCheck.Proofs.Session.Trace

/-!
# What declaring does to a session

The first pass declares globals and resolves the written types in their
signatures. It neither types an expression nor opens a frame, and it records a
symbol at the node that declares it.
-/

namespace UnitCheck

namespace Finding

/-- The finding says that a struct would hold itself. -/
def isRecursion : Finding -> Bool
  | .recursiveStruct _ _ _ _ => true
  | _ => false

/-- The finding says that an alias refers to itself. -/
def isCyclicAlias : Finding -> Bool
  | .cyclicAlias _ => true
  | _ => false

/-- The finding says that an item is not declared. -/
def isRefusal : Finding -> Bool
  | .malformed _ (.aliasWithoutTarget _) => false
  | .malformed _ _ | .duplicateEntrypoint _ _ | .redeclared _ _ (.symbol _) => true
  | _ => false

end Finding

/-- The item declares something that gets its type behind all others: a function or a value. -/
def Item.isSigned : Item -> Bool
  | .function _ | .asm _ | .const _ | .static _ => true
  | _ => false

namespace Declare

/-- The regime lets globals be collected, whose types come later. -/
structure MayCollect (regime : Regime) : Prop where
  report : ∀ finding, finding.isRecursion = false → regime.permits (.report finding)
  say : ∀ text, regime.permits (.say text)
  declares : ∀ node symbol, symbol.id = .node node → regime.permits (.declares node symbol)
  knows : ∀ id known, regime.permits (.knows id known)
  global : ∀ symbol, regime.permits (.global symbol)
  struct : ∀ id, regime.permits (.struct id .empty)
  enum : ∀ id, regime.permits (.enum id ⟨.prim .s32, []⟩)

/-- The regime lets declarations be gone through whose written types have their nodes inside. -/
structure MayInspect (regime : Regime) (inside : NodeId -> Prop) : Prop
    extends Check.MayRead regime inside where
  report : ∀ finding, finding.isRecursion = false → finding.isCyclicAlias = false →
    finding.isRefusal = false → regime.permits (.report finding)

/-- The regime lets types be defined whose declarations have their nodes inside. -/
structure MayDefine (regime : Regime) (inside : NodeId -> Prop) : Prop
    extends MayInspect regime inside where
  recursion : ∀ finding, finding.isRecursion = true → regime.permits (.report finding)
  struct : ∀ id body, regime.permits (.struct id body)
  enum : ∀ id body, regime.permits (.enum id body)

/-- The regime lets the type of a symbol be found. -/
structure MayLearn (regime : Regime) (id : SymbolId) : Prop where
  knows : ∀ known, regime.permits (.knows id known)
  settles : ∀ type, regime.permits (.settles id type)

/-- The regime lets aliases be resolved whose targets have their nodes inside. -/
structure MayResolveAliases (regime : Regime) (inside : NodeId -> Prop) : Prop
    extends MayInspect regime inside where
  cyclicAlias : ∀ name, regime.permits (.report (.cyclicAlias name))

/-- The regime lets globals be declared whose signatures have their nodes inside. -/
structure MayDeclare (regime : Regime) (inside : NodeId -> Prop) : Prop
    extends Check.MayResolve regime inside where
  say : ∀ text, regime.permits (.say text)
  declares : ∀ node symbol, symbol.id = .node node → regime.permits (.declares node symbol)
  knows : ∀ id known, regime.permits (.knows id known)
  settles : ∀ id type, regime.permits (.settles id type)
  global : ∀ symbol, regime.permits (.global symbol)
  struct : ∀ id body, regime.permits (.struct id body)
  enum : ∀ id body, regime.permits (.enum id body)

variable {regime : Regime} {inside : NodeId -> Prop}

theorem MayDeclare.mayCollect (may : MayDeclare regime inside) : MayCollect regime where
  report finding _ := may.report finding
  say := may.say
  declares := may.declares
  knows := may.knows
  global := may.global
  struct id := may.struct id _
  enum id := may.enum id _

theorem MayDeclare.mayDefine (may : MayDeclare regime inside) : MayDefine regime inside where
  toMayRead := may.mayRead
  report finding _ _ _ := may.report finding
  recursion finding _ := may.report finding
  struct := may.struct
  enum := may.enum

theorem MayDeclare.mayResolveAliases (may : MayDeclare regime inside) :
    MayResolveAliases regime inside where
  toMayInspect := may.mayDefine.toMayInspect
  cyclicAlias name := may.report (.cyclicAlias name)

theorem MayDeclare.mayLearn (may : MayDeclare regime inside) (id : SymbolId) :
    MayLearn regime id :=
  ⟨may.knows id, may.settles id⟩

/-- A refused global changes nothing in the table; any other is added. -/
theorem globals_of_declareGlobal {table after : Table} {symbol : Symbol}
    (declared : table.declareGlobal symbol = .ok after) :
    after = { table with globals := table.globals ++ [symbol] } := by
  unfold Table.declareGlobal at declared
  split at declared
  · cases declared
  · cases declared
    rfl

/-- Putting the table with another global in place is one act. -/
theorem trace_setTable {session : Session} {table : Table} {symbol : Symbol}
    (may : MayCollect regime) (declared : session.table.declareGlobal symbol = .ok table) :
    Trace regime.permits session ((Check.setTable table).run session).2 := by
  rw [globals_of_declareGlobal declared]
  exact .single (may.global symbol)

/-! ### Collecting globals -/

theorem obeys_declareIntrinsic (may : MayCollect regime) (intrinsic : Intrinsic) (number : Nat) :
    regime.Obeys (intrinsic.declare number) := by
  refine .readAt fun session holds => ?_
  cases declared : session.table.declareGlobal (intrinsic.symbol number) with
  | error _ => exact Check.obeys_report (may.report _ rfl) session holds
  | ok table =>
    exact (trace_setTable may declared).bind holds fun _ => Check.obeys_setKnown (may.knows _ _)

theorem obeys_declareIntrinsics (may : MayCollect regime) (number : Nat) :
    (all : List Intrinsic) -> regime.Obeys (declareIntrinsics number all)
  | [] => .pure _
  | intrinsic :: rest =>
    .bind (obeys_declareIntrinsic may intrinsic number) fun _ =>
      obeys_declareIntrinsics may (number + 1) rest

theorem obeys_introduce (may : MayCollect regime) (item : Item) (symbol : Symbol) :
    regime.Obeys (introduce item symbol) := by
  unfold introduce
  cases symbol.kind with
  | struct =>
    refine .bind ?_ fun _ => Check.obeys_setKnown (may.knows _ _)
    exact fun _ _ => .single (may.struct _)
  | enum =>
    refine .bind ?_ fun _ => Check.obeys_setKnown (may.knows _ _)
    exact fun _ _ => .single (may.enum _)
  | _ => exact Check.obeys_setKnown (may.knows _ _)

/-- The symbol of an item is the one its node declares. -/
theorem name_symbolOf (item : Item) (header : Header) (name : Ident) :
    (symbolOf item header name).name = name.name := by
  cases item <;> rfl

theorem id_symbolOf (item : Item) (header : Header) (name : Ident) :
    (symbolOf item header name).id = .node item.span.node := by
  cases item <;> rfl

theorem obeys_declareGlobal (may : MayCollect regime) (item : Item) (header : Header) :
    regime.Obeys (declareGlobal item header) := by
  unfold declareGlobal
  cases header.name with
  | none => exact .bind (Check.obeys_report (may.report _ rfl)) fun _ => .pure _
  | some name =>
    simp only
    split
    · exact .bind (Check.obeys_report (may.report _ rfl)) fun _ => .pure _
    · refine .readAt fun session holds => ?_
      split
      · exact (Regime.Obeys.bind (Check.obeys_report (may.report _ rfl)) fun _ => .pure _) session holds
      · exact .refl
      · rename_i declared
        refine (trace_setTable may declared).bind holds fun _ => ?_
        refine .bind (obeys_introduce may item _) fun _ => .bind (Check.obeys_say may.say) fun _ => ?_
        exact .bind (Check.obeys_recordDecl (may.declares _ _ (id_symbolOf item header name)))
          fun _ => .pure _

theorem obeys_sayNested (say : ∀ text, regime.permits (.say text)) (span : Span) :
    regime.Obeys (sayNested span) :=
  .read fun _ => Check.obeys_say say

mutual

theorem obeys_skipNested (say : ∀ text, regime.permits (.say text)) :
    (stmt : Stmt) -> regime.Obeys (skipNested stmt)
  | .block body _ => by
    unfold skipNested
    exact obeys_skipNestedAll say body
  | .const decl => by
    unfold skipNested
    exact obeys_sayNested say decl.span
  | .struct decl => by
    unfold skipNested
    exact obeys_sayNested say decl.span
  | .expr _ | .letIn _ | .instr _ | .assign _ _ _ | .write _ _ _ | .cond _ _ _ _ _
  | .whileLoop _ _ _ _ | .loop _ _ _ | .forLoop _ _ _ _ _ _ | .ret _ _ | .brk _ | .cont _
  | .bad _ => by
    simp only [skipNested]
    exact .pure _

theorem obeys_skipNestedAll (say : ∀ text, regime.permits (.say text)) :
    (body : List Stmt) -> regime.Obeys (skipNestedAll body)
  | [] => by
    unfold skipNestedAll
    exact .pure _
  | stmt :: rest => by
    unfold skipNestedAll
    exact .bind (obeys_skipNested say stmt) fun _ => obeys_skipNestedAll say rest

end

theorem obeys_collectItem (may : MayCollect regime) (entry : Option Span) (item : Item) :
    regime.Obeys (collectItem entry item) := by
  unfold collectItem
  split
  · split
    · exact .bind (Check.obeys_report (may.report _ rfl)) fun _ => .pure _
    · exact .pure _
  · exact .bind (obeys_skipNestedAll may.say _) fun _ => .pure _
  · exact .bind (Check.obeys_report (may.report _ rfl)) fun _ => .pure _
  · exact .bind (Check.obeys_report (may.report _ rfl)) fun _ => .pure _
  · split
    · exact .bind (obeys_declareGlobal may _ _) fun _ => .pure _
    · exact .pure _

theorem obeys_collect (may : MayCollect regime) :
    (items : List Item) -> (entry : Option Span) -> regime.Obeys (collect entry items)
  | [], _ => .pure _
  | item :: rest, entry =>
    .bind (obeys_collectItem may entry item) fun _ =>
      .bind (obeys_collect may rest _) fun _ => .pure _

/-! ### Resolving signatures -/

/-- The written types have their nodes inside. -/
def Lie (inside : NodeId -> Prop) (forms : List TypeForm) : Prop :=
  ∀ node ∈ forms.flatMap TypeForm.nodes, inside node

@[simp] theorem lie_nil : Lie inside [] := by
  simp [Lie]

@[simp] theorem lie_cons {form : TypeForm} {rest : List TypeForm} :
    Lie inside (form :: rest) ↔ (∀ node ∈ form.nodes, inside node) ∧ Lie inside rest := by
  simp [Lie, or_imp, forall_and]

@[simp] theorem lie_append {first second : List TypeForm} :
    Lie inside (first ++ second) ↔ Lie inside first ∧ Lie inside second := by
  simp [Lie, or_imp, forall_and]

theorem obeys_settle (may : MayResolveAliases regime inside) {entry : DeclaredAlias}
    (learn : MayLearn regime entry.symbol.id) (within : Lie inside entry.decl.target.toList) :
    regime.Obeys entry.settle := by
  refine .read fun session => ?_
  split
  · exact .pure _
  · split
    · rename_i target written
      simp only [written, Option.toList_some, lie_cons] at within
      exact .bind (Check.obeys_typeOf may.toMayRead _ within.1) fun _ =>
        Check.obeys_setType (learn.settles _)
    · exact .bind (Check.obeys_report (may.report _ rfl rfl rfl)) fun _ =>
        Check.obeys_setType (learn.settles _)

theorem obeys_aliasNamed? (all : List DeclaredAlias) (name : String) :
    regime.Obeys (aliasNamed? all name) := by
  refine .read fun session => ?_
  cases session.table.resolveType? name <;> exact .pure _

theorem mem_of_aliasNamed? (all : List DeclaredAlias) (name : String) (session : Session) :
    ∀ entry ∈ ((aliasNamed? all name).run session).1, entry ∈ all := by
  intro entry found
  unfold aliasNamed? at found
  rw [StateT.run_bind] at found
  simp only [StateT.run_get, pure_bind] at found
  cases meant : session.table.resolveType? name with
  | none =>
    rw [meant] at found
    cases found
  | some symbol =>
    rw [meant] at found
    exact List.mem_of_find?_eq_some found

theorem obeys_resolveAlias (may : MayResolveAliases regime inside) (all : List DeclaredAlias)
    (learn : ∀ entry ∈ all, MayLearn regime entry.symbol.id)
    (within : ∀ entry ∈ all, Lie inside entry.decl.target.toList) (fuel : Nat)
    (path settled : List SymbolId) (entry : DeclaredAlias) (isEntry : entry ∈ all) :
    regime.Obeys (resolveAlias all fuel path settled entry) := by
  induction fuel generalizing path settled entry with
  | zero => exact .pure _
  | succ fuel inductionHypothesis =>
    unfold resolveAlias
    split
    · exact .bind (Check.obeys_report (may.cyclicAlias _)) fun _ =>
        .bind (Check.obeys_setType ((learn entry isEntry).settles _)) fun _ => .pure _
    · split
      · exact .pure _
      · refine .bind (.foldlM _ ?_ _) fun _ =>
          .bind (obeys_settle may (learn entry isEntry) (within entry isEntry)) fun _ => .pure _
        intro mention _ settled
        refine .bindYields (fun found => ∀ entry ∈ found, entry ∈ all)
          (obeys_aliasNamed? all mention.name)
          (fun session _ => mem_of_aliasNamed? all mention.name session) fun found isFound => ?_
        cases found with
        | some other => exact inductionHypothesis _ _ _ (isFound other rfl)
        | none => exact .pure _

theorem obeys_resolveAliases (may : MayResolveAliases regime inside) (all : List DeclaredAlias)
    (learn : ∀ entry ∈ all, MayLearn regime entry.symbol.id)
    (within : ∀ entry ∈ all, Lie inside entry.decl.target.toList) :
    regime.Obeys (resolveAliases all) :=
  .bind (.foldlM _ (fun entry isEntry _ =>
    obeys_resolveAlias may all learn within _ _ _ entry isEntry) _) fun _ => .pure _

theorem obeys_structFields (may : MayInspect regime inside) (fields : List FieldDecl)
    (within : Lie inside (fields.map (·.type))) (index : Nat) (seen : List Ident) :
    regime.Obeys (structFields index seen fields) := by
  induction fields generalizing index seen with
  | nil => exact .pure _
  | cons field rest inductionHypothesis =>
    simp only [List.map_cons, lie_cons] at within
    have later := inductionHypothesis within.2
    unfold structFields
    split
    · exact .bind (Check.obeys_typeOf may.toMayRead _ within.1) fun _ =>
        .bind (later _ _) fun _ => .pure _
    · split
      · exact .bind (Check.obeys_report (may.report _ rfl rfl rfl)) fun _ => later _ _
      · exact .bind (Check.obeys_typeOf may.toMayRead _ within.1) fun _ =>
          .bind (later _ _) fun _ => .pure _

theorem obeys_enumBase (may : MayInspect regime inside) (decl : EnumDecl)
    (within : Lie inside decl.base.toList) : regime.Obeys (enumBase decl) := by
  unfold enumBase
  cases written : decl.base with
  | none => exact .pure _
  | some form =>
    simp only [written, Option.toList_some, lie_cons] at within
    refine .bind (Check.obeys_typeOf may.toMayRead _ within.1) fun base => ?_
    split
    · exact .pure _
    · simp only
      split
      · exact .bind (Check.obeys_report (may.report _ rfl rfl rfl)) fun _ => .pure _
      · exact .pure _

theorem obeys_enumVariants (may : MayInspect regime inside) (variants : List VariantDecl)
    (seen : List Ident) : regime.Obeys (enumVariants seen variants) := by
  induction variants generalizing seen with
  | nil => exact .pure _
  | cons variant rest inductionHypothesis =>
    unfold enumVariants
    split
    · exact .bind (Check.obeys_report (may.report _ rfl rfl rfl)) fun _ => inductionHypothesis _
    · exact .bind (inductionHypothesis _) fun _ => .pure _

theorem obeys_defineType (may : MayDefine regime inside) (pending : Pending)
    (within : Lie inside pending.item.forms) : regime.Obeys (defineType pending) := by
  unfold defineType
  split
  · rename_i decl isStruct
    rw [isStruct] at within
    refine .bind (obeys_structFields may.toMayInspect _ within _ _) fun fields => ?_
    exact fun _ _ => .single (may.struct _ _)
  · rename_i decl isEnum
    rw [isEnum] at within
    refine .bind (obeys_enumBase may.toMayInspect _ within) fun base =>
      .bind (obeys_enumVariants may.toMayInspect _ _) fun _ => ?_
    exact fun _ _ => .single (may.enum _ _)
  · exact .pure _

/-- What going through a struct does at one of its fields. -/
def visitField (fuel : Nat) (path : List TypeId) (name : String) (id : TypeId)
    (state : Option Span × List TypeId) (field : StructField × Nat) :
    Check (Option Span × List TypeId) := do
  match valueStruct? field.1.type with
  | none => return state
  | some (inner, innerId) =>
    let (cyclic, done) <- visitStruct fuel (id :: path) state.2 state.1 inner innerId
    if cyclic then
      match state.1 with
      | some span => Check.report (.recursiveStruct span field.1.name name inner)
      | none => pure ()
      Check.define fun definitions =>
        definitions.setStruct id (cutField (definitions.struct id) field.2)
      return (none, done)
    else return (state.1, done)

/-- A struct that is neither being gone through nor done is gone through field by field. -/
theorem visitStruct_succ (fuel : Nat) (path done : List TypeId) (blame : Option Span)
    (name : String) (id : TypeId) : visitStruct (fuel + 1) path done blame name id =
      if path.contains id then return (true, done)
      else if done.contains id then return (false, done)
      else do
        let fields := ((<- get).definitions.struct id).fields
        let (_, done) <- fields.zipIdx.foldlM (visitField fuel path name id) (blame, done)
        return (false, id :: done) := rfl

theorem obeys_visitField (may : MayDefine regime inside) {fuel : Nat}
    (visits : ∀ path done blame name id, regime.Obeys (visitStruct fuel path done blame name id))
    (path : List TypeId) (name : String) (id : TypeId) (state : Option Span × List TypeId)
    (field : StructField × Nat) : regime.Obeys (visitField fuel path name id state field) := by
  have cuts : regime.Obeys (Check.define fun definitions =>
      definitions.setStruct id (cutField (definitions.struct id) field.2)) :=
    fun _ _ => .single (may.struct _ _)
  unfold visitField
  split
  · exact .pure _
  · refine .bind (visits _ _ _ _ _) fun outcome => ?_
    simp only
    split
    · cases state.1 with
      | some span =>
        exact .bind (Check.obeys_report (may.recursion _ rfl)) fun _ => .bind cuts fun _ => .pure _
      | none => exact .bind cuts fun _ => .pure _
    · exact .pure _

theorem obeys_visitStruct (may : MayDefine regime inside) (fuel : Nat) (path done : List TypeId)
    (blame : Option Span) (name : String) (id : TypeId) :
    regime.Obeys (visitStruct fuel path done blame name id) := by
  induction fuel generalizing path done blame name id with
  | zero => exact .pure _
  | succ fuel inductionHypothesis =>
    rw [visitStruct_succ]
    split
    · exact .pure _
    · split
      · exact .pure _
      · refine .read fun session => .bind (.foldlM _ ?_ _) fun _ => .pure _
        intro field _ state
        exact obeys_visitField may inductionHypothesis path name id state field

theorem obeys_cutRecursion (may : MayDefine regime inside) (pending : List Pending) :
    regime.Obeys (cutRecursion pending) := by
  refine .bind (.foldlM _ ?_ _) fun _ => .pure _
  intro entry _ done
  split
  · exact .bind (obeys_visitStruct may _ _ _ _ _ _) fun _ => .pure _
  · exact .pure _

theorem obeys_functionSignature (may : MayInspect regime inside) {symbol : Symbol}
    (learn : MayLearn regime symbol.id) (params : List Param) (result : Option TypeForm)
    (attributes : List Attribute)
    (within : Lie inside (params.map (·.type) ++ result.toList)) :
    regime.Obeys (functionSignature symbol params result attributes) := by
  obtain ⟨paramsWithin, resultWithin⟩ := lie_append.mp within
  refine .bind (.mapM _ fun param isParam => Check.obeys_typeOf may.toMayRead _ ?_) fun _ =>
    .bind (Check.obeys_typeOf? may.toMayRead _ resultWithin) fun _ =>
    Check.obeys_setKnown (learn.knows _)
  intro node isNode
  refine paramsWithin node (List.mem_flatMap.mpr ⟨param.type, ?_, isNode⟩)
  exact List.mem_map.mpr ⟨param, isParam, rfl⟩

theorem obeys_valueSignature (may : MayInspect regime inside) {symbol : Symbol}
    (learn : MayLearn regime symbol.id) :
    (type : Option TypeForm) -> Lie inside type.toList -> regime.Obeys (valueSignature symbol type)
  | some _, within =>
    .bind (Check.obeys_typeOf may.toMayRead _ (lie_cons.mp within).1) fun _ =>
      Check.obeys_setType (learn.settles _)
  | none, _ => .pure _

theorem obeys_resolveSignature (may : MayInspect regime inside) (pending : Pending)
    (learn : pending.item.isSigned = true → MayLearn regime pending.symbol.id)
    (within : Lie inside pending.item.forms) : regime.Obeys (resolveSignature pending) := by
  unfold resolveSignature
  split
  · rename_i decl isItem
    rw [isItem] at within learn
    exact obeys_functionSignature may (learn rfl) _ _ _ within
  · rename_i decl isItem
    rw [isItem] at within learn
    exact obeys_functionSignature may (learn rfl) _ _ _ within
  · rename_i decl isItem
    rw [isItem] at within learn
    exact obeys_valueSignature may (learn rfl) _ within
  · rename_i decl isItem
    rw [isItem] at within learn
    exact obeys_valueSignature may (learn rfl) _ within
  · exact .pure _

/-! ### The whole pass -/

/-- What is pending is an item. -/
theorem item_of_collectItem (entry : Option Span) (item : Item) (session : Session) :
    ∀ pending ∈ ((collectItem entry item).run session).1.2, pending.item = item := by
  have refused {walk : Check Unit} {result : Option Span} :
      ∀ pending ∈ ((walk >>= fun _ => pure (result, (none : Option Pending))).run session).1.2,
        pending.item = item := by
    intro pending isPending
    cases isPending
  unfold collectItem
  split
  · split
    · exact refused
    · intro pending isPending
      cases isPending
  · exact refused
  · exact refused
  · exact refused
  · split
    · rename_i header _
      intro pending isPending
      change pending ∈ ((declareGlobal item header).run session).1 at isPending
      unfold declareGlobal at isPending
      split at isPending
      · cases isPending
      · simp only at isPending
        split at isPending
        · cases isPending
        · rw [StateT.run_bind] at isPending
          simp only [StateT.run_get, pure_bind] at isPending
          split at isPending
          · cases isPending
          · cases isPending
          · cases isPending
            rfl
    · intro pending isPending
      cases isPending

theorem item_of_collect (items : List Item) (entry : Option Span) (session : Session) :
    ∀ pending ∈ ((collect entry items).run session).1, pending.item ∈ items := by
  induction items generalizing entry session with
  | nil =>
    intro pending isPending
    cases isPending
  | cons item rest inductionHypothesis =>
    intro pending isPending
    change pending ∈ ((collectItem entry item).run session).1.2.toList ++
      ((collect ((collectItem entry item).run session).1.1 rest).run
        ((collectItem entry item).run session).2).1 at isPending
    rcases List.mem_append.mp isPending with isFirst | isLater
    · rw [item_of_collectItem entry item session pending (Option.mem_toList.mp isFirst)]
      exact List.mem_cons_self
    · exact List.mem_cons_of_mem _ (inductionHypothesis _ _ pending isLater)

theorem item_of_aliases {pending : List Pending} {entry : DeclaredAlias}
    (isAlias : entry ∈ aliases pending) :
    ∃ other ∈ pending, other.item = .typeAlias entry.decl ∧ other.symbol = entry.symbol := by
  obtain ⟨other, isPending, found⟩ := List.mem_filterMap.mp isAlias
  refine ⟨other, isPending, ?_⟩
  split at found
  · rename_i decl isItem
    cases found
    exact ⟨isItem, rfl⟩
  · cases found

/-- The first pass declares and does nothing else. -/
theorem obeys_walk (may : MayDeclare regime inside)
    (within : ∀ session, regime.holds session → ∀ item ∈ session.items, Lie inside item.forms) :
    regime.Obeys walk := by
  refine .bind (obeys_declareIntrinsics may.mayCollect 0 intrinsics) fun _ =>
    .readAt fun session holds => ?_
  refine (Regime.Obeys.bindYields (fun found => ∀ entry ∈ found, entry.item ∈ session.items)
    (obeys_collect may.mayCollect session.items none)
    (fun start _ => item_of_collect session.items none start) fun pending isItem => ?_) session holds
  have lies : ∀ entry ∈ pending, Lie inside entry.item.forms :=
    fun entry isEntry => within session holds _ (isItem entry isEntry)
  refine .bind (obeys_resolveAliases may.mayResolveAliases _ (fun _ _ => may.mayLearn _)
      fun entry isAlias => ?_) fun _ =>
    .bind (.forM _ fun entry isEntry => obeys_defineType may.mayDefine entry (lies entry isEntry)) fun _ =>
    .bind (obeys_cutRecursion may.mayDefine pending) fun _ =>
    .forM _ fun entry isEntry => obeys_resolveSignature may.mayDefine.toMayInspect entry
      (fun _ => may.mayLearn _) (lies entry isEntry)
  obtain ⟨other, isPending, isItem, _⟩ := item_of_aliases isAlias
  have lie := lies other isPending
  rwa [isItem] at lie

end Declare
end UnitCheck
