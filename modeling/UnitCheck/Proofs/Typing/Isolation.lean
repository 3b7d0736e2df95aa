import UnitCheck.Proofs.Declare.Isolation
import UnitCheck.Proofs.Resolve.Lockstep
import UnitCheck.Proofs.Typing.RespelledGlobals

/-!
# Bodies are typed item by item

Globals and the values of enumerations are typed first, and this looks at no body: from
sessions that look alike it stays in step as a whole. Behind it every global has been gone
through, so that a body only reads their types. What the third pass finds in a body and
leaves behind for its item is therefore the same whatever the other bodies hold. As with the
passes ahead, what is kept for an item in the end mentions global declarations and the item's
own ones only.
-/

namespace UnitCheck

namespace Item

@[simp] theorem founds_bare (item : Item) : item.bare.founds = item.founds := by
  cases item <;> rfl

/-- An item with nodes that are typed ahead has all its nodes typed ahead and no locals. -/
theorem of_mem_founds {item : Item} {node : NodeId} (isFound : node ∈ item.founds) :
    node ∈ item.sites ∧ item.locals = [] := by
  cases item with
  | const decl => exact ⟨isFound, rfl⟩
  | static decl => exact ⟨isFound, rfl⟩
  | enum decl => exact ⟨isFound, rfl⟩
  | _ => cases isFound

end Item

/-- What typing the globals of some items looks at and meets: the global declarations, and
all that belongs to items with values. -/
abbrev Outlook.founded (declared : NodeId -> Prop) (items : List Item) : Outlook :=
  .around declared (items.flatMap Item.founds) [] (List.nil_subset _)

section Founded

variable {declared : NodeId -> Prop} {items : List Item} {base after other last : Session}
  {inner locals : List NodeId} {within : locals ⊆ inner}

/-- What is met around some declarations is met around them with more locals. -/
theorem Enclosed.founded (spread : Spread declared items) (housed : Housed declared items base) :
    Enclosed (.founded declared items) base where
  globals symbol isGlobal := (housed.globals.globals symbol isGlobal).around fun _ => id
  locals symbol isLocal := (housed.globals.locals symbol isLocal).around fun _ => id
  known id met := by
    have same : (Outlook.global declared).Meets id := by
      cases id with
      | builtin number => trivial
      | node node => exact met
    exact housed.globals.known id same
  entries node inside := by
    obtain isDeclared | isFound := inside
    · exact (housed.globals.entries node (.inl isDeclared)).mono (fun _ => id)
        (fun _ proper => proper.around fun _ => id) fun _ _ => trivial
    obtain ⟨item, isItem, isFound⟩ := List.mem_flatMap.mp isFound
    obtain ⟨isSite, none⟩ := Item.of_mem_founds isFound
    have seen : (item.outlook declared).inside node := by
      rw [Item.sites_eq] at isSite
      exact (List.mem_append.mp isSite).imp_left (spread.own item isItem node)
    have visible (other : NodeId) (met : (item.outlook declared).visible other) :
        declared other ∨ other ∈ ([] : List NodeId) := by
      rw [← none]
      exact met
    exact ((housed.items item isItem).entries node seen).mono visible
      (fun _ proper => proper.around visible) fun _ _ => trivial

/-- What was enclosed ahead of the globals is enclosed behind them. -/
theorem Enclosed.behindFounded (before : Enclosed (.around declared inner locals within) base)
    (founded : Enclosed (.founded declared items) after)
    (spared : Spared (.founded declared items) base after) (table : after.table = base.table)
    (apart : ∀ node ∈ locals, node ∉ items.flatMap Item.founds) :
    Enclosed (.around declared inner locals within) after := by
  have visible (node : NodeId) (met : (Outlook.founded declared items).visible node) :
      declared node ∨ node ∈ locals :=
    met.imp_right fun impossible => by cases impossible
  refine ⟨?_, ?_, fun id met => ?_, fun node inside => ?_⟩
  · rw [table]
    exact before.globals
  · rw [table]
    exact before.locals
  · cases id with
    | builtin number => exact (founded.known (.builtin number) trivial).mono visible
    | node node =>
      obtain isDeclared | isLocal := met
      · exact (founded.known (.node node) (.inl isDeclared)).mono visible
      · rw [(spared node (apart node isLocal)).2]
        exact before.known (.node node) (.inr isLocal)
  · by_cases seen : (Outlook.founded declared items).inside node
    · exact (founded.entries node seen).mono visible (fun _ proper => proper.around visible)
        fun _ _ => trivial
    · rw [(spared node fun owned => seen (.inr owned)).1]
      exact before.entries node inside

/-- Sessions that agreed ahead of the globals agree behind them. -/
theorem Agree.behindFounded (before : Agree (.around declared inner locals within) base other)
    (founded : Agree (.founded declared items) after last)
    (spared : Spared (.founded declared items) base after)
    (sparedOther : Spared (.founded declared items) other last) :
    Agree (.around declared inner locals within) after last := by
  refine ⟨founded.file, founded.options, founded.globals, founded.locals, founded.frames,
    fun id steady => ?_, fun node inside => ?_⟩
  · by_cases seen : (Outlook.founded declared items).steady id
    · exact founded.known id seen
    · cases id with
      | builtin number => exact (seen fun _ impossible => by cases impossible).elim
      | node node =>
        have apart : ¬(Outlook.founded declared items).owns node := by
          refine fun owned => seen ?_
          rintro _ ⟨⟩
          exact .inr owned
        rw [(spared node apart).2, (sparedOther node apart).2]
        exact before.known _ steady
  · by_cases seen : (Outlook.founded declared items).inside node
    · exact founded.entries node seen
    · rw [(spared node fun owned => seen (.inr owned)).1,
        (sparedOther node fun owned => seen (.inr owned)).1]
      exact before.entries node inside

end Founded

namespace Typing

/-! ### Typing leaves the table alone -/

/-- A walk that opens no block and declares no name. -/
def still : Regime where
  holds _ := True
  permits act := ∀ session, (Act.apply session act).table = session.table
  stable _ _ _ _ := trivial

theorem mayType_still : MayType still :=
  ⟨fun _ _ => rfl, fun _ _ _ => rfl, fun _ _ _ => rfl, fun _ _ => rfl⟩

theorem mayCheckItem_still (item : Item) : MayCheckItem still item :=
  mayCheckItem_of (fun _ => ⟨fun _ _ => rfl, fun _ _ _ _ => rfl, fun _ _ _ _ => rfl⟩)
    (fun _ _ _ => rfl) item

theorem table_of_still {walk : Check Unit} (obeys : still.Obeys walk) (session : Session) :
    (session.after walk).table = session.table :=
  (obeys session trivial).keeps fun _ _ permitted => permitted _

theorem table_checkBodyItem {items : List Item} {item : Item} (isItem : item ∈ items)
    (session : Session) :
    (session.after (checkBodyItem (globals items) item)).table = session.table :=
  table_of_still (obeys_checkBodyItem mayType_still (fun other _ => mayCheckItem_still other) item
    isItem) session

theorem obeys_globals {regime : Regime} (may : MayType regime)
    (allowed : ∀ item, MayCheckItem regime item) (items : List Item) :
    regime.Obeys (items.forM (checkGlobalItem (globals items))) :=
  .forM _ fun item isItem => obeys_checkGlobalItem may (fun other _ => allowed other) item isItem

/-! ### Globals are typed in step -/

section Globals

variable {outlook : Outlook} {pairing : Pairing outlook} {first second : Session}

theorem counts_since (first second : Session) :
    (Pairing.since outlook first second).Counts where
  checked since node := by rw [since.checked]
  mark node since := by
    obtain ⟨agree, enclosed, checked, spared, sparedOther, found⟩ := since
    exact ⟨⟨agree.file, agree.options, agree.globals, agree.locals, agree.frames, agree.known,
      agree.entries⟩, ⟨enclosed.globals, enclosed.locals, enclosed.known, enclosed.entries⟩,
      congrArg (node :: ·) checked, spared, sparedOther, found⟩

variable (counts : pairing.Counts) {all : List Global}
  (owned : ∀ global ∈ all, OwnedGlobal outlook global)
  (steady : ∀ symbol, outlook.Proper symbol → outlook.steady symbol.id)

include counts owned steady

theorem steps_checkGlobalItem (item : Item)
    (isGlobal : ∀ global ∈ global? item, global ∈ all) (own : outlook.Anchors item)
    (inner : ∀ node ∈ item.founds, outlook.owns node) :
    pairing.Steps (checkGlobalItem all item) fun _ => True := by
  have inStep := respelled_checkGlobalItem counts .plain owned steady
    (fun _ _ expr _ => expr.spares_none) item isGlobal own inner item.spares_none
  rwa [Item.respell_none, Global.map_respell_none] at inStep

/-- Globals that are read in a body are gone through in step. -/
theorem steps_demandGlobal : AnswerAlike pairing (demandGlobal all) (demandGlobal all) := by
  refine answerAlike_of steady fun symbol _ => ?_
  have inStep := respelled_demandGlobal counts .plain owned steady
    (fun _ _ expr _ => expr.spares_none) symbol
  rwa [Global.map_respell_none] at inStep

theorem steps_checkBodyItem (item : Item) (own : outlook.Anchors item)
    (inner : ∀ node ∈ item.inner, outlook.owns node) :
    pairing.Steps (checkBodyItem all item) fun _ => True := by
  rw [checkBodyItem_eq]
  exact inStep_checkBody (steps_demandGlobal counts owned steady) item own inner

theorem steps_checkStmts {result : Ty} (holds : outlook.Holds result) (body : List Stmt)
    (inner : ∀ node ∈ Stmt.sitesAll body, outlook.owns node) :
    pairing.Steps (checkStmts (demandGlobal all) result body) fun _ => True := by
  have inStep := respelled_checkStmts .plain (steps_demandGlobal counts owned steady) holds body
    inner fun stmt _ => stmt.spares_none
  rwa [Stmt.respellAll_none] at inStep

end Globals

/-! ### The two rounds of the third pass -/

/-- The first round: the globals and the values of enumerations. -/
def typeGlobals (items : List Item) : Check Unit :=
  items.forM (checkGlobalItem (globals items))

/-- The second round: the bodies. -/
def typeBodies (items : List Item) : Check Unit :=
  items.forM (checkBodyItem (globals items))

/-- The session before any global has been gone through. -/
def fresh (session : Session) : Session := { session with checked := [] }

theorem after_walk (session : Session) : session.after walk =
    ((fresh session).after (typeGlobals session.items)).after (typeBodies session.items) := by
  have rounds (start : Session) (items : List Item) :
      (start.after (typeGlobals items)).after (typeBodies items) = ((do
        items.forM (checkGlobalItem (globals items))
        items.forM (checkBodyItem (globals items)) : Check Unit).run start).2 := rfl
  rw [rounds]
  unfold Session.after walk
  rw [StateT.run_bind, StateT.run_modify, pure_bind, StateT.run_bind, StateT.run_get, pure_bind]
  rfl

theorem globals_bare (items : List Item) : globals (items.map Item.bare) = globals items := by
  unfold globals
  rw [List.filterMap_map]
  refine List.filterMap_congr fun item _ => ?_
  cases item <;> rfl

theorem checkGlobalItem_bare (all : List Global) (item : Item) :
    checkGlobalItem all item.bare = checkGlobalItem all item := by
  cases item <;> rfl

/-- The first round looks at no body. -/
theorem typeGlobals_bare (items : List Item) :
    typeGlobals (items.map Item.bare) = typeGlobals items := by
  have mapped : (items.map Item.bare).forM (checkGlobalItem (globals items)) =
      items.forM (checkGlobalItem (globals items) ∘ Item.bare) :=
    List.forM_map (m := Check)
  have same : checkGlobalItem (globals items) ∘ Item.bare = checkGlobalItem (globals items) :=
    funext (checkGlobalItem_bare _)
  unfold typeGlobals
  rw [globals_bare, mapped, same]

/-- In units that differ in bodies only the first round finds the same item by item. -/
theorem findsEach_bare {items others : List Item}
    (same : items.map Item.bare = others.map Item.bare) (session : Session) :
    session.findsEach (checkGlobalItem (globals others)) others =
      session.findsEach (checkGlobalItem (globals items)) items := by
  have sameGlobals : globals others = globals items := by
    rw [← globals_bare, ← same, globals_bare]
  have each (items : List Item) (all : List Global) (session : Session) :
      session.findsEach (checkGlobalItem all) (items.map Item.bare) =
        session.findsEach (checkGlobalItem all) items := by
    induction items generalizing session with
    | nil => rfl
    | cons item rest inductionHypothesis =>
      simp only [List.map_cons, Session.findsEach, checkGlobalItem_bare, inductionHypothesis]
  rw [sameGlobals, ← each others, ← same, each]

section Rounds

variable {declared : NodeId -> Prop} {items others : List Item} {base other : Session} {item : Item}

theorem steady_founded (symbol : Symbol)
    (proper : (Outlook.founded declared items).Proper symbol) :
    (Outlook.founded declared items).steady symbol.id := by
  intro node same
  have met := proper.met
  rw [same] at met
  exact met.imp_right fun impossible => by cases impossible

theorem ownedGlobal_of_mem (global : Global) (isGlobal : global ∈ globals items) :
    OwnedGlobal (.founded declared items) global := by
  obtain ⟨item, isItem, declares⟩ := List.mem_filterMap.mp isGlobal
  have found : item.founds = item.sites := by
    cases item <;> cases declares <;> rfl
  refine .of_item declares fun node isSite => List.mem_flatMap.mpr ⟨item, isItem, ?_⟩
  rwa [found]

/-- The first round stays in step item by item. -/
theorem steps_item (spread : Spread declared items) (item : Item) (isItem : item ∈ items)
    (first second : Session) :
    (Pairing.since (.founded declared items) first second).Steps
      (checkGlobalItem (globals items) item) fun _ => True := by
  refine steps_checkGlobalItem (counts_since first second) ownedGlobal_of_mem steady_founded item
    (fun global declares => ?_) (fun node isOwn => ?_) fun node isFound => List.mem_flatMap.mpr ⟨item, isItem, isFound⟩
  · exact List.mem_filterMap.mpr ⟨item, isItem, declares⟩
  · have isDeclared := spread.own item isItem node isOwn
    refine ⟨.inl isDeclared, ?_⟩
    rintro _ ⟨⟩
    exact .inl isDeclared

/-- The first round as a whole stays in step. -/
theorem since_typeGlobals (spread : Spread declared items)
    (agree : Agree (.founded declared items) base other)
    (enclosed : Enclosed (.founded declared items) base) (checked : base.checked = other.checked) :
    Since (.founded declared items) base other (base.after (typeGlobals items))
      (other.after (typeGlobals items)) :=
  (Pairing.InStep.forM items (fun item isItem => steps_item spread item isItem base other) base
    other (.start agree enclosed checked)).2.2

/-- Behind the first round the items still see no more than they did. -/
theorem housed_typeGlobals (spread : Spread declared items) (housed : Housed declared items base) :
    Housed declared items (base.after (typeGlobals items)) := by
  have table : (base.after (typeGlobals items)).table = base.table :=
    table_of_still (obeys_globals mayType_still mayCheckItem_still items) base
  have agree : Agree (.founded declared items) base base :=
    ⟨rfl, rfl, fun _ _ _ => rfl, rfl, rfl, fun _ _ => rfl, fun _ _ => rfl⟩
  obtain ⟨-, founded, -, spared, -, -⟩ :=
    since_typeGlobals spread agree (.founded spread housed) rfl
  refine ⟨?_, ?_, housed.globals.behindFounded founded spared table (List.forall_mem_nil _),
    fun item isItem => (housed.items item isItem).behindFounded founded spared table ?_⟩
  · rw [table, housed.locals]
  · rw [table, housed.frames]
  · intro node isLocal isFound
    obtain ⟨other, isOther, isFound⟩ := List.mem_flatMap.mp isFound
    obtain ⟨isSite, none⟩ := Item.of_mem_founds isFound
    have isInner := item.locals_subset_inner isLocal
    rw [Item.sites_eq] at isSite
    obtain isOwn | inOther := List.mem_append.mp isSite
    · exact spread.apart item isItem node isInner (spread.own other isOther node isOwn)
    · cases Item.eq_of_mem_nodes spread.distinct isItem isOther isInner inOther
      rw [none] at isLocal
      cases isLocal

/-- Sessions that look alike from all items with values agree about what the first round
looks at. -/
theorem agree_founded {shared : List Item} (alike : LookAlike declared shared base other)
    (spread : Spread declared items)
    (founding : ∀ item ∈ items, ∀ node ∈ item.founds, item ∈ shared) :
    Agree (.founded declared items) base other := by
  have look := alike.globals
  refine ⟨look.file, look.options, look.globals, look.locals, look.frames, fun id steady => ?_,
    fun node inside => ?_⟩
  · cases id with
    | builtin number => exact look.known _ fun _ impossible => by cases impossible
    | node node =>
      obtain isDeclared | isFound := steady node rfl
      · exact look.known _ fun _ same => by
          cases same
          exact .inl isDeclared
      · obtain ⟨item, isItem, isFound⟩ := List.mem_flatMap.mp isFound
        refine (alike.items item (founding item isItem node isFound)).known _ fun _ same => ?_
        cases same
        have isSite := (Item.of_mem_founds isFound).1
        rw [Item.sites_eq] at isSite
        exact (List.mem_append.mp isSite).imp_left (spread.own item isItem node)
  · obtain isDeclared | isFound := inside
    · exact look.entries node (.inl isDeclared)
    · obtain ⟨item, isItem, isFound⟩ := List.mem_flatMap.mp isFound
      refine (alike.items item (founding item isItem node isFound)).entries node ?_
      have isSite := (Item.of_mem_founds isFound).1
      rw [Item.sites_eq] at isSite
      exact (List.mem_append.mp isSite).imp_left (spread.own item isItem node)

/-- From sessions that look alike the first round finds the same item by item and leaves
sessions behind that look alike. -/
theorem lookAlike_typeGlobals {shared : List Item} (alike : LookAlike declared shared base other)
    (spread : Spread declared items) (housed : Housed declared items base)
    (founding : ∀ item ∈ items, ∀ node ∈ item.founds, item ∈ shared)
    (checked : base.checked = other.checked) :
    LookAlike declared shared (base.after (typeGlobals items)) (other.after (typeGlobals items)) ∧
      base.findsEach (checkGlobalItem (globals items)) items =
        other.findsEach (checkGlobalItem (globals items)) items := by
  have agree := agree_founded alike spread founding
  have enclosed := Enclosed.founded spread housed
  obtain ⟨founded, -, -, spared, sparedOther, -⟩ := since_typeGlobals spread agree enclosed checked
  exact ⟨⟨alike.globals.behindFounded founded spared sparedOther,
    fun item isShared => (alike.items item isShared).behindFounded founded spared sparedOther⟩,
    findsEach_eq items (fun item isItem => steps_item spread item isItem) agree enclosed checked⟩

/-! ### Behind the first round every global has been gone through -/

theorem run_declType (node : NodeId) (session : Session) :
    ((declType node).run session).2 = session := by
  unfold declType
  rw [StateT.run_bind, StateT.run_get, pure_bind]
  simp only
  split <;> rfl

theorem mem_checked_checkGlobal (all : List Global) (fuel : Nat) (global : Global)
    (session : Session) :
    global.node ∈ ((checkGlobal all (fuel + 1) [] global).run session).2.checked := by
  unfold checkGlobal
  rw [StateT.run_bind, StateT.run_get, pure_bind]
  simp only
  by_cases isChecked : session.checked.contains global.node = true
  · rw [if_pos isChecked, run_declType]
    simpa using isChecked
  · rw [if_neg isChecked, if_neg (by simp)]
    exact List.mem_cons_self

/-- What has been gone through stays so. -/
theorem checked_grows {walk : Check Unit} (obeys : Regime.free.Obeys walk) (session : Session) :
    session.checked ⊆ (session.after walk).checked :=
  ((obeys session trivial).adds (·.checked) fun act _ => by
    cases act <;> first | exact List.suffix_cons _ _ | exact List.suffix_refl _).subset

theorem mem_checked_typeGlobals (base : Session) (global : Global)
    (isGlobal : global ∈ globals items) :
    global.node ∈ (base.after (typeGlobals items)).checked := by
  have obeys (item : Item) (isItem : item ∈ items) :
      Regime.free.Obeys (checkGlobalItem (globals items) item) :=
    obeys_checkGlobalItem mayType_free (fun other _ => mayCheckItem_free other) item isItem
  have behind (done : List Item) (inItems : done ⊆ items) (session : Session) :
      ∀ item ∈ done, ∀ global ∈ global? item,
        global.node ∈ (session.after (done.forM (checkGlobalItem (globals items)))).checked := by
    induction done generalizing session with
    | nil => exact List.forall_mem_nil _
    | cons first rest inductionHypothesis =>
      obtain ⟨isFirst, inRest⟩ := List.cons_subset.mp inItems
      have later := inductionHypothesis inRest (session.after (checkGlobalItem (globals items) first))
      refine List.forall_mem_cons.mpr ⟨fun global declares => ?_, later⟩
      refine checked_grows (.forM rest fun item isItem => obeys item (inRest isItem)) _ ?_
      cases first <;> cases declares <;> exact mem_checked_checkGlobal _ _ _ _
  obtain ⟨item, isItem, declares⟩ := List.mem_filterMap.mp isGlobal
  exact behind items (List.Subset.refl _) base item isItem global declares

/-! ### The second round -/

/-- Behind the first round a demand reads the type of a global and does nothing else. -/
theorem steps_demand {outlook : Outlook} {first second : Session} {all : List Global}
    (inside : ∀ global ∈ all, outlook.inside global.node ∧ outlook.steady (.node global.node))
    (checked : ∀ global ∈ all, global.node ∈ first.checked)
    (checkedOther : ∀ global ∈ all, global.node ∈ second.checked) (symbol : Symbol) :
    (Pairing.tracked outlook first second).Steps (demandGlobal all symbol) outlook.Holds := by
  unfold demandGlobal
  split
  · rename_i global found
    have isGlobal := List.mem_of_find?_eq_some found
    obtain ⟨seen, steady⟩ := inside global isGlobal
    unfold checkGlobal
    refine .read fun one other tracked => ?_
    have isChecked : one.checked.contains global.node = true := by
      rw [tracked.kept.checked]
      simpa using checked global isGlobal
    have isCheckedOther : other.checked.contains global.node = true := by
      rw [tracked.keptOther.checked]
      simpa using checkedOther global isGlobal
    simp only [isChecked, isCheckedOther, if_true]
    exact steps_declType seen steady one other tracked
  · exact .pure (holds_prim _)

/-- The body of an item is typed within the item. -/
theorem inStep_bodyItem (spread : Spread declared items) (isItem : item ∈ items)
    {first second : Session} (checked : ∀ global ∈ globals items, global.node ∈ first.checked)
    (checkedOther : ∀ global ∈ globals items, global.node ∈ second.checked) :
    (Pairing.tracked (item.outlook declared) first second).Steps
      (checkBodyItem (globals items) item) fun _ => True := by
  have steady (symbol : Symbol) (proper : (item.outlook declared).Proper symbol) :
      (item.outlook declared).steady symbol.id := by
    intro node same
    have met := proper.met
    rw [same] at met
    exact met.imp_right fun isLocal => item.locals_subset_inner isLocal
  have known {node : NodeId} (isDeclared : declared node) :
      (item.outlook declared).inside node ∧ (item.outlook declared).steady (.node node) := by
    refine ⟨.inl isDeclared, ?_⟩
    rintro _ ⟨⟩
    exact .inl isDeclared
  have inside : ∀ global ∈ globals items, (item.outlook declared).inside global.node ∧
      (item.outlook declared).steady (.node global.node) := by
    intro global isGlobal
    obtain ⟨other, isOther, declares⟩ := List.mem_filterMap.mp isGlobal
    refine known (spread.own other isOther _ ?_)
    cases other <;> cases declares <;> exact List.mem_cons_self
  rw [checkBodyItem_eq]
  exact inStep_checkBody (answerAlike_of steady fun symbol _ =>
      steps_demand inside checked checkedOther symbol) item
    (fun node isOwn => known (spread.own item isItem node isOwn)) fun _ => id

/-- Behind the first round the second one does at every item what it does there alone. -/
theorem visited_typeBodies (spread : Spread declared items) (housed : Housed declared items base)
    (checked : ∀ global ∈ globals items, global.node ∈ base.checked) :
    Visited base (checkBodyItem (globals items)) Item.inner items
        (base.after (typeBodies items)) ∧
      base.findsEach (checkBodyItem (globals items)) items =
        items.map fun item => base.finds (checkBodyItem (globals items) item) :=
  visited_items spread housed
    (fun item isItem session same => inStep_bodyItem spread isItem (by rwa [same]) checked)
    fun item isItem session _ => table_checkBodyItem isItem session

/-- The second round leaves a housed session behind. -/
theorem housed_typeBodies (spread : Spread declared items) (housed : Housed declared items base)
    (checked : ∀ global ∈ globals items, global.node ∈ base.checked) :
    Housed declared items (base.after (typeBodies items)) :=
  (visited_typeBodies spread housed checked).1.housed spread housed fun _ isItem =>
    inStep_bodyItem spread isItem checked checked

/-- From sessions that look alike from some items, the second round finds the same there and
leaves sessions behind that look alike from there. -/
theorem lookAlike_typeBodies {shared : List Item} (alike : LookAlike declared shared base other)
    (spread : Spread declared items) (spreadOther : Spread declared others)
    (housed : Housed declared items base) (housedOther : Housed declared others other)
    (same : globals others = globals items)
    (checked : ∀ global ∈ globals items, global.node ∈ base.checked)
    (checkedOther : ∀ global ∈ globals items, global.node ∈ other.checked)
    (inItems : shared ⊆ items) (inOthers : shared ⊆ others) :
    LookAlike declared shared (base.after (typeBodies items)) (other.after (typeBodies others)) ∧
      ∀ item ∈ shared, base.finds (checkBodyItem (globals items) item) =
        other.finds (checkBodyItem (globals others) item) := by
  refine alike.visits (visited_typeBodies spread housed checked).1
    (visited_typeBodies spreadOther housedOther (by rwa [same])).1 spread spreadOther housed inItems
    inOthers fun item isShared => ?_
  rw [same]
  exact inStep_bodyItem spread (inItems isShared) checked checkedOther

end Rounds

end Typing

/-! ### Checks keep items apart -/

section Kept

variable {declared : NodeId -> Prop} {items : List Item}

/-- Typing keeps items apart. -/
theorem Typing.housed_walk (spread : Spread declared items) {base : Session}
    (housed : Housed declared items base) (isUnit : base.items = items) :
    Housed declared items (base.after walk) := by
  rw [after_walk, isUnit]
  exact housed_typeBodies spread (housed_typeGlobals spread (housed.showsAs ⟨rfl⟩))
    (mem_checked_typeGlobals (fresh base))

/-- The walks that only report keep items apart. -/
theorem Housed.reports {base : Session} (housed : Housed declared items base) :
    Housed declared items (base.after Pass.attributes.walk) ∧
      Housed declared items (base.after Pass.lint.walk) := by
  rw [after_attributes, after_lint]
  exact ⟨housed.showsAs ⟨rfl⟩, housed.showsAs ⟨rfl⟩⟩

/-- The first two passes keep items apart whose nodes differ. -/
theorem housed_ahead {unit : Module} (distinct : (unit.items.flatMap Item.sites).Nodup)
    (options : Options) :
    Housed (· ∈ unit.items.flatMap Item.ownNode) unit.items
        (.ahead (some unit) options .scope) ∧
      Housed (· ∈ unit.items.flatMap Item.ownNode) unit.items
        (.ahead (some unit) options .typeCheck) := by
  obtain ⟨start, scope, typeCheck, -⟩ := check_walks (some unit) options
  have declared := (Declare.housed_walk distinct start).showsAs scope.showsAs
  exact ⟨declared, (Resolve.housed_walk (spread_of_nodup distinct) declared
    (items_ahead (some unit) options .scope)).showsAs typeCheck.showsAs⟩

/-- A check of a decoded unit keeps its items apart. -/
theorem housed_check {file text : String} {unit : Module}
    (read : Module.decode file text = .ok unit) (options : Options) :
    Housed (· ∈ unit.items.flatMap Item.ownNode) unit.items (.check (some unit) options) := by
  obtain ⟨-, -, -, attributes, lint, last, -⟩ := check_walks (some unit) options
  have resolved := (housed_ahead (Module.nodup_sites read) options).2
  have typed := (Typing.housed_walk (spread_of_decode read) resolved
    (items_ahead (some unit) options .typeCheck)).showsAs attributes.showsAs
  exact (typed.reports.1.showsAs lint.showsAs).reports.2.showsAs last.showsAs

end Kept
end UnitCheck
