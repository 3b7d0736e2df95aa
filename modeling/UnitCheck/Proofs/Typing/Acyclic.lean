import UnitCheck.Proofs.Session.Options
import UnitCheck.Proofs.Typing.Honest
import UnitCheck.Proofs.Typing.Isolation
import UnitCheck.Proofs.Typing.Tour

/-!
# Globals whose values lead back to them

A global is typed where it is declared or where it is first read. In a check of a decoded
unit the recursion that this makes ends, every initializer is gone through once, and a name
that refers to a global without a written type gets the type that the global has in the end.
The last is said of globals that lie on no cycle; they may well read globals that do.

A global without a written type is typed when its type is first asked for, and asking while
that is under way is an error. So as long as nothing fatal is found the globals are finished
in an order: a global that reads an untyped one is finished behind it, and no untyped global
is reached from itself.

Nothing asks for the type of a global that has a written one. A cycle that passes through
such a global is not noticed, and nothing is said of it here.
-/

namespace UnitCheck.Typing

section Demanded

variable {session base : Session} {global : Global}

/-! ### Where typing starts -/

/-- The first two passes leave the setting in which typing starts. -/
theorem setting_ahead {unit : Module} (distinct : (unit.items.flatMap Item.sites).Nodup)
    (options : Options) : Setting (.ahead (some unit) options .typeCheck) ∧
      (Session.ahead (some unit) options .typeCheck).items = unit.items ∧
      (Session.ahead (some unit) options .typeCheck).facts.exprs = [] := by
  obtain ⟨first, second, third, -⟩ := check_walks (some unit) options
  have items := items_ahead (some unit) options .typeCheck
  generalize Session.ahead (some unit) options .declare = declare at first second
  generalize Session.ahead (some unit) options .scope = scope at second third
  generalize Session.ahead (some unit) options .typeCheck = typeCheck at *
  have start : Lexical.Outside unit.items (Session.start (some unit) options) :=
    ⟨rfl, rfl, fun _ _ => rfl⟩
  have outside : Lexical.Outside unit.items scope :=
    (Lexical.outside_after_declare (start.alike first)).alike second
  have enrolled : Declare.Enrolled unit.items scope :=
    (Declare.enrolled_walk distinct first).alike second
  have presented : Resolve.Presented unit.items typeCheck :=
    (Resolve.presented_walk (spread_of_nodup distinct) outside enrolled).alike third
  obtain ⟨untyped, settles⟩ := preparing_walks first second third
  refine ⟨⟨?_, fun node symbol found => settles _ (mem_of_lookup found), ?_⟩, items, untyped⟩
  · rw [items]
    exact distinct
  · rw [items]
    exact presented

/-- A check of a decoded unit is typing in such a setting, and what is told behind it. -/
theorem check_setting {file text : String} {unit : Module}
    (read : Module.decode file text = .ok unit) (options : Options) :
    ∃ base, Setting base ∧ base.items = unit.items ∧ base.facts.exprs = [] ∧
      ∃ findings passes progress, Session.check (some unit) options =
        (base.after walk).retold ((base.after walk).findings ++ findings) passes progress := by
  obtain ⟨setting, items, untyped⟩ := setting_ahead (Module.nodup_sites read) options
  exact ⟨_, setting, items, untyped, check_told (some unit) options⟩

/-! ### Every initializer once -/

theorem mem_checked_walk (isGlobal : global ∈ globals session.items) :
    global.node ∈ (session.after walk).checked := by
  have bodies : Regime.free.Obeys (typeBodies session.items) :=
    .forM _ fun item isItem =>
      obeys_checkBodyItem mayType_free (fun other _ => mayCheckItem_free other) item isItem
  rw [after_walk]
  exact checked_grows bodies _ (mem_checked_typeGlobals (fresh session) global isGlobal)

/-- Behind the walk every global has been gone through once. -/
theorem count_checked (distinct : (session.items.flatMap Item.sites).Nodup)
    (isGlobal : global ∈ globals session.items) :
    (session.after walk).checked.count global.node = 1 :=
  List.count_eq_one_of_mem (once_walk distinct).1.distinct (mem_checked_walk isGlobal)

/-- Where nothing was typed, the walk types every initializer once. -/
theorem count_initializer (distinct : (session.items.flatMap Item.sites).Nodup)
    (untyped : session.facts.exprs = []) (isGlobal : global ∈ globals session.items) {value : Expr}
    (isValue : value ∈ global.value) :
    ((session.after walk).facts.exprs.map Prod.fst).count value.node = 1 := by
  have adds : (session.after walk).facts.exprs =
      (session.after walk).facts.exprs ++ session.facts.exprs := by
    rw [untyped, List.append_nil]
  exact List.count_eq_one_of_mem (nodup_typed distinct adds)
    ((once_walk distinct).1.initialized global isGlobal (mem_checked_walk isGlobal) value isValue)

/-! ### A check -/

/-- In a check of a decoded unit typing a global ends without a bound on how deep globals may
read each other, and fuel beyond their number is never used up. Every global is gone through
once and its initializer gets one type. A name that refers to a global without a written type
gets the type that the global has in the end, unless the global lies on a cycle of such. -/
theorem globals_typed_once {file text : String} {unit : Module}
    (read : Module.decode file text = .ok unit) (options : Options) :
    let all := globals unit.items
    let session := Session.check (some unit) options
    (∀ fuel, all.length < fuel → ∀ global : Member all,
      checkGlobal all fuel [] global = typeGlobal all [] global) ∧
    (∀ global ∈ all, session.checked.count global.node = 1 ∧
      ∀ value ∈ global.value, (session.facts.exprs.map Prod.fst).count value.node = 1) ∧
    ∀ global, OffCycles session global → ∀ item ∈ unit.items, ∀ node ∈ item.nameNodes,
      Refers session node global → ∀ type, (node, type) ∈ session.facts.exprs →
        (session.knownOf (.node global.node)).type = some type := by
  obtain ⟨base, setting, items, untyped, findings, passes, progress, last⟩ :=
    check_setting read options
  intro all session
  generalize (base.after walk).findings ++ findings = findings at last
  have told : session = (base.after walk).retold findings passes progress := last
  rw [told]
  refine ⟨fun fuel enough global => checkGlobal_eq_typeGlobal (fueled_start enough) global,
    fun global isGlobal => ?_, fun global off item isItem node isName refers type isTyped => ?_⟩
  · change global ∈ globals unit.items at isGlobal
    rw [← items] at isGlobal
    exact ⟨count_checked setting.distinct isGlobal, fun value isValue =>
      count_initializer setting.distinct untyped isGlobal isValue⟩
  · have honest := honest_walk setting untyped
    have inUnit : node ∈ nameNodes base :=
      List.mem_flatMap.mpr ⟨item, items ▸ isItem, isName⟩
    have sameItems : ((base.after walk).retold findings passes progress).items = base.items :=
      items_after_walk .typeCheck base
    have sameReads := reads_congr sameItems honest.refs
    have offBase : OffCycles base global :=
      ⟨sameItems ▸ off.inUnit, off.untyped, sameReads ▸ off.acyclic⟩
    have refersBase : Refers base node global := by
      obtain ⟨symbol, found, same⟩ := refers
      exact ⟨symbol, (honest.refs node inUnit).symm.trans found, same⟩
    exact honest.told global offBase node inUnit refersBase type isTyped

/-- The constant of that unit that is read ahead of its declaration and once more in an
array. -/
def readTwiceConst : Global :=
  .const ⟨[], some ⟨"b", .ofLine 25 26⟩, none, some (.literal ⟨.integer, "2", .ofLine 29 30⟩),
    .ofLine 18 31⟩

/-- It is gone through once, and both names get the type that it has in the end. -/
theorem globals_typed_once_readTwice :
    let session := Session.check (some readTwiceUnit) .standard
    Module.decode "unit"
        "(const a _ (- b)) (const b _ 2) (fn f () void (block (let x _ (arr 1 b))))" =
      .ok readTwiceUnit ∧ readTwiceConst ∈ globals readTwiceUnit.items ∧
      session.checked.count readTwiceConst.node = 1 ∧
      (session.facts.exprs.map Prod.fst).count 29 = 1 ∧
      ∃ type, (14, type) ∈ session.facts.exprs ∧ (69, type) ∈ session.facts.exprs ∧
        (session.knownOf (.node readTwiceConst.node)).type = some type := by
  have read := decode_readTwice
  have isGlobal : readTwiceConst ∈ globals readTwiceUnit.items := .tail _ (.head _)
  obtain ⟨-, once, told⟩ := globals_typed_once read .standard
  obtain ⟨checked, initialized⟩ := once _ isGlobal
  have bound : ∀ node ∈ [14, 69],
      ((Session.check (some readTwiceUnit) .standard).facts.refs.find? node).map (·.id) =
          some (.node 18) ∧
        ((Session.check (some readTwiceUnit) .standard).facts.exprs.find? node).isSome := by
    decide +kernel
  have items := items_check (some readTwiceUnit) .standard
  generalize Session.check (some readTwiceUnit) .standard = session at *
  have off : OffCycles session readTwiceConst := by
    refine ⟨items ▸ isGlobal, rfl, fun cycle => ?_⟩
    obtain ⟨other, reads, _⟩ := Relation.TransGen.head'_iff.mp cycle
    obtain ⟨_, ⟨⟩, _, inLiteral, _⟩ := reads.names
    cases inLiteral
  have typed (node : NodeId) (isNode : node ∈ [14, 69])
      (isName : node ∈ readTwiceUnit.items.flatMap Item.nameNodes) :
      ∃ type, (node, type) ∈ session.facts.exprs ∧
        (session.knownOf (.node readTwiceConst.node)).type = some type := by
    obtain ⟨refers, isSome⟩ := bound node isNode
    obtain ⟨symbol, found, same⟩ := Option.map_eq_some_iff.mp refers
    obtain ⟨type, recorded⟩ := Option.isSome_iff_exists.mp isSome
    obtain ⟨item, isItem, isName⟩ := List.mem_flatMap.mp isName
    have isTyped := mem_of_lookup recorded
    exact ⟨type, isTyped, told _ off item isItem node isName ⟨symbol, found, same⟩ type isTyped⟩
  obtain ⟨type, first, known⟩ := typed 14 (by decide) (by decide)
  obtain ⟨_, second, same⟩ := typed 69 (by decide) (by decide)
  obtain rfl := Option.some.inj (known.symm.trans same)
  exact ⟨read, isGlobal, checked, initialized _ rfl, type, first, second, known⟩

end Demanded

/-! ### What is finished before what -/

/-- In a list with the newest in front, `early` came before any occurrence of `late`. -/
structure Precedes (order : List NodeId) (late early : NodeId) : Prop where
  present : early ∈ order
  behind : ∀ rest, late :: rest <:+ order → early ∈ rest

namespace Precedes

variable {order : List NodeId} {late middle early newest : NodeId}

/-- What is already there comes before what is not. -/
theorem of_absent (present : early ∈ order) (absent : late ∉ order) :
    Precedes order late early where
  present := present
  behind _ isSuffix := (absent (isSuffix.subset List.mem_cons_self)).elim

/-- Finishing one more changes nothing in the order of the others. -/
theorem cons (precedes : Precedes order late early) : Precedes (newest :: order) late early where
  present := List.mem_cons_of_mem _ precedes.present
  behind rest isSuffix := by
    obtain same | inside := List.suffix_cons_iff.mp isSuffix
    · obtain ⟨-, rfl⟩ := List.cons.inj same
      exact precedes.present
    · exact precedes.behind rest inside

theorem trans (first : Precedes order late middle) (second : Precedes order middle early) :
    Precedes order late early where
  present := second.present
  behind rest isSuffix := by
    obtain ⟨front, back, split⟩ := List.append_of_mem (first.behind rest isSuffix)
    have inRest : middle :: back <:+ rest := ⟨front, split.symm⟩
    have inOrder := (inRest.trans (List.suffix_cons late rest)).trans isSuffix
    exact (inRest.trans (List.suffix_refl rest)).subset
      (List.mem_cons_of_mem _ (second.behind back inOrder))

/-- What is finished once does not come before itself. -/
theorem irrefl (once : order.Nodup) : ¬Precedes order late late := by
  intro precedes
  obtain ⟨front, back, split⟩ := List.append_of_mem precedes.present
  have isSuffix : late :: back <:+ order := ⟨front, split.symm⟩
  have repeated := once.sublist isSuffix.sublist
  exact (List.nodup_cons.mp repeated).1 (precedes.behind back isSuffix)

end Precedes

/-! ### Globals that mention each other -/

/-- The name stands in the value of the global. -/
structure NamedIn (session : Session) (global : Global) (node : NodeId) : Prop where
  inUnit : global ∈ globals session.items
  inValue : ∃ value ∈ global.value, node ∈ value.nameNodes

/-- A name in the value of the first global refers to the second. -/
structure Mentions (session : Session) (one other : Global) : Prop where
  second : other ∈ globals session.items
  names : ∃ node, NamedIn session one node ∧ Refers session node other

variable {base session : Session} {path : List NodeId} {global : Global} {node : NodeId}

/-- A name in the value of a global is a name of the item of the global. -/
theorem NamedIn.inItem (named : NamedIn base global node) :
    ∃ item ∈ base.items, global? item = some global ∧ node ∈ item.nameNodes := by
  obtain ⟨isGlobal, value, isValue, isName⟩ := named
  obtain ⟨item, isItem, declares⟩ := List.mem_filterMap.mp isGlobal
  refine ⟨item, isItem, declares, List.mem_flatMap.mpr ⟨value, ?_, isName⟩⟩
  refine List.mem_append_right _ ?_
  cases item with
  | const _ | static _ =>
    cases declares
    exact Option.mem_toList.mpr isValue
  | _ => cases declares

theorem NamedIn.isName (named : NamedIn base global node) : node ∈ nameNodes base := by
  obtain ⟨item, isItem, -, isName⟩ := named.inItem
  exact List.mem_flatMap.mpr ⟨item, isItem, isName⟩

/-- No two items share a name, so a name in the value of a global is in no other item. -/
theorem NamedIn.declared (setting : Setting base) (named : NamedIn base global node) {item : Item}
    (isItem : item ∈ base.items) (isName : node ∈ item.nameNodes) :
    global? item = some global := by
  obtain ⟨own, isOwn, declares, inOwn⟩ := named.inItem
  have distinct := (List.nodup_append.mp (Item.nodup_kinds setting.distinct)).1
  rwa [Item.eq_of_mem_nodes distinct isItem isOwn isName inOwn]

/-! ### What typing keeps in order -/

/-- As long as nothing fatal is found, an untyped global has no type before it is finished, and
where a name in the value of a global refers to an untyped one, the name gets its type when the
latter is finished and the former is not. -/
structure Ordered (base : Session) (path : List NodeId) (session : Session) : Prop where
  honest : Honest base path session
  pending : session.Quiet → ∀ global ∈ globals base.items, global.form = none →
    global.node ∉ session.checked → (session.knownOf (.node global.node)).type = none
  ordered : session.Quiet → ∀ one node, NamedIn base one node → ∀ other ∈ globals base.items,
    other.form = none → Refers base node other → ∀ type, (node, type) ∈ session.facts.exprs →
      Precedes session.checked one.node other.node

/-- A type may be recorded at a name when the untyped globals that it refers to are finished
and the one whose value it is in is not. -/
theorem Ordered.record (ordered : Ordered base path session) {type : Ty}
    (honest : Honest base path (Act.apply session (.typed node type)))
    (named : ∀ one, NamedIn base one node → one.node ∈ path)
    (finished : session.Quiet → ∀ other ∈ globals base.items, other.form = none →
      Refers base node other → other.node ∈ session.checked) :
    Ordered base path (Act.apply session (.typed node type)) where
  honest := honest
  pending := ordered.pending
  ordered := by
    intro quiet one place isNamed other isOther untyped refers found isTyped
    obtain new | earlier := List.mem_cons.mp isTyped
    · cases new
      exact .of_absent (finished quiet other isOther untyped refers)
        (ordered.honest.apart _ (named one isNamed))
    · exact ordered.ordered quiet one place isNamed other isOther untyped refers found earlier

/-- Whatever gives no type to a name and none to a global. -/
def sparing (base : Session) : Regime where
  holds session := session.facts.decls = base.facts.decls
  permits
    | .refers node _ | .typed node _ => node ∉ nameNodes base
    | .settles id _ => ∀ global ∈ globals base.items, id ≠ .node global.node
    | .declares _ _ | .knows _ _ | .checked _ => False
    | _ => True
  stable act session permitted same := by
    cases act <;> first | exact same | exact permitted.elim

theorem bystanding_of_sparing {act : Act} (permitted : (sparing base).permits act) :
    (bystanding base).permits act := by
  cases act with
  | settles id type => exact fun global off => permitted global off.inUnit
  | declares _ _ | knows _ _ | checked _ => exact permitted.elim
  | refers _ _ | typed _ _ => exact permitted
  | _ => trivial

theorem Ordered.spared (ordered : Ordered base path session) {act : Act}
    (permitted : (sparing base).permits act) : Ordered base path (Act.apply session act) := by
  have honest := ordered.honest.bystands (bystanding_of_sparing permitted)
  cases act with
  | report finding =>
    exact ⟨honest, fun quiet => ordered.pending (quiet.of_prefix (List.prefix_append _ _)),
      fun quiet => ordered.ordered (quiet.of_prefix (List.prefix_append _ _))⟩
  | typed node type =>
    refine ⟨honest, ordered.pending, ?_⟩
    intro quiet one place isNamed other isOther untyped refers found isTyped
    obtain new | earlier := List.mem_cons.mp isTyped
    · cases new
      exact (permitted isNamed.isName).elim
    · exact ordered.ordered quiet one place isNamed other isOther untyped refers found earlier
  | settles id type =>
    refine ⟨honest, fun quiet global isGlobal untyped unchecked => ?_, ordered.ordered⟩
    have kept : (Act.apply session (.settles id type)).knownOf (.node global.node) =
        session.knownOf (.node global.node) := by
      rw [Act.knownOf_apply]
      exact if_neg fun same => permitted global isGlobal (Option.some.inj same)
    rw [kept]
    exact ordered.pending quiet global isGlobal untyped unchecked
  | declares _ _ | knows _ _ | checked _ => exact permitted.elim
  | _ => exact ⟨honest, ordered.pending, ordered.ordered⟩

/-- The order is kept for nothing. -/
def ordering (base : Session) (path : List NodeId) : Budget where
  holds := Ordered base path
  pays _ _ _ := True
  nothing _ := trivial
  trans _ _ := trivial
  mono _ _ := trivial

section Keeps

variable {α : Type} {nodes : List NodeId} {walk : Check α}

theorem ordering_of_keeps
    (keeps : ∀ session, Ordered base path session → Ordered base path (walk.run session).2) :
    (ordering base path).Keeps nodes walk :=
  fun session holds => ⟨keeps session holds, trivial⟩

theorem Ordered.after (holds : Ordered base path session)
    (obeys : (sparing base).Obeys walk) : Ordered base path (walk.run session).2 :=
  (obeys session holds.honest.decls).preserves (fun _ _ permitted holds => holds.spared permitted)
    holds

theorem ordering_sparing (obeys : (sparing base).Obeys walk) : (ordering base path).Keeps nodes walk :=
  ordering_of_keeps fun _ holds => holds.after obeys

end Keeps

/-! ### Grounds -/

namespace Grounds

variable {grounds : Grounds} {extra : NodeId -> Prop}

/-- The same grounds where names have to meet one more condition. -/
def only (grounds : Grounds) (extra : NodeId -> Prop) : Grounds :=
  { grounds with name := fun node => grounds.name node ∧ extra node }

theorem Takes.only {expr : Expr} (taken : grounds.Takes expr.visits)
    (names : ∀ node ∈ expr.nameNodes, extra node) : (grounds.only extra).Takes expr.visits := by
  intro part isVisited
  obtain ⟨own, plain, forms, literals⟩ := taken part isVisited
  refine ⟨fun name isName => ⟨own name isName, names _ ?_⟩, plain, forms, literals⟩
  have isPart := expr.visits_sublist_parts.subset isVisited
  exact List.mem_flatMap.mpr ⟨part, isPart, List.mem_map_of_mem isName⟩

theorem TakesItem.only {item : Item} (taken : grounds.TakesItem item)
    (names : ∀ node ∈ item.nameNodes, extra node) : (grounds.only extra).TakesItem item := by
  have takes {expr : Expr} (isTop : expr ∈ item.tops) (taken : grounds.Takes expr.visits) :
      (grounds.only extra).Takes expr.visits :=
    taken.only fun node isName => names node (List.mem_flatMap.mpr ⟨expr, isTop, isName⟩)
  refine ⟨fun part isPart => ?_, fun expr isValue => ?_⟩
  · obtain ⟨values, forms, exprs⟩ := taken.body part isPart
    refine ⟨values, forms, fun expr isExpr => takes ?_ (exprs expr isExpr)⟩
    exact List.mem_append_left _ (List.mem_flatMap.mpr ⟨part, isPart, isExpr⟩)
  · exact takes (List.mem_append_right _ isValue) (taken.values expr isValue)

end Grounds

/-- The grounds of `reading`, where the globals in whose values names stand are on the path. -/
abbrev readingOn (base : Session) (path : List NodeId) : Grounds :=
  (reading base path).only fun node => ∀ one, NamedIn base one node → one.node ∈ path

/-- The value of a global is taken in while the global is on the path. -/
theorem takesBinding_readingOn (setting : Setting base) (isGlobal : global ∈ globals base.items)
    (chained : Chained base path global) :
    (readingOn base (global.node :: path)).TakesBinding global.form global.value := by
  obtain ⟨forms, exprs⟩ := takesBinding_reading setting isGlobal chained
  refine ⟨forms, fun value isValue => (exprs value isValue).only fun node isName one named => ?_⟩
  obtain ⟨item, isItem, declares, inItem⟩ :=
    (NamedIn.mk isGlobal ⟨value, isValue, isName⟩).inItem
  obtain rfl := Option.some.inj ((named.declared setting isItem inItem).symm.trans declares)
  exact List.mem_cons_self

/-- An item that declares no global is taken in while nothing is on the path. -/
theorem takesItem_readingOn (setting : Setting base) {item : Item} (isItem : item ∈ base.items)
    (noGlobal : global? item = none) : (readingOn base []).TakesItem item := by
  refine (takesItem_reading isItem).only fun node isName one named => ?_
  rw [named.declared setting isItem isName] at noGlobal
  cases noGlobal

/-! ### What is handed on for a global -/

/-- From this session the walk keeps the order, and the untyped global that it is for is
finished behind it. -/
structure FinishesFrom (base : Session) (path : List NodeId) (id : SymbolId) (walk : Check Ty)
    (session : Session) : Prop where
  ordered : Ordered base path (walk.run session).2
  finished : (walk.run session).2.Quiet → ∀ global ∈ globals base.items, global.form = none →
    id = .node global.node → global.node ∈ (walk.run session).2.checked

/-- A walk that looks at the session first. -/
theorem FinishesFrom.read {id : SymbolId} {rest : Session -> Check Ty}
    (finishes : FinishesFrom base path id (rest session) session) :
    FinishesFrom base path id (get >>= rest) session :=
  ⟨finishes.ordered, finishes.finished⟩

/-- Wherever it starts in order, the walk finishes. -/
def Finishes (base : Session) (path : List NodeId) (id : SymbolId) (walk : Check Ty) : Prop :=
  ∀ session, Ordered base path session → FinishesFrom base path id walk session

/-- The demand finishes all globals that the path leads to. -/
def Completes (base : Session) (path : List NodeId) (demand : Demand) : Prop :=
  ∀ symbol : Symbol, (∀ global ∈ globals base.items, symbol.id = .node global.node →
    Chained base path global) → Finishes base path symbol.id (demand symbol)

section Names

variable {demand : Demand} (setting : Setting base) (serves : Serves base path demand)
  (completes : Completes base path demand) (isGround : (readingOn base path).name node)

include setting completes isGround

/-- Asking for the type of a symbol finishes the global that it stands for. -/
theorem finishes_symbolType {symbol : Symbol} (found : base.facts.refs.find? node = some symbol) :
    Finishes base path symbol.id (symbolType demand symbol) := by
  intro session holds
  refine .read ?_
  cases known : (session.knownOf symbol.id).type with
  | some type =>
    refine ⟨holds, fun quiet global isGlobal untyped same => ?_⟩
    by_contra unchecked
    rw [same, holds.pending quiet global isGlobal untyped unchecked] at known
    cases known
  | none =>
    exact completes symbol (chained_of_unknown setting isGround.1 holds.honest found known)
      session holds

include serves

/-- The type of a symbol may be recorded at the name that refers to it. -/
theorem ordering_toldType {symbol : Symbol} (found : base.facts.refs.find? node = some symbol) :
    (ordering base path).Keeps [node] (symbolType demand symbol >>= Check.recordExpr node) := by
  refine ordering_of_keeps fun session holds => ?_
  have honest := (keeps_toldType setting serves isGround.1 found session holds.honest).1
  obtain ⟨after, finished⟩ := finishes_symbolType setting completes isGround found session holds
  refine after.record honest isGround.2 fun quiet other isOther untyped refers => ?_
  obtain ⟨_, refersOther, same⟩ := refers
  cases found.symm.trans refersOther
  exact finished quiet other isOther untyped same

/-- A name gets its type in order. -/
theorem ordering_name {name : Ident} (isNode : name.span.node = node) :
    (ordering base path).Keeps [name.span.node]
      (nameType demand name >>= record name.span.node) := by
  subst isNode
  refine ordering_of_keeps fun session holds => ?_
  have honest := (keeps_name setting serves isGround.1 rfl session holds.honest).1
  have same := holds.honest.refs _ isGround.1.1
  unfold nameType at honest ⊢
  rw [bind_assoc, StateT.run_bind, StateT.run_get, pure_bind] at honest ⊢
  cases found : session.facts.refs.find? name.span.node with
  | none =>
    rw [found] at honest same
    refine holds.record honest isGround.2 fun _ other _ _ refers => ?_
    obtain ⟨symbol, refers, -⟩ := refers
    rw [refers] at same
    cases same
  | some symbol =>
    rw [found] at honest same
    simp only at honest ⊢
    split at honest
    · rename_i isType
      rw [if_pos isType]
      refine holds.record honest isGround.2 fun _ other isOther _ refers => ?_
      obtain ⟨_, refers, isGlobal⟩ := refers
      cases same.trans refers
      rw [(setting.names isGround.1.1 refers isOther isGlobal).1] at isType
      cases isType
    · rename_i isValue
      rw [if_neg isValue]
      exact (ordering_toldType setting serves completes isGround same.symm session holds).1

end Names

/-- The steps of typing keep the order where the demand does. -/
theorem allows_ordering {demand : Demand} (setting : Setting base)
    (serves : Serves base path demand) (completes : Completes base path demand) :
    Allows (ordering base path) (readingOn base path) demand := by
  have found {node : NodeId} {symbol : Symbol} (isGround : (readingOn base path).name node)
      (means : (ordering base path).Means node symbol) :
      base.facts.refs.find? node = some symbol := by
    obtain ⟨session, holds, refers⟩ := means
    rwa [← holds.honest.refs node isGround.1.1]
  have plain (node : NodeId) (type : Ty) (isPlain : node ∈ base.items.flatMap Item.plainNodes) :
      (ordering base path).Keeps [node] (Check.recordExpr node type) :=
    ordering_sparing (Check.obeys_recordExpr fun isName => (setting.name_apart isName).1 isPlain)
  exact {
    report finding _ := ordering_sparing (Check.obeys_report trivial)
    hops node steps := ordering_sparing (Check.obeys_recordMembers trivial)
    form form isForm := by
      have free (node : NodeId) (inForm : node ∈ form.nodes) : node ∉ nameNodes base :=
        fun isName => (setting.name_apart isName).2 (isForm node inForm)
      exact ordering_sparing (obeys_recordedType
        (.inr ⟨fun _ => trivial, fun _ _ _ => trivial, fun node _ inForm => free node inForm⟩))
    settle node type isValue := by
      refine ordering_sparing (obeys_setDeclType (fun session symbol _ same declared => ?_) type)
      rw [show session.facts.decls = base.facts.decls from same] at declared
      intro global isGlobal isSame
      rw [setting.settles node symbol declared] at isSame
      exact setting.value_apart isValue isGlobal (SymbolId.node.inj isSame)
    plain node type isPlain := plain node type isPlain
    literal literal negated expected isPlain :=
      keeps_literal (fun _ => ordering_sparing (Check.obeys_report trivial))
        fun type => plain _ type isPlain
    name name isGround := ordering_name setting serves completes isGround rfl
    calls node symbol isGround means := by
      refine .read fun _ _ => ?_
      simp only
      split
      · split <;> exact .pure _
      · split
        · exact .pure _
        · refine .behind (ordering_of_keeps fun session holds =>
            (finishes_symbolType setting completes isGround (found isGround means) session
              holds).ordered) fun type => ?_
          split <;> exact .pure _
    callee node symbol isGround means := ordering_toldType setting serves completes isGround
      (found isGround means)
    variant node symbol type isGround means isEnum := by
      refine ordering_of_keeps fun session holds => ?_
      -- the name of an enumeration refers to no global
      have apart (other : Global) (isOther : other ∈ globals base.items) :
          ¬Refers base node other := by
        rintro ⟨_, refers, same⟩
        cases (found isGround means).symm.trans refers
        have isValue := (setting.names isGround.1.1 refers isOther same).1
        rw [Symbol.isType, isEnum] at isValue
        cases isValue
      refine holds.record (holds.honest.record fun _ global off refers => ?_) isGround.2
        fun _ other isOther _ refers => (apart other isOther refers).elim
      exact (apart global off.inUnit refers).elim }

/-! ### Globals -/

/-- Settling a global adds no finding. -/
theorem findings_settled (node : NodeId) (type : Ty) (session : Session) :
    ((settled node type).run session).2.findings = session.findings := by
  unfold settled setDeclType
  rw [bind_assoc, StateT.run_bind, StateT.run_get, pure_bind]
  cases session.facts.decls.find? node <;> rfl

/-- A global that has got its type may be noted as finished. -/
theorem ordered_marked {type : Ty} {after : Session}
    (opened : Ordered base (global.node :: path) session)
    (settles : Settles global.node type session after) (findings : after.findings = session.findings)
    (honest : Honest base path (Act.apply after (.checked global.node))) :
    Ordered base path (Act.apply after (.checked global.node)) := by
  have before (quiet : after.Quiet) : session.Quiet := by
    unfold Session.Quiet at quiet
    rwa [findings] at quiet
  refine ⟨honest, ?_, ?_⟩
  · intro quiet other isOther untyped isUnchecked
    obtain ⟨isOtherNode, notEarlier⟩ := not_or.mp (mt List.mem_cons.mpr isUnchecked)
    rw [settles.checked] at notEarlier
    have kept := settles.others _ fun same => isOtherNode (SymbolId.node.inj same)
    exact (congrArg SymbolType.type kept).trans
      (opened.pending (before quiet) other isOther untyped notEarlier)
  · intro quiet one node named other isOther untyped refers found isTyped
    change (node, found) ∈ after.facts.exprs at isTyped
    rw [settles.facts] at isTyped
    have precedes := opened.ordered (before quiet) one node named other isOther untyped refers
      found isTyped
    rw [← settles.checked] at precedes
    exact precedes.cons

/-- A global that is met again while its type is looked for is an error. -/
theorem finishes_onPath {id : SymbolId} {type : Ty}
    (answers : AnswersFrom base path id (do
      Check.report (.selfReference global.span)
      setDeclType global.node .unknown
      return type) session) :
    FinishesFrom base path id (do
      Check.report (.selfReference global.span)
      setDeclType global.node .unknown
      return type) session := by
  have loud : ¬((do
      Check.report (.selfReference global.span)
      setDeclType global.node .unknown
      return type : Check Ty).run session).2.Quiet := by
    intro quiet
    have settles : Regime.free.Obeys (setDeclType global.node .unknown) :=
      obeys_setDeclType (fun _ _ _ _ _ => trivial) _
    have grows := (settles ((Check.report (.selfReference global.span)).run session).2
      trivial).findings
    exact Session.not_quiet_report rfl (quiet.of_prefix grows)
  exact ⟨⟨answers.honest, fun quiet => (loud quiet).elim, fun quiet => (loud quiet).elim⟩,
    fun quiet => (loud quiet).elim⟩

/-- A global that has been gone through is finished. -/
theorem finishes_declType (isChecked : global.node ∈ session.checked)
    (holds : Ordered base path session) :
    FinishesFrom base path (.node global.node) (declType global.node) session := by
  have still : ((declType global.node).run session).2 = session := by
    unfold declType
    rw [StateT.run_bind, StateT.run_get, pure_bind]
    cases session.facts.decls.find? global.node <;> rfl
  constructor <;> rw [still]
  · exact holds
  · intro _ other _ _ same
    exact SymbolId.node.inj same ▸ isChecked

/-- A global whose initializer has been gone through is finished when it has been settled. -/
theorem finishes_given (setting : Setting base) {given : Check Ty} (isNew : global.node ∉ path)
    (opened : Ordered base (global.node :: path) (given.run session).2) :
    FinishesFrom base path (.node global.node) (do
      let type <- given >>= settled global.node
      markChecked global.node
      return type) session := by
  have answers := answers_given setting isNew opened.honest
  have settles : Settles global.node (given.run session).1 (given.run session).2
      ((settled global.node (given.run session).1).run (given.run session).2).2 :=
    settles_settled fun symbol found => setting.settles _ _ (by rwa [← opened.honest.decls])
  refine ⟨ordered_marked opened settles (findings_settled _ _ _) answers.honest, ?_⟩
  intro _ other _ _ same
  rw [SymbolId.node.inj same]
  exact List.mem_cons_self

/-- The demand that asks for globals completes when each global finishes. -/
theorem completes_answer {answer : Global -> Check Ty}
    (finishes : ∀ global ∈ globals base.items, Chained base path global →
      Finishes base path (.node global.node) (answer global)) :
    Completes base path fun symbol =>
      match (globals base.items).find? (fun other => symbol.id = .node other.node) with
      | some other => answer other
      | none => return .unknown := by
  intro symbol chained
  dsimp only
  cases found : (globals base.items).find? (fun other => symbol.id = .node other.node) with
  | some other =>
    have isOther := List.mem_of_find?_eq_some found
    have same : symbol.id = .node other.node := by simpa using List.find?_some found
    rw [same]
    exact finishes other isOther (chained other isOther same)
  | none =>
    refine fun session holds => ⟨holds, fun _ global isGlobal _ same => ?_⟩
    have apart := List.find?_eq_none.mp found global isGlobal
    exact absurd same (by simpa using apart)

/-- A global is finished when its type has been asked for, whatever globals are being typed. -/
theorem finishes_checkGlobal (setting : Setting base) {fuel : Nat}
    (fueled : Fueled (globals base.items) fuel path) (isGlobal : global ∈ globals base.items)
    (chained : Chained base path global) :
    Finishes base path (.node global.node)
      (checkGlobal (globals base.items) fuel path global) := by
  induction fuel generalizing path global with
  | zero => exact absurd fueled not_fueled_zero
  | succ fuel inductionHypothesis =>
    intro session holds
    unfold checkGlobal
    refine .read ?_
    dsimp only
    split
    · rename_i isChecked
      exact finishes_declType (by simpa using isChecked) holds
    · rename_i unchecked
      split
      · rename_i onPath
        have onCycle := chained.not_offCycles (by simpa using onPath)
        exact finishes_onPath (answers_onPath setting isGlobal onCycle holds.honest)
      · rename_i isNew
        have isNew : global.node ∉ path := by simpa using isNew
        have apart := List.forall_mem_cons.mpr ⟨by simpa using unchecked, holds.honest.apart⟩
        have opened : Ordered base (global.node :: path) session :=
          ⟨{ holds.honest with apart := apart }, holds.pending, holds.ordered⟩
        have deeper := fueled.step isGlobal (by simpa using isNew)
        have serves : Serves base (global.node :: path) fun symbol =>
            match (globals base.items).find? (fun other => symbol.id = .node other.node) with
            | some other => checkGlobal (globals base.items) fuel (global.node :: path) other
            | none => return .unknown :=
          serves_answer fun other isOther leads => answers_checkGlobal setting deeper isOther leads
        have completes := completes_answer fun other isOther leads =>
          inductionHypothesis deeper isOther leads
        have given := (keeps_given (allows_ordering setting serves completes)
          (takesBinding_readingOn setting isGlobal chained) session opened).1
        rw [Global.check_eq]
        exact finishes_given setting isNew given

/-! ### The walk -/

/-- Where nothing has been gone through and nothing typed, typing starts in order. -/
theorem ordered_start (setting : Setting base) (untyped : base.facts.exprs = []) :
    Ordered base [] { base with checked := [] } where
  honest := honest_start setting untyped
  pending _ global isGlobal isUntyped _ := setting.presented.untyped global isGlobal isUntyped
  ordered _ one node _ other _ _ _ type isTyped := by
    change (node, type) ∈ base.facts.exprs at isTyped
    rw [untyped] at isTyped
    cases isTyped

/-- The walk over a unit keeps the order. -/
theorem ordered_walk (setting : Setting base) (untyped : base.facts.exprs = []) :
    Ordered base [] (base.after walk) := by
  have fueled := fueled_start (Nat.lt_succ_self (globals base.items).length)
  have serves : Serves base [] (demandGlobal (globals base.items)) :=
    serves_answer fun _ isGlobal _ => answers_checkGlobal setting fueled isGlobal chained_nil
  have completes : Completes base [] (demandGlobal (globals base.items)) :=
    completes_answer fun _ isGlobal _ => finishes_checkGlobal setting fueled isGlobal chained_nil
  have allows := allows_ordering setting serves completes
  have global (item : Item) (isItem : item ∈ base.items) :
      (ordering base []).Keeps (Stage.variantNodes item)
        (checkGlobalItem (globals base.items) item) := by
    cases declares : global? item with
    | none =>
      exact keeps_checkGlobalItem allows (takesItem_readingOn setting isItem declares)
        fun _ isSome => by cases declares.symm.trans isSome
    | some global =>
      have isGlobal : global ∈ globals base.items := List.mem_filterMap.mpr ⟨item, isItem, declares⟩
      refine ordering_of_keeps fun session holds => ?_
      have ordered := (finishes_checkGlobal setting fueled isGlobal chained_nil session holds).ordered
      cases item with
      | const _ | static _ =>
        cases declares
        exact ordered
      | _ => cases declares
  have body (item : Item) (isItem : item ∈ base.items) :
      (ordering base []).Keeps (Stmt.slotsAll item.body)
        (checkBodyItem (globals base.items) item) := by
    cases declares : global? item with
    | none => exact keeps_checkBodyItem allows (takesItem_readingOn setting isItem declares)
    | some global =>
      cases item with
      | const _ | static _ => exact .pure _
      | _ => cases declares
  have rounds := (Budget.Keeps.forM base.items global).bind fun _ =>
    Budget.Keeps.forM base.items body
  exact (rounds _ (ordered_start setting untyped)).1

/-! ### Accepted units -/

/-- Behind quiet typing a name in the value of a global that refers to a value has a type. -/
theorem typed_of_named {unit : Module} (distinct : (unit.items.flatMap Item.sites).Nodup)
    (prepared : Prepared unit base) (quiet : (base.after walk).Quiet)
    (named : NamedIn base global node) {symbol : Symbol}
    (found : (base.after walk).facts.refs.find? node = some symbol)
    (isValue : symbol.isType = false) :
    ∃ type, (node, type) ∈ (base.after walk).facts.exprs := by
  obtain ⟨item, isItem, -, isName⟩ := named.inItem
  obtain ⟨top, isTop, isName⟩ := List.mem_flatMap.mp isName
  obtain ⟨part, isPart, isName⟩ := List.mem_flatMap.mp isName
  obtain ⟨-, derived⟩ := derivation_walk distinct prepared quiet item (prepared.items ▸ isItem)
  have derived := derived part (List.mem_flatMap.mpr ⟨top, isTop, isPart⟩)
  generalize base.after walk = session at found derived ⊢
  cases part with
  | name ident =>
    obtain rfl : node = ident.span.node := List.mem_singleton.mp isName
    obtain ⟨_, _, isIdent, refers, isEnum⟩ | ⟨type, recorded, -⟩ := derived
    · obtain rfl := Expr.name.inj isIdent
      obtain rfl := Option.some.inj (found.symm.trans refers)
      rw [Symbol.isType, isEnum] at isValue
      cases isValue
    · exact ⟨type, mem_of_lookup recorded⟩
  | call callee args span =>
    obtain rfl : node = callee.span.node := List.mem_singleton.mp isName
    obtain ⟨_, _, isIdent, _⟩ | ⟨_, -, ⟨unbound, -⟩ | ⟨_, type, _, -, recorded, -⟩⟩ := derived
    · cases isIdent
    · cases found.symm.trans unbound
    · exact ⟨type, mem_of_lookup recorded⟩
  | _ => cases isName

/-- Where typing ends quiet and in order and every name of a value has a type, a global is
finished behind the untyped ones that its value mentions. -/
theorem precedes_of_ordered (setting : Setting base) (ordered : Ordered base [] session)
    (quiet : session.Quiet)
    (typed : ∀ one node symbol, NamedIn base one node →
      session.facts.refs.find? node = some symbol → symbol.isType = false →
      ∃ type, (node, type) ∈ session.facts.exprs) (one other : Global)
    (mentions : Mentions base one other) (untyped : other.form = none) :
    Precedes session.checked one.node other.node := by
  obtain ⟨isOther, node, named, symbol, found, same⟩ := mentions
  have isValue := (setting.names named.isName found isOther same).1
  obtain ⟨type, isTyped⟩ :=
    typed one node symbol named ((ordered.honest.refs node named.isName).trans found) isValue
  exact ordered.ordered quiet one node named other isOther untyped ⟨symbol, found, same⟩ type isTyped

/-- Where the nodes of a unit differ and a check of it ends quiet, typing has finished a global
behind the untyped ones that its value mentions. -/
theorem precedes_ahead {unit : Module} {options : Options}
    (distinct : (unit.items.flatMap Item.sites).Nodup)
    (quiet : (Session.check (some unit) options).Quiet) :
    let base := Session.ahead (some unit) options .typeCheck
    (base.after walk).checked.Nodup ∧ ∀ one other, Mentions base one other → other.form = none →
      Precedes (base.after walk).checked one.node other.node := by
  obtain ⟨setting, -, untyped⟩ := setting_ahead distinct options
  obtain ⟨prepared, quietTyped⟩ := prepared_ahead quiet
  exact ⟨(once_walk setting.distinct).1.distinct,
    precedes_of_ordered setting (ordered_walk setting untyped) quietTyped
      fun _ _ _ named found isValue =>
        typed_of_named distinct prepared quietTyped named found isValue⟩

/-- Where the nodes of a unit differ and a check of it ends quiet, no global leads back to
itself through untyped ones when typing starts. -/
theorem acyclic_ahead {unit : Module} {options : Options}
    (distinct : (unit.items.flatMap Item.sites).Nodup)
    (quiet : (Session.check (some unit) options).Quiet) (global : Global) :
    let base := Session.ahead (some unit) options .typeCheck
    ¬Relation.TransGen (fun one other => Mentions base one other ∧ other.form = none)
      global global := by
  intro base cycle
  obtain ⟨once, precedes⟩ := precedes_ahead distinct quiet
  have trans : IsTrans NodeId (Precedes (base.after walk).checked) :=
    ⟨fun _ _ _ first second => first.trans second⟩
  have onCycle := Relation.TransGen.lift Global.node
    (fun one other step => precedes one other step.1 step.2) global global cycle
  rw [Relation.transGen_eq_self] at onCycle
  exact Precedes.irrefl once onCycle

/-- In an accepted unit no global leads back to itself through the names in the values of
globals, as long as none of the globals that these names refer to has a written type. -/
theorem acyclic_of_accepted {file text : String} {unit : Module}
    (read : Module.decode file text = .ok unit) (options : Options)
    (accepted : (Session.check (some unit) options).canGenerate = true) (global : Global) :
    let session := Session.check (some unit) options
    ¬Relation.TransGen (fun one other => Mentions session one other ∧ other.form = none)
      global global := by
  have distinct := Module.nodup_sites read
  obtain ⟨setting, items, untyped⟩ := setting_ahead distinct options
  have acyclic := acyclic_ahead distinct ((canGenerate_check _ options).mp accepted) global
  obtain ⟨findings, passes, progress, last⟩ := check_told (some unit) options
  generalize Session.check (some unit) options = session at last ⊢
  generalize Session.ahead (some unit) options .typeCheck = base at *
  have honest := (ordered_walk setting untyped).honest
  have sameItems : session.items = base.items := by
    rw [last]
    exact items_after_walk .typeCheck base
  -- typing changes neither the unit nor what the names in it refer to
  have same (one other : Global) (edge : Mentions session one other ∧ other.form = none) :
      Mentions base one other ∧ other.form = none := by
    obtain ⟨⟨isOther, node, named, symbol, found, same⟩, isUntyped⟩ := edge
    have named : NamedIn base one node := ⟨sameItems ▸ named.inUnit, named.inValue⟩
    rw [last] at found
    exact ⟨⟨sameItems ▸ isOther, node, named, symbol,
      (honest.refs node named.isName).symm.trans found, same⟩, isUntyped⟩
  intro _ cycle
  exact acyclic (Relation.TransGen.mono same global global cycle)

/-- The constant of that unit that reads the other one. -/
def readingConst : Global :=
  .const ⟨[], some ⟨"a", .ofLine 7 8⟩, none,
    some (.unary .negate (.name ⟨"b", .ofLine 14 15⟩) (.ofLine 11 16)), .ofLine 0 17⟩

/-- The other one, for which no type is written, does not lead back to itself. -/
theorem acyclic_of_accepted_readTwice :
    let session := Session.check (some readTwiceUnit) .standard
    Module.decode "unit"
        "(const a _ (- b)) (const b _ 2) (fn f () void (block (let x _ (arr 1 b))))" =
      .ok readTwiceUnit ∧ session.canGenerate = true ∧ readTwiceConst.form = none ∧
      Mentions session readingConst readTwiceConst ∧
      ¬Relation.TransGen (fun one other => Mentions session one other ∧ other.form = none)
        readTwiceConst readTwiceConst := by
  have read := decode_readTwice
  have facts : (Session.check (some readTwiceUnit) .standard).canGenerate = true ∧
      ((Session.check (some readTwiceUnit) .standard).facts.refs.find? 14).map (·.id) =
        some (.node 18) := by
    decide +kernel
  obtain ⟨accepted, refers⟩ := facts
  have acyclic := acyclic_of_accepted read .standard accepted readTwiceConst
  have items := items_check (some readTwiceUnit) .standard
  generalize Session.check (some readTwiceUnit) .standard = session at *
  have isSecond : readTwiceConst ∈ globals session.items := items ▸ .tail _ (.head _)
  obtain ⟨symbol, found, same⟩ := Option.map_eq_some_iff.mp refers
  have isFirst : readingConst ∈ globals session.items := items ▸ .head _
  exact ⟨read, accepted, rfl, ⟨isSecond, 14, ⟨isFirst, _, rfl, .head _⟩, symbol, found, same⟩,
    acyclic⟩

/-- A constant with a written type whose value is the constant. -/
def ownConst : ConstDecl :=
  ⟨[], some ⟨"A", .ofLine 7 8⟩, some (.named "s32" (.ofLine 9 12)),
    some (.name ⟨"A", .ofLine 13 14⟩), .ofLine 0 15⟩

/-- A unit with that constant. -/
def ownUnit : Module := ⟨"unit", [.const ownConst], some (.ofLine 0 15)⟩

/-- A constant with a written type may be its own value without a word. -/
theorem own_value_unreported :
    let session := Session.check (some ownUnit) .standard
    Module.decode "unit" "(const A s32 A)" = .ok ownUnit ∧ session.canGenerate = true ∧
      session.findings.isEmpty = true ∧ Mentions session (.const ownConst) (.const ownConst) := by
  have facts : (Session.check (some ownUnit) .standard).canGenerate = true ∧
      (Session.check (some ownUnit) .standard).findings.isEmpty = true ∧
      ((Session.check (some ownUnit) .standard).facts.refs.find? 13).map (·.id) =
        some (.node 0) := by
    decide +kernel
  obtain ⟨accepted, silent, refers⟩ := facts
  have read : Module.decode "unit" "(const A s32 A)" = .ok ownUnit := Module.decode_chars (by cbv)
  have items := items_check (some ownUnit) .standard
  generalize Session.check (some ownUnit) .standard = session at *
  have isGlobal : Global.const ownConst ∈ globals session.items :=
    items ▸ List.mem_singleton_self _
  obtain ⟨symbol, found, same⟩ := Option.map_eq_some_iff.mp refers
  exact ⟨read, accepted, silent, isGlobal, 13, ⟨isGlobal, _, rfl, .head _⟩, symbol, found, same⟩

end UnitCheck.Typing
