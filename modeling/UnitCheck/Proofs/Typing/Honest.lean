import UnitCheck.Proofs.Resolve.Globals
import UnitCheck.Proofs.Typing.Units
import UnitCheck.Proofs.Typing.Soundness
import UnitCheck.Proofs.Typing.Spending

/-!
# The types that names of globals get

A global without a written type has no type until its initializer has been gone through,
and then it keeps the one it got. So a name that refers to it is never given another type.
On a cycle this fails: a global that needs its own type is unknown to those it reads and may
get a type afterwards. What is said here is said of the globals that lie on no cycle.
-/

namespace UnitCheck.Typing

/-! ### Globals that read each other -/

/-- The node refers to what the global declares. -/
def Refers (session : Session) (node : NodeId) (global : Global) : Prop :=
  ∃ symbol, session.facts.refs.find? node = some symbol ∧ symbol.id = .node global.node

/-- A name in the value of the first global refers to the second, and no type is written
for either. -/
structure Reads (session : Session) (one other : Global) : Prop where
  first : one ∈ globals session.items
  second : other ∈ globals session.items
  untypedFirst : one.form = none
  untypedSecond : other.form = none
  names : ∃ value ∈ one.value, ∃ node ∈ value.nameNodes, Refers session node other

/-- The global has no written type and does not read itself, however many globals that may
take. -/
structure OffCycles (session : Session) (global : Global) : Prop where
  inUnit : global ∈ globals session.items
  untyped : global.form = none
  acyclic : ¬Relation.TransGen (Reads session) global global

/-- Whatever untyped global is on the path leads to this one. -/
def Chained (session : Session) (path : List NodeId) (global : Global) : Prop :=
  ∀ one ∈ globals session.items, one.form = none → one.node ∈ path →
    Relation.TransGen (Reads session) one global

variable {base session : Session} {path : List NodeId} {global : Global} {node : NodeId}

/-- The written type and the value of a global are those of an item. -/
theorem item_of_global {items : List Item} (isGlobal : global ∈ globals items) :
    ∃ item ∈ items, (∀ form ∈ global.form, form ∈ item.forms) ∧
      ∀ value ∈ global.value, value ∈ item.values := by
  obtain ⟨item, isItem, declares⟩ := List.mem_filterMap.mp isGlobal
  refine ⟨item, isItem, ?_⟩
  cases item with
  | const _ | static _ =>
    cases declares
    exact ⟨fun _ => Option.mem_toList.mpr, fun _ => Option.mem_toList.mpr⟩
  | _ => cases declares

/-- The nodes of all names that are looked up. -/
abbrev nameNodes (session : Session) : List NodeId := session.items.flatMap Item.nameNodes

/-- Which globals read each other depends on what names refer to. -/
theorem reads_congr (items : session.items = base.items)
    (refs : ∀ node ∈ nameNodes base,
      session.facts.refs.find? node = base.facts.refs.find? node) :
    Reads session = Reads base := by
  have refers {one other : Global} (isOne : one ∈ globals base.items) {value : Expr}
      (isValue : value ∈ one.value) {node : NodeId} (isName : node ∈ value.nameNodes) :
      Refers session node other ↔ Refers base node other := by
    obtain ⟨item, isItem, -, values⟩ := item_of_global isOne
    have isTop : value ∈ item.tops := List.mem_append_right _ (values value isValue)
    have inItem : node ∈ item.nameNodes := List.mem_flatMap.mpr ⟨value, isTop, isName⟩
    unfold Refers
    rw [refs node (List.mem_flatMap.mpr ⟨item, isItem, inItem⟩)]
  funext one other
  refine propext ⟨fun reads => ?_, fun reads => ?_⟩
  · obtain ⟨isOne, isOther, untypedOne, untypedOther, value, isValue, node, isName, found⟩ := reads
    rw [items] at isOne isOther
    exact ⟨isOne, isOther, untypedOne, untypedOther, value, isValue, node, isName,
      (refers isOne isValue isName).mp found⟩
  · obtain ⟨isOne, isOther, untypedOne, untypedOther, value, isValue, node, isName, found⟩ := reads
    have found := (refers isOne isValue isName).mpr found
    rw [← items] at isOne isOther
    exact ⟨isOne, isOther, untypedOne, untypedOther, value, isValue, node, isName, found⟩

theorem chained_nil : Chained base [] global :=
  fun _ _ _ onPath => by cases onPath

/-- A global on a path that leads to it lies on a cycle. -/
theorem Chained.not_offCycles (chained : Chained base path global) (onPath : global.node ∈ path) :
    ¬OffCycles base global :=
  fun off => off.acyclic (chained global off.inUnit off.untyped onPath)

/-! ### What typing starts from and keeps -/

/-- What typing relies on. -/
structure Setting (base : Session) : Prop where
  distinct : (base.items.flatMap Item.sites).Nodup
  settles : ∀ node symbol, base.facts.decls.find? node = some symbol → symbol.id = .node node
  presented : Resolve.Presented base.items base

/-- A global off cycles has a type just when it has been gone through, which those on the
path have not been, and the names that refer to it have got that type and no other. -/
structure Honest (base : Session) (path : List NodeId) (session : Session) : Prop where
  refs : ∀ node ∈ nameNodes base,
    session.facts.refs.find? node = base.facts.refs.find? node
  decls : session.facts.decls = base.facts.decls
  typed : ∀ global ∈ globals base.items, global.form.isSome → Declared global.node base →
    (session.knownOf (.node global.node)).type.isSome
  apart : ∀ node ∈ path, node ∉ session.checked
  waiting : ∀ global, OffCycles base global → global.node ∉ session.checked →
    (session.knownOf (.node global.node)).type = none
  settled : ∀ global, OffCycles base global → Declared global.node base →
    global.node ∈ session.checked → (session.knownOf (.node global.node)).type.isSome
  told : ∀ global, OffCycles base global → ∀ node ∈ nameNodes base, Refers base node global →
    ∀ type, (node, type) ∈ session.facts.exprs →
      (session.knownOf (.node global.node)).type = some type

namespace Honest

/-- A type may be recorded at a name when it is that of the global. -/
theorem record (honest : Honest base path session) {type : Ty}
    (tells : node ∈ nameNodes base → ∀ global, OffCycles base global → Refers base node global →
      (session.knownOf (.node global.node)).type = some type) :
    Honest base path (Act.apply session (.typed node type)) :=
  { honest with
    told := by
      intro global off other isName refers otherType isTyped
      obtain new | earlier := List.mem_cons.mp isTyped
      · cases new
        exact tells isName global off refers
      · exact honest.told global off other isName refers otherType earlier }

/-- References may be added where no name stands. -/
theorem refer (honest : Honest base path session) (isFree : node ∉ nameNodes base)
    (symbol : Symbol) : Honest base path (Act.apply session (.refers node symbol)) :=
  { honest with
    refs := by
      intro other isName
      have apart : other ≠ node := by
        rintro rfl
        exact isFree isName
      change List.lookup other ((node, symbol) :: session.facts.refs) = _
      rw [List.lookup_cons, beq_false_of_ne apart]
      exact honest.refs other isName }

/-- What is no global off cycles may get any type. -/
theorem settle (honest : Honest base path session) {id : SymbolId}
    (apart : ∀ global, OffCycles base global → id ≠ .node global.node) (type : Ty) :
    Honest base path (Act.apply session (.settles id type)) := by
  have kept {global : Global} (off : OffCycles base global) :
      (Act.apply session (.settles id type)).knownOf (.node global.node) =
        session.knownOf (.node global.node) := by
    rw [Act.knownOf_apply]
    exact if_neg fun same => apart global off (Option.some.inj same)
  refine ⟨honest.refs, honest.decls, fun global isGlobal typed declared => ?_, honest.apart,
    fun global off unchecked => ?_, fun global off declared isChecked => ?_,
    fun global off node isName refers type isTyped => ?_⟩
  · rw [Act.knownOf_apply]
    split
    · rfl
    · exact honest.typed global isGlobal typed declared
  · rw [kept off]
    exact honest.waiting global off unchecked
  · rw [kept off]
    exact honest.settled global off declared isChecked
  · rw [kept off]
    exact honest.told global off node isName refers type isTyped

end Honest

/-- Whatever gives no type to a name and none to a global off cycles. -/
def bystanding (base : Session) : Regime where
  holds session := session.facts.decls = base.facts.decls
  permits
    | .refers node _ | .typed node _ => node ∉ nameNodes base
    | .settles id _ => ∀ global, OffCycles base global → id ≠ .node global.node
    | .declares _ _ | .knows _ _ | .checked _ => False
    | _ => True
  stable act session permitted same := by
    cases act <;> first | exact same | exact permitted.elim

theorem Honest.bystands (honest : Honest base path session) {act : Act}
    (permitted : (bystanding base).permits act) : Honest base path (Act.apply session act) := by
  cases act with
  | refers node symbol => exact honest.refer permitted symbol
  | typed node type => exact honest.record fun isName => absurd isName permitted
  | settles id type => exact honest.settle permitted type
  | declares _ _ | knows _ _ | checked _ => exact permitted.elim
  | _ => exact { honest with }

/-- Honesty is kept for nothing. -/
def honest (base : Session) (path : List NodeId) : Budget where
  holds := Honest base path
  pays _ _ _ := True
  nothing _ := trivial
  trans _ _ := trivial
  mono _ _ := trivial

theorem honest_of_keeps {α : Type} {nodes : List NodeId} {walk : Check α}
    (keeps : ∀ session, Honest base path session → Honest base path (walk.run session).2) :
    (honest base path).Keeps nodes walk :=
  fun session holds => ⟨keeps session holds, trivial⟩

theorem Honest.after {α : Type} {walk : Check α} (holds : Honest base path session)
    (obeys : (bystanding base).Obeys walk) : Honest base path (walk.run session).2 :=
  (obeys session holds.decls).preserves (fun _ _ permitted holds => holds.bystands permitted) holds

theorem honest_bystanding {α : Type} {nodes : List NodeId} {walk : Check α}
    (obeys : (bystanding base).Obeys walk) : (honest base path).Keeps nodes walk :=
  honest_of_keeps fun _ holds => holds.after obeys

/-! ### Grounds -/

/-- The names, expressions, values and written types of the unit, the names only where they
refer to globals that the path leads to. -/
def reading (base : Session) (path : List NodeId) : Grounds where
  name node := node ∈ nameNodes base ∧ ∀ global ∈ globals base.items, global.form = none →
    Refers base node global → Chained base path global
  plain node := node ∈ base.items.flatMap Item.plainNodes
  value node := node ∈ base.items.flatMap (Stmt.valueNodes ·.body)
  form form := ∀ node ∈ form.nodes, node ∈ base.items.flatMap Item.formNodes
  literal literal _ := literal.span.node ∈ base.items.flatMap Item.plainNodes

section Grounds

variable {item : Item}

theorem takes_reading (isItem : item ∈ base.items) {expr : Expr} (isTop : expr ∈ item.tops)
    (chained : ∀ node ∈ expr.nameNodes, ∀ global ∈ globals base.items, global.form = none →
      Refers base node global → Chained base path global) :
    (reading base path).Takes expr.visits := by
  have inItem {nodes : Item -> List NodeId} {node : NodeId} (isNode : node ∈ nodes item) :
      node ∈ base.items.flatMap nodes := List.mem_flatMap.mpr ⟨item, isItem, isNode⟩
  have inUnit {part : Expr} (isPart : part ∈ expr.parts) {node : NodeId}
      (isPlain : node ∈ part.ownPlain) : node ∈ base.items.flatMap Item.plainNodes :=
    inItem (List.mem_flatMap.mpr ⟨expr, isTop, List.mem_flatMap.mpr ⟨part, isPart, isPlain⟩⟩)
  intro part isVisited
  have isPart := expr.visits_sublist_parts.subset isVisited
  refine ⟨fun name isName => ?_, fun _ node isPlain => inUnit isPart isPlain,
    fun form isForm node isNode => ?_, fun entry isOwn => ?_⟩
  · have inExpr : name.span.node ∈ expr.nameNodes :=
      List.mem_flatMap.mpr ⟨part, isPart, List.mem_map_of_mem isName⟩
    exact ⟨inItem (List.mem_flatMap.mpr ⟨expr, isTop, inExpr⟩), chained _ inExpr⟩
  · have inExpr : node ∈ expr.formNodes :=
      List.mem_flatMap.mpr ⟨part, isPart, List.mem_flatMap.mpr ⟨form, isForm, isNode⟩⟩
    exact inItem (List.mem_append_left _ (List.mem_flatMap.mpr ⟨expr, isTop, inExpr⟩))
  · exact inUnit (Expr.parts_subset_of_part expr part isPart (Expr.literal_mem_parts isOwn))
      List.mem_cons_self

theorem takesItem_reading (isItem : item ∈ base.items) : (reading base []).TakesItem item := by
  have takes {expr : Expr} (isTop : expr ∈ item.tops) : (reading base []).Takes expr.visits :=
    takes_reading isItem isTop fun _ _ _ _ _ _ => chained_nil
  refine ⟨fun part isPart => ⟨fun node isValue => ?_, fun form isForm node isNode => ?_,
    fun expr isExpr => ?_⟩, fun expr isValue => takes (List.mem_append_right _ isValue)⟩
  · exact List.mem_flatMap.mpr ⟨item, isItem, List.mem_flatMap.mpr ⟨part, isPart, isValue⟩⟩
  · have inBody : node ∈ Stmt.formNodes item.body :=
      List.mem_flatMap.mpr ⟨part, isPart, List.mem_flatMap.mpr ⟨form, isForm, isNode⟩⟩
    exact List.mem_flatMap.mpr ⟨item, isItem,
      List.mem_append_right _ (List.mem_append_left _ inBody)⟩
  · exact takes (List.mem_append_left _ (List.mem_flatMap.mpr ⟨part, isPart, isExpr⟩))

/-- What a global reads is chained to a path that ends with the global. -/
theorem chained_cons (setting : Setting base) (isGlobal : global ∈ globals base.items)
    (chained : Chained base path global) {value : Expr} (isValue : value ∈ global.value)
    (isName : node ∈ value.nameNodes) {other : Global} (isOther : other ∈ globals base.items)
    (untyped : other.form = none) (refers : Refers base node other) :
    Chained base (global.node :: path) other := by
  have reads (untypedGlobal : global.form = none) : Reads base global other :=
    ⟨isGlobal, isOther, untypedGlobal, untyped, value, isValue, node, isName, refers⟩
  intro one isOne untypedOne onPath
  obtain same | earlier := List.mem_cons.mp onPath
  · obtain rfl := global_eq_of_node setting.distinct isOne isGlobal same
    exact .single (reads untypedOne)
  · have leads := chained one isOne untypedOne earlier
    obtain ⟨_, _, last⟩ := Relation.TransGen.tail'_iff.mp leads
    exact leads.tail (reads last.untypedSecond)

theorem takesBinding_reading (setting : Setting base) (isGlobal : global ∈ globals base.items)
    (chained : Chained base path global) :
    (reading base (global.node :: path)).TakesBinding global.form global.value := by
  obtain ⟨item, isItem, forms, values⟩ := item_of_global isGlobal
  refine ⟨fun form isForm node isNode => ?_, fun value isValue => ?_⟩
  · have inForms := List.mem_flatMap.mpr ⟨form, forms form isForm, isNode⟩
    exact List.mem_flatMap.mpr ⟨item, isItem,
      List.mem_append_right _ (List.mem_append_right _ inForms)⟩
  · exact takes_reading isItem (List.mem_append_right _ (values value isValue))
      fun node isName other isOther untyped => chained_cons setting isGlobal chained isValue isName
        isOther untyped

end Grounds

/-! ### Nodes of names are nodes of nothing else -/

namespace Setting

variable (setting : Setting base)

include setting

/-- A name stands at no node of another kind. -/
theorem name_apart (isName : node ∈ nameNodes base) :
    node ∉ base.items.flatMap Item.plainNodes ∧ node ∉ base.items.flatMap Item.formNodes := by
  have apart := (List.nodup_append.mp (Item.nodup_kinds setting.distinct)).2.2 node isName
  constructor <;> intro isOther <;> refine apart node ?_ rfl <;> simp only [List.mem_append]
  · exact .inl isOther
  · exact .inr (.inl isOther)

/-- A body declares nothing at the node of a global. -/
theorem value_apart (isValue : node ∈ base.items.flatMap (Stmt.valueNodes ·.body))
    (isGlobal : global ∈ globals base.items) : node ≠ global.node := by
  have kinds := Item.nodup_kinds setting.distinct
  have inner := (List.nodup_append.mp (List.nodup_append.mp kinds).2.1).2.1
  have apart := (List.nodup_append.mp (List.nodup_append.mp inner).2.1).2.2
  obtain ⟨item, isItem, declares⟩ := List.mem_filterMap.mp isGlobal
  refine apart node isValue global.node (List.mem_flatMap.mpr ⟨item, isItem, ?_⟩)
  rw [ownNode_of_global declares]
  exact List.mem_singleton_self _

/-- What a name that refers to a global refers to is a value, and it is declared. -/
theorem names (isName : node ∈ nameNodes base) {symbol : Symbol}
    (found : base.facts.refs.find? node = some symbol) (isGlobal : global ∈ globals base.items)
    (same : symbol.id = .node global.node) :
    symbol.isType = false ∧ Declared global.node base := by
  refine setting.presented.names node (fun inSignature => ?_) symbol found global isGlobal same
  obtain ⟨item, isItem, inForms⟩ := List.mem_flatMap.mp inSignature
  exact (setting.name_apart isName).2 (List.mem_flatMap.mpr
    ⟨item, isItem, List.mem_append_right _ (List.mem_append_right _ inForms)⟩)

end Setting

/-! ### What is handed on for a global -/

/-- From this session the walk is honest, and what it hands on for a global off cycles is the
type of the global. -/
structure AnswersFrom (base : Session) (path : List NodeId) (id : SymbolId) (walk : Check Ty)
    (session : Session) : Prop where
  honest : Honest base path (walk.run session).2
  answer : ∀ global, OffCycles base global → Declared global.node base → id = .node global.node →
    ((walk.run session).2.knownOf id).type = some (walk.run session).1

/-- A walk that looks at the session first. -/
theorem AnswersFrom.read {id : SymbolId} {rest : Session -> Check Ty}
    (answers : AnswersFrom base path id (rest session) session) :
    AnswersFrom base path id (get >>= rest) session :=
  ⟨answers.honest, answers.answer⟩

/-- Wherever it starts honest, the walk answers. -/
def Answers (base : Session) (path : List NodeId) (id : SymbolId) (walk : Check Ty) : Prop :=
  ∀ session, Honest base path session → AnswersFrom base path id walk session

/-- The demand answers for all globals that the path leads to. -/
def Serves (base : Session) (path : List NodeId) (demand : Demand) : Prop :=
  ∀ symbol : Symbol, (∀ global ∈ globals base.items, symbol.id = .node global.node →
    Chained base path global) → Answers base path symbol.id (demand symbol)

/-- A symbol without a type that a name refers to stands for no global but those that the
path leads to. -/
theorem chained_of_unknown (setting : Setting base) (isGround : (reading base path).name node)
    (holds : Honest base path session) {symbol : Symbol}
    (found : base.facts.refs.find? node = some symbol)
    (unknown : (session.knownOf symbol.id).type = none) :
    ∀ global ∈ globals base.items, symbol.id = .node global.node → Chained base path global := by
  intro global isGlobal same
  cases isForm : global.form with
  | none => exact isGround.2 global isGlobal isForm ⟨symbol, found, same⟩
  | some form =>
    have declared := (setting.names isGround.1 found isGlobal same).2
    have isKnown := holds.typed global isGlobal (by rw [isForm]; rfl) declared
    rw [← same, unknown] at isKnown
    cases isKnown

section Names

variable {demand : Demand} (setting : Setting base) (serves : Serves base path demand)
  (isGround : (reading base path).name node)

include setting serves isGround

/-- Where a name refers to it, a symbol answers with its type. -/
theorem answers_symbolType {symbol : Symbol}
    (found : base.facts.refs.find? node = some symbol) :
    Answers base path symbol.id (symbolType demand symbol) := by
  refine fun session holds => .read ?_
  cases known : (session.knownOf symbol.id).type with
  | some type => exact ⟨holds, fun _ _ _ _ => known⟩
  | none => exact serves symbol (chained_of_unknown setting isGround holds found known) session holds

/-- The type with which a symbol answers may be recorded at the name. -/
theorem keeps_toldType {symbol : Symbol} (found : base.facts.refs.find? node = some symbol) :
    (honest base path).Keeps [node] (symbolType demand symbol >>= Check.recordExpr node) := by
  refine honest_of_keeps fun session holds => ?_
  obtain ⟨after, answers⟩ := answers_symbolType setting serves isGround found session holds
  refine after.record fun isName global off refers => ?_
  obtain ⟨other, foundOther, same⟩ := refers
  cases found.symm.trans foundOther
  have declared := (setting.names isName found off.inUnit same).2
  rw [← same]
  exact answers global off declared same

/-- A name gets the type with which its symbol answers. -/
theorem keeps_name {name : Ident} (isNode : name.span.node = node) :
    (honest base path).Keeps [name.span.node] (nameType demand name >>= record name.span.node) := by
  subst isNode
  have blank (session : Session) (holds : Honest base path session)
      (silent : ∀ global, OffCycles base global → ¬Refers base name.span.node global) :
      Honest base path ((record name.span.node .unknown).run session).2 :=
    holds.record fun _ global off refers => absurd refers (silent global off)
  refine honest_of_keeps fun session holds => ?_
  have same := holds.refs _ isGround.1
  unfold nameType
  rw [bind_assoc, StateT.run_bind, StateT.run_get, pure_bind]
  cases found : session.facts.refs.find? name.span.node with
  | none =>
    refine blank session holds ?_
    rintro global off ⟨symbol, refers, _⟩
    rw [found, refers] at same
    cases same
  | some symbol =>
    rw [found] at same
    simp only
    split
    · rename_i isType
      refine blank session holds ?_
      rintro global off ⟨other, refers, isGlobal⟩
      cases same.trans refers
      rw [(setting.names isGround.1 refers off.inUnit isGlobal).1] at isType
      cases isType
    · exact (keeps_toldType setting serves isGround same.symm session holds).1

end Names

/-- The steps of typing are honest where the demand is. -/
theorem allows_honest {demand : Demand} (setting : Setting base)
    (serves : Serves base path demand) :
    Allows (honest base path) (reading base path) demand := by
  have found {node : NodeId} {symbol : Symbol} (isGround : (reading base path).name node)
      (means : (honest base path).Means node symbol) :
      base.facts.refs.find? node = some symbol := by
    obtain ⟨session, holds, refers⟩ := means
    rwa [← holds.refs node isGround.1]
  have plain (node : NodeId) (type : Ty) (isPlain : node ∈ base.items.flatMap Item.plainNodes) :
      (honest base path).Keeps [node] (Check.recordExpr node type) :=
    honest_bystanding (Check.obeys_recordExpr fun isName => (setting.name_apart isName).1 isPlain)
  exact {
    report finding _ := honest_bystanding (Check.obeys_report trivial)
    hops node steps := honest_bystanding (Check.obeys_recordMembers trivial)
    form form isForm := by
      have free (node : NodeId) (inForm : node ∈ form.nodes) : node ∉ nameNodes base :=
        fun isName => (setting.name_apart isName).2 (isForm node inForm)
      exact honest_bystanding (obeys_recordedType
        (.inr ⟨fun _ => trivial, fun _ _ _ => trivial, fun node _ inForm => free node inForm⟩))
    settle node type isValue := by
      refine honest_bystanding (obeys_setDeclType (fun session symbol _ same declared => ?_) type)
      rw [show session.facts.decls = base.facts.decls from same] at declared
      intro global off isGlobal
      rw [setting.settles node symbol declared] at isGlobal
      exact setting.value_apart isValue off.inUnit (SymbolId.node.inj isGlobal)
    plain node type isPlain := plain node type isPlain
    literal literal negated expected isPlain :=
      keeps_literal (fun _ => honest_bystanding (Check.obeys_report trivial))
        fun type => plain _ type isPlain
    name name isGround := keeps_name setting serves isGround rfl
    calls node symbol isGround means := by
      refine .read fun _ _ => ?_
      simp only
      split
      · split <;> exact .pure _
      · split
        · exact .pure _
        · refine .behind (honest_of_keeps fun session holds =>
            (answers_symbolType setting serves isGround (found isGround means) session holds).1)
            fun type => ?_
          split <;> exact .pure _
    callee node symbol isGround means := keeps_toldType setting serves isGround
      (found isGround means)
    variant node symbol type isGround means isEnum := by
      refine honest_of_keeps fun session holds => holds.record fun isName global off refers => ?_
      obtain ⟨other, refersOther, same⟩ := refers
      cases (found isGround means).symm.trans refersOther
      have isValue := (setting.names isName refersOther off.inUnit same).1
      rw [Symbol.isType, isEnum] at isValue
      cases isValue }

/-! ### Globals -/

/-- What a node declares has got a type, and nothing else has changed. -/
structure Settles (node : NodeId) (type : Ty) (before after : Session) : Prop where
  facts : after.facts = before.facts
  checked : after.checked = before.checked
  others : ∀ id, id ≠ .node node → after.knownOf id = before.knownOf id
  known : Declared node before → (after.knownOf (.node node)).type = some type
  grows : ∀ id, (before.knownOf id).type.isSome → (after.knownOf id).type.isSome

theorem settles_settled {type : Ty}
    (own : ∀ symbol, session.facts.decls.find? node = some symbol → symbol.id = .node node) :
    Settles node type session ((settled node type).run session).2 := by
  unfold settled setDeclType
  rw [bind_assoc, StateT.run_bind, StateT.run_get, pure_bind]
  cases found : session.facts.decls.find? node with
  | none =>
    refine ⟨rfl, rfl, fun _ _ => rfl, fun declared => ?_, fun _ => id⟩
    unfold Declared at declared
    rw [found] at declared
    cases declared
  | some symbol =>
    have changed (id : SymbolId) := Act.knownOf_apply (.settles symbol.id type) session id
    change Settles node type session (Act.apply session (.settles symbol.id type))
    rw [own symbol found] at changed ⊢
    refine ⟨rfl, rfl, fun id other => ?_, fun _ => ?_, fun id isSome => ?_⟩
    · rw [changed]
      exact if_neg fun same => other (Option.some.inj same).symm
    · rw [changed, if_pos (by rfl)]
      rfl
    · rw [changed]
      split
      · rfl
      · exact isSome

/-- A global that has got its type may be noted as gone through. -/
theorem honest_marked {type : Ty} {after : Session}
    (opened : Honest base (global.node :: path) session) (isNew : global.node ∉ path)
    (settles : Settles global.node type session after) :
    Honest base path (Act.apply after (.checked global.node)) := by
  obtain ⟨unchecked, apart⟩ := List.forall_mem_cons.mp opened.apart
  have isDeclared (declared : Declared global.node base) : Declared global.node session := by
    unfold Declared at declared ⊢
    rwa [opened.decls]
  have kept {other : Global} (isOther : other.node ≠ global.node) :
      after.knownOf (.node other.node) = session.knownOf (.node other.node) :=
    settles.others _ fun same => isOther (SymbolId.node.inj same)
  refine ⟨?_, ?_, ?_, ?_, ?_, ?_, ?_⟩
  · change ∀ node ∈ nameNodes base, after.facts.refs.find? node = _
    rw [settles.facts]
    exact opened.refs
  · exact (congrArg Facts.decls settles.facts).trans opened.decls
  · exact fun other isOther typed declared =>
      settles.grows _ (opened.typed other isOther typed declared)
  · intro node onPath isChecked
    obtain rfl | earlier := List.mem_cons.mp isChecked
    · exact isNew onPath
    · rw [settles.checked] at earlier
      exact apart node onPath earlier
  · intro other off isUnchecked
    obtain ⟨isOther, notEarlier⟩ := not_or.mp (mt List.mem_cons.mpr isUnchecked)
    rw [settles.checked] at notEarlier
    exact (congrArg SymbolType.type (kept isOther)).trans (opened.waiting other off notEarlier)
  · intro other off declared isChecked
    obtain same | earlier := List.mem_cons.mp isChecked
    · have isSome := settles.known (isDeclared (same ▸ declared))
      rw [← same] at isSome
      exact Option.isSome_of_eq_some isSome
    · rw [settles.checked] at earlier
      exact settles.grows _ (opened.settled other off declared earlier)
  · intro other off node isName refers found isTyped
    change (after.knownOf _).type = some found
    change (node, found) ∈ after.facts.exprs at isTyped
    rw [settles.facts] at isTyped
    have earlier := opened.told other off node isName refers found isTyped
    by_cases isOther : other.node = global.node
    · -- before it is settled the global has no type, so no name has got one from it
      rw [opened.waiting other off (isOther ▸ unchecked)] at earlier
      cases earlier
    · rwa [kept isOther]

/-- A global that has been gone through answers with its type. -/
theorem answers_declType (setting : Setting base) (holds : Honest base path session)
    (isChecked : global.node ∈ session.checked) :
    AnswersFrom base path (.node global.node) (declType global.node) session := by
  have keeps : (honest base path).Keeps [] (declType global.node) := keeps_declType _
  refine ⟨(keeps session holds).1, ?_⟩
  intro other off declared same
  obtain ⟨symbol, found⟩ := Option.isSome_iff_exists.mp declared
  rw [← SymbolId.node.inj same] at found
  have isSome := holds.settled other off declared (SymbolId.node.inj same ▸ isChecked)
  rw [← SymbolId.node.inj same] at isSome
  obtain ⟨type, known⟩ := Option.isSome_iff_exists.mp isSome
  have own : symbol.id = .node global.node := setting.settles _ _ found
  rw [← holds.decls] at found
  unfold declType
  rw [StateT.run_bind, StateT.run_get, pure_bind, found]
  change (session.knownOf _).type = some ((session.knownOf symbol.id).type.getD .unknown)
  rw [own, known]
  rfl

/-- A global that is met again on the path lies on a cycle, where nothing is promised. -/
theorem answers_onPath (setting : Setting base) (isGlobal : global ∈ globals base.items)
    (onCycle : ¬OffCycles base global) (holds : Honest base path session) :
    AnswersFrom base path (.node global.node) (do
      Check.report (.selfReference global.span)
      setDeclType global.node .unknown
      return .unknown) session := by
  have apart (other : Global) (off : OffCycles base other) (same : global.node = other.node) :
      False :=
    onCycle (global_eq_of_node setting.distinct isGlobal off.inUnit same ▸ off)
  have obeys : (bystanding base).Obeys (do
      Check.report (.selfReference global.span)
      setDeclType global.node .unknown
      return .unknown : Check Ty) := by
    refine .bind (Check.obeys_report trivial) fun _ => .bind (obeys_setDeclType ?_ _) fun _ =>
      .pure _
    intro session symbol type same declared other off isOther
    rw [show session.facts.decls = base.facts.decls from same] at declared
    rw [setting.settles _ _ declared] at isOther
    exact apart other off (SymbolId.node.inj isOther)
  exact ⟨holds.after obeys,
    fun other off _ same => (apart other off (SymbolId.node.inj same)).elim⟩

/-- A global whose initializer has been gone through answers when it has been settled. -/
theorem answers_given (setting : Setting base) {given : Check Ty} (isNew : global.node ∉ path)
    (opened : Honest base (global.node :: path) (given.run session).2) :
    AnswersFrom base path (.node global.node) (do
      let type <- given >>= settled global.node
      markChecked global.node
      return type) session := by
  have settles : Settles global.node (given.run session).1 (given.run session).2
      ((settled global.node (given.run session).1).run (given.run session).2).2 :=
    settles_settled fun symbol found => setting.settles _ _ (by rwa [← opened.decls])
  refine ⟨honest_marked opened isNew settles, fun other _ declared same => ?_⟩
  rw [← SymbolId.node.inj same] at declared
  refine settles.known ?_
  unfold Declared at declared ⊢
  rwa [opened.decls]

/-- A demand that asks for globals serves when each global answers. -/
theorem serves_answer {answer : Global -> Check Ty}
    (answers : ∀ global ∈ globals base.items, Chained base path global →
      Answers base path (.node global.node) (answer global)) :
    Serves base path fun symbol =>
      match (globals base.items).find? (fun other => symbol.id = .node other.node) with
      | some other => answer other
      | none => return .unknown := by
  intro symbol chained
  dsimp only
  cases found : (globals base.items).find? (fun other => symbol.id = .node other.node) with
  | some other =>
    have isOther := List.mem_of_find?_eq_some found
    have same : symbol.id = .node other.node := by simpa using List.find?_some found
    rw [same]
    exact answers other isOther (chained other isOther same)
  | none =>
    refine fun session holds => ⟨holds, fun global off _ same => ?_⟩
    have apart := List.find?_eq_none.mp found global off.inUnit
    exact absurd same (by simpa using apart)

/-- A global answers with its type, whatever globals are being typed. -/
theorem answers_checkGlobal (setting : Setting base) {fuel : Nat}
    (fueled : Fueled (globals base.items) fuel path) (isGlobal : global ∈ globals base.items)
    (chained : Chained base path global) :
    Answers base path (.node global.node) (checkGlobal (globals base.items) fuel path global) := by
  induction fuel generalizing path global with
  | zero => exact absurd fueled not_fueled_zero
  | succ fuel inductionHypothesis =>
    intro session holds
    unfold checkGlobal
    refine .read ?_
    dsimp only
    split
    · rename_i isChecked
      exact answers_declType setting holds (by simpa using isChecked)
    · rename_i unchecked
      split
      · rename_i onPath
        have onCycle := chained.not_offCycles (by simpa using onPath)
        exact answers_onPath setting isGlobal onCycle holds
      · rename_i isNew
        have isNew : global.node ∉ path := by simpa using isNew
        have opened : Honest base (global.node :: path) session :=
          { holds with apart := List.forall_mem_cons.mpr ⟨by simpa using unchecked, holds.apart⟩ }
        have serves : Serves base (global.node :: path) fun symbol =>
            match (globals base.items).find? (fun other => symbol.id = .node other.node) with
            | some other => checkGlobal (globals base.items) fuel (global.node :: path) other
            | none => return .unknown :=
          serves_answer fun other isOther leads =>
            inductionHypothesis (fueled.step isGlobal (by simpa using isNew)) isOther leads
        have given := (keeps_given (allows_honest setting serves)
          (takesBinding_reading setting isGlobal chained) session opened).1
        rw [Global.check_eq]
        exact answers_given setting isNew given

/-! ### The walk -/

/-- Where nothing has been gone through and nothing typed, typing starts honest. -/
theorem honest_start (setting : Setting base) (untyped : base.facts.exprs = []) :
    Honest base [] { base with checked := [] } where
  refs _ _ := rfl
  decls := rfl
  typed := setting.presented.typed
  apart := List.forall_mem_nil _
  waiting global off _ := setting.presented.untyped global off.inUnit off.untyped
  settled _ _ _ impossible := by cases impossible
  told global off node isName refers type isTyped := by
    change (node, type) ∈ base.facts.exprs at isTyped
    rw [untyped] at isTyped
    cases isTyped

/-- The walk over a unit is honest. -/
theorem honest_walk (setting : Setting base) (untyped : base.facts.exprs = []) :
    Honest base [] (base.after walk) := by
  have answers (global : Global) (isGlobal : global ∈ globals base.items) :
      Answers base [] (.node global.node)
        (checkGlobal (globals base.items) ((globals base.items).length + 1) [] global) :=
    answers_checkGlobal setting (fueled_start (Nat.lt_succ_self _)) isGlobal chained_nil
  have serves : Serves base [] (demandGlobal (globals base.items)) :=
    serves_answer fun global isGlobal _ => answers global isGlobal
  have keeps := keeps_rounds (allows_honest setting serves)
    (fun item isItem => takesItem_reading isItem) fun item isItem global declares =>
      honest_of_keeps fun session holds =>
        (answers global (List.mem_filterMap.mpr ⟨item, isItem, declares⟩) session holds).honest
  exact (keeps _ (honest_start setting untyped)).1

end UnitCheck.Typing
