import Mathlib.Algebra.Module.Submodule.Lattice
import Mathlib.Data.List.Perm.Subperm
import Mathlib.Data.List.Permutation
import UnitCheck.Proofs.Declare.Collected
import UnitCheck.Proofs.Tree.Distinct
import UnitCheck.Proofs.Typing.Units

/-!
# Accepted units are well typed

Where a check of a decoded unit finds nothing fatal, the types it has recorded form
one derivation: every expression agrees with the types of its operands, and every
statement and every initializer with the types of its expressions. The passes before
typing leave each written type its meaning and each declaration its symbol, and no
two nodes of a decoded unit coincide, so the type that counts for a node is the only
one that was ever recorded for it.
-/

namespace UnitCheck

/-! ### What is in place before typing -/

/-- Declarations are recorded at the nodes of their symbols, and nothing is typed yet. -/
def preparing : Regime where
  holds session := session.facts.exprs = [] ∧
    ∀ entry ∈ session.facts.decls, entry.2.id = .node entry.1
  permits
    | .typed _ _ => False
    | .declares node symbol => symbol.id = .node node
    | _ => True
  stable act session permitted holds := by
    cases act with
    | typed node type => exact permitted.elim
    | declares node symbol =>
      exact ⟨holds.1, List.forall_mem_cons.mpr ⟨permitted, holds.2⟩⟩
    | _ => exact holds

theorem preparing_of_facts {before after : Session} (same : after.facts = before.facts)
    (holds : preparing.holds before) : preparing.holds after := by
  change after.facts.exprs = [] ∧ ∀ entry ∈ after.facts.decls, entry.2.id = .node entry.1
  rw [same]
  exact holds

theorem mayDeclare_preparing : Declare.MayDeclare preparing fun _ => True where
  report _ := trivial
  written _ _ _ := trivial
  refers _ _ _ := trivial
  say _ := trivial
  declares _ _ same := same
  knows _ _ := trivial
  settles _ _ := trivial
  global _ := trivial
  struct _ _ := trivial
  enum _ _ := trivial

theorem mayBind_preparing : Resolve.MayBind preparing (fun _ => True) fun _ => True where
  report _ := trivial
  written _ _ _ := trivial
  refers _ _ _ := trivial
  declares _ _ _ same := same
  knows _ _ _ := trivial
  locals _ _ := trivial
  struct _ _ _ := trivial

/-- The first two passes type nothing and declare symbols at their nodes. -/
theorem preparing_walks {unit : Option Module} {options : Options}
    {declare scope typeCheck : Session} (first : (Session.start unit options).Alike declare)
    (second : (declare.after Declare.walk).Alike scope)
    (third : (scope.after Resolve.walk).Alike typeCheck) : preparing.holds typeCheck := by
  have started : preparing.holds declare :=
    preparing_of_facts first.facts ⟨rfl, List.forall_mem_nil _⟩
  have declaring : Trace preparing.permits declare (declare.after Declare.walk) :=
    Declare.obeys_walk mayDeclare_preparing (fun _ _ _ _ _ _ => trivial) declare started
  have resolving : preparing.holds scope := preparing_of_facts second.facts (declaring.holds started)
  have resolved : Trace preparing.permits scope (scope.after Resolve.walk) :=
    Resolve.obeys_walk mayBind_preparing (fun _ _ _ _ _ _ => trivial)
      (fun _ _ _ _ _ _ => trivial) scope resolving
  exact preparing_of_facts third.facts (resolved.holds resolving)

/-- What typing a checked unit starts from. -/
structure Prepared (unit : Module) (session : Session) : Prop where
  items : session.items = unit.items
  untyped : session.facts.exprs = []
  settles : ∀ node symbol, session.facts.decls.find? node = some symbol → symbol.id = .node node
  declared : ∀ item ∈ unit.items, (Declare.header? item).isSome → Declared item.span.node session
  globals : ∀ item ∈ unit.items, ∀ global ∈ Typing.global? item, Written global.form.toList session
  written : ∀ item ∈ unit.items, Written (Resolve.itemWritten item) session

/-- A check that ends quiet is prepared when typing starts, and typing ends quiet as well. -/
theorem prepared_ahead {unit : Module} {options : Options}
    (quiet : (Session.check (some unit) options).Quiet) :
    Prepared unit (.ahead (some unit) options .typeCheck) ∧
      ((Session.ahead (some unit) options .typeCheck).after Typing.walk).Quiet := by
  obtain ⟨findings, passes, progress, last⟩ := check_told (some unit) options
  obtain ⟨first, second, third, -⟩ := check_walks (some unit) options
  have itemsDeclare := items_ahead (some unit) options .declare
  have itemsScope := items_ahead (some unit) options .scope
  have items := items_ahead (some unit) options .typeCheck
  generalize Session.ahead (some unit) options .declare = declare at *
  generalize Session.ahead (some unit) options .scope = scope at *
  generalize Session.ahead (some unit) options .typeCheck = typeCheck at *
  rw [last] at quiet
  have quietTyped : (typeCheck.after Typing.walk).Quiet := quiet.of_prefix (List.prefix_append _ _)
  have quietScope : (scope.after Resolve.walk).Quiet :=
    third.quiet (quiet_before_walk .typeCheck quietTyped)
  have quietDeclare : (declare.after Declare.walk).Quiet :=
    second.quiet (quiet_before_walk .scope quietScope)
  have collected := Declare.collected_walk quietDeclare
  rw [itemsDeclare] at collected
  have written := Resolve.written_walk quietScope
  rw [itemsScope] at written
  have grows : Trace Regime.free.permits scope (scope.after Resolve.walk) :=
    Resolve.obeys_walk mayBind_free (fun _ _ _ _ _ _ => trivial) (fun _ _ _ _ _ _ => trivial)
      scope trivial
  have facts : typeCheck.facts = (scope.after Resolve.walk).facts := third.facts
  obtain ⟨untyped, settles⟩ := preparing_walks first second third
  refine ⟨⟨items, untyped, fun node symbol found => settles _ (mem_of_lookup found), ?_, ?_,
    fun item isItem => (written item isItem).of_facts facts⟩, quietTyped⟩
  · intro item isItem isSome
    have declared := (collected item isItem isSome).1.of_facts second.facts
    exact (grows.preserves (fun act session _ => lasting_declared _ act session) declared).of_facts
      facts
  · intro item isItem global isGlobal
    have found := ((collected item isItem (header?_of_global isGlobal)).2 global isGlobal).of_facts
      second.facts
    exact (grows.preserves (fun act session _ => lasting_written _ act session) found).of_facts facts

/-- A quiet check is quiet typing in such a session, and what is told behind it. -/
theorem check_prepared {unit : Module} {options : Options}
    (quiet : (Session.check (some unit) options).Quiet) :
    ∃ session, Prepared unit session ∧ (session.after Typing.walk).Quiet ∧
      ∃ findings passes progress, Session.check (some unit) options =
        (session.after Typing.walk).retold findings passes progress := by
  obtain ⟨prepared, quietTyped⟩ := prepared_ahead quiet
  obtain ⟨findings, passes, progress, last⟩ := check_told (some unit) options
  exact ⟨_, prepared, quietTyped, _, passes, progress, last⟩

namespace Typing

/-! ### The stage on which any type is good -/

/-- What typing starts from when nothing is promised of types. -/
def anyStage (session : Session) : Stage where
  start := { session with checked := [] }
  good _ := True
  fits _ _ := True

variable {session : Session} {unit : Module} {ready : List NodeId}

theorem readable_any (symbol : Symbol) : (anyStage session).Readable ready symbol :=
  ⟨fun _ _ => trivial, .inl trivial⟩

theorem formOk_any {forms : List TypeForm} (written : Written forms session) :
    ∀ form ∈ forms, (anyStage session).FormOk form := by
  intro form isForm
  obtain ⟨type, found⟩ := Option.isSome_iff_exists.mp (written form isForm)
  exact ⟨type, found, trivial⟩

/-- Expressions rely on nothing but their written types. -/
theorem relies_any {expr : Expr} (written : Written expr.forms session) :
    (anyStage session).Relies ready expr where
  forms part isPart form isForm :=
    formOk_any written form (List.mem_flatMap.mpr ⟨part, isPart, isForm⟩)
  own part _ := by
    cases part with
    | call callee args span =>
      have isOk : (anyStage session).CalleeOk ready callee := by
        unfold Stage.CalleeOk
        split
        · exact readable_any _
        · trivial
      exact isOk
    | field base path span =>
      cases base with
      | name name => exact fun _ _ _ => ⟨fun _ _ => trivial, .inl trivial⟩
      | _ => trivial
    | _ => trivial
  values name _ := by
    unfold Stage.ValueOk
    split
    · split
      · trivial
      · exact readable_any _
    · trivial

theorem stmtOk_any {stmt : Stmt} (owned : ∀ node ∈ stmt.ownValues, (anyStage session).Owns node)
    (written : Written (Resolve.written stmt) session) :
    (anyStage session).StmtOk ready stmt where
  owns := owned
  forms form isForm := formOk_any (written_append.mp written).1 form isForm
  exprs expr isExpr := relies_any fun form isForm =>
    (written_append.mp written).2 form (List.mem_flatMap.mpr ⟨expr, isExpr, isForm⟩)
  fits _ _ _ _ := trivial

theorem closed_any : (anyStage session).Closed := by
  constructor <;> intros <;> first | trivial | exact ⟨trivial, fun _ _ => trivial⟩

/-! ### Nodes of values -/

/-- The nodes of the values that a body declares lie in its item. -/
theorem bodyValues_subset_sites {item : Item} {node : NodeId}
    (isValue : node ∈ (Stmt.partsAll item.body).flatMap Stmt.ownValues) :
    node ∈ Stmt.sitesAll item.stmts := by
  obtain ⟨stmt, isStmt, isOwn⟩ := List.mem_flatMap.mp isValue
  have sameBody : Stmt.partsAll item.body ⊆ Stmt.partsAll item.stmts := by
    cases item with
    | stray stmt => exact List.nil_subset _
    | _ => exact fun _ inside => inside
  refine List.mem_flatMap.mpr ⟨stmt, sameBody isStmt, ?_⟩
  refine List.mem_append_left _ (List.mem_append_left _ ?_)
  cases stmt with
  | struct decl => cases isOwn
  | _ => exact isOwn

/-- The nodes of the values that an item declares lie in it. -/
theorem valueNodes_subset_sites {item : Item} {node : NodeId} (isValue : node ∈ valueNodes item) :
    node ∈ item.sites := by
  obtain isGlobal | inBody := List.mem_append.mp isValue
  · have isOwn : node ∈ item.ownNode := by
      cases item with
      | const _ | static _ => exact isGlobal
      | _ => cases isGlobal
    simp [Item.sites, isOwn]
  · simp [Item.sites, bodyValues_subset_sites inBody]

/-- Where no two nodes coincide, globals are told apart by their nodes. -/
theorem global_eq_of_node {items : List Item} (distinct : (items.flatMap Item.sites).Nodup)
    {one other : Global} (isOne : one ∈ globals items) (isOther : other ∈ globals items)
    (same : one.node = other.node) : one = other := by
  have inside {item : Item} {global : Global} (declares : global? item = some global) :
      global.node ∈ item.sites := by
    simp [Item.sites, ownNode_of_global declares]
  obtain ⟨item, isItem, declares⟩ := List.mem_filterMap.mp isOne
  obtain ⟨otherItem, isOtherItem, declaresOther⟩ := List.mem_filterMap.mp isOther
  obtain rfl := Item.eq_of_mem_nodes distinct isItem isOtherItem (inside declares)
    (same ▸ inside declaresOther)
  exact Option.some.inj (declares.symm.trans declaresOther)

/-- The node of an item that declares no value is no node of a value. -/
theorem not_owned {items : List Item} (distinct : (items.flatMap Item.sites).Nodup) {item : Item}
    (isItem : item ∈ items) (noGlobal : global? item = none)
    (isNode : item.ownNode = [item.span.node]) :
    ¬∃ other ∈ items, item.span.node ∈ valueNodes other := by
  rintro ⟨other, isOther, isValue⟩
  have isOwn : item.span.node ∈ item.ownNode := by simp [isNode]
  have inItem : item.span.node ∈ item.sites := by simp [Item.sites, isOwn]
  obtain rfl := Item.eq_of_mem_nodes distinct isItem isOther inItem (valueNodes_subset_sites isValue)
  simp only [valueNodes, noGlobal, Option.toList_none, List.map_nil, List.nil_append] at isValue
  have nodup := Item.nodup_sites_of_mem distinct isItem
  unfold Item.sites at nodup
  have apart := (List.nodup_append.mp nodup.of_append_left.of_append_left).2.2
  exact apart _ (List.mem_append_left _ isOwn) _ (bodyValues_subset_sites isValue) rfl

/-- Typing finds in place what it needs when nothing is promised of types. -/
theorem founded_any (distinct : (unit.items.flatMap Item.sites).Nodup)
    (prepared : Prepared unit session) : (anyStage session).Founded := by
  have items : (anyStage session).start.items = unit.items := prepared.items
  have itemOf {global : Global} (isGlobal : global ∈ (anyStage session).globals) :
      ∃ item ∈ unit.items, global? item = some global := by
    obtain ⟨item, isItem, found⟩ := List.mem_filterMap.mp isGlobal
    exact ⟨item, items ▸ isItem, found⟩
  have owns {item : Item} {node : NodeId} (isItem : item ∈ unit.items)
      (isValue : node ∈ valueNodes item) : (anyStage session).Owns node :=
    ⟨item, items.symm ▸ isItem, isValue⟩
  refine ⟨closed_any, prepared.settles, ?_, ?_, ?_, fun _ _ _ _ => trivial, ?_, ?_,
    fun _ _ _ _ => trivial, fun _ _ _ => trivial, ?_⟩
  · intro global isGlobal
    obtain ⟨item, isItem, found⟩ := itemOf isGlobal
    have declared := prepared.declared item isItem (header?_of_global found)
    rwa [node_of_global found] at declared
  · unfold Stage.globals
    rw [items]
    exact fun one isOne other isOther same => global_eq_of_node distinct isOne isOther same
  · intro global isGlobal
    obtain ⟨item, isItem, found⟩ := itemOf isGlobal
    have written := prepared.written item isItem
    refine ⟨owns isItem (List.mem_append_left _ ?_), fun _ _ => trivial, ?_, ?_⟩
    · simp [found]
    · exact fun form isForm =>
        formOk_any (prepared.globals item isItem global found) form (Option.mem_toList.mpr isForm)
    · intro expr isValue
      refine relies_any fun form isForm => written form ?_
      refine List.mem_append_right _ (List.mem_flatMap.mpr ⟨expr, ?_, isForm⟩)
      cases item with
      | const _ | static _ =>
        cases found
        exact Option.mem_toList.mpr isValue
      | _ => cases found
  · intro item isItem
    rw [items] at isItem
    have written := (written_append.mp (prepared.written item isItem)).1
    refine Stmt.alongAll_of_parts item.body (fun stmt isStmt values => stmtOk_any ?_ ?_) []
    · exact fun node isValue => owns isItem
        (List.mem_append_right _ (List.mem_flatMap.mpr ⟨stmt, isStmt, isValue⟩))
    · exact fun form isForm => written form (List.mem_flatMap.mpr ⟨stmt, isStmt, isForm⟩)
  · intro item isItem value isValue
    rw [items] at isItem
    exact relies_any fun form isForm => (written_append.mp (prepared.written item isItem)).2 form
      (List.mem_flatMap.mpr ⟨value, isValue, isForm⟩)
  · intro item isItem noGlobal isNode
    rw [items] at isItem
    have apart := not_owned distinct isItem noGlobal isNode
    rwa [← items] at apart

theorem sound_any : (anyStage session).Sound (anyStage session).start :=
  ⟨.refl, fun _ _ _ _ _ => trivial, fun _ _ _ => trivial, fun _ _ impossible => by cases impossible⟩

/-! ### The derivation -/

/-- The type counts for the node. -/
def Recorded (session : Session) (node : NodeId) (type : Ty) : Prop :=
  session.facts.exprs.find? node = some type

section Retold

variable (session : Session) (findings : List Finding) (passes : Tracker) (progress : List String)

theorem bodyResult_retold (item : Item) :
    bodyResult (session.retold findings passes progress) item = bodyResult session item := by
  cases item with
  | function decl =>
    have outcome : (resultType decl.span.node).run (session.retold findings passes progress) =
        (((resultType decl.span.node).run session).1, session.retold findings passes progress) :=
      resultType_congr rfl fun _ _ => rfl
    rw [bodyResult, outcome, bodyResult]
  | _ => rfl

theorem enumValueType_retold (decl : EnumDecl) :
    ((enumValueType decl).run (session.retold findings passes progress)).1 =
      ((enumValueType decl).run session).1 := by
  have outcome : (enumValueType decl).run (session.retold findings passes progress) =
      (((enumValueType decl).run session).1, session.retold findings passes progress) :=
    enumValueType_congr rfl (fun _ _ => rfl) rfl
  rw [outcome]

theorem exprRule_retold {has : NodeId -> Ty -> Prop} {expr : Expr} {type : Ty}
    (rule : ExprRule session has expr type) :
    ExprRule (session.retold findings passes progress) has expr type := by
  cases expr with
  | unary op operand span => cases op <;> exact rule
  | _ => exact rule

theorem itemRule_retold {has : NodeId -> Ty -> Prop} {item : Item}
    (rule : ItemRule session has item) :
    ItemRule (session.retold findings passes progress) has item := by
  refine ⟨fun stmt isStmt => ?_, ?_⟩
  · have held := rule.1 stmt isStmt
    rw [bodyResult_retold]
    cases stmt <;> exact held
  · have held := rule.2
    cases item with
    | enum decl =>
      intro value isValue
      rw [enumValueType_retold]
      exact held value isValue
    | _ => exact held

end Retold

/-- Where the nodes of a unit differ, the types that quiet typing records form one derivation. -/
theorem derivation_walk {unit : Module} {session : Session}
    (distinct : (unit.items.flatMap Item.sites).Nodup) (prepared : Prepared unit session)
    (quiet : (session.after walk).Quiet) :
    let typed := session.after walk
    ∀ item ∈ unit.items, ItemRule typed (Recorded typed) item ∧
      ∀ expr ∈ item.exprs, (∃ symbol, NamesEnum typed expr symbol) ∨
        ∃ type, Recorded typed expr.node type ∧ ExprRule typed (Recorded typed) expr type := by
  have finished : (anyStage session).Finished (session.after walk) :=
    Stage.finished_walk (founded_any distinct prepared) sound_any rfl quiet
  have once : ((session.after walk).facts.exprs.map Prod.fst).Nodup := by
    refine List.nodup_iff_count_le_one.mpr fun node => ?_
    have charged := finished.charged node
    have slots : (unit.items.flatMap Item.slots).Nodup :=
      distinct.sublist (Item.sublist_flatMap _ Item.slots_sublist_sites)
    have fewer := List.nodup_iff_count_le_one.mp slots node
    have items : (anyStage session).start.items = unit.items := prepared.items
    have untyped : (anyStage session).start.facts.exprs = [] := prepared.untyped
    rw [items, untyped, List.map_nil, List.count_nil] at charged
    omega
  have has : (anyStage session).Has (session.after walk) = Recorded (session.after walk) := by
    funext node type
    exact propext ((and_iff_left trivial).trans (mem_iff_find? once))
  intro typed item isItem
  obtain ⟨rule, derived⟩ := finished.agrees item (prepared.items.symm ▸ isItem)
  unfold Stage.PartRule at derived
  rw [has] at rule derived
  exact ⟨rule, fun expr isExpr => (derived expr isExpr).symm.imp_left And.right⟩

/-- The types that a check of a decoded unit has recorded, when it finds nothing fatal, form
one derivation. Each item agrees with the types of its expressions. Each expression of a
body or a value, unless it is the name of an enumeration in front of a variant, has a type
that agrees with those of its operands. -/
theorem types_form_derivation {file text : String} {unit : Module}
    (read : Module.decode file text = .ok unit) (options : Options)
    (accepted : (Session.check (some unit) options).bag.hasErrors = false) :
    let session := Session.check (some unit) options
    ∀ item ∈ unit.items, ItemRule session (Recorded session) item ∧
      ∀ expr ∈ item.exprs, (∃ symbol, NamesEnum session expr symbol) ∨
        ∃ type, Recorded session expr.node type ∧
          ExprRule session (Recorded session) expr type := by
  obtain ⟨session, prepared, quiet, findings, passes, progress, last⟩ :=
    check_prepared ((Session.quiet_iff _).mp accepted)
  intro checked
  have told : checked = (session.after walk).retold findings passes progress := last
  rw [told]
  intro item isItem
  obtain ⟨rule, derived⟩ := derivation_walk (Module.nodup_sites read) prepared quiet item isItem
  refine ⟨itemRule_retold _ _ _ _ rule, fun expr isExpr => ?_⟩
  obtain names | ⟨type, recorded, agrees⟩ := derived expr isExpr
  · exact .inl names
  · exact .inr ⟨type, recorded, exprRule_retold _ _ _ _ agrees⟩

/-- A sum with a constant that is declared later. -/
def laterSum : Expr :=
  .binary .add (.name ⟨"b", .ofLine 16 17⟩) (.literal ⟨.integer, "1", .ofLine 18 19⟩)
    (.ofLine 13 20)

/-- A constant whose value reads a constant that is declared later. -/
def earlyConst : ConstDecl :=
  ⟨[], some ⟨"a", .ofLine 7 8⟩, some (.named "s64" (.ofLine 9 12)), some laterSum, .ofLine 0 21⟩

/-- A unit with the two constants. -/
def laterSumUnit : Module :=
  ⟨"unit", [.const earlyConst,
    .const ⟨[], some ⟨"b", .ofLine 29 30⟩, some (.named "s32" (.ofLine 31 34)),
      some (.literal ⟨.integer, "2", .ofLine 35 36⟩), .ofLine 22 37⟩], some (.ofLine 0 37)⟩

/-- The sum has a type by the rule for sums, and it is allowed for the constant. -/
theorem types_form_derivation_later :
    Module.decode "unit" "(const a s64 (+ b 1)) (const b s32 2)" = .ok laterSumUnit ∧
      let session := Session.check (some laterSumUnit) .standard
      session.bag.hasErrors = false ∧
        (∃ left right type, Recorded session 16 left ∧ Recorded session 18 right ∧
          Recorded session 13 type ∧ BinaryRule .add (.ofLine 13 20) left right type) ∧
        ∃ declared, session.facts.forms.find? 9 = some declared ∧
          Fits (Recorded session) laterSum declared := by
  have read : Module.decode "unit" "(const a s64 (+ b 1)) (const b s32 2)" =
      .ok laterSumUnit := Module.decode_chars (by cbv)
  have accepted : (Session.check (some laterSumUnit) .standard).bag.hasErrors = false := by
    decide +kernel
  obtain ⟨⟨-, initializes⟩, derived⟩ :=
    types_form_derivation read .standard accepted (.const earlyConst) List.mem_cons_self
  refine ⟨read, accepted, ?_, initializes laterSum rfl⟩
  obtain ⟨_, _, impossible, _⟩ | ⟨type, recorded, left, right, isLeft, isRight, rule⟩ :=
    derived laterSum List.mem_cons_self
  · cases impossible
  · exact ⟨left, right, type, isLeft, isRight, recorded, rule⟩

/-! ### A type that stays unknown

Where a check finds nothing fatal, every expression should have a type that is known. A
low-level binding with neither a type nor a value breaks this: unlike any other binding it
is not asked for one of them, so the unknown type passes unreported. -/

/-- A read of a low-level binding. -/
def bareRead : Expr := .name ⟨"x", .ofLine 33 34⟩

/-- A unit that reads a low-level binding with neither a type nor a value. -/
def bareUnit : Module :=
  ⟨"unit", [.function ⟨[], some ⟨"f", .ofLine 4 5⟩, [], some (.named "void" (.ofLine 9 13)),
    some ⟨[.instr ⟨⟨"x", .ofLine 28 29⟩, none, none, false, .ofLine 21 32⟩, .expr bareRead],
      .ofLine 14 35⟩, .ofLine 0 36⟩], some (.ofLine 0 36)⟩

/-- Code may be generated from the unit although the type of an expression in it is
unknown. -/
theorem unknown_type_unreported :
    Module.decode "unit" "(fn f () void (block (instr x _) x))" = .ok bareUnit ∧
      (Session.check (some bareUnit) .standard).canGenerate = true ∧
      (∃ item ∈ bareUnit.items, bareRead ∈ item.exprs) ∧
      Recorded (Session.check (some bareUnit) .standard) bareRead.node .unknown := by
  refine ⟨Module.decode_chars (by cbv), by decide +kernel,
    ⟨_, List.mem_cons_self, List.mem_cons_self⟩, ?_⟩
  unfold Recorded
  decide +kernel

end Typing
end UnitCheck
