import Mathlib.Data.List.Perm.Subperm
import Mathlib.Order.Nat
import UnitCheck.Proofs.Typing.Bodies
import UnitCheck.Proofs.Typing.Recursion

/-!
# Globals are typed once and on demand

The value of a global is typed when the global is first read or when its turn comes,
whichever is first. The types inside it are charged to the global while it is open,
so a demand costs the walk that makes it nothing. Over the whole unit every node is
then typed at most once, and all types form one derivation.
-/

namespace UnitCheck.Typing.Stage

variable {stage : Stage} {path ready : List NodeId} {given : Session -> Prop}

/-- What the walk over a unit finds in place. -/
structure Founded (stage : Stage) : Prop where
  closed : stage.Closed
  settles : stage.Settles
  declared : ∀ global ∈ stage.globals, stage.isDeclared global.node = true
  unique : ∀ one ∈ stage.globals, ∀ other ∈ stage.globals, one.node = other.node → one = other
  bindings : ∀ global ∈ stage.globals, stage.BindingOk [] global.node global.form global.value
  typesGlobals : ∀ global ∈ stage.globals, ∀ type, stage.fits (.node global.node) type →
    stage.good type
  bodies : ∀ item ∈ stage.start.items, Stmt.AlongAll stage.StmtOk [] item.body
  values : ∀ item ∈ stage.start.items, ∀ value ∈ item.values, stage.Relies [] value
  functions : ∀ decl, .function decl ∈ stage.start.items → ∀ type,
    stage.fits (.node decl.span.node) type → stage.good type
  bases : ∀ id body, stage.start.definitions.enum? id = some body → stage.good body.base
  fixed : ∀ item ∈ stage.start.items, global? item = none → item.ownNode = [item.span.node] →
    ¬stage.Owns item.span.node

/-! ### Open globals -/

/-- A global that has been typed is as good as one on the path. -/
theorem open_checked (node : NodeId) (session : Session) :
    stage.open_ path (Act.apply session (.checked node)) = stage.open_ (node :: path) session := by
  unfold open_
  refine List.filter_congr fun global _ => ?_
  simp only [Act.apply, List.contains_cons]
  cases global.node == node <;> simp

/-- A filter that keeps less keeps fewer nodes. -/
theorem count_filter_le {keeps keepsMore : Global -> Bool}
    (more : ∀ global, keeps global = true → keepsMore global = true) (all : List Global)
    (node : NodeId) :
    ((all.filter keeps).flatMap globalNodes).count node ≤
      ((all.filter keepsMore).flatMap globalNodes).count node := by
  induction all with
  | nil => exact Nat.le_refl _
  | cons global rest inductionHypothesis =>
    cases kept : keeps global with
    | true =>
      rw [List.filter_cons_of_pos kept, List.filter_cons_of_pos (more global kept),
        List.flatMap_cons, List.flatMap_cons, List.count_append, List.count_append]
      omega
    | false =>
      rw [List.filter_cons_of_neg (by simp [kept])]
      refine Nat.le_trans inductionHypothesis ?_
      rw [List.filter_cons]
      split
      · rw [List.flatMap_cons, List.count_append]
        omega
      · exact Nat.le_refl _

/-- A filter that also leaves out one global keeps its nodes fewer. -/
theorem count_filter_add_le {keeps keepsMore : Global -> Bool} {global : Global}
    (more : ∀ global, keeps global = true → keepsMore global = true)
    (left : keeps global = false) (kept : keepsMore global = true) (all : List Global)
    (isGlobal : global ∈ all) (node : NodeId) :
    ((all.filter keeps).flatMap globalNodes).count node + (globalNodes global).count node ≤
      ((all.filter keepsMore).flatMap globalNodes).count node := by
  induction all with
  | nil => cases isGlobal
  | cons other rest inductionHypothesis =>
    obtain rfl | later := List.mem_cons.mp isGlobal
    · have fewer := count_filter_le more rest node
      rw [List.filter_cons_of_neg (by simp [left]), List.filter_cons_of_pos kept,
        List.flatMap_cons, List.count_append]
      omega
    · have inner := inductionHypothesis later
      cases isKept : keeps other with
      | true =>
        rw [List.filter_cons_of_pos isKept, List.filter_cons_of_pos (more other isKept),
          List.flatMap_cons, List.flatMap_cons, List.count_append, List.count_append]
        omega
      | false =>
        rw [List.filter_cons_of_neg (by simp [isKept])]
        refine Nat.le_trans inner ?_
        rw [List.filter_cons]
        split
        · rw [List.flatMap_cons, List.count_append]
          omega
        · exact Nat.le_refl _

/-- Taking an open global on the path frees the nodes of its value. -/
theorem count_open_cons {global : Global} {session : Session} (isGlobal : global ∈ stage.globals)
    (unchecked : session.checked.contains global.node = false)
    (isNew : path.contains global.node = false) (node : NodeId) :
    ((stage.open_ (global.node :: path) session).flatMap globalNodes).count node +
      (globalNodes global).count node ≤
        ((stage.open_ path session).flatMap globalNodes).count node := by
  refine count_filter_add_le ?_ ?_ ?_ stage.globals isGlobal node
  · intro other
    simp only [List.contains_cons]
    cases other.node == global.node <;> simp
  · simp
  · rw [unchecked, isNew]
    rfl

theorem grows_markChecked (node : NodeId) : Regime.free.Obeys (markChecked node) :=
  fun _ _ => .single (mayType_free.checked node)

/-- Typing an open global costs the walk that asks for it nothing. -/
theorem secures_typeGlobal (founded : stage.Founded) {global : Global} {walk : Check Ty}
    (isGlobal : global ∈ stage.globals) (isNew : path.contains global.node = false)
    (secures : stage.Secures (global.node :: path) [] (fun _ => True) (globalNodes global) walk
      fun after final type => stage.Bound final global.form global.value ∧ stage.good type ∧
        (stage.isDeclared global.node = true →
          (after.knownOf (.node global.node)).type = some type)) :
    stage.Secures path ready (fun session => session.checked.contains global.node = false) [] (do
        let type <- walk
        markChecked global.node
        return type)
      fun after final type => stage.Bound final global.form global.value ∧ stage.good type ∧
        (after.knownOf (.node global.node)).type = some type where
  grows := .bind secures.grows fun _ => .bind (grows_markChecked global.node) fun _ => .pure _
  secure session sound _ unchecked quiet := by
    obtain ⟨advances, holds⟩ := secures.secure session sound (List.forall_mem_nil _) trivial quiet
    obtain ⟨-, good, settled⟩ := holds _ .refl
    have known := settled (founded.declared global isGlobal)
    refine ⟨⟨advances.ext.trans (.checked global.node), ⟨?_, ?_, ?_, ?_⟩, fun node => ?_⟩,
      fun final further => ?_⟩
    · exact advances.sound.reached.trans (.checked global.node)
    · exact advances.sound.known
    · exact advances.sound.typed
    · intro other isOther isChecked
      obtain same | earlier := List.mem_cons.mp isChecked
      · rw [founded.unique other isOther global isGlobal same]
        refine ⟨?_, fun final further => (holds final ?_).1⟩
        · change ((walk.run session).2.knownOf _).type.isSome
          rw [known]
          rfl
        · exact (Extends.checked global.node).trans further
      · obtain ⟨isKnown, bound⟩ := advances.sound.checked other isOther earlier
        exact ⟨isKnown, fun final further =>
          bound final ((Extends.checked global.node).trans further)⟩
    · have charged := advances.charged node
      have freed := count_open_cons isGlobal unchecked isNew node
      change stage.weight path (Act.apply (walk.run session).2 (.checked global.node)) node ≤ _
      unfold weight at charged ⊢
      rw [open_checked, List.count_nil]
      change ((walk.run session).2.facts.exprs.map Prod.fst).count node + _ ≤ _
      omega
    · obtain ⟨bound, -, -⟩ := holds final ((Extends.checked global.node).trans further)
      exact ⟨bound, good, known⟩

/-! ### Globals on demand -/

/-- What is left when a global has been asked for. -/
structure Answers (stage : Stage) (global : Global) (after final : Session) (type : Ty) : Prop where
  bound : stage.Bound final global.form global.value
  good : stage.good type
  known : type = .unknown ∨ (after.knownOf (.node global.node)).type = some type

/-- A demand that asks for globals is secure when each global is. -/
theorem meets_of_answers {answer : Global -> Check Ty}
    (secures : ∀ global ∈ stage.globals, stage.Secures path ready (fun _ => True) []
      (answer global) (stage.Answers global)) :
    stage.Meets path ready fun symbol =>
      match stage.globals.find? (fun other => symbol.id = .node other.node) with
      | some other => answer other
      | none => return .unknown := by
  intro symbol
  beta_reduce
  cases found : stage.globals.find? (fun other => symbol.id = .node other.node) with
  | some other =>
    have same : symbol.id = .node other.node := by simpa using List.find?_some found
    refine ((secures other (List.mem_of_find?_eq_some found)).provided
      fun _ _ _ _ => trivial).mono (fun _ => Nat.le_refl _) ?_
    rintro _ after final type - - - - further answers
    refine ⟨answers.good, answers.known.imp_right fun known => ?_, same ▸ answers.known⟩
    obtain ⟨noted, isNoted, isType⟩ := noted_of_known known
    exact ⟨noted, same ▸ further.known.subset isNoted, isType⟩
  | none =>
    refine .stay fun session final sound demandable further => ?_
    obtain good | ⟨global, isGlobal, same⟩ := demandable.found
    · exact ⟨good, .inl rfl, .inl rfl⟩
    · have absent := List.find?_eq_none.mp found global isGlobal
      simp [same] at absent

/-- A global's own check is secure where its value is demanded. -/
theorem secures_globalCheck (founded : stage.Founded) {demand : Demand} {global : Global}
    (isGlobal : global ∈ stage.globals) (meets : stage.Meets path [] demand) :
    stage.Secures path [] given (globalNodes global) (global.check demand)
      fun after final type => stage.Bound final global.form global.value ∧ stage.good type ∧
        (stage.isDeclared global.node = true →
          (after.knownOf (.node global.node)).type = some type) := by
  have isOk := founded.bindings global isGlobal
  cases global with
  | const decl => exact secures_checkConst founded.closed founded.settles meets isOk
  | static decl => exact secures_checkStatic founded.closed founded.settles meets isOk

/-- The type of a global that has been gone through. -/
theorem secures_declType (founded : stage.Founded) {global : Global}
    (isGlobal : global ∈ stage.globals) :
    stage.Secures path ready (fun session => session.checked.contains global.node = true) []
      (declType global.node) (stage.Answers global) := by
  refine .read fun seen => ?_
  have isDeclared := founded.declared global isGlobal
  split
  · rename_i symbol found
    refine .stay ?_
    rintro session final sound ⟨rfl, isChecked⟩ further
    rw [sound.reached.decls] at found
    rw [founded.settles _ _ found]
    obtain ⟨isKnown, bound⟩ := sound.checked global isGlobal (by simpa using isChecked)
    obtain ⟨type, known⟩ := Option.isSome_iff_exists.mp isKnown
    obtain ⟨noted, isNoted, isType⟩ := noted_of_known known
    rw [known]
    exact ⟨bound final further,
      founded.typesGlobals global isGlobal type (sound.known _ _ _ isNoted isType), .inr known⟩
  · rename_i absent
    refine .stay ?_
    rintro session final sound ⟨rfl, -⟩ -
    rw [sound.reached.decls] at absent
    simp [Stage.isDeclared, absent] at isDeclared

/-- Asking for a global is secure, whatever globals are being typed. -/
theorem secures_checkGlobal (founded : stage.Founded) (fuel : Nat) (path : List NodeId)
    (fueled : Fueled stage.globals fuel path) {global : Global} (isGlobal : global ∈ stage.globals)
    (ready : List NodeId) (given : Session -> Prop) :
    stage.Secures path ready given [] (checkGlobal stage.globals fuel path global)
      (stage.Answers global) := by
  induction fuel generalizing path global ready given with
  | zero => exact absurd fueled not_fueled_zero
  | succ fuel inductionHypothesis =>
    unfold checkGlobal
    refine .read fun seen => ?_
    split
    · rename_i isChecked
      refine (secures_declType founded isGlobal).provided ?_
      rintro session - - ⟨rfl, -⟩
      exact isChecked
    · rename_i unchecked
      split
      · exact (secures_report rfl).refused fun _ => .bind (grows_setDeclType _ _) fun _ => .pure _
      · rename_i isNew
        have isNew : path.contains global.node = false := by simpa using isNew
        have meets := meets_of_answers fun other isOther => inductionHypothesis
          (global.node :: path) (fueled.step isGlobal isNew) isOther [] (fun _ => True)
        refine ((secures_typeGlobal founded isGlobal isNew
          (secures_globalCheck founded isGlobal meets)).provided ?_).mono
          (fun _ => Nat.le_refl _) ?_
        · rintro session - - ⟨rfl, -⟩
          simpa using unchecked
        · rintro _ after final type - - - - - ⟨bound, good, known⟩
          exact ⟨bound, good, .inr known⟩

/-- The demand of the walk over a unit is secure. -/
theorem meets_demandGlobal (founded : stage.Founded) (ready : List NodeId) :
    stage.Meets [] ready (demandGlobal stage.globals) :=
  meets_of_answers fun _ isGlobal =>
    secures_checkGlobal founded _ _ (fueled_start (Nat.lt_succ_self _)) isGlobal ready fun _ => True

/-! ### Items -/

/-- What is known of a symbol that is no value of the unit stays. -/
theorem knownOf_fixed {session : Session} {node : NodeId} (sound : Extends stage.start session)
    (fixed : ¬stage.Owns node) :
    session.knownOf (.node node) = stage.start.knownOf (.node node) := by
  refine sound.others _ fun item isItem other isValue same => fixed ⟨item, isItem, ?_⟩
  cases same
  exact isValue

/-- A walk that only reads what typing keeps finds the same all along. -/
theorem secures_fixed {α : Type} {walk : Check α} {value : α} (grows : Regime.free.Obeys walk)
    (same : ∀ session, Extends stage.start session → walk.run session = (value, session)) :
    stage.Secures path ready given [] walk
      fun _ final result => result = value ∧ value = (walk.run final).1 := by
  refine ⟨grows, fun session sound _ _ _ => ?_⟩
  rw [same session sound.reached]
  refine ⟨sound.refl_advances, fun final further => ⟨rfl, ?_⟩⟩
  rw [same final (sound.reached.trans further)]

/-- The result type of a function does not change while the unit is typed. -/
theorem secures_resultType (founded : stage.Founded) {decl : FunctionDecl}
    (isItem : .function decl ∈ stage.start.items) (sound : stage.Sound stage.start) :
    stage.Secures path ready given [] (resultType decl.span.node)
      fun _ final result => result = ((resultType decl.span.node).run final).1 ∧
        stage.good result := by
  have fixed : ¬stage.Owns decl.span.node := founded.fixed _ isItem rfl rfl
  have same (session : Session) (ext : Extends stage.start session) :
      (resultType decl.span.node).run session =
        (((resultType decl.span.node).run stage.start).1, session) := by
    refine resultType_congr (by rw [ext.decls]) fun symbol declared => ?_
    rw [founded.settles _ _ declared, knownOf_fixed ext fixed]
  have good : stage.good ((resultType decl.span.node).run stage.start).1 := by
    have goodVoid := founded.closed.prim .void (by decide)
    unfold resultType
    simp only [StateT.run_bind, StateT.run_get, pure_bind]
    split
    · exact goodVoid
    · rename_i symbol declared
      split
      · rename_i params result convention variadic isKnown
        rw [founded.settles _ _ declared] at isKnown
        obtain ⟨noted, isNoted, isType⟩ := noted_of_known isKnown
        have good := founded.functions decl isItem _ (sound.known _ _ _ isNoted isType)
        exact (founded.closed.function _ _ _ _ _ good rfl).1
      · exact goodVoid
  refine (secures_fixed (obeys_resultType _) same).mono (fun _ => Nat.le_refl _) ?_
  rintro _ _ final _ - - - - - ⟨rfl, value⟩
  exact ⟨value, good⟩

/-- The type that the values of an enumeration are compared with does not change either. -/
theorem secures_enumValueType (founded : stage.Founded) {decl : EnumDecl}
    (isItem : .enum decl ∈ stage.start.items) :
    stage.Secures path ready given [] (enumValueType decl)
      fun _ final base => base = ((enumValueType decl).run final).1 ∧ stage.good base := by
  have fixed : ¬stage.Owns decl.span.node := founded.fixed _ isItem rfl rfl
  have same (session : Session) (ext : Extends stage.start session) :
      (enumValueType decl).run session = (((enumValueType decl).run stage.start).1, session) := by
    refine enumValueType_congr (by rw [ext.decls]) (fun symbol declared => ?_) ext.definitions
    rw [founded.settles _ _ declared, knownOf_fixed ext fixed]
  have good : stage.good ((enumValueType decl).run stage.start).1 := by
    have goodBase := founded.closed.prim .s32 (by decide)
    unfold enumValueType
    simp only [StateT.run_bind, StateT.run_get, pure_bind]
    split
    · exact goodBase
    · split
      · rename_i name id isKnown
        cases isBody : stage.start.definitions.enum? id with
        | none => exact goodBase
        | some body => exact founded.bases id body isBody
      · exact goodBase
  refine (secures_fixed (.read fun _ => ?_) same).mono (fun _ => Nat.le_refl _) ?_
  · split
    · exact .pure _
    · split <;> exact .pure _
  · rintro _ _ final _ - - - - - ⟨rfl, value⟩
    exact ⟨value, good⟩

/-- The written values of an enumeration are allowed for the type it is stored as. -/
theorem secures_checkVariants {demand : Demand} {base : Ty} {variants : List VariantDecl}
    (types : stage.TypesAll path ready demand (variants.filterMap (·.value))) :
    stage.Secures path ready (fun _ => stage.good base)
      ((variants.filterMap (·.value)).flatMap Expr.nodes) (checkVariants demand base variants)
      fun _ final _ => ∀ value ∈ variants.filterMap (·.value),
        Fits (stage.Has final) value base ∧ stage.Derived final value := by
  induction variants with
  | nil => exact .stay fun _ _ _ _ _ => List.forall_mem_nil _
  | cons variant rest inductionHypothesis =>
    unfold checkVariants
    cases isValue : variant.value with
    | some value =>
      rw [List.filterMap_cons_some isValue] at types ⊢
      obtain ⟨typesValue, typesRest⟩ := List.forall_mem_cons.mp types
      refine (((typesValue (some base)).provided fun _ _ _ good => wants_some good).bind
        fun found => (secures_tell objects_mismatch).bind fun _ =>
        (inductionHypothesis typesRest).provided ?_).mono
        (fun _ => Nat.le_of_eq (by simp)) ?_
      · rintro _ _ - ⟨⟨_, _, ⟨⟨_, _, good, _⟩, _⟩, _⟩, _⟩
        exact good
      · rintro _ _ final _ - - - - - ⟨_, found, typed, _, _, silent, others⟩
        exact List.forall_mem_cons.mpr
          ⟨⟨⟨found, typed.1, allowed_of_mismatch silent⟩, typed.2⟩, others⟩
    | none =>
      rw [List.filterMap_cons_none isValue] at types ⊢
      exact inductionHypothesis types

/-- The values of an item are derived and agree with their places. -/
structure ValuesAgree (stage : Stage) (item : Item) (session : Session) : Prop where
  rule : match item with
    | .const decl => BindingRule session (stage.Has session) decl.type decl.value
    | .static decl => BindingRule session (stage.Has session) decl.type decl.value
    | .enum decl => EnumRule session (stage.Has session) decl
    | _ => True
  derived : ∀ value ∈ item.values, stage.Derived session value

/-- The nodes that the walk over globals is charged for; the values of globals are charged
to the globals. -/
def variantNodes : Item -> List NodeId
  | .enum decl => (decl.variants.filterMap (·.value)).flatMap Expr.nodes
  | _ => []

/-- An item whose global has been asked for. -/
theorem secures_global (founded : stage.Founded) {item : Item} {global : Global}
    (isItem : item ∈ stage.start.items) (isGlobal : global? item = some global)
    (agrees : ∀ session, stage.Bound session global.form global.value →
      stage.ValuesAgree item session) :
    stage.Secures [] [] given [] (do
        let _ <- checkGlobal stage.globals (stage.globals.length + 1) [] global)
      fun _ final _ => stage.ValuesAgree item final := by
  have inside : global ∈ stage.globals := List.mem_filterMap.mpr ⟨item, isItem, isGlobal⟩
  refine ((secures_checkGlobal founded _ _ (fueled_start (Nat.lt_succ_self _)) inside [] given).bind
    fun _ => Secures.pure ()).mono (fun _ => Nat.le_refl _) ?_
  rintro _ _ final _ - - - - - ⟨_, _, answers, -⟩
  exact agrees final answers.bound

theorem secures_checkGlobalItem (founded : stage.Founded) {item : Item}
    (isItem : item ∈ stage.start.items) :
    stage.Secures [] [] given (variantNodes item) (checkGlobalItem stage.globals item)
      fun _ final _ => stage.ValuesAgree item final := by
  have nothing {item : Item} (isTrivial : ∀ session, stage.ValuesAgree item session) :
      stage.Secures [] [] given [] (pure ()) fun _ final _ => stage.ValuesAgree item final :=
    .stay fun _ final _ _ _ => isTrivial final
  cases item with
  | const decl =>
    refine secures_global founded isItem rfl fun session bound => ⟨bound.1, ?_⟩
    exact fun value isValue => bound.2 value (Option.mem_toList.mp isValue)
  | static decl =>
    refine secures_global founded isItem rfl fun session bound => ⟨bound.1, ?_⟩
    exact fun value isValue => bound.2 value (Option.mem_toList.mp isValue)
  | enum decl =>
    have types : stage.TypesAll [] [] (demandGlobal stage.globals)
        (decl.variants.filterMap (·.value)) := fun value isValue =>
      types_of_relies founded.closed (meets_demandGlobal founded []) value
        (founded.values _ isItem value isValue)
    refine ((secures_enumValueType founded isItem).bind fun base =>
      (secures_checkVariants types).provided fun _ _ _ behind => behind.2.2).mono
      (fun _ => Nat.le_refl _) ?_
    rintro _ _ final _ - - - - - ⟨_, base, ⟨same, -⟩, fits⟩
    refine ⟨fun value isValue => ?_, fun value isValue => (fits value isValue).2⟩
    rw [← same]
    exact (fits value isValue).1
  | _ => exact nothing fun _ => ⟨trivial, List.forall_mem_nil _⟩

theorem grows_checkStmts (founded : stage.Founded) (result : Ty) (body : List Stmt) :
    Regime.free.Obeys (checkStmts (demandGlobal stage.globals) result body) := by
  refine obeys_checkStmts mayType_free
    (fun symbol => (meets_demandGlobal founded [] symbol).grows) result body fun _ _ => ?_
  exact ⟨fun _ _ _ _ _ _ _ => trivial, fun _ _ => .inr (mayResolve_free _),
    fun _ _ _ _ _ _ => .inr (mayResolve_free _)⟩

theorem secures_checkBodyItem (founded : stage.Founded) (sound : stage.Sound stage.start)
    {item : Item} (isItem : item ∈ stage.start.items) :
    stage.Secures [] [] given (Stmt.slotsAll item.body) (checkBodyItem stage.globals item)
      fun _ final _ => stage.Agrees (bodyResult final item) (Stmt.partsAll item.body) final := by
  have relies := founded.bodies item isItem
  cases item with
  | function decl =>
    simp only [checkBodyItem]
    cases written : decl.body with
    | none =>
      have isBody : (Item.function decl).body = [] := by simp [Item.body, written]
      rw [isBody]
      exact .stay fun _ _ _ _ _ => agrees_nil
    | some body =>
      have isBody : (Item.function decl).body = body.stmts := by simp [Item.body, written]
      rw [isBody] at relies ⊢
      refine ((secures_resultType founded isItem sound).bind fun result =>
        .assume (grows_checkStmts founded result body.stmts) (fun _ behind => behind.2.2)
          fun good => secures_checkStmts founded.closed founded.settles
            (meets_demandGlobal founded) good body.stmts [] relies _).mono
        (fun _ => Nat.le_refl _) ?_
      rintro _ _ final _ - - - - - ⟨_, result, ⟨same, -⟩, agrees⟩
      rw [bodyResult, ← same]
      exact agrees
  | entry decl =>
    exact secures_checkStmts founded.closed founded.settles (meets_demandGlobal founded)
      (founded.closed.prim .void (by decide)) decl.body.stmts [] relies given
  | _ => exact .stay fun _ _ _ _ _ => agrees_nil

/-! ### The walk -/

/-- A walk over a list is secure when each of its steps is. -/
theorem Secures.forM {α : Type} {visit : α -> Check Unit} {slots : α -> List NodeId}
    {holds : α -> Session -> Prop} (values : List α)
    (secures : ∀ value ∈ values, ∀ given, stage.Secures path ready given (slots value)
      (visit value) fun _ final _ => holds value final) (given : Session -> Prop) :
    stage.Secures path ready given (values.flatMap slots) (values.forM visit)
      fun _ final _ => ∀ value ∈ values, holds value final := by
  induction values generalizing given with
  | nil => exact .stay fun _ _ _ _ _ => List.forall_mem_nil _
  | cons value rest inductionHypothesis =>
    obtain ⟨ofValue, ofRest⟩ := List.forall_mem_cons.mp secures
    refine ((ofValue given).bind fun _ => inductionHypothesis ofRest _).mono
      (fun _ => Nat.le_of_eq (by rw [List.flatMap_cons])) ?_
    rintro _ _ final _ - - - - - ⟨_, _, held, others⟩
    exact List.forall_mem_cons.mpr ⟨held, others⟩

/-- An item agrees with the types of its expressions, which form derivations. -/
structure ItemAgrees (stage : Stage) (item : Item) (session : Session) : Prop where
  rule : ItemRule session (stage.Has session) item
  derived : ∀ expr ∈ item.exprs, stage.PartRule session expr

theorem itemAgrees_of {item : Item} {session : Session} (values : stage.ValuesAgree item session)
    (body : stage.Agrees (bodyResult session item) (Stmt.partsAll item.body) session) :
    stage.ItemAgrees item session := by
  refine ⟨⟨body.rules, ?_⟩, fun expr isExpr => ?_⟩
  · exact values.rule
  · obtain ⟨outer, isOuter, isPart⟩ := List.mem_flatMap.mp isExpr
    obtain inBody | inValues := List.mem_append.mp isOuter
    · obtain ⟨part, isStmt, isOwn⟩ := List.mem_flatMap.mp inBody
      exact body.derived part isStmt outer isOwn expr isPart
    · exact values.derived outer inValues expr isPart

/-- What is left of a unit that has been typed quietly: the items agree with the types of
their expressions, and no node has been typed more often than it stands in the unit. -/
structure Finished (stage : Stage) (session : Session) : Prop where
  ext : Extends stage.start session
  sound : stage.Sound session
  agrees : ∀ item ∈ stage.start.items, stage.ItemAgrees item session
  charged : ∀ node, (session.facts.exprs.map Prod.fst).count node ≤
    (stage.start.facts.exprs.map Prod.fst).count node +
      (stage.start.items.flatMap Item.slots).count node

/-- The nodes that typing a unit is charged for stand in the unit. -/
theorem count_slots_le (items : List Item) (node : NodeId) :
    ((Typing.globals items).flatMap globalNodes).count node +
      ((items.flatMap variantNodes).count node +
        (items.flatMap fun item => Stmt.slotsAll item.body).count node) ≤
      (items.flatMap Item.slots).count node := by
  induction items with
  | nil => exact Nat.le_refl _
  | cons item rest inductionHypothesis =>
    have own : ((global? item).toList.flatMap globalNodes).count node +
        ((variantNodes item).count node + (Stmt.slotsAll item.body).count node) ≤
        item.slots.count node := by
      cases item <;>
        simp only [global?, variantNodes, Item.slots, Item.stmts, Item.values, Item.body,
          globalNodes, Global.value, Option.toList_none, Option.toList_some, List.flatMap_nil,
          List.flatMap_singleton, List.count_append, List.count_nil, Stmt.slotsAll_nil] <;>
        omega
    have split : (Typing.globals (item :: rest)).flatMap globalNodes =
        (global? item).toList.flatMap globalNodes ++ (Typing.globals rest).flatMap globalNodes := by
      unfold Typing.globals
      cases isGlobal : global? item with
      | none => simp [List.filterMap_cons_none isGlobal]
      | some global => simp [List.filterMap_cons_some isGlobal]
    rw [split, List.flatMap_cons, List.flatMap_cons, List.flatMap_cons, List.count_append,
      List.count_append, List.count_append, List.count_append]
    omega

/-- At first all globals are open. -/
theorem open_nil {session : Session} (fresh : session.checked = []) :
    stage.open_ [] session = Typing.globals stage.start.items := by
  unfold open_
  rw [fresh]
  exact List.filter_eq_self.mpr fun _ _ => rfl

/-- Typing a unit quietly finishes it. -/
theorem finished_walk (founded : stage.Founded) (sound : stage.Sound stage.start)
    {session : Session} (isStart : stage.start = { session with checked := [] })
    (quiet : (walk.run session).2.Quiet) : stage.Finished (walk.run session).2 := by
  have items : stage.start.items = session.items := by
    rw [isStart]
    rfl
  have secures : stage.Secures [] [] (fun _ => True)
      (stage.start.items.flatMap variantNodes ++
        stage.start.items.flatMap fun item => Stmt.slotsAll item.body) (do
        stage.start.items.forM (checkGlobalItem stage.globals)
        stage.start.items.forM (checkBodyItem stage.globals))
      fun _ final _ => ∃ (_ : Session) (_ : Unit),
        (∀ item ∈ stage.start.items, stage.ValuesAgree item final) ∧
        ∀ item ∈ stage.start.items,
          stage.Agrees (bodyResult final item) (Stmt.partsAll item.body) final :=
    (Secures.forM _ (fun item isItem given => secures_checkGlobalItem founded isItem) _).bind
      fun _ => .forM _ (fun item isItem given => secures_checkBodyItem founded sound isItem) _
  have outcome : (walk.run session).2 = ((do
      stage.start.items.forM (checkGlobalItem stage.globals)
      stage.start.items.forM (checkBodyItem stage.globals) : Check Unit).run stage.start).2 := by
    unfold Stage.globals
    rw [items, isStart]
    rfl
  rw [outcome] at quiet ⊢
  obtain ⟨advances, holds⟩ :=
    secures.secure stage.start sound (List.forall_mem_nil _) trivial quiet
  obtain ⟨_, _, values, bodies⟩ := holds _ .refl
  refine ⟨advances.ext, advances.sound, fun item isItem =>
    itemAgrees_of (values item isItem) (bodies item isItem), fun node => ?_⟩
  have charged := advances.charged node
  have fewer := count_slots_le stage.start.items node
  have fresh : stage.start.checked = [] := by rw [isStart]
  unfold weight at charged
  rw [open_nil fresh, List.count_append] at charged
  omega

end UnitCheck.Typing.Stage
