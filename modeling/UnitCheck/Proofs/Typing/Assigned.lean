import UnitCheck.Proofs.Session.Isolation
import UnitCheck.Proofs.Typing.Reach
import UnitCheck.Proofs.Typing.Soundness

/-!
# What an assignment is judged by
-/

namespace UnitCheck.Typing

/-! ### Types are recorded -/

/-- The walk ends with its result recorded as the type of a node. -/
def Records (node : NodeId) (walk : Check Ty) : Prop :=
  ∀ session, Recorded (walk.run session).2 node (walk.run session).1

namespace Records

theorem record (node : NodeId) (type : Ty) : Records node (record node type) := by
  intro session
  change List.lookup node ((node, type) :: session.facts.exprs) = some type
  simp

theorem bind {α : Type} {node : NodeId} {walk : Check α} {rest : α -> Check Ty}
    (records : ∀ value, Records node (rest value)) : Records node (walk >>= rest) :=
  fun _ => records _ _

end Records

/-- Typing an expression records its type. -/
theorem records_checkExpr (demand : Demand) (expr : Expr) (expected : Option Ty) :
    Records expr.node (checkExpr demand expr expected) := by
  cases expr with
  | literal value | name ident =>
    unfold checkExpr
    exact .bind (.record _)
  | alloc form span =>
    unfold checkExpr
    exact .bind fun _ => .record _ _
  | bad span =>
    unfold checkExpr
    exact .record _ _
  | binary op left right span =>
    unfold checkExpr
    split
    · exact .bind fun _ => .bind fun _ => .bind fun _ => .bind fun _ => .record _ _
    · simp only
      split <;> exact .bind fun _ => .bind fun _ => .bind (.record _)
  | unary op operand span =>
    cases op with
    | negate =>
      unfold checkExpr
      split
      · exact .bind fun _ => .bind fun _ => .record _ _
      · exact .bind fun _ => .bind (.record _)
    | not =>
      unfold checkExpr
      exact .bind fun _ => .bind fun _ => .record _ _
    | complement =>
      unfold checkExpr
      exact .bind fun _ => .bind (.record _)
  | call name args span =>
    unfold checkExpr
    refine .bind fun _ => ?_
    split
    · exact .bind fun _ => .record _ _
    · refine .bind fun _ => ?_
      split
      · exact .bind fun _ => .bind fun _ => .record _ _
      · refine .bind fun _ => .bind fun _ => ?_
        simp only
        split
        · exact .bind fun _ => .record _ _
        · exact .bind fun _ => .bind fun _ => .record _ _
  | callValue function args span =>
    unfold checkExpr
    refine .bind fun _ => ?_
    split
    · exact .bind fun _ => .record _ _
    · split
      · simp only
        split
        · exact .bind fun _ => .record _ _
        · exact .bind fun _ => .bind fun _ => .record _ _
      · exact .bind fun _ => .bind fun _ => .record _ _
  | field base path span =>
    unfold checkExpr
    refine .bind fun _ => ?_
    split
    · exact .bind (.record _)
    · exact .bind fun _ => .bind (.record _)
  | index base position span =>
    unfold checkExpr
    refine .bind fun _ => .bind fun _ => ?_
    simp only
    split
    · exact .bind fun _ => .bind (.record _)
    · exact .bind (.record _)
  | cast form operand span | load form operand span =>
    unfold checkExpr
    refine .bind fun _ => .bind fun _ => ?_
    simp only
    split
    · exact .bind fun _ => .record _ _
    · exact .record _ _
  | addressOf operand span =>
    unfold checkExpr
    refine .bind fun _ => .bind fun _ => ?_
    simp only
    split
    · exact .bind fun _ => .record _ _
    · exact .record _ _
  | array form items span =>
    rw [checkExpr_array]
    refine .bind fun element => ?_
    cases element with
    | some element => exact .bind fun _ => .record _ _
    | none =>
      refine .bind fun _ => .bind fun best => ?_
      cases best <;> exact .bind fun _ => .record _ _

/-! ### Hops are noted -/

/-- The hops noted along the path to a place are those that lead from the type of the base to
the field. -/
def PathNoted (session : Session) : Expr -> Prop
  | .field base path span => PathNoted session base ∧
      ∀ steps, session.facts.members.find? span.node = some steps →
        ∃ type found, Recorded session base.node type ∧
          Member.walk session.definitions session.options.derefMode type path = (.ok found, steps)
  | .index base _ _ => PathNoted session base
  | _ => True

/-- What is noted along a path depends on what is kept for its nodes. -/
theorem pathNoted_congr {one other : Session} (definitions : other.definitions = one.definitions)
    (options : other.options = one.options) : (expr : Expr) ->
    (∀ node ∈ expr.sites, other.entry node = one.entry node) → PathNoted one expr →
    PathNoted other expr
  | .field base path span, same, noted => by
    simp only [Expr.sites_field, List.forall_mem_cons] at same
    have members : other.facts.members.find? span.node = one.facts.members.find? span.node :=
      congrArg Entry.members same.1
    have exprs : other.facts.exprs.find? base.node = one.facts.exprs.find? base.node :=
      congrArg Entry.expr (same.2 _ base.node_mem_sites)
    refine ⟨pathNoted_congr definitions options base same.2 noted.1, ?_⟩
    unfold Recorded
    rw [members, exprs, definitions, options]
    exact noted.2
  | .index base position span, same, noted => by
    simp only [Expr.sites_index, List.forall_mem_cons, List.forall_mem_append] at same
    exact pathNoted_congr definitions options base same.2.1 noted
  | .literal _, _, _ | .name _, _, _ | .binary _ _ _ _, _, _ | .unary _ _ _, _, _
  | .call _ _ _, _, _ | .callValue _ _ _, _, _ | .cast _ _ _, _, _ | .array _ _ _, _, _
  | .addressOf _ _, _, _ | .load _ _ _, _, _ | .alloc _ _, _, _ | .bad _, _, _ => trivial

/-- The walk changes nothing that is kept but at one node, and no definition. -/
def Beside {α : Type} (node : NodeId) (walk : Check α) : Prop :=
  ∀ session : Session, (walk.run session).2.definitions = session.definitions ∧
    (walk.run session).2.options = session.options ∧
    ∀ other, other ≠ node → (walk.run session).2.entry other = session.entry other

namespace Beside

variable {α β : Type} {node : NodeId} {walk : Check α}

theorem pure (value : α) : Beside node (pure value) :=
  fun _ => ⟨rfl, rfl, fun _ _ => rfl⟩

theorem bind {rest : α -> Check β} (beside : Beside node walk)
    (besideRest : ∀ value, Beside node (rest value)) : Beside node (walk >>= rest) := by
  intro session
  obtain ⟨definitions, options, entries⟩ := beside session
  obtain ⟨definitionsRest, optionsRest, entriesRest⟩ := besideRest (walk.run session).1
    (walk.run session).2
  exact ⟨definitionsRest.trans definitions, optionsRest.trans options,
    fun other apart => (entriesRest other apart).trans (entries other apart)⟩

theorem read {rest : Session -> Check α} (beside : ∀ session, Beside node (rest session)) :
    Beside node (get >>= rest) :=
  fun session => beside session session

theorem report (finding : Finding) : Beside node (Check.report finding) :=
  fun _ => ⟨rfl, rfl, fun _ _ => rfl⟩

theorem tell (finding : Option Finding) : Beside node (tell finding) := by
  cases finding with
  | some finding => exact .report finding
  | none => exact .pure _

theorem accept (judged : Judged) : Beside node (accept judged) :=
  .bind (.tell _) fun _ => .pure _

theorem record (type : Ty) : Beside node (record node type) := by
  refine fun session => ⟨rfl, rfl, fun other apart => ?_⟩
  have changed := Act.entry_apply (.typed node type) session other
  rw [if_neg (show ¬(Act.typed node type).site? = some other from
    fun same => apart (Option.some.inj same).symm)] at changed
  exact changed

theorem hops (steps : List MemberStep) : Beside node (Check.recordMembers node steps) := by
  refine fun session => ⟨rfl, rfl, fun other apart => ?_⟩
  have changed := Act.entry_apply (.hops node steps) session other
  rw [if_neg (show ¬(Act.hops node steps).site? = some other from
    fun same => apart (Option.some.inj same).symm)] at changed
  exact changed

theorem fieldType (type : Ty) (path : List String) (span : Span) :
    Beside span.node (fieldType type path span) := by
  unfold Typing.fieldType
  split
  · exact .pure _
  · refine .read fun session => ?_
    split
    · exact .bind (.hops _) fun _ => .pure _
    · exact .bind (.report _) fun _ => .pure _

end Beside

/-- The hops that the type of a field notes lead to the field. -/
theorem hops_fieldType {type : Ty} {path : List String} {span : Span} {session : Session}
    (untouched : session.facts.members.find? span.node = none) {steps : List MemberStep}
    (noted : ((fieldType type path span).run session).2.facts.members.find? span.node =
      some steps) :
    ∃ found, Member.walk session.definitions session.options.derefMode type path =
      (.ok found, steps) := by
  unfold fieldType at noted
  split at noted
  · cases untouched.symm.trans noted
  · rw [StateT.run_bind, StateT.run_get, pure_bind] at noted
    split at noted
    · rename_i found hops walked
      have latest : some hops = some steps := by
        rw [← noted]
        change _ = List.lookup span.node ((span.node, hops) :: session.facts.members)
        simp
      cases latest
      exact ⟨found, walked⟩
    · cases untouched.symm.trans noted

/-- A path behind the name of an enumeration notes no hops. -/
theorem members_variantType (symbol : Symbol) (name : Ident) (path : List String) (span : Span)
    (session : Session) :
    ((variantType symbol name path span).run session).2.facts.members = session.facts.members := by
  have chosen (enumName : String) (id : TypeId) (variants : List String) (between : Session) :
      ((chosenVariant enumName id variants path span).run between).2.facts.members =
        between.facts.members := by
    unfold chosenVariant
    split
    · split <;> rfl
    · rfl
  unfold variantType
  rw [StateT.run_bind, StateT.run_get, pure_bind]
  split
  · exact chosen _ _ _ _
  · rfl

/-- Only a name can be that of an enumeration. -/
theorem name_of_enumBase? {base : Expr} {session : Session} {found : Symbol × Ident}
    (named : ((enumBase? base).run session).1 = some found) : ∃ name, base = .name name := by
  cases base with
  | name name => exact ⟨name, rfl⟩
  | _ => cases named

section Places

variable {outlook : Outlook} {all : List Global} {base : Session}

/-- Typing the path to a place notes its hops. -/
theorem noted_checkExpr (overlooks : Overlooks outlook all base) : (expr : Expr) ->
    (∀ node ∈ expr.sites, outlook.owns node) -> expr.sites.Nodup -> ∀ session,
    Within outlook base session → (∀ node ∈ expr.sites, session.Untouched node) →
    PathNoted ((checkExpr (demandGlobal all) expr none).run session).2 expr
  | .field place path span, owned, distinct, session, within, untouched => by
    simp only [Expr.sites_field, List.forall_mem_cons] at owned untouched
    rw [Expr.sites_field, List.nodup_cons] at distinct
    obtain ⟨apart, distinctPlace⟩ := distinct
    obtain ⟨found, looked⟩ := run_enumBase? place session
    cases found with
    | some found =>
      rw [run_checkExpr_variant looked]
      obtain ⟨ident, rfl⟩ := name_of_enumBase? (congrArg Prod.fst looked)
      refine ⟨trivial, fun steps noted => ?_⟩
      have kept := members_variantType found.1 found.2 path span session
      change ((variantType found.1 found.2 path span).run session).2.facts.members.find? span.node =
        some steps at noted
      rw [kept] at noted
      cases untouched.1.members.symm.trans noted
    | none =>
      rw [run_checkExpr_field looked]
      obtain ⟨withinPlace, kept, -, -⟩ := confined_checkExpr overlooks owned.2 holds_none session within
      have placed := noted_checkExpr overlooks place owned.2 distinctPlace session within untouched.2
      have recorded := records_checkExpr (demandGlobal all) place none session
      rw [StateT.run_bind]
      generalize (checkExpr (demandGlobal all) place none).run session = outcome at *
      obtain ⟨type, between⟩ := outcome
      have beside : Beside span.node (fieldType type path span >>= record span.node) :=
        .bind (.fieldType _ _ _) fun _ => .record _
      obtain ⟨definitions, options, entries⟩ := beside between
      have same (node : NodeId) (isSite : node ∈ place.sites) :
          ((fieldType type path span >>= record span.node).run between).2.entry node =
            between.entry node :=
        entries node fun equal => apart (equal ▸ isSite)
      have reached : between.facts.members.find? span.node = none :=
        (congrArg Entry.members (kept.entries _ apart)).trans untouched.1.members
      refine ⟨pathNoted_congr definitions options place same placed, fun steps noted => ?_⟩
      obtain ⟨found, walked⟩ := hops_fieldType reached noted
      refine ⟨type, found, ?_, ?_⟩
      · exact (congrArg Entry.expr (same _ place.node_mem_sites)).trans recorded
      · rw [← walked]
        exact congrArg₂ (Member.walk · · type path) definitions (congrArg Options.derefMode options)
  | .index place position span, owned, distinct, session, within, untouched => by
    simp only [Expr.sites_index, List.forall_mem_cons, List.forall_mem_append] at owned untouched
    rw [Expr.sites_index, List.nodup_cons, List.nodup_append] at distinct
    obtain ⟨own, ofPlace, -, apart⟩ := distinct
    have placed := noted_checkExpr overlooks place owned.2.1 ofPlace session within untouched.2.1
    obtain ⟨withinPlace, -, -, -⟩ :=
      confined_checkExpr overlooks owned.2.1 holds_none session within
    rw [checkExpr, StateT.run_bind]
    generalize (checkExpr (demandGlobal all) place none).run session = outcome at *
    obtain ⟨placeType, between⟩ := outcome
    change PathNoted ((do
      let positionType <- checkExpr (demandGlobal all) position (some (.prim .u64))
      if !positionType.isUnknown && !positionType.isInteger then
        Check.report (.indexNotInteger position.span positionType)
      record span.node (<- accept (elementType placeType place.span (constantIndex? position))) :
        Check Ty).run between).2 place
    obtain ⟨withinPosition, kept, -, -⟩ :=
      confined_checkExpr overlooks owned.2.2 (holds_some (holds_prim .u64)) between withinPlace
    rw [StateT.run_bind]
    generalize (checkExpr (demandGlobal all) position (some (.prim .u64))).run between = outcome at *
    obtain ⟨positionType, behind⟩ := outcome
    have beside : Beside span.node (do
        if !positionType.isUnknown && !positionType.isInteger then
          Check.report (.indexNotInteger position.span positionType)
        record span.node (<- accept (elementType placeType place.span (constantIndex? position)))) := by
      have ending : Beside span.node (do
          record span.node (<- accept (elementType placeType place.span (constantIndex? position)))) :=
        .bind (.accept _) fun _ => .record _
      simp only
      split
      · exact .bind (.report _) fun _ => ending
      · exact ending
    obtain ⟨definitions, options, entries⟩ := beside behind
    have behindPlace : PathNoted behind place :=
      pathNoted_congr (withinPosition.definitions.trans withinPlace.definitions.symm)
        (withinPosition.options.trans withinPlace.options.symm) place
        (fun node isSite => kept.entries node fun isPosition => apart node isSite node isPosition rfl)
        placed
    exact pathNoted_congr definitions options place
      (fun node isSite => entries node fun equal => own (List.mem_append_left _ (equal ▸ isSite)))
      behindPlace
  | .literal _, _, _, _, _, _ | .name _, _, _, _, _, _ | .binary _ _ _ _, _, _, _, _, _
  | .unary _ _ _, _, _, _, _, _ | .call _ _ _, _, _, _, _, _ | .callValue _ _ _, _, _, _, _, _
  | .cast _ _ _, _, _, _, _, _ | .array _ _ _, _, _, _, _, _ | .addressOf _ _, _, _, _, _, _
  | .load _ _ _, _, _, _, _, _ | .alloc _ _, _, _, _, _, _ | .bad _, _, _, _, _, _ => trivial

/-! ### Assignments are judged -/

/-- The session holds what typing an assignment finds out about its target: the type, the
hops along the path, and what stands in the way of the assignment. -/
structure Judges (session : Session) (target : Expr) : Prop where
  noted : PathNoted session target
  found : ∃ type, Recorded session target.node type ∧
    ∀ problem ∈ assignProblem? target.span (mutability session.facts target type),
      problem ∈ session.findings

/-- What a session holds about a target stays while nothing changes at the target. -/
theorem Judges.stays {one other : Session} {target : Expr} (judges : Judges one target)
    (definitions : other.definitions = one.definitions) (options : other.options = one.options)
    (same : ∀ node ∈ target.sites, other.entry node = one.entry node)
    (findings : one.findings ⊆ other.findings) : Judges other target := by
  obtain ⟨type, recorded, reported⟩ := judges.found
  refine ⟨pathNoted_congr definitions options target same judges.noted, type, ?_, ?_⟩
  · exact (congrArg Entry.expr (same _ target.node_mem_sites)).trans recorded
  · rw [mutability_congr same]
    exact fun problem isProblem => findings (reported problem isProblem)

theorem confined_checkAssign (overlooks : Overlooks outlook all base) {target value : Expr}
    (owned : ∀ node ∈ assignSites target value, outlook.owns node) :
    Confined outlook base (assignSites target value) (checkAssign (demandGlobal all) target value)
      fun _ => True := by
  obtain ⟨targetOwned, valueOwned⟩ := List.forall_mem_append.mp owned
  exact confined_of overlooks owned
    (obeys_checkAssign mayType_defining (obeys_demand_defining all) target value (covers_defining _)
      (covers_defining _))
    fun _ answers => inStep_checkAssign answers (fun _ => List.mem_append_left _)
      fun _ => List.mem_append_right _

/-- Behind its target and its value an assignment is judged, and no more is done. -/
theorem after_checkAssign (demand : Demand) (target value : Expr) {session between behind : Session}
    {type valueType : Ty}
    (placed : (checkExpr demand target none).run session = (type, between))
    (valued : (checkExpr demand value (some type)).run between = (valueType, behind)) :
    ∃ said, session.after (checkAssign demand target value) =
        { behind with findings := behind.findings ++ said } ∧
      ∀ problem ∈ assignProblem? target.span (mutability behind.facts target type),
        problem ∈ said := by
  have judged : session.after (checkAssign demand target value) =
      behind.after (tell ((assignProblem? target.span (mutability behind.facts target type)).or
        (mismatch? value.span valueType type))) := by
    unfold checkAssign Session.after
    rw [StateT.run_bind, placed]
    change ((checkExpr demand value (some type) >>= _).run between).2 = _
    rw [StateT.run_bind, valued]
    change ((get >>= _ : Check Unit).run behind).2 = _
    rw [StateT.run_bind, StateT.run_get, pure_bind]
    cases assignProblem? target.span (mutability behind.facts target type) <;> rfl
  rw [judged]
  cases assignProblem? target.span (mutability behind.facts target type) with
  | some problem =>
    refine ⟨[problem], rfl, fun other same => ?_⟩
    cases same
    exact List.mem_singleton_self _
  | none =>
    cases mismatch? value.span valueType type with
    | some finding => exact ⟨[finding], rfl, fun _ impossible => by cases impossible⟩
    | none => exact ⟨[], by rw [List.append_nil]; rfl, fun _ impossible => by cases impossible⟩

/-- Typing an assignment judges its target. -/
theorem judges_checkAssign (overlooks : Overlooks outlook all base) {target value : Expr}
    (owned : ∀ node ∈ assignSites target value, outlook.owns node)
    (distinct : (assignSites target value).Nodup) {session : Session}
    (within : Within outlook base session)
    (untouched : ∀ node ∈ target.sites, session.Untouched node) :
    Judges (session.after (checkAssign (demandGlobal all) target value)) target := by
  unfold assignSites at owned distinct
  obtain ⟨targetOwned, valueOwned⟩ := List.forall_mem_append.mp owned
  obtain ⟨ofTarget, -, apart⟩ := List.nodup_append.mp distinct
  have noted := noted_checkExpr overlooks target targetOwned ofTarget session within untouched
  have recorded := records_checkExpr (demandGlobal all) target none session
  obtain ⟨withinTarget, -, -, holds⟩ :=
    confined_checkExpr overlooks targetOwned holds_none session within
  cases placed : (checkExpr (demandGlobal all) target none).run session with | _ type between
  rw [placed] at noted recorded withinTarget holds
  obtain ⟨withinValue, kept, -, -⟩ :=
    confined_checkExpr overlooks valueOwned (holds_some holds) between withinTarget
  cases valued : (checkExpr (demandGlobal all) value (some type)).run between with | _ valueType behind
  rw [valued] at withinValue kept
  have same (node : NodeId) (isSite : node ∈ target.sites) : behind.entry node = between.entry node :=
    kept.entries node fun isValue => apart node isSite node isValue rfl
  obtain ⟨said, last, reported⟩ := after_checkAssign (demandGlobal all) target value placed valued
  rw [last]
  refine ⟨?_, type, ?_, fun problem isProblem => List.mem_append_right _ (reported problem isProblem)⟩
  · refine pathNoted_congr ?_ ?_ target same noted
    · exact withinValue.definitions.trans withinTarget.definitions.symm
    · exact withinValue.options.trans withinTarget.options.symm
  · exact (congrArg Entry.expr (same _ target.node_mem_sites)).trans recorded

end Places

/-! ### Assignments of a unit -/

section Units

variable {declared : NodeId -> Prop} {items : List Item} {item : Item} {base : Session}

/-- An item sees the types of all globals once they have been gone through. -/
theorem overlooks_item (spread : Spread declared items)
    (checked : ∀ global ∈ globals items, global.node ∈ base.checked) :
    Overlooks (item.outlook declared) (globals items) base where
  steady symbol proper node same := by
    have met := proper.met
    rw [same] at met
    exact met.imp_right fun isLocal => item.locals_subset_inner isLocal
  inside global isGlobal := by
    obtain ⟨other, isOther, declares⟩ := List.mem_filterMap.mp isGlobal
    have isDeclared : declared global.node := by
      refine spread.own other isOther _ ?_
      cases other <;> cases declares <;> exact List.mem_cons_self
    refine ⟨.inl isDeclared, ?_⟩
    rintro _ ⟨⟩
    exact .inl isDeclared
  checked := checked

/-- The statements of an item lie behind its node. -/
theorem sitesAll_stmts_subset (item : Item) : Stmt.sitesAll item.stmts ⊆ item.inner := by
  intro node isSite
  simp only [Item.inner, List.mem_append, isSite, or_true, true_or]

/-- The nodes of the statements of an item are different ones. -/
theorem nodup_sitesAll_stmts (spread : Spread declared items) (isItem : item ∈ items) :
    (Stmt.sitesAll item.stmts).Nodup := by
  have inner : item.inner.Nodup := (List.nodup_flatMap.mp spread.distinct).1 item isItem
  unfold Item.inner at inner
  exact (List.nodup_append.mp (List.nodup_append.mp (List.nodup_append.mp inner).1).1).2.1

/-- Typing an item comes to every assignment in its body. -/
theorem reaches_checkBodyItem (spread : Spread declared items)
    (checked : ∀ global ∈ globals items, global.node ∈ base.checked) (isItem : item ∈ items)
    {target value : Expr} {span : Span} (isPart : .assign target value span ∈ Stmt.partsAll item.body) :
    Reaches (item.outlook declared) base (assignSites target value)
      (checkAssign (demandGlobal (globals items)) target value)
      (checkBodyItem (globals items) item) := by
  have overlooks : Overlooks (item.outlook declared) (globals items) base :=
    overlooks_item spread checked
  have owned := sitesAll_stmts_subset item
  have distinct := nodup_sitesAll_stmts spread isItem
  cases item with
  | function decl =>
    simp only [checkBodyItem]
    cases written : decl.body with
    | none =>
      simp only [Item.body, written] at isPart
      cases isPart
    | some body =>
      simp only [Item.body, Item.stmts, written] at isPart owned distinct
      have declaredNode := spread.own _ isItem decl.span.node List.mem_cons_self
      have first : Confined ((Item.function decl).outlook declared) base [] (resultType decl.span.node)
          ((Item.function decl).outlook declared).Holds := by
        refine confined_of overlooks (List.forall_mem_nil _) (obeys_resultType _) fun _ _ => ?_
        refine steps_resultType (.inl declaredNode) ?_
        rintro _ ⟨⟩
        exact .inl declaredNode
      exact .behind first
        (fun _ holds => reaches_checkStmts overlooks holds body.stmts owned distinct isPart)
        fun _ _ => List.not_mem_nil
  | entry decl =>
    exact reaches_checkStmts overlooks (holds_prim _) decl.body.stmts owned distinct isPart
  | _ => cases isPart

/-- Typing bodies leaves the definitions of named types alone. -/
theorem definitions_typeBodies (items : List Item) (session : Session) :
    (session.after (typeBodies items)).definitions = session.definitions := by
  have allowed (item : Item) : MayCheckItem defining item :=
    mayCheckItem_of (fun _ => ⟨fun _ _ => rfl, fun _ _ _ _ => rfl, fun _ _ _ _ => rfl⟩)
      (fun _ _ _ => rfl) item
  have obeys : defining.Obeys (typeBodies items) :=
    .forM _ fun item isItem => obeys_checkBodyItem mayType_defining (fun other _ => allowed other)
      item isItem
  exact (obeys session trivial).keeps fun _ _ permitted => permitted _

/-- A check judges the target of every assignment in a body of the unit. -/
theorem judges_of_decode {file text : String} {unit : Module}
    (read : Module.decode file text = .ok unit) (options : Options) (isItem : item ∈ unit.items)
    {target value : Expr} {span : Span}
    (isPart : .assign target value span ∈ Stmt.partsAll item.body) :
    Judges (Session.check (some unit) options) target := by
  obtain ⟨base, ready, findings, passes, progress, last⟩ := check_ready read options
  have spread := spread_of_decode read
  have overlooks : Overlooks (item.outlook (· ∈ unit.items.flatMap Item.ownNode))
      (globals unit.items) base :=
    overlooks_item spread ready.checked
  obtain ⟨visited, -⟩ := visited_typeBodies spread ready.housed ready.checked
  obtain ⟨start, within, before, found, left⟩ := reaches_checkBodyItem spread ready.checked isItem
    isPart base ⟨ready.housed.items item isItem, rfl, rfl, rfl⟩
  have isPart : .assign target value span ∈ Stmt.partsAll item.stmts := by
    cases item <;> first | exact isPart | cases isPart
  have distinct : (assignSites target value).Nodup := by
    have ofParts := (List.nodup_flatMap.mp (nodup_sitesAll_stmts spread isItem)).1 _ isPart
    simpa [Stmt.ownSites, Stmt.ownDecls, Stmt.ownValues, Stmt.ownExprs, Stmt.allForms, Stmt.ownForms,
      assignSites] using ofParts
  have isInner : assignSites target value ⊆ item.inner :=
    List.Subset.trans (assignSites_subset isPart) (sitesAll_stmts_subset item)
  have isTarget {node : NodeId} (isSite : node ∈ target.sites) : node ∈ assignSites target value :=
    List.mem_append_left _ isSite
  have untouched (node : NodeId) (isSite : node ∈ target.sites) : start.Untouched node := by
    have pristine := ready.untouched item isItem node (assignSites_subset isPart (isTarget isSite))
    refine ⟨?_, ?_⟩
    · rw [before node (isTarget isSite), pristine.expr]
    · rw [before node (isTarget isSite), pristine.members]
  have judges : Judges (start.after (checkAssign (demandGlobal (globals unit.items)) target value))
      target :=
    judges_checkAssign overlooks isInner distinct within untouched
  have ending := (confined_checkAssign overlooks isInner start within).1
  have same (node : NodeId) (isSite : node ∈ target.sites) :
      (base.after (typeBodies unit.items)).entry node =
        (start.after (checkAssign (demandGlobal (globals unit.items)) target value)).entry node :=
    (visited.own item isItem node (isInner (isTarget isSite))).1.trans (left node (isTarget isSite))
  have told : (base.after (checkBodyItem (globals unit.items) item)).findings ⊆
      (base.after (typeBodies unit.items)).findings := by
    have obeys := obeys_checkBodyItem mayType_free (fun other _ => mayCheckItem_free other) item isItem
    rw [findings_after obeys, visited.findings]
    intro finding isFound
    refine List.mem_append.mpr ((List.mem_append.mp isFound).imp_right fun isOwn => ?_)
    exact List.mem_flatMap.mpr ⟨item, isItem, isOwn⟩
  rw [last]
  refine judges.stays ?_ ?_ same fun finding isFound => ?_
  · exact (definitions_typeBodies unit.items base).trans ending.definitions.symm
  · exact visited.kept.options.trans ending.options.symm
  · exact List.mem_append_left _ (told (found.subset isFound))

end Units

end UnitCheck.Typing
