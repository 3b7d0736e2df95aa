import UnitCheck.Proofs.Session.Schedule
import UnitCheck.Proofs.Tree.Statements
import UnitCheck.Proofs.Typing.Once
import UnitCheck.Proofs.Typing.Soundness

/-!
# What the third pass goes through

A tour is the third pass with a list of the statements that it has gone through. It does to
a session what the pass does, and goes through the statements of the bodies one after the
other, each of them once. With the charges for nodes this makes one pass over the unit: no
node gets a type twice and no statement is checked twice.
-/

namespace UnitCheck.Typing

/-- A walk that lists the statements it goes through. -/
abbrev Tour := StateT (List Stmt) Check

/-- Notes that a statement is gone through. -/
def visit (stmt : Stmt) : Tour Unit :=
  modify fun visited => visited ++ [stmt]

mutual

/-- Types a statement and notes it. -/
def tourStmt (demand : Demand) (result : Ty) (stmt : Stmt) : Tour Unit := do
  visit stmt
  match stmt with
  | .block body _ => tourStmts demand result body
  | .cond test body _ otherwise _ => do
    checkCondition demand test
    tourStmts demand result body
    tourStmt? demand result otherwise
  | .whileLoop test body _ _ => do
    checkCondition demand test
    tourStmts demand result body
  | .loop body _ _ => tourStmts demand result body
  | .forLoop first test after body _ _ => do
    tourStmt? demand result first
    match test with
    | some test => checkCondition demand test
    | none => pure ()
    tourStmt? demand result after
    tourStmts demand result body
  | leaf => checkStmt demand result leaf

/-- Types a statement that may be missing and notes it. -/
def tourStmt? (demand : Demand) (result : Ty) : Option Stmt -> Tour Unit
  | none => return
  | some stmt => tourStmt demand result stmt

/-- Types several statements in turn and notes them. -/
def tourStmts (demand : Demand) (result : Ty) : List Stmt -> Tour Unit
  | [] => return
  | stmt :: rest => do
    tourStmt demand result stmt
    tourStmts demand result rest

end

/-- Types the body of a function or an entrypoint and notes its statements. -/
def tourBodyItem (all : List Global) : Item -> Tour Unit
  | .function decl =>
    match decl.body with
    | some body => do tourStmts (demandGlobal all) (<- resultType decl.span.node) body.stmts
    | none => return
  | .entry decl => tourStmts (demandGlobal all) .void decl.body.stmts
  | _ => return

/-- The walk of the third pass with the statements that it goes through. -/
def tourUnit : Tour Unit := do
  modifyThe Session fun session => { session with checked := [] }
  let items := (<- getThe Session).items
  items.forM fun item => checkGlobalItem (globals items) item
  items.forM (tourBodyItem (globals items))

/-- The third pass with the statements that it goes through. -/
def tour : Tour Unit := do
  if <- Check.require .typeCheck then
    tourUnit
    Check.complete .typeCheck

/-! ### A tour does what the walk does -/

/-- The tour does what the walk does and goes through these statements. -/
def Tour.Shows {α : Type} (tour : Tour α) (walk : Check α) (visited : List Stmt) : Prop :=
  ∀ before, tour.run before = (fun value => (value, before ++ visited)) <$> walk

namespace Tour.Shows

variable {α β : Type} {one two : List Stmt}

theorem pure (value : α) : Tour.Shows (pure value) (pure value) [] := by
  intro before
  simp

theorem lift (walk : Check α) : Tour.Shows (liftM walk) walk [] := by
  intro before
  simp

theorem bind {first : Tour α} {rest : α -> Tour β} {walk : Check α} {next : α -> Check β}
    (shows : Tour.Shows first walk one) (others : ∀ value, Tour.Shows (rest value) (next value) two) :
    Tour.Shows (first >>= rest) (walk >>= next) (one ++ two) := by
  intro before
  rw [StateT.run_bind, shows before, bind_map_left, map_bind]
  refine congrArg _ (funext fun value => ?_)
  rw [others value, List.append_assoc]

/-- Noting a statement is no part of the walk. -/
theorem noted {stmt : Stmt} {rest : Tour α} {walk : Check α} (shows : Tour.Shows rest walk one) :
    Tour.Shows (visit stmt >>= fun _ => rest) walk (stmt :: one) := by
  intro before
  have noted : (visit stmt).run before = Pure.pure ((), before ++ [stmt]) := rfl
  rw [StateT.run_bind, noted, pure_bind, shows (before ++ [stmt]), List.append_assoc]
  rfl

/-- A tour over a list. -/
theorem forM {visit : α -> Tour Unit} {walk : α -> Check Unit} {visited : α -> List Stmt}
    (values : List α) (shows : ∀ value, Tour.Shows (visit value) (walk value) (visited value)) :
    Tour.Shows (values.forM visit) (values.forM walk) (values.flatMap visited) := by
  induction values with
  | nil => exact .pure _
  | cons value rest inductionHypothesis => exact (shows value).bind fun _ => inductionHypothesis

end Tour.Shows

mutual

theorem shows_tourStmt (demand : Demand) (result : Ty) :
    (stmt : Stmt) ->
    Tour.Shows (tourStmt demand result stmt) (checkStmt demand result stmt) stmt.parts
  | .block body span => by
    unfold tourStmt checkStmt Stmt.parts
    exact .noted (shows_tourStmts demand result body)
  | .cond test body bodySpan otherwise span => by
    unfold tourStmt checkStmt Stmt.parts
    exact .noted ((Tour.Shows.lift _).bind fun _ => (shows_tourStmts demand result body).bind
      fun _ => shows_tourStmt? demand result otherwise)
  | .whileLoop test body bodySpan span => by
    unfold tourStmt checkStmt Stmt.parts
    exact .noted ((Tour.Shows.lift _).bind fun _ => shows_tourStmts demand result body)
  | .loop body bodySpan span => by
    unfold tourStmt checkStmt Stmt.parts
    exact .noted (shows_tourStmts demand result body)
  | .forLoop first test after body bodySpan span => by
    have rest : Tour.Shows (do
          tourStmt? demand result after
          tourStmts demand result body) (do
          checkStmt? demand result after
          checkStmts demand result body) (Stmt.parts? after ++ Stmt.partsAll body) :=
      (shows_tourStmt? demand result after).bind fun _ => shows_tourStmts demand result body
    unfold tourStmt checkStmt Stmt.parts
    rw [List.append_assoc]
    refine .noted ((shows_tourStmt? demand result first).bind fun _ => ?_)
    cases test with
    | none => exact rest
    | some test => exact (Tour.Shows.lift _).bind fun _ => rest
  | .expr _ | .letIn _ | .instr _ | .const _ | .struct _ | .assign _ _ _ | .write _ _ _
  | .ret _ _ | .brk _ | .cont _ | .bad _ => by
    unfold tourStmt Stmt.parts
    exact .noted (.lift _)

theorem shows_tourStmt? (demand : Demand) (result : Ty) :
    (stmt : Option Stmt) ->
    Tour.Shows (tourStmt? demand result stmt) (checkStmt? demand result stmt) (Stmt.parts? stmt)
  | none => by
    unfold tourStmt? checkStmt? Stmt.parts?
    exact .pure _
  | some stmt => by
    unfold tourStmt? checkStmt? Stmt.parts?
    exact shows_tourStmt demand result stmt

theorem shows_tourStmts (demand : Demand) (result : Ty) :
    (body : List Stmt) ->
    Tour.Shows (tourStmts demand result body) (checkStmts demand result body) (Stmt.partsAll body)
  | [] => by
    unfold tourStmts checkStmts Stmt.partsAll
    exact .pure _
  | stmt :: rest => by
    unfold tourStmts checkStmts Stmt.partsAll
    exact (shows_tourStmt demand result stmt).bind fun _ => shows_tourStmts demand result rest

end

theorem shows_tourBodyItem (all : List Global) (item : Item) :
    Tour.Shows (tourBodyItem all item) (checkBodyItem all item) (Stmt.partsAll item.body) := by
  cases item with
  | function decl =>
    simp only [tourBodyItem, checkBodyItem, Item.body]
    cases decl.body with
    | none => exact .pure _
    | some body => exact (Tour.Shows.lift _).bind fun _ => shows_tourStmts _ _ _
  | entry decl => exact shows_tourStmts _ _ _
  | _ => exact .pure _

/-- The statements that the pass goes through are those of the bodies, in their order. -/
theorem run_tourUnit (session : Session) :
    (tourUnit.run []).run session =
      (((), session.items.flatMap fun item => Stmt.partsAll item.body), session.after walk) := by
  have globalsFirst := Tour.Shows.forM session.items fun item =>
    Tour.Shows.lift (checkGlobalItem (globals session.items) item)
  have shows := globalsFirst.bind fun _ =>
    Tour.Shows.forM session.items (shows_tourBodyItem (globals session.items))
  rw [List.flatMap_eq_nil_iff.mpr fun _ _ => rfl, List.nil_append] at shows
  have outcome := congrArg (StateT.run · { session with checked := [] }) (shows [])
  exact outcome

/-- A tour goes on from where its first part ends. -/
theorem Tour.run_bind {α β : Type} {first : Tour α} (rest : α -> Tour β) {before visited : List Stmt}
    {session after : Session} {value : α}
    (ran : (first.run before).run session = ((value, visited), after)) :
    ((first >>= rest).run before).run session = ((rest value).run visited).run after := by
  rw [StateT.run_bind, StateT.run_bind, ran]
  rfl

theorem Tour.run_lift {α : Type} {walk : Check α} {session after : Session} {value : α}
    (visited : List Stmt) (ran : walk.run session = (value, after)) :
    ((liftM walk : Tour α).run visited).run session = ((value, visited), after) := by
  rw [Tour.Shows.lift walk visited, StateT.run_map, ran, List.append_nil]
  rfl

/-- Whether or not its prerequisites have completed, a tour does what the pass does. -/
theorem run_tour (session : Session) :
    ∃ visited, (tour.run []).run session = (((), visited), session.after pass) ∧
      List.Sublist visited (session.items.flatMap fun item => Stmt.partsAll item.body) := by
  have required := run_require session .typeCheck
  unfold tour pass Session.after Check.runPass
  rw [Tour.run_bind _ (Tour.run_lift [] required), StateT.run_bind, required]
  cases (session.passes.missing .typeCheck).isEmpty with
  | false => exact ⟨[], rfl, List.nil_sublist _⟩
  | true => exact ⟨_, (Tour.run_bind _ (run_tourUnit _)).trans (Tour.run_lift _ rfl),
      List.Sublist.refl _⟩

/-! ### One pass over the unit -/

/-- The walk goes through no global twice and pays for what it types. -/
theorem once_walk {session : Session} (distinct : (session.items.flatMap Item.sites).Nodup) :
    let stage := anyStage session
    stage.Once [] (session.after walk) ∧
      (stage.once []).pays (stage.start.items.flatMap Stage.variantNodes ++
        stage.start.items.flatMap fun item => Stmt.slotsAll item.body) stage.start
        (session.after walk) := by
  have told : (anyStage session).Told :=
    fun one isOne other isOther same => global_eq_of_node distinct isOne isOther same
  have fresh : (anyStage session).Once [] (anyStage session).start :=
    ⟨List.nodup_nil, List.forall_mem_nil _, fun _ _ impossible => by cases impossible⟩
  exact Stage.once_rounds told _ fresh

/-- What the walk adds to the types of expressions names no node twice. -/
theorem nodup_typed {session : Session} (distinct : (session.items.flatMap Item.sites).Nodup)
    {new : List (NodeId × Ty)}
    (adds : (session.after walk).facts.exprs = new ++ session.facts.exprs) :
    (new.map Prod.fst).Nodup := by
  obtain ⟨-, paid⟩ := once_walk distinct
  refine List.nodup_iff_count_le_one.mpr fun node => ?_
  have charged : (anyStage session).weight [] (session.after walk) node ≤ _ := paid node
  have everything : (anyStage session).open_ [] (anyStage session).start =
      Typing.globals session.items := Stage.open_nil rfl
  have fewer := Stage.count_slots_le session.items node
  have slots : (session.items.flatMap Item.slots).Nodup :=
    distinct.sublist (Item.sublist_flatMap _ Item.slots_sublist_sites)
  have single := List.nodup_iff_count_le_one.mp slots node
  have items : (anyStage session).start.items = session.items := rfl
  unfold Stage.weight at charged
  rw [everything, adds, items, List.map_append, List.count_append, List.count_append] at charged
  have earlier : (anyStage session).start.facts.exprs = session.facts.exprs := rfl
  rw [earlier] at charged
  omega

/-- The pass leaves the facts that its walk leaves, unless it may not start. -/
theorem facts_after_pass (session : Session) :
    (session.after pass).facts = session.facts ∨
      (session.after pass).facts = (session.after walk).facts := by
  by_cases missing : session.passes.missing .typeCheck = []
  · right
    cases isDone : session.passes.isDone .typeCheck with
    | true =>
      have repeated := congrArg Session.facts (step_of_repeated missing isDone)
      exact repeated
    | false => exact (run_pass missing isDone).1.facts
  · have refused := congrArg Session.facts (step_of_missing missing)
    exact .inl refused

/-- What the pass adds to the types of expressions names no node twice, so that it counts. -/
theorem added_by_pass {session : Session} (distinct : (session.items.flatMap Item.sites).Nodup) :
    ∃ new, (session.after pass).facts.exprs = new ++ session.facts.exprs ∧
      (new.map Prod.fst).Nodup ∧
      ∀ node type, (node, type) ∈ new →
        (session.after pass).facts.exprs.find? node = some type := by
  obtain ⟨new, adds, once⟩ : ∃ new,
      (session.after pass).facts.exprs = new ++ session.facts.exprs ∧
        (new.map Prod.fst).Nodup := by
    obtain unchanged | walked := facts_after_pass session
    · exact ⟨[], by rw [unchanged, List.nil_append], List.nodup_nil⟩
    · obtain ⟨_, trace⟩ := UnitCheck.trace_walk .typeCheck session
      obtain ⟨new, adds⟩ := trace.exprs
      exact ⟨new, by rw [walked]; exact adds.symm, nodup_typed distinct adds.symm⟩
  refine ⟨new, adds, once, fun node type isNew => ?_⟩
  rw [adds]
  change List.lookup node (new ++ session.facts.exprs) = some type
  rw [List.lookup_append]
  have found : List.lookup node new = some type := (mem_iff_find? once).mp isNew
  rw [found]
  rfl

/-- The third pass gives every node a type at most once, so that no type it records is
replaced, and goes through every statement at most once. -/
theorem typed_once {file text : String} {unit : Module} (read : Module.decode file text = .ok unit)
    {session : Session} (inUnit : session.items = unit.items) :
    (∃ new, (session.after pass).facts.exprs = new ++ session.facts.exprs ∧
      (new.map Prod.fst).Nodup ∧
      ∀ node type, (node, type) ∈ new →
        (session.after pass).facts.exprs.find? node = some type) ∧
    ∃ visited, (tour.run []).run session = (((), visited), session.after pass) ∧
      (visited.map (·.span.node)).Nodup := by
  constructor
  · have distinct := Module.nodup_sites read
    rw [← inUnit] at distinct
    exact added_by_pass distinct
  · obtain ⟨visited, toured, within⟩ := run_tour session
    refine ⟨visited, toured, ?_⟩
    have bodies : List.Sublist (unit.items.flatMap fun item => Stmt.startsAll item.body)
        (unit.items.flatMap fun item => Stmt.startsAll item.stmts) := by
      refine Item.sublist_flatMap _ fun item => ?_
      cases item with
      | stray stmt => exact List.nil_sublist _
      | _ => exact List.Sublist.refl _
    refine (Module.nodup_starts read).sublist (List.Sublist.trans ?_ bodies)
    have starts := within.map (·.span.node)
    rwa [inUnit, List.map_flatMap] at starts

/-- A unit in which a constant is read before its declaration and once more in an array,
behind a literal. -/
def readTwiceUnit : Module :=
  ⟨"unit", [
    .const ⟨[], some ⟨"a", .ofLine 7 8⟩, none,
      some (.unary .negate (.name ⟨"b", .ofLine 14 15⟩) (.ofLine 11 16)), .ofLine 0 17⟩,
    .const ⟨[], some ⟨"b", .ofLine 25 26⟩, none, some (.literal ⟨.integer, "2", .ofLine 29 30⟩),
      .ofLine 18 31⟩,
    .function ⟨[], some ⟨"f", .ofLine 36 37⟩, [], some (.named "void" (.ofLine 41 45)),
      some ⟨[.letIn ⟨⟨"x", .ofLine 58 59⟩, none,
        some (.array none [.literal ⟨.integer, "1", .ofLine 67 68⟩, .name ⟨"b", .ofLine 69 70⟩]
          (.ofLine 62 71)), false, .ofLine 53 72⟩], .ofLine 46 73⟩, .ofLine 32 74⟩],
    some (.ofLine 0 74)⟩

theorem decode_readTwice : Module.decode "unit"
    "(const a _ (- b)) (const b _ 2) (fn f () void (block (let x _ (arr 1 b))))" =
      .ok readTwiceUnit :=
  Module.decode_chars (by cbv)

/-- Its nodes and its statement are gone through once. -/
theorem typed_once_readTwice :
    let session := Session.ahead (some readTwiceUnit) .standard .typeCheck
    Module.decode "unit"
        "(const a _ (- b)) (const b _ 2) (fn f () void (block (let x _ (arr 1 b))))" =
      .ok readTwiceUnit ∧ session.items = readTwiceUnit.items ∧
      (∃ new, (session.after pass).facts.exprs = new ++ session.facts.exprs ∧
        (new.map Prod.fst).Nodup ∧
        ∀ node type, (node, type) ∈ new →
          (session.after pass).facts.exprs.find? node = some type) ∧
      ∃ visited, (tour.run []).run session = (((), visited), session.after pass) ∧
        (visited.map (·.span.node)).Nodup := by
  have items := items_ahead (some readTwiceUnit) .standard .typeCheck
  exact ⟨decode_readTwice, items, typed_once decode_readTwice items⟩

end UnitCheck.Typing
