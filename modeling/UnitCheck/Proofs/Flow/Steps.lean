import UnitCheck.Proofs.Flow.Completion
import UnitCheck.Proofs.Tree.Parts

/-!
# Building a flow graph step by step

Whatever the statements of a body are, its graph comes about by steps of four kinds: a
block is added, a statement is put into the block in which control goes on, edges leave
blocks that control reaches and does not return from, and a return is put behind such a
block together with its edge to the exit (`Step`). `steps_graph` says so for whole bodies.
What every step keeps therefore holds of the graph of every body, and needs no look at
the kinds of statements; `Formed` is such a property.

The list along `Steps` are the statements that were put into blocks, in that order.
-/

namespace UnitCheck.Flow

/-- What happens to a graph in one step of building it, with the statements that are put
into its blocks. -/
inductive Step : Graph -> List Stmt -> Graph -> Prop where
  | block {graph : Graph} (place : Option Span) (branch : Option BranchKind) :
      Step graph [] (graph.addBlock place branch)
  | edges {graph : Graph} (sources : List Nat) (target : Nat)
      (live : ∀ source ∈ sources, graph.Live source ∧ source ≠ Graph.exit) :
      Step graph [] (graph.addEdges sources target)
  | put {graph : Graph} {id : Nat} (isOpen : graph.Open id) (stmt : Stmt) :
      Step graph [stmt] (graph.addStmt id stmt)
  | ending {graph : Graph} {id : Nat} (isOpen : graph.Open id) (ending : Ending)
      (silent : ending ≠ .ret) :
      Step graph [] (graph.setEnding id ending)
  | ret {graph : Graph} {id : Nat} (isOpen : graph.Open id) (value : Option Expr) (span : Span) :
      Step graph [.ret value span]
        (((graph.addStmt id (.ret value span)).setEnding id .ret).addEdge id Graph.exit)

/-- Steps one after the other, with all statements that they put into blocks. -/
inductive Steps : Graph -> List Stmt -> Graph -> Prop where
  | refl {graph : Graph} : Steps graph [] graph
  | step {before middle after : Graph} {put more : List Stmt} (prior : Steps before put middle)
      (transition : Step middle more after) : Steps before (put ++ more) after

variable {loop : Option LoopTargets} {current id source target : Nat} {put more : List Stmt}
  {graph before middle after : Graph} {stmts others : List Stmt}

theorem Steps.trans (first : Steps before put middle) (second : Steps middle more after) :
    Steps before (put ++ more) after := by
  induction second with
  | refl => simpa using first
  | step _ transition inductionHypothesis =>
    simpa [List.append_assoc] using Steps.step inductionHypothesis transition

theorem Step.steps (transition : Step before put after) : Steps before put after :=
  .step .refl transition

/-- The graph comes about from the other one by steps that put some of the statements into
blocks, in their order and none of them twice. -/
def Raises (stmts : List Stmt) (before after : Graph) : Prop :=
  ∃ put, put.Sublist stmts ∧ Steps before put after

namespace Raises

theorem refl : Raises [] before before := ⟨[], .refl _, .refl⟩

theorem trans (first : Raises stmts before middle) (second : Raises others middle after) :
    Raises (stmts ++ others) before after := by
  obtain ⟨put, among, steps⟩ := first
  obtain ⟨more, moreAmong, moreSteps⟩ := second
  exact ⟨put ++ more, among.append moreAmong, steps.trans moreSteps⟩

theorem mono (raises : Raises stmts before after) (among : stmts.Sublist others) :
    Raises others before after := by
  obtain ⟨put, isSublist, steps⟩ := raises
  exact ⟨put, isSublist.trans among, steps⟩

/-- Steps that put no statements anywhere. -/
theorem silently (raises : Raises stmts before middle) (steps : Steps middle [] after) :
    Raises stmts before after := by
  simpa using raises.trans ⟨[], .refl _, steps⟩

end Raises

/-! ### The operations as steps -/

/-- A live block of a sound graph is not the exit, which control does not reach yet. -/
theorem Graph.Live.notExit (live : graph.Live id) (sound : graph.Sound) : id ≠ Graph.exit := by
  rintro rfl
  exact sound.not_visited_exit live.visited

/-- Edges from live blocks. -/
theorem steps_addEdges (sound : graph.Sound) (sources : List Nat)
    (live : ∀ source ∈ sources, graph.Live source) (target : Nat) :
    Steps graph [] (graph.addEdges sources target) :=
  (Step.edges sources target fun source isSource =>
    ⟨live source isSource, (live source isSource).notExit sound⟩).steps

/-- A branch from a live block. -/
theorem steps_branch (sound : graph.Sound) (live : graph.Live source) (place : Option Span)
    (kind : Option BranchKind) : Steps graph [] (graph.branch source place kind) := by
  have grows : Grows none source graph (graph.addBlock place kind) := .addBlock place kind
  refine (Step.block place kind).steps.trans
    (steps_addEdges (sound.addBlock place kind) [source] ?_ graph.nextId)
  rw [List.forall_mem_singleton]
  exact grows.live sound Graph.returnsAt_addBlock live

/-- The last statement of a block that does not return. -/
theorem steps_finish (isOpen : graph.Open id) (stmt : Stmt) (ending : Ending)
    (silent : ending ≠ .ret) :
    Steps graph [stmt] ((graph.addStmt id stmt).setEnding id ending) :=
  (Step.put isOpen stmt).steps.trans (Step.ending (isOpen.addStmt stmt) ending silent).steps

/-- A jump out of a round of a loop. -/
theorem steps_jump (sound : before.Sound) (isOpen : before.Open current) (stmt : Stmt)
    {ending : Ending} (silent : ending ≠ .ret) (goal : LoopTargets -> BlockId) :
    Steps before [stmt] ((Build.jump loop goal ending current stmt).run before).2 := by
  have finish := steps_finish isOpen stmt ending silent
  have finished := Extended.finish none sound isOpen stmt ending silent
  have opened := (isOpen.addStmt stmt).setEnding ending silent
  cases loop with
  | none => exact finish
  | some targets =>
    have leaves := steps_addEdges finished.sound [current]
      (List.forall_mem_singleton.mpr opened.toLive) (goal targets)
    exact finish.trans leaves

/-- The blocks that open a loop. -/
theorem steps_withLoop (sound : before.Sound) (isOpen : before.Open current)
    (place bodyPlace : Span) (conditional : Bool) :
    Steps before [] (before.withLoop current place bodyPlace conditional) := by
  have branchOpen : (before.branch current (some place) none).Open before.nextId :=
    sound.branch_open isOpen.toLive
  have headerSound : (before.withHeader current place).Sound :=
    (sound.branch isOpen.toLive).setEnding branchOpen.quiet (by decide)
  have headerLive : (before.withHeader current place).Live before.nextId :=
    (branchOpen.setEnding .loop (by decide)).toLive
  have roundSound : (before.withRound current place bodyPlace).Sound :=
    headerSound.branch headerLive
  have stays : ((before.withRound current place bodyPlace).addBlock (some place) none).Live
      before.nextId := by
    have round : Grows none before.nextId (before.withHeader current place)
        (before.withRound current place bodyPlace) := Graph.branch_grows none
    have behind : Grows none before.nextId (before.withRound current place bodyPlace)
        ((before.withRound current place bodyPlace).addBlock (some place) none) := .addBlock _ _
    exact behind.live roundSound Graph.returnsAt_addBlock
      (round.live headerSound Graph.returnsAt_addBlock headerLive)
  have header : Steps before [] (before.withHeader current place) :=
    (steps_branch sound isOpen.toLive (some place) none).trans
      (Step.ending branchOpen .loop (by decide)).steps
  have round := header.trans
    (steps_branch headerSound headerLive (some bodyPlace) (some .loopBody))
  have behind := round.trans (Step.block (some place) none).steps
  refine behind.trans (steps_addEdges (roundSound.addBlock _ _) _ ?_ _)
  cases conditional with
  | true => exact List.forall_mem_singleton.mpr stays
  | false => exact List.forall_mem_nil _

/-! ### Statements as steps -/

/-- Building in any open block, inside any loop, goes by steps that put some of the
statements into blocks. -/
def Raising (stmts : List Stmt)
    (body : Option LoopTargets -> BlockId -> Build (Option BlockId)) : Prop :=
  ∀ ⦃loop : Option LoopTargets⦄ ⦃current : Nat⦄ ⦃before : Graph⦄, Around loop before →
    before.Sound → before.Open current → Raises stmts before ((body loop current).run before).2

variable {body other : Option LoopTargets -> BlockId -> Build (Option BlockId)}
  {completed broken finished left : Bool}

/-- Statements one behind the other. -/
theorem Raising.seq (built : Builds completed broken body) (former : Raising stmts body)
    (latter : Raising others other) :
    Raising (stmts ++ others) (fun loop current => do
      match <- body loop current with
      | some next => other loop next
      | none => return none) := by
  intro loop current before around sound isOpen
  have first := former around sound isOpen
  have opened := built around sound isOpen
  rw [StateT.run_bind]
  rcases outcome : (body loop current).run before with ⟨next, middle⟩
  rw [outcome] at first opened
  cases next with
  | none => exact first.mono (List.sublist_append_left stmts others)
  | some next =>
    exact first.trans
      (latter (around.mono opened.grows.longer) opened.sound (opened.isOpen next rfl).1)

/-- A loop around statements. -/
theorem Raising.rounds (built : Builds completed broken body) (inner : Raising stmts body)
    (place bodyPlace : Span) (conditional : Bool)
    (sound : before.Sound) (isOpen : before.Open current) :
    let opened := (Build.openLoop current place bodyPlace conditional).run before
    let outcome := (body (some opened.1.1) opened.1.2).run opened.2
    Raises stmts before ((Build.closeLoop opened.1.1 outcome.1).run outcome.2).2 := by
  have opened := Opened.withLoop place bodyPlace conditional sound isOpen
  have round := built opened.around opened.sound opened.isOpen
  rw [run_openLoop]
  intro _ outcome
  rw [run_closeLoop]
  have start : Raises [] before (before.withLoop current place bodyPlace conditional) :=
    ⟨[], .refl _, steps_withLoop sound isOpen place bodyPlace conditional⟩
  refine (start.trans (inner opened.around opened.sound opened.isOpen)).silently
    (steps_addEdges round.sound _ ?_ _)
  intro id isLast
  exact (round.isOpen id (Option.mem_toList.mp isLast)).1.toLive

/-- A branch in a block of its own. -/
theorem Raising.branched (inner : Raising stmts body) (around : Around loop before)
    (sound : before.Sound) (live : before.Live source) (place : Option Span)
    (kind : Option BranchKind) :
    Raises stmts before
      ((body loop before.nextId).run (before.branch source place kind)).2 := by
  have start : Raises [] before (before.branch source place kind) :=
    ⟨[], .refl _, steps_branch sound live place kind⟩
  exact start.trans (inner (around.mono (Graph.branch_grows none).longer) (sound.branch live)
    (sound.branch_open live))

/-- Two branches meet in a new block. -/
theorem steps_meet {first second : Option BlockId × Graph}
    (former : Branched loop current before completed broken first)
    (latter : Branched loop current first.2 finished left second) (place : Option Span) :
    Steps second.2 [] ((do
      let merge <- Build.newBlock place none
      Build.edgeFrom first.1 merge
      Build.edgeFrom second.1 merge
      return if first.1.isSome || second.1.isSome then some merge else none :
        Build (Option BlockId)).run second.2).2 := by
  rw [run_meet]
  refine (Step.block place none).steps.trans
    (steps_addEdges (latter.sound.addBlock place none) _ ?_ _)
  have live : ∀ id ∈ first.1.toList ++ second.1.toList, second.2.Live id := by
    intro id isEnd
    rcases List.mem_append.mp isEnd with isFirst | isSecond
    · exact latter.grows.live former.sound latter.steady
        (former.live id (Option.mem_toList.mp isFirst)).1
    · exact (latter.live id (Option.mem_toList.mp isSecond)).1
  intro id isEnd
  have grows : Grows none id second.2 (second.2.addBlock place none) := .addBlock place none
  exact grows.live latter.sound Graph.returnsAt_addBlock (live id isEnd)

mutual

/-- Building a statement goes by steps. -/
theorem raising_stmt : (stmt : Stmt) -> Raising stmt.parts (Build.stmt · · stmt)
  | .block body span => by
    intro loop current before around sound isOpen
    simp only [Build.stmt, Stmt.parts]
    exact (raising_stmts body around sound isOpen).mono (List.sublist_cons_self _ _)
  | .ret value span => by
    intro loop current before _ _ isOpen
    simp only [Build.stmt, Stmt.parts]
    exact ⟨_, .refl _, (Step.ret isOpen value span).steps⟩
  | .brk span => by
    intro loop current before _ sound isOpen
    simp only [Build.stmt, Stmt.parts]
    exact ⟨_, .refl _, steps_jump sound isOpen (.brk span) (by decide) _⟩
  | .cont span => by
    intro loop current before _ sound isOpen
    simp only [Build.stmt, Stmt.parts]
    exact ⟨_, .refl _, steps_jump sound isOpen (.cont span) (by decide) _⟩
  | .whileLoop test body bodySpan span => by
    intro loop current before _ sound isOpen
    simp only [Build.stmt, Stmt.parts]
    have rounds := Raising.rounds (built_stmts body) (raising_stmts body) span bodySpan true
      sound isOpen
    exact rounds.mono (List.sublist_cons_self _ _)
  | .loop body bodySpan span => by
    intro loop current before _ sound isOpen
    simp only [Build.stmt, Stmt.parts]
    have rounds := Raising.rounds (built_stmts body) (raising_stmts body) span bodySpan false
      sound isOpen
    exact rounds.mono (List.sublist_cons_self _ _)
  | .forLoop first test after body bodySpan span => by
    intro loop current before _ sound isOpen
    simp only [Build.stmt, Stmt.parts]
    have rounds := Raising.rounds (built_stmts body) (raising_stmts body) span bodySpan
      test.isSome sound isOpen
    exact rounds.mono ((List.sublist_append_right _ _).trans (List.sublist_cons_self _ _))
  | .cond test body bodySpan otherwise span => by
    intro loop current before around sound isOpen
    simp only [Build.stmt, Stmt.parts]
    let stmt : Stmt := .cond test body bodySpan otherwise span
    have finished := Extended.finish loop sound isOpen stmt .cond (by decide)
    have stays := (isOpen.addStmt stmt).setEnding .cond (by decide)
    have around := around.mono finished.grows.longer
    have former := Builds.branched (built_stmts body) around finished.sound stays.toLive
      (some bodySpan) (some .ifBranch)
    have aroundElse := around.mono former.grows.longer
    have still := former.grows.live finished.sound former.steady stays.toLive
    have latter := built_elseBranch aroundElse former.sound still otherwise
    -- the condition, then its branches in order, then the block where they meet
    have start : Raises [stmt] before ((before.addStmt current stmt).setEnding current .cond) :=
      ⟨[stmt], .refl _, steps_finish isOpen stmt .cond (by decide)⟩
    have one := start.trans ((raising_stmts body).branched around finished.sound stays.toLive
      (some bodySpan) (some .ifBranch))
    have two := one.trans (raises_elseBranch aroundElse former.sound still otherwise)
    have all := two.silently (steps_meet former latter (some span))
    exact all.mono (by simp [stmt])
  | .expr _ | .letIn _ | .instr _ | .const _ | .struct _ | .assign _ _ _ | .write _ _ _
  | .bad _ => by
    intro loop current before _ _ isOpen
    simp only [Build.stmt, Stmt.parts]
    exact ⟨_, .refl _, (Step.put isOpen _).steps⟩

/-- Building the other branch of a condition goes by steps. -/
theorem raises_elseBranch {loop : Option LoopTargets} {current : Nat} {before : Graph}
    (around : Around loop before) (sound : before.Sound) (live : before.Live current) :
    (otherwise : Option Stmt) ->
    Raises (Stmt.parts? otherwise) before ((Build.elseBranch loop current otherwise).run before).2
  | none => .refl
  | some otherwise => by
    unfold Build.elseBranch Stmt.parts?
    exact (raising_stmt otherwise).branched around sound live _ _

/-- Building statements goes by steps. -/
theorem raising_stmts : (body : List Stmt) ->
    Raising (Stmt.partsAll body) (fun loop current => Build.stmts loop (some current) body)
  | [] => by
    intro loop current before _ _ _
    unfold Build.stmts Stmt.partsAll
    exact .refl
  | first :: rest => by
    unfold Stmt.partsAll
    simp only [stmts_cons]
    exact Raising.seq (built_stmt first) (raising_stmt first) (raising_stmts rest)

end

/-- The statements of a body that may be missing, and all statements inside them. -/
def partsOf : Option Body -> List Stmt
  | none => []
  | some body => Stmt.partsAll body.stmts

/-- The flow graph of a body comes about by steps that put some of its statements into
blocks. -/
theorem raises_graph (body : Option Body) (place : Span) :
    Raises (partsOf body) (Graph.bare place) (Flow.graph body place) := by
  cases body with
  | none =>
    have entry := steps_addEdges (sound_bare place) [Graph.entry]
      (List.forall_mem_singleton.mpr (open_bare place).toLive) Graph.exit
    exact ⟨[], .refl _, entry⟩
  | some body =>
    have built := built_body body place
    have raises : Raises (partsOf (some body)) (Graph.bare place) _ :=
      raising_stmts body.stmts (around_none _) (sound_bare place) (open_bare place)
    rw [graph_eq]
    refine raises.silently (steps_addEdges built.sound _ ?_ _)
    intro id isLast
    exact (built.isOpen id (Option.mem_toList.mp isLast)).1.toLive

/-! ### The blocks that statements get -/

/-- What a block belongs to, with the branch that it starts. -/
def Block.owner (block : Block) : Option Span × Option BranchKind := (block.place, block.branch)

mutual

/-- What the blocks belong to that building a statement may add. -/
def owners : Stmt -> List (Option Span × Option BranchKind)
  | .block body _ => ownersAll body
  | .cond _ body bodySpan otherwise span =>
    (some bodySpan, some .ifBranch) :: (ownersAll body ++ (ownersElse otherwise ++
      [(some span, none)]))
  | .whileLoop _ body bodySpan span | .loop body bodySpan span
  | .forLoop _ _ _ body bodySpan span =>
    (some span, none) :: (some bodySpan, some .loopBody) :: (some span, none) :: ownersAll body
  | _ => []

/-- What the blocks belong to that building the other branch of a condition may add. -/
def ownersElse : Option Stmt -> List (Option Span × Option BranchKind)
  | none => []
  | some otherwise => (some otherwise.span, some .elseBranch) :: owners otherwise

/-- What the blocks belong to that building statements may add. -/
def ownersAll : List Stmt -> List (Option Span × Option BranchKind)
  | [] => []
  | first :: rest => owners first ++ ownersAll rest

end

namespace Build

/-- Whatever graph it starts with, the step adds at most blocks with these owners, in this
order. -/
def Adds (owners : List (Option Span × Option BranchKind)) {α : Type} (step : Build α) : Prop :=
  ∀ graph : Graph, ∃ new, List.Sublist new owners ∧
    (step.run graph).2.blocks.map Block.owner = graph.blocks.map Block.owner ++ new

variable {α β : Type} {few many : List (Option Span × Option BranchKind)}

/-- A step that leaves all blocks where they belong adds none. -/
theorem adds_none {step : Build α} (same : ∀ graph : Graph,
    (step.run graph).2.blocks.map Block.owner = graph.blocks.map Block.owner) : Adds [] step :=
  fun graph => ⟨[], .refl _, by rw [same, List.append_nil]⟩

theorem Adds.pure (value : α) : Adds [] (Pure.pure value : Build α) := adds_none fun _ => rfl

theorem Adds.bind {first : Build α} {rest : α -> Build β} (one : Adds few first)
    (others : ∀ value, Adds many (rest value)) : Adds (few ++ many) (first >>= rest) := by
  intro graph
  obtain ⟨new, among, former⟩ := one graph
  obtain ⟨more, moreAmong, latter⟩ := others (first.run graph).1 (first.run graph).2
  refine ⟨new ++ more, among.append moreAmong, ?_⟩
  rw [run_bind, latter, former, List.append_assoc]

/-- A step before the others that adds no blocks. -/
theorem Adds.behind {first : Build α} {rest : α -> Build β} (one : Adds [] first)
    (others : ∀ value, Adds many (rest value)) : Adds many (first >>= rest) := one.bind others

theorem Adds.mono {step : Build α} (adds : Adds few step) (fewer : few.Sublist many) :
    Adds many step := by
  intro graph
  obtain ⟨new, among, same⟩ := adds graph
  exact ⟨new, among.trans fewer, same⟩

theorem adds_newBlock (place : Option Span) (branch : Option BranchKind) :
    Adds [(place, branch)] (newBlock place branch) :=
  fun _ => ⟨_, .refl _, List.map_append⟩

theorem adds_update (id : BlockId) {change : Block -> Block}
    (same : ∀ block, (change block).owner = block.owner) :
    Adds [] (modify (·.update id change) : Build Unit) := by
  refine adds_none fun graph => List.map_map.trans (List.map_congr_left fun block _ => ?_)
  change (if block.id = id then change block else block).owner = block.owner
  split
  · exact same block
  · rfl

theorem adds_edge (source target : BlockId) : Adds [] (edge source target) :=
  adds_none fun _ => rfl

theorem adds_edgeFrom (source : Option BlockId) (target : BlockId) :
    Adds [] (edgeFrom source target) := by
  cases source with
  | none => exact .pure _
  | some id => exact adds_edge id target

theorem adds_append (id : BlockId) (stmt : Stmt) : Adds [] (append id stmt) :=
  adds_update id fun _ => rfl

theorem adds_setEnding (id : BlockId) (ending : Ending) :
    Adds [] (modify (·.setEnding id ending) : Build Unit) :=
  adds_update id fun _ => rfl

theorem adds_finish (id : BlockId) (stmt : Stmt) (ending : Ending) :
    Adds [] (finish id stmt ending) :=
  .behind (adds_append id stmt) fun _ => adds_setEnding id ending

theorem adds_jump (loop : Option LoopTargets) (target : LoopTargets -> BlockId)
    (ending : Ending) (current : BlockId) (stmt : Stmt) :
    Adds [] (jump loop target ending current stmt) := by
  refine Adds.behind (adds_finish current stmt ending) fun _ => ?_
  cases loop with
  | none => exact .pure _
  | some targets => exact adds_edge _ _

/-- A loop adds its three blocks and those of its body. -/
theorem adds_loop (place bodyPlace : Span) (current : BlockId) (conditional : Bool)
    {body : List Stmt} (inner : ∀ loop current, Adds many (Build.stmts loop current body)) :
    Adds ((some place, none) :: (some bodyPlace, some .loopBody) :: (some place, none) :: many)
      (do
        let (targets, first) <- openLoop current place bodyPlace conditional
        let last <- Build.stmts (some targets) (some first) body
        closeLoop targets last) := by
  have leaves (header body behind : BlockId) : Adds [] (do
      if conditional then edge header behind
      return ((⟨behind, header⟩ : LoopTargets), body)) := by
    cases conditional with
    | true => exact .behind (adds_edge _ _) fun _ => .pure _
    | false => exact .pure _
  have opens : Adds [(some place, none), (some bodyPlace, some .loopBody), (some place, none)]
      (openLoop current place bodyPlace conditional) :=
    .bind (adds_newBlock _ _) fun header => .behind (adds_setEnding header .loop) fun _ =>
      .behind (adds_edge current header) fun _ => .bind (adds_newBlock _ _) fun body =>
      .behind (adds_edge header body) fun _ => .bind (adds_newBlock _ _) fun behind =>
      leaves header body behind
  have closes (targets : LoopTargets) (last : Option BlockId) :
      Adds [] (closeLoop targets last) :=
    .behind (adds_edgeFrom last targets.header) fun _ => adds_none fun _ => rfl
  refine (opens.bind fun opened => .bind (inner (some opened.1) (some opened.2)) fun last =>
    closes opened.1 last).mono ?_
  rw [List.append_nil]
  exact .refl _

mutual

theorem adds_stmt : (stmt : Stmt) -> (loop : Option LoopTargets) -> (current : BlockId) ->
    Adds (owners stmt) (Build.stmt loop current stmt)
  | .block body _, loop, current => by
    unfold Build.stmt owners
    exact adds_stmts body loop _
  | .ret _ _, loop, current => by
    unfold Build.stmt owners
    exact .behind (adds_finish _ _ _) fun _ => .behind (adds_edge _ _) fun _ => .pure _
  | .brk _, loop, current | .cont _, loop, current => by
    unfold Build.stmt owners
    exact .behind (adds_jump _ _ _ _ _) fun _ => .pure _
  | .cond test body bodySpan otherwise span, loop, current => by
    unfold Build.stmt owners
    exact .behind (adds_finish current (.cond test body bodySpan otherwise span) .cond) fun _ =>
      .bind (adds_newBlock (some bodySpan) (some .ifBranch)) fun first =>
      .behind (adds_edge current first) fun _ =>
      .bind (adds_stmts body loop (some first)) fun one =>
      .bind (adds_elseBranch otherwise loop current) fun other =>
      .bind (adds_newBlock (some span) none) fun merge =>
      .behind (adds_edgeFrom one merge) fun _ => .behind (adds_edgeFrom other merge) fun _ =>
      .pure _
  | .whileLoop _ body bodySpan span, loop, current | .loop body bodySpan span, loop, current
  | .forLoop _ _ _ body bodySpan span, loop, current => by
    unfold Build.stmt owners
    exact adds_loop span bodySpan current _ (adds_stmts body)
  | .expr _, _, _ | .letIn _, _, _ | .instr _, _, _ | .const _, _, _ | .struct _, _, _
  | .assign _ _ _, _, _ | .write _ _ _, _, _ | .bad _, _, _ => by
    unfold Build.stmt owners
    exact .behind (adds_append _ _) fun _ => .pure _

theorem adds_elseBranch : (otherwise : Option Stmt) -> (loop : Option LoopTargets) ->
    (current : BlockId) -> Adds (ownersElse otherwise) (elseBranch loop current otherwise)
  | none, _, _ => by
    unfold elseBranch ownersElse
    exact .pure _
  | some otherwise, loop, current => by
    unfold elseBranch ownersElse
    exact .bind (adds_newBlock _ _) fun first => .behind (adds_edge current first) fun _ =>
      adds_stmt otherwise loop first

theorem adds_stmts : (body : List Stmt) -> (loop : Option LoopTargets) ->
    (current : Option BlockId) -> Adds (ownersAll body) (Build.stmts loop current body)
  | [], loop, current => by
    unfold Build.stmts ownersAll
    exact .pure _
  | stmt :: rest, loop, none => by
    unfold Build.stmts
    exact (Adds.pure _).mono (List.nil_sublist _)
  | stmt :: rest, loop, some current => by
    unfold Build.stmts ownersAll
    exact .bind (adds_stmt stmt loop current) fun next => adds_stmts rest loop next

end
end Build

/-- The blocks of the flow graph of a body besides its two ends belong to the statements in it,
in their order. -/
theorem owners_graph (body : Body) (place : Span) :
    ∃ new, List.Sublist new (ownersAll body.stmts) ∧
      (Flow.graph (some body) place).blocks.map Block.owner =
        (some place, none) :: (none, none) :: new := by
  have adds : Build.Adds (ownersAll body.stmts) (do
      let last <- Build.stmts none (some Graph.entry) body.stmts
      Build.edgeFrom last Graph.exit) := by
    exact (Build.Adds.bind (Build.adds_stmts body.stmts none _) fun _ =>
      Build.adds_edgeFrom _ _).mono (by simp)
  exact adds (Graph.bare place)

end UnitCheck.Flow
