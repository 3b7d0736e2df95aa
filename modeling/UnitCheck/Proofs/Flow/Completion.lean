import UnitCheck.Proofs.Flow.Building

/-!
# Bodies that control runs past

Whether statements complete normally can be read off their structure. `completes`
and `breaks` do that, and `allReturn_graph_iff` says that the search of the flow
graph agrees with them: every path through a body returns exactly when the body
does not complete. The invariant of the induction is `Built`.
-/

namespace UnitCheck.Flow

mutual

/-- Whether control may run past the statement. The parts of a loop before and behind
its rounds are straight-line code. -/
def completes : Stmt -> Bool
  | .block body _ => completesAll body
  | .cond _ body _ otherwise _ => completesAll body || completesElse otherwise
  | .whileLoop .. => true
  | .loop body _ _ => breaksAll body
  | .forLoop _ test _ body _ _ => test.isSome || breaksAll body
  | .ret .. | .brk _ | .cont _ => false
  | _ => true

/-- Whether control may run past the other branch of a condition, if there is one. -/
def completesElse : Option Stmt -> Bool
  | none => true
  | some otherwise => completes otherwise

/-- Whether control may run past all the statements. -/
def completesAll : List Stmt -> Bool
  | [] => true
  | first :: rest => completes first && completesAll rest

/-- Whether control may leave the loop around the statement by a `break` inside it. -/
def breaks : Stmt -> Bool
  | .block body _ => breaksAll body
  | .cond _ body _ otherwise _ => breaksAll body || breaksElse otherwise
  | .brk _ => true
  | _ => false

/-- Whether control may leave the loop around a condition from its other branch. -/
def breaksElse : Option Stmt -> Bool
  | none => false
  | some otherwise => breaks otherwise

/-- Whether control may leave the loop around the statements from one of them. -/
def breaksAll : List Stmt -> Bool
  | [] => false
  | first :: rest => breaks first || (completes first && breaksAll rest)

end

/-! ### The invariant of building -/

/-- Some edge leads to the block. -/
def Graph.Entered (graph : Graph) (id : Nat) : Prop :=
  ∃ source : Nat, (source, id) ∈ graph.edges

/-- The jumps of the loop around the statements lead to two blocks of the graph. -/
structure Around (loop : Option LoopTargets) (graph : Graph) : Prop where
  behind : ∀ targets, loop = some targets →
    1 ≤ targets.behind ∧ targets.behind ≤ graph.blocks.length
  header : ∀ targets, loop = some targets →
    1 ≤ targets.header ∧ targets.header ≤ graph.blocks.length
  notExit : ∀ targets, loop = some targets →
    targets.behind ≠ Graph.exit ∧ targets.header ≠ Graph.exit
  apart : ∀ targets, loop = some targets → targets.behind ≠ targets.header

/-- What statements in the block `current` make of a graph. The block behind the loop
around them gets a new edge only if the statements break. -/
structure Extended (loop : Option LoopTargets) (current : Nat) (before : Graph) (broken : Bool)
    (after : Graph) : Prop where
  sound : after.Sound
  grows : Grows loop current before after
  entered : ∀ targets, loop = some targets →
    (after.Entered targets.behind ↔ before.Entered targets.behind ∨ broken = true)

/-- The outcome of building statements in the block `current`: control goes on, in an
open block, exactly when it should. -/
structure Built (loop : Option LoopTargets) (current : Nat) (before : Graph)
    (completed broken : Bool) (outcome : Option BlockId × Graph) : Prop
    extends Extended loop current before broken outcome.2 where
  goesOn : outcome.1.isSome = completed
  isOpen : ∀ id : Nat, outcome.1 = some id →
    outcome.2.Open id ∧ (id = current ∨ before.blocks.length < id)

variable {loop : Option LoopTargets} {current next : Nat} {graph before middle after : Graph}

/-- The targets of a loop stay in a graph that grows. -/
theorem Around.mono (around : Around loop before)
    (longer : before.blocks.length ≤ after.blocks.length) : Around loop after where
  behind targets same :=
    ⟨(around.behind targets same).1, Nat.le_trans (around.behind targets same).2 longer⟩
  header targets same :=
    ⟨(around.header targets same).1, Nat.le_trans (around.header targets same).2 longer⟩
  notExit := around.notExit
  apart := around.apart

/-- Without a loop there is nothing that jumps could lead to. -/
theorem around_none (graph : Graph) : Around none graph := by
  constructor <;> intro _ impossible <;> cases impossible

/-- Graphs with the same edges extend each other without a break. -/
theorem Extended.of_edges (sound : after.Sound) (grows : Grows loop current before after)
    (edges : after.edges = before.edges) : Extended loop current before false after where
  sound := sound
  grows := grows
  entered targets _ := by
    unfold Graph.Entered
    rw [edges]
    simp

/-- Extending again, behind the same block or a new one, adds up. -/
theorem Extended.trans {first second : Bool} (former : Extended loop current before first middle)
    (latter : Extended loop next middle second after)
    (behind : next = current ∨ before.blocks.length < next) :
    Extended loop current before (first || second) after where
  sound := latter.sound
  grows := former.grows.trans latter.grows behind
  entered targets same := by
    rw [latter.entered targets same, former.entered targets same, or_assoc, Bool.or_eq_true]

/-- A graph that grows without the jumps of the loop around it gets no new edge to the
block behind that loop. -/
theorem Extended.of_closed (around : Around loop before) (sound : after.Sound)
    (grows : Grows none current before after) : Extended loop current before false after where
  sound := sound
  grows := grows.anywhere
  entered targets same := by
    have inside := (around.behind targets same).2
    have notExit := (around.notExit targets same).1
    constructor
    · rintro ⟨source, edge⟩
      rcases grows.added source targets.behind edge with earlier | ⟨_, isExit | isNew | ⟨_, none, _⟩⟩
      · exact .inl ⟨source, earlier⟩
      · exact absurd isExit notExit
      · exact absurd inside (Nat.not_le.mpr isNew)
      · cases none
    · rintro (⟨source, edge⟩ | impossible)
      · exact ⟨source, grows.kept _ edge⟩
      · cases impossible

/-! ### Statements without statements inside -/

/-- A statement that control just runs past. -/
theorem Built.append (sound : before.Sound) (isOpen : before.Open current) (stmt : Stmt) :
    Built loop current before true false (some current, before.addStmt current stmt) where
  toExtended := .of_edges (sound.addStmt current stmt) (.addStmt current stmt) rfl
  goesOn := rfl
  isOpen id same := by
    cases same
    exact ⟨isOpen.addStmt stmt, .inl rfl⟩

/-- A statement that ends a block without a return leaves the block open. -/
theorem Extended.finish (loop : Option LoopTargets) (sound : before.Sound)
    (isOpen : before.Open current) (stmt : Stmt) (ending : Ending) (silent : ending ≠ .ret) :
    Extended loop current before false ((before.addStmt current stmt).setEnding current ending) :=
  .of_edges ((sound.addStmt current stmt).setEnding (isOpen.addStmt stmt).quiet silent)
    ((Grows.addStmt current stmt).trans (.setEnding ending) (.inl rfl)) rfl

/-- A return: control does not go on. -/
theorem Built.ret (around : Around loop before) (sound : before.Sound)
    (isOpen : before.Open current) (stmt : Stmt) :
    Built loop current before false false
      (none, ((before.addStmt current stmt).setEnding current .ret).addEdge current Graph.exit) where
  toExtended := by
    refine .of_closed around ((sound.addStmt current stmt).addReturn (isOpen.addStmt stmt)) ?_
    exact ((Grows.addStmt current stmt).trans (.setEnding .ret) (.inl rfl)).addEdge (.inl rfl)
      (.inl rfl)
  goesOn := rfl
  isOpen _ impossible := by cases impossible

/-- A jump out of a round of the loop around the statement. Only one to the block
behind the loop breaks. -/
theorem Built.jump (around : Around loop before) (sound : before.Sound)
    (isOpen : before.Open current) (stmt : Stmt) {ending : Ending} (silent : ending ≠ .ret)
    {target : LoopTargets -> BlockId} {broken : Bool}
    (leads : ∀ targets, target targets = if broken then targets.behind else targets.header) :
    Built loop current before false broken
      (none, ((Build.jump loop target ending current stmt).run before).2) := by
  have extended := Extended.finish loop sound isOpen stmt ending silent
  have opened := (isOpen.addStmt stmt).setEnding ending silent
  cases loop with
  | none =>
    refine ⟨⟨extended.sound, extended.grows, ?_⟩, rfl, ?_⟩
    · intro _ impossible
      cases impossible
    · intro _ impossible
      cases impossible
  | some targets =>
    have inside := around.mono extended.grows.longer
    have placed : (1 ≤ target targets ∧ target targets ≤
          ((before.addStmt current stmt).setEnding current ending).blocks.length) ∧
        target targets ≠ Graph.exit := by
      rw [leads]
      cases broken
      · exact ⟨inside.header targets rfl, (around.notExit targets rfl).2⟩
      · exact ⟨inside.behind targets rfl, (around.notExit targets rfl).1⟩
    refine ⟨⟨extended.sound.addEdge opened.toLive placed.1 placed.2, ?_, ?_⟩, rfl, ?_⟩
    · refine extended.grows.addEdge (.inl rfl) (.inr (.inr ⟨targets, rfl, ?_⟩))
      rw [leads]
      cases broken
      · exact .inr rfl
      · exact .inl rfl
    · rintro _ ⟨⟩
      have earlier := extended.entered targets rfl
      have apart := around.apart targets rfl
      unfold Graph.Entered at earlier ⊢
      have edges : ∀ source : Nat,
          (source, targets.behind) ∈
              ((Build.jump (some targets) target ending current stmt).run before).2.edges ↔
            (source, targets.behind) ∈ before.edges ∨ source = current ∧ broken = true := by
        intro source
        refine Graph.mem_edges_addEdge.trans (or_congr_right ?_)
        rw [Prod.mk.injEq, leads]
        cases broken
        · simp [apart]
        · simp
      simp only [edges, exists_or]
      simp
    · intro _ impossible
      cases impossible

/-! ### Branches that meet -/

/-- Steps of building run one after the other. -/
theorem Build.run_bind {α β : Type} (first : Build α) (rest : α -> Build β) :
    (first >>= rest).run graph = (rest (first.run graph).1).run (first.run graph).2 := rfl

/-- An edge from a block that control may never reach. -/
theorem run_edgeFrom (graph : Graph) (source : Option BlockId) (target : Nat) :
    (Build.edgeFrom source target).run graph = ((), graph.addEdges source.toList target) := by
  cases source with
  | none =>
    unfold Graph.addEdges
    rw [Option.toList_none, List.map_nil, List.append_nil]
    rfl
  | some id => rfl

/-- Ends of branches meet in a new block, in which control goes on if there are any. -/
theorem Built.join {broken : Bool} (extended : Extended loop current before broken middle)
    (around : Around loop before) (ends : List Nat)
    (live : ∀ id ∈ ends, middle.Live id)
    (behind : ∀ id ∈ ends, id = current ∨ before.blocks.length < id) (place : Option Span) :
    Built loop current before (!ends.isEmpty) broken
      (if ends.isEmpty then none else some middle.nextId,
        (middle.addBlock place none).addEdges ends middle.nextId) := by
  have fresh : middle.blocks.length < middle.nextId := Nat.lt_succ_self _
  have isNew : before.blocks.length < middle.nextId :=
    Nat.lt_of_le_of_lt extended.grows.longer fresh
  obtain ⟨notExit, quiet, unleft⟩ := extended.sound.fresh fresh
  have stays : ∀ id ∈ ends, (middle.addBlock place none).Live id := by
    intro id isEnd
    have grows : Grows none id middle (middle.addBlock place none) := .addBlock place none
    exact grows.live extended.sound Graph.returnsAt_addBlock (live id isEnd)
  have sound : ((middle.addBlock place none).addEdges ends middle.nextId).Sound :=
    (extended.sound.addBlock place none).addEdges ends stays (by simp [Graph.nextId]) notExit
  refine ⟨⟨sound, ?_, ?_⟩, ?_, ?_⟩
  · exact (extended.grows.trans (.addBlock place none) (.inl rfl)).addEdges ends behind
      (.inr (.inl isNew))
  · intro targets same
    have inside := (around.behind targets same).2
    rw [← extended.entered targets same]
    unfold Graph.Entered
    refine exists_congr fun source => ?_
    rw [Graph.mem_edges_addEdges]
    refine or_iff_left ?_
    rintro ⟨_, same⟩
    rw [same] at inside
    exact absurd isNew (Nat.not_lt.mpr inside)
  · cases ends <;> simp
  · intro id found
    cases ends with
    | nil => simp at found
    | cons first rest =>
      cases found
      have edge : (first, middle.nextId) ∈
          ((middle.addBlock place none).addEdges (first :: rest) middle.nextId).edges := by
        simp
      refine ⟨sound.open_target edge notExit ?_ ?_, .inr isNew⟩
      · exact Graph.returnsAt_addBlock.trans quiet
      · intro last edge
        rcases Graph.mem_edges_addEdges.mp edge with earlier | ⟨isEnd, _⟩
        · exact unleft last earlier
        · have inside := (live _ isEnd).inside.2
          omega

/-! ### Loops -/

/-- The graph with the header of a loop behind the block `current`. -/
def Graph.withHeader (graph : Graph) (current : Nat) (place : Span) : Graph :=
  (graph.branch current (some place) none).setEnding graph.nextId .loop

/-- The graph with the header and the first block of a loop. -/
def Graph.withRound (graph : Graph) (current : Nat) (place bodyPlace : Span) : Graph :=
  (graph.withHeader current place).branch graph.nextId (some bodyPlace) (some .loopBody)

/-- The graph with all three blocks of a loop. -/
def Graph.withLoop (graph : Graph) (current : Nat) (place bodyPlace : Span)
    (conditional : Bool) : Graph :=
  ((graph.withRound current place bodyPlace).addBlock (some place) none).addEdges
    (if conditional then [graph.nextId] else []) (graph.withRound current place bodyPlace).nextId

variable {place bodyPlace : Span} {conditional : Bool}

/-- A loop starts with its three blocks. -/
theorem run_openLoop :
    (Build.openLoop current place bodyPlace conditional).run graph =
      ((⟨(graph.withRound current place bodyPlace).nextId, graph.nextId⟩,
          (graph.withHeader current place).nextId),
        graph.withLoop current place bodyPlace conditional) := by
  cases conditional with
  | true => rfl
  | false =>
    unfold Graph.withLoop Graph.addEdges
    simp only [Bool.false_eq_true, if_false, List.map_nil, List.append_nil]
    rfl

/-- What holds where the body of a loop starts. -/
structure Opened (current : Nat) (before : Graph) (conditional : Bool) (targets : LoopTargets)
    (first : Nat) (after : Graph) : Prop where
  sound : after.Sound
  grows : Grows none current before after
  isOpen : after.Open first
  around : Around (some targets) after
  fresh : before.blocks.length < first ∧ before.blocks.length < targets.behind ∧
    before.blocks.length < targets.header
  different : targets.behind ≠ first
  quiet : after.returnsAt targets.behind = false
  unleft : ∀ target : Nat, (targets.behind, target) ∉ after.edges
  entered : after.Entered targets.behind ↔ conditional = true

/-- A loop opens behind an open block. -/
theorem Opened.withLoop (place bodyPlace : Span) (conditional : Bool) (sound : before.Sound)
    (isOpen : before.Open current) :
    Opened current before conditional
      ⟨(before.withRound current place bodyPlace).nextId, before.nextId⟩
      (before.withHeader current place).nextId
      (before.withLoop current place bodyPlace conditional) := by
  have headerSound : (before.withHeader current place).Sound :=
    (sound.branch isOpen.toLive).setEnding (sound.branch_open isOpen.toLive).quiet (by decide)
  have headerOpen : (before.withHeader current place).Open before.nextId :=
    (sound.branch_open isOpen.toLive).setEnding .loop (by decide)
  have roundSound : (before.withRound current place bodyPlace).Sound :=
    headerSound.branch headerOpen.toLive
  have roundOpen : (before.withRound current place bodyPlace).Open
      (before.withHeader current place).nextId :=
    headerSound.branch_open headerOpen.toLive
  have headerLive : (before.withRound current place bodyPlace).Live before.nextId :=
    (Graph.branch_grows none).live headerSound Graph.returnsAt_addBlock headerOpen.toLive
  have lengths : (before.withHeader current place).blocks.length = before.blocks.length + 1 ∧
      (before.withRound current place bodyPlace).blocks.length = before.blocks.length + 2 := by
    simp [Graph.withRound, Graph.withHeader, Graph.branch, Graph.setEnding, Graph.addEdge]
  have numbers : before.nextId = before.blocks.length + 1 ∧
      (before.withHeader current place).nextId = before.blocks.length + 2 ∧
      (before.withRound current place bodyPlace).nextId = before.blocks.length + 3 := by
    simp [Graph.nextId, lengths]
  obtain ⟨headerNumber, roundNumber, behindNumber⟩ := numbers
  have fresh : (before.withRound current place bodyPlace).blocks.length <
      (before.withRound current place bodyPlace).nextId := Nat.lt_succ_self _
  obtain ⟨notExit, quiet, unleft⟩ := roundSound.fresh fresh
  -- the last block and its edge, seen from the header
  have last : Grows none before.nextId (before.withRound current place bodyPlace)
      (before.withLoop current place bodyPlace conditional) := by
    refine (Grows.addBlock _ _).addEdges _ ?_ (.inr (.inl fresh))
    intro next isSource
    cases conditional
    · simp at isSource
    · exact .inl (List.mem_singleton.mp isSource)
  have steady : (before.withLoop current place bodyPlace conditional).returnsAt before.nextId =
      (before.withRound current place bodyPlace).returnsAt before.nextId :=
    Graph.returnsAt_addBlock
  have length : (before.withLoop current place bodyPlace conditional).blocks.length =
      before.blocks.length + 3 :=
    Graph.length_addBlock.trans (congrArg (· + 1) lengths.2)
  refine ⟨?_, ?_, ?_, ⟨?_, ?_, ?_, ?_⟩, ?_, ?_, ?_, ?_, ?_⟩
  · refine (roundSound.addBlock _ _).addEdges _ ?_ (by simp [Graph.nextId]) notExit
    intro next isSource
    cases conditional
    · simp at isSource
    · rw [List.mem_singleton.mp isSource]
      have grows : Grows none before.nextId (before.withRound current place bodyPlace)
          ((before.withRound current place bodyPlace).addBlock (some place) none) :=
        .addBlock _ _
      exact grows.live roundSound Graph.returnsAt_addBlock headerLive
  · have round : Grows none before.nextId (before.branch current (some place) none)
        (before.withRound current place bodyPlace) :=
      (Grows.setEnding .loop).trans (Graph.branch_grows none) (.inl rfl)
    exact (Graph.branch_grows none).trans (round.trans last (.inl rfl))
      (.inr (Nat.lt_succ_self _))
  · refine last.isOpen roundSound (fun _ _ => steady) roundOpen ?_
    simp [roundNumber, headerNumber]
  · rintro targets ⟨⟩
    simp [length, behindNumber]
  · rintro targets ⟨⟩
    simp [length, headerNumber]
  · rintro targets ⟨⟩
    exact ⟨notExit, headerOpen.notExit⟩
  · rintro targets ⟨⟩
    simp [behindNumber, headerNumber]
  · simp [roundNumber, behindNumber, headerNumber]
  · simp [roundNumber, behindNumber]
  · exact Graph.returnsAt_addBlock.trans quiet
  · intro target edge
    rcases Graph.mem_edges_addEdges.mp edge with earlier | ⟨isSource, _⟩
    · exact unleft target earlier
    · cases conditional
      · simp at isSource
      · simp [behindNumber, headerNumber] at isSource
  · constructor
    · rintro ⟨source, edge⟩
      rcases Graph.mem_edges_addEdges.mp edge with earlier | ⟨isSource, _⟩
      · have inside := (roundSound.target _ _ earlier).2
        exact absurd fresh (Nat.not_lt.mpr inside)
      · cases conditional
        · simp at isSource
        · rfl
    · rintro rfl
      exact ⟨before.nextId, Graph.mem_edges_addEdges.mpr (.inr ⟨List.mem_singleton_self _, rfl⟩)⟩

/-- Closing a loop leads the last block of its body to the header. -/
theorem run_closeLoop (targets : LoopTargets) (last : Option BlockId) :
    (Build.closeLoop targets last).run graph =
      (if ((graph.addEdges last.toList targets.header).predecessors targets.behind).isEmpty
        then none else some targets.behind, graph.addEdges last.toList targets.header) := by
  unfold Build.closeLoop
  rw [Build.run_bind, run_edgeFrom]
  rfl

/-- A loop completes if it is left from its header or by a break in its body. -/
theorem Built.closeLoop (around : Around loop before) {targets : LoopTargets} {first : Nat}
    (opened : Opened current before conditional targets first middle) {completed broken : Bool}
    {outcome : Option BlockId × Graph}
    (body : Built (some targets) first middle completed broken outcome) :
    Built loop current before (conditional || broken) false
      ((Build.closeLoop targets outcome.1).run outcome.2) := by
  obtain ⟨last, built⟩ := outcome
  have ends : ∀ id ∈ last.toList, id = first ∨ middle.blocks.length < id := by
    intro id isLast
    exact (body.isOpen id (Option.mem_toList.mp isLast)).2
  have inside := opened.around.mono body.grows.longer
  have behindInside := (opened.around.behind targets rfl).2
  have sound : (built.addEdges last.toList targets.header).Sound := by
    refine body.sound.addEdges _ ?_ (inside.header targets rfl) (inside.notExit targets rfl).2
    intro id isLast
    exact (body.isOpen id (Option.mem_toList.mp isLast)).1.toLive
  have round : Grows (some targets) first middle (built.addEdges last.toList targets.header) :=
    body.grows.addEdges _ ends (.inr (.inr ⟨targets, rfl, .inr rfl⟩))
  have grows : Grows none current before (built.addEdges last.toList targets.header) :=
    (opened.grows.anywhere.trans round (.inr opened.fresh.1)).outside opened.fresh.2.1
      opened.fresh.2.2
  have entered : (built.addEdges last.toList targets.header).Entered targets.behind ↔
      (conditional || broken) = true := by
    rw [Bool.or_eq_true, ← opened.entered, ← body.entered targets rfl]
    unfold Graph.Entered
    refine exists_congr fun source => ?_
    rw [Graph.mem_edges_addEdges]
    refine or_iff_left ?_
    rintro ⟨_, same⟩
    exact opened.around.apart targets rfl same
  have goesOn : ((built.addEdges last.toList targets.header).predecessors targets.behind).isEmpty =
      !(conditional || broken) := by
    rw [Bool.eq_iff_iff, List.isEmpty_iff, List.eq_nil_iff_forall_not_mem, Bool.not_eq_true',
      ← Bool.not_eq_true, ← entered]
    simp [Graph.Entered]
  rw [run_closeLoop, goesOn]
  refine ⟨.of_closed around sound grows, ?_, ?_⟩
  · cases conditional || broken <;> rfl
  · intro id found
    cases leaves : conditional || broken with
    | false => simp [leaves] at found
    | true =>
      simp only [leaves, Bool.not_true, Bool.false_eq_true, if_false, Option.some.injEq] at found
      subst found
      obtain ⟨source, edge⟩ := entered.mpr leaves
      refine ⟨sound.open_target edge (inside.notExit targets rfl).1 ?_ ?_, .inr opened.fresh.2.1⟩
      · rw [round.endings targets.behind behindInside opened.different, opened.quiet]
      · intro target edge
        rcases round.added targets.behind target edge with earlier | ⟨same | isNew, _⟩
        · exact opened.unleft target earlier
        · exact opened.different same
        · exact absurd behindInside (Nat.not_le.mpr isNew)

/-! ### All statements -/

/-- Building on in the block where control goes on. -/
theorem Built.behind {completed broken left : Bool} {outcome : Option BlockId × Graph}
    (former : Extended loop current before broken middle)
    (behind : next = current ∨ before.blocks.length < next)
    (latter : Built loop next middle completed left outcome) :
    Built loop current before completed (broken || left) outcome where
  toExtended := former.trans latter.toExtended behind
  goesOn := latter.goesOn
  isOpen id isLast := by
    have longer := former.grows.longer
    obtain ⟨isOpen, rfl | isNew⟩ := latter.isOpen id isLast
    · exact ⟨isOpen, behind⟩
    · exact ⟨isOpen, .inr (Nat.lt_of_le_of_lt longer isNew)⟩

/-- Building in any open block, inside any loop, completes and breaks as given. -/
def Builds (completed broken : Bool)
    (build : Option LoopTargets -> BlockId -> Build (Option BlockId)) : Prop :=
  ∀ ⦃loop : Option LoopTargets⦄ ⦃current : Nat⦄ ⦃before : Graph⦄, Around loop before →
    before.Sound → before.Open current →
    Built loop current before completed broken ((build loop current).run before)

variable {completed broken finished left : Bool}
  {body other : Option LoopTargets -> BlockId -> Build (Option BlockId)}

/-- A loop around a body. -/
theorem Builds.rounds (place bodyPlace : Span) (conditional : Bool)
    (inner : Builds completed broken body) (around : Around loop before)
    (sound : before.Sound) (isOpen : before.Open current) :
    let opened := (Build.openLoop current place bodyPlace conditional).run before
    let outcome := (body (some opened.1.1) opened.1.2).run opened.2
    Built loop current before (conditional || broken) false
      ((Build.closeLoop opened.1.1 outcome.1).run outcome.2) := by
  have opened := Opened.withLoop place bodyPlace conditional sound isOpen
  rw [run_openLoop]
  exact .closeLoop around opened (inner opened.around opened.sound opened.isOpen)

/-- Statements one behind the other. -/
theorem Builds.seq (former : Builds completed broken body) (latter : Builds finished left other) :
    Builds (completed && finished) (broken || (completed && left)) (fun loop current => do
      match <- body loop current with
      | some next => other loop next
      | none => return none) := by
  intro loop current before around sound isOpen
  have first := former around sound isOpen
  rw [StateT.run_bind]
  rcases outcome : (body loop current).run before with ⟨next, middle⟩
  rw [outcome] at first
  cases next with
  | none =>
    have stops : completed = false := first.goesOn.symm
    subst stops
    simp only [Bool.false_and, Bool.or_false]
    exact first
  | some next =>
    have goesOn : completed = true := first.goesOn.symm
    subst goesOn
    simp only [Bool.true_and]
    obtain ⟨isOpen, behind⟩ := first.isOpen next rfl
    exact .behind first.toExtended behind
      (latter (around.mono first.grows.longer) first.sound isOpen)

/-- The outcome of building a branch of a condition that stands at the end of the block
`source`. That block stays live: it may have another branch. -/
structure Branched (loop : Option LoopTargets) (source : Nat) (before : Graph)
    (completed broken : Bool) (outcome : Option BlockId × Graph) : Prop
    extends Extended loop source before broken outcome.2 where
  goesOn : outcome.1.isSome = completed
  live : ∀ id : Nat, outcome.1 = some id →
    outcome.2.Live id ∧ (id = source ∨ before.blocks.length < id)
  steady : outcome.2.returnsAt source = before.returnsAt source

/-- A branch in a block of its own. -/
theorem Builds.branched (inner : Builds completed broken body) {source : Nat}
    (around : Around loop before) (sound : before.Sound) (live : before.Live source)
    (place : Option Span) (kind : Option BranchKind) :
    Branched loop source before completed broken
      ((body loop before.nextId).run (before.branch source place kind)) := by
  have fresh : before.blocks.length < before.nextId := Nat.lt_succ_self _
  have grows : Grows none source before (before.branch source place kind) :=
    Graph.branch_grows none
  have start : Extended loop source before false (before.branch source place kind) :=
    .of_closed around (sound.branch live) grows
  have built := inner (around.mono grows.longer) (sound.branch live) (sound.branch_open live)
  refine ⟨?_, built.goesOn, ?_, ?_⟩
  · exact start.trans built.toExtended (.inr fresh)
  · intro id found
    have longer := grows.longer
    obtain ⟨isOpen, rfl | isNew⟩ := built.isOpen id found
    · exact ⟨isOpen.toLive, .inr fresh⟩
    · exact ⟨isOpen.toLive, .inr (Nat.lt_of_le_of_lt longer isNew)⟩
  · have inside := live.inside.2
    rw [built.grows.endings source (Nat.le_trans inside grows.longer) ?_]
    · exact Graph.returnsAt_addBlock
    · rintro rfl
      exact absurd fresh (Nat.not_lt.mpr inside)

/-- The ends of two branches lead to a new block. -/
theorem run_meet (first second : Option BlockId) (place : Option Span) :
    (do
      let merge <- Build.newBlock place none
      Build.edgeFrom first merge
      Build.edgeFrom second merge
      return if first.isSome || second.isSome then some merge else none :
        Build (Option BlockId)).run graph =
      (if first.isSome || second.isSome then some graph.nextId else none,
        (graph.addBlock place none).addEdges (first.toList ++ second.toList) graph.nextId) := by
  rw [Build.run_bind, Build.run_bind, run_edgeFrom, Build.run_bind, run_edgeFrom,
    Graph.addEdges_addEdges]
  rfl

/-- Two branches one behind the other meet in a new block. -/
theorem Branched.meet {first second : Option BlockId × Graph} (around : Around loop before)
    (former : Branched loop current before completed broken first)
    (latter : Branched loop current first.2 finished left second) (place : Option Span) :
    Built loop current before (completed || finished) (broken || left)
      ((do
        let merge <- Build.newBlock place none
        Build.edgeFrom first.1 merge
        Build.edgeFrom second.1 merge
        return if first.1.isSome || second.1.isSome then some merge else none :
          Build (Option BlockId)).run second.2) := by
  have longer := former.grows.longer
  have extended := former.toExtended.trans latter.toExtended (.inl rfl)
  rw [run_meet]
  have joined := Built.join extended around (first.1.toList ++ second.1.toList) ?_ ?_ place
  · rw [← former.goesOn, ← latter.goesOn]
    obtain ⟨first | first, _⟩ := first <;> obtain ⟨second | second, _⟩ := second <;> exact joined
  · intro id isEnd
    rcases List.mem_append.mp isEnd with isFirst | isSecond
    · exact latter.grows.live former.sound latter.steady
        (former.live id (Option.mem_toList.mp isFirst)).1
    · exact (latter.live id (Option.mem_toList.mp isSecond)).1
  · intro id isEnd
    rcases List.mem_append.mp isEnd with isFirst | isSecond
    · exact (former.live id (Option.mem_toList.mp isFirst)).2
    · rcases (latter.live id (Option.mem_toList.mp isSecond)).2 with same | isNew
      · exact .inl same
      · exact .inr (Nat.lt_of_le_of_lt longer isNew)

/-- What follows the end of control is left out. -/
theorem stmts_cons (loop : Option LoopTargets) (current : BlockId) (first : Stmt)
    (rest : List Stmt) : Build.stmts loop (some current) (first :: rest) = (do
      match <- Build.stmt loop current first with
      | some next => Build.stmts loop (some next) rest
      | none => return none) := by
  rw [Build.stmts]
  congr 1
  funext next
  cases next with
  | some next => rfl
  | none => cases rest <;> rfl

mutual

/-- Building a statement gives what the statement completes and breaks. -/
theorem built_stmt : (stmt : Stmt) -> Builds (completes stmt) (breaks stmt) (Build.stmt · · stmt)
  | .block body _ => by
    unfold completes breaks Build.stmt
    exact built_stmts body
  | .ret value span => by
    unfold completes breaks Build.stmt
    exact fun _ _ _ around sound isOpen => .ret around sound isOpen (.ret value span)
  | .brk span => by
    unfold completes breaks Build.stmt
    exact fun _ _ _ around sound isOpen =>
      .jump around sound isOpen (.brk span) (by decide) fun _ => rfl
  | .cont span => by
    unfold completes breaks Build.stmt
    exact fun _ _ _ around sound isOpen =>
      .jump around sound isOpen (.cont span) (by decide) fun _ => rfl
  | .whileLoop _ body bodySpan span => by
    intro loop current before around sound isOpen
    simp only [completes, breaks, Build.stmt]
    have rounds := Builds.rounds span bodySpan true (built_stmts body) around sound isOpen
    exact rounds
  | .loop body bodySpan span => by
    intro loop current before around sound isOpen
    simp only [completes, breaks, Build.stmt]
    have rounds := Builds.rounds span bodySpan false (built_stmts body) around sound isOpen
    exact rounds
  | .forLoop _ test _ body bodySpan span => by
    intro loop current before around sound isOpen
    simp only [completes, breaks, Build.stmt]
    have rounds := Builds.rounds span bodySpan test.isSome (built_stmts body) around sound isOpen
    exact rounds
  | .cond test body bodySpan otherwise span => by
    intro loop current before around sound isOpen
    unfold completes breaks Build.stmt
    let stmt : Stmt := .cond test body bodySpan otherwise span
    have finished := Extended.finish loop sound isOpen stmt .cond (by decide)
    have stays := (isOpen.addStmt stmt).setEnding .cond (by decide)
    have around := around.mono finished.grows.longer
    have former := Builds.branched (built_stmts body) around finished.sound stays.toLive
      (some bodySpan) (some .ifBranch)
    have latter := built_elseBranch (around.mono former.grows.longer) former.sound
      (former.grows.live finished.sound former.steady stays.toLive) otherwise
    have met := Built.behind finished (.inl rfl) (former.meet around latter (some span))
    exact met
  | .expr _ | .letIn _ | .instr _ | .const _ | .struct _ | .assign _ _ _ | .write _ _ _ | .bad _ => by
    simp only [completes, breaks, Build.stmt]
    exact fun _ _ _ _ sound isOpen => .append sound isOpen _

/-- Building the other branch of a condition gives what the branch completes and breaks. -/
theorem built_elseBranch {loop : Option LoopTargets} {current : Nat} {before : Graph}
    (around : Around loop before) (sound : before.Sound) (live : before.Live current) :
    (otherwise : Option Stmt) ->
    Branched loop current before (completesElse otherwise) (breaksElse otherwise)
      ((Build.elseBranch loop current otherwise).run before)
  | none => by
    unfold completesElse breaksElse Build.elseBranch
    refine ⟨.of_edges sound .refl rfl, rfl, ?_, rfl⟩
    rintro id ⟨⟩
    exact ⟨live, .inl rfl⟩
  | some otherwise => by
    unfold completesElse breaksElse Build.elseBranch
    exact Builds.branched (built_stmt otherwise) around sound live _ _

/-- Building statements gives what the statements complete and break. -/
theorem built_stmts : (body : List Stmt) ->
    Builds (completesAll body) (breaksAll body) (fun loop current =>
      Build.stmts loop (some current) body)
  | [] => by
    intro loop current before _ sound isOpen
    unfold completesAll breaksAll Build.stmts
    refine ⟨.of_edges sound .refl rfl, rfl, ?_⟩
    rintro id ⟨⟩
    exact ⟨isOpen, .inl rfl⟩
  | first :: rest => by
    unfold completesAll breaksAll
    simp only [stmts_cons]
    exact Builds.seq (built_stmt first) (built_stmts rest)

end

/-! ### Whole bodies -/

/-- The graph that building a body starts from. -/
def Graph.bare (place : Span) : Graph :=
  (Graph.empty.addBlock (some place) none).addBlock none none

/-- Building a body starts from a sound graph. -/
theorem sound_bare (place : Span) : (Graph.bare place).Sound where
  numbered := rfl
  ends := Nat.le_refl 2
  source _ _ edge := by cases edge
  target _ _ edge := by cases edge
  returns _ _ edge := by cases edge

/-- Building a body starts in its entry. -/
theorem open_bare (place : Span) : (Graph.bare place).Open Graph.entry where
  inside := ⟨Nat.le_refl 1, Nat.le_succ 1⟩
  quiet := rfl
  visited := .refl
  notExit := by decide
  unleft _ edge := by cases edge

/-- A body is built as its statements complete. -/
theorem built_body (body : Body) (place : Span) :
    Built none Graph.entry (Graph.bare place) (completesAll body.stmts) (breaksAll body.stmts)
      ((Build.stmts none (some Graph.entry) body.stmts).run (Graph.bare place)) :=
  built_stmts body.stmts (around_none _) (sound_bare place) (open_bare place)

/-- The flow graph of a body leads from where its statements end to the exit. -/
theorem graph_eq (body : Body) (place : Span) :
    Flow.graph (some body) place =
      let outcome := (Build.stmts none (some Graph.entry) body.stmts).run (Graph.bare place)
      outcome.2.addEdges outcome.1.toList Graph.exit := by
  have start : Flow.graph (some body) place = ((do
      let last <- Build.stmts none (some Graph.entry) body.stmts
      Build.edgeFrom last Graph.exit : Build Unit).run (Graph.bare place)).2 := rfl
  rw [start, Build.run_bind, run_edgeFrom]

/-- Without the last edges of a flow graph, control does not get to the exit. -/
theorem Graph.Sound.not_visited_exit (sound : graph.Sound) : ¬ graph.Visited Graph.exit := by
  intro visited
  rcases Relation.ReflTransGen.cases_tail visited with same | ⟨source, _, step⟩
  · cases same
  · obtain ⟨quiet, edge⟩ := Graph.mem_silentSuccessors.mp step
    rw [(sound.returns source Graph.exit edge).mp rfl] at quiet
    cases quiet

/-- Control falls off the end of a body exactly when the body completes. -/
theorem visited_exit_iff (body : Body) (place : Span) :
    (Flow.graph (some body) place).Visited Graph.exit ↔ completesAll body.stmts = true := by
  have built := built_body body place
  rw [graph_eq, ← built.goesOn]
  rcases outcome : (Build.stmts none (some Graph.entry) body.stmts).run (Graph.bare place)
    with ⟨last, graph⟩
  rw [outcome] at built
  cases last with
  | none =>
    have unchanged : graph.addEdges [] Graph.exit = graph := by
      simp [Graph.addEdges]
    simp only [Option.toList_none, Option.isSome_none, unchanged, Bool.false_eq_true, iff_false]
    exact built.sound.not_visited_exit
  | some id =>
    -- control goes on in an open block, and from there along the last edge
    obtain ⟨isOpen, _⟩ := built.isOpen id rfl
    have visited : (graph.addEdges [id] Graph.exit).Visited id :=
      isOpen.visited.mono (fun _ edge => Graph.mem_edges_addEdges.mpr (.inl edge))
        fun _ _ _ => rfl
    simp only [Option.toList_some, Option.isSome_some, iff_true]
    exact visited.step isOpen.quiet (Graph.mem_edges_addEdges.mpr (.inr ⟨by simp, rfl⟩))

/-- The flow graph of a body has the blocks that its edges lead to, and an entry. -/
theorem graph_closed (body : Body) (place : Span) :
    (∀ source target : Nat, (source, target) ∈ (Flow.graph (some body) place).edges →
      target ∈ (Flow.graph (some body) place).ids) ∧
    Graph.entry ∈ (Flow.graph (some body) place).ids := by
  have sound := (built_body body place).sound
  rw [graph_eq]
  refine ⟨?_, sound.mem_ids.mpr ⟨by decide, Nat.le_trans (by decide) sound.ends⟩⟩
  intro source target edge
  rcases Graph.mem_edges_addEdges.mp edge with earlier | ⟨_, isExit⟩
  · exact sound.mem_ids.mpr (sound.target source target earlier)
  · rw [isExit]
    exact sound.mem_ids.mpr ⟨by decide, sound.ends⟩

/-- The search for the exit of a flow graph decides whether control gets there. -/
theorem Graph.allReturn_iff (inside : ∀ source target : Nat, (source, target) ∈ graph.edges →
    target ∈ graph.ids) (start : Graph.entry ∈ graph.ids) :
    graph.allReturn = true ↔ ¬ graph.Visited Graph.exit := by
  unfold allReturn
  rw [Bool.not_eq_true', ← Bool.not_eq_true, List.contains_iff_mem, Graph.mem_reach_iff]
  · simp [Visited]
  · intro source target leads
    exact inside source target (mem_silentSuccessors.mp leads).2
  · simpa using start

/-- Every path through a body returns exactly when the body does not complete. -/
theorem allReturn_graph_iff (body : Body) (place : Span) :
    (Flow.graph (some body) place).allReturn = true ↔ completesAll body.stmts = false := by
  obtain ⟨inside, start⟩ := graph_closed body place
  rw [Graph.allReturn_iff inside start, visited_exit_iff, Bool.not_eq_true]

end UnitCheck.Flow
