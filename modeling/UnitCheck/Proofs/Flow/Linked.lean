import UnitCheck.Proofs.Flow.Chart

/-!
# Linked blocks

The edges of a graph stand in one list, and how a block ends is one field, from which the rest
is read off. The same graphs come from a builder whose blocks have lists of their own for the
blocks behind and in front of them and two marks for their ends, each written where the
builder links or ends a block, and which looks at the marks and at those lists to find out
where control goes on. `mirrors_stmt` relates the two statement by statement, and
`linkedGraph_eq` says that the lists and marks at the end of a body are those of its graph.
-/

namespace UnitCheck.Flow

/-- A block with the blocks that it is linked to in either direction. -/
structure LinkedBlock extends Block where
  successors : List BlockId
  predecessors : List BlockId
  /-- Whether the block was ended with a return. -/
  returns : Bool
  /-- Whether control may still run past the last statement of the block. -/
  fallsThrough : Bool

/-- The blocks of a body so far, with the targets of the loops that building is inside of,
innermost first. -/
structure LinkedSite where
  blocks : List LinkedBlock
  loops : List LoopTargets

/-- The block of that number. -/
def LinkedSite.block? (site : LinkedSite) (id : BlockId) : Option LinkedBlock :=
  site.blocks.find? (·.id = id)

/-- A step of building linked blocks. -/
abbrev Linking := StateM LinkedSite

namespace Linking

/-- Adds an empty block and gives its number. -/
def newBlock (place : Option Span) (branch : Option BranchKind) : Linking BlockId :=
  modifyGet fun site => (site.blocks.length + 1, { site with
    blocks := site.blocks ++
      [⟨⟨site.blocks.length + 1, [], .fallThrough, place, branch⟩, [], [], false, true⟩] })

/-- Changes the block of that number. -/
def change (id : BlockId) (step : LinkedBlock -> LinkedBlock) : Linking Unit :=
  modify fun site => { site with
    blocks := site.blocks.map fun block => if block.id = id then step block else block }

/-- Links two blocks with each other. -/
def link (source target : BlockId) : Linking Unit := do
  change source fun block => { block with successors := block.successors ++ [target] }
  change target fun block => { block with predecessors := block.predecessors ++ [source] }

/-- Adds a statement to a block. -/
def append (id : BlockId) (stmt : Stmt) : Linking Unit :=
  change id fun block => { block with stmts := block.stmts ++ [stmt] }

/-- Links a block that control runs past, if it does, and says whether it does. -/
def linkPast (last : Option BlockId) (target : BlockId) : Linking Bool := do
  let site <- get
  match last with
  | some id =>
    if (site.block? id).any (·.fallsThrough) then
      link id target
      return true
    else return false
  | none => return false

/-- Links the end of the branch that is taken when the condition at the end of `current`
fails. Without a branch that is `current` itself, whatever its mark says. -/
def linkElse (current : BlockId) (otherwise : Option Stmt) (last : Option BlockId)
    (target : BlockId) : Linking Bool :=
  match otherwise with
  | some _ => linkPast last target
  | none => do
    link current target
    return true

/-- Adds the last statement of a block and notes how the block ends. -/
def finish (id : BlockId) (stmt : Stmt) (note : LinkedBlock -> LinkedBlock) : Linking Unit := do
  append id stmt
  change id note

/-- Ends a block with a jump to one of the targets of the innermost loop. -/
def jump (target : LoopTargets -> BlockId) (ending : Ending) (current : BlockId)
    (stmt : Stmt) : Linking Unit := do
  finish current stmt fun block => { block with ending := ending, fallsThrough := false }
  let site <- get
  match site.loops with
  | targets :: _ => link current (target targets)
  | [] => return

/-- The blocks of a loop. Control only gets behind it from the header if it has a condition. -/
def openLoop (current : BlockId) (place bodyPlace : Span) (conditional : Bool) :
    Linking (LoopTargets × BlockId) := do
  let header <- newBlock (some place) none
  change header fun block => { block with ending := .loop }
  link current header
  let body <- newBlock (some bodyPlace) (some .loopBody)
  link header body
  let behind <- newBlock (some place) none
  if conditional then link header behind
  return (⟨behind, header⟩, body)

/-- Goes into a loop. -/
def enter (targets : LoopTargets) : Linking Unit :=
  modify fun site => { site with loops := targets :: site.loops }

/-- Goes out of a loop. Control goes on behind it if a block is linked to the one there. -/
def closeLoop (targets : LoopTargets) (last : Option BlockId) : Linking (Option BlockId) := do
  let _ <- linkPast last targets.header
  modify fun site => { site with loops := site.loops.tail }
  let site <- get
  return if (site.block? targets.behind).any (·.predecessors.isEmpty) then none
    else some targets.behind

mutual

/-- Builds a statement behind the statements of the block `current`. -/
def stmt (current : BlockId) : Stmt -> Linking (Option BlockId)
  | .block body _ => stmts (some current) body
  | .ret value span => do
    finish current (.ret value span) fun block =>
      { block with ending := .ret, returns := true, fallsThrough := false }
    link current Graph.exit
    return none
  | .brk span => do
    jump (·.behind) .brk current (.brk span)
    return none
  | .cont span => do
    jump (·.header) .cont current (.cont span)
    return none
  | .cond test body bodySpan otherwise span => do
    finish current (.cond test body bodySpan otherwise span) fun block =>
      { block with ending := .cond }
    let first <- newBlock (some bodySpan) (some .ifBranch)
    link current first
    let afterIf <- stmts (some first) body
    let afterElse <- elseBranch current otherwise
    let merge <- newBlock (some span) none
    let pastIf <- linkPast afterIf merge
    let pastElse <- linkElse current otherwise afterElse merge
    return if pastIf || pastElse then some merge else none
  | .whileLoop _ body bodySpan span => do
    let (targets, first) <- openLoop current span bodySpan true
    enter targets
    let last <- stmts (some first) body
    closeLoop targets last
  | .loop body bodySpan span => do
    let (targets, first) <- openLoop current span bodySpan false
    enter targets
    let last <- stmts (some first) body
    closeLoop targets last
  | .forLoop _ test _ body bodySpan span => do
    let (targets, first) <- openLoop current span bodySpan test.isSome
    enter targets
    let last <- stmts (some first) body
    closeLoop targets last
  | other => do
    append current other
    return some current

/-- Builds the branch that is taken when the condition at the end of `current` fails, if
there is one. -/
def elseBranch (current : BlockId) : Option Stmt -> Linking (Option BlockId)
  | none => return some current
  | some otherwise => do
    let first <- newBlock (some otherwise.span) (some .elseBranch)
    link current first
    stmt first otherwise

/-- Builds statements one behind the other. -/
def stmts : Option BlockId -> List Stmt -> Linking (Option BlockId)
  | current, [] => return current
  | none, _ => return none
  | some current, first :: rest => do
    let next <- stmt current first
    stmts next rest

end

end Linking

/-- The linked blocks of a body, with the loops that have not been left at its end. -/
def linkedGraph (body : Option Body) (place : Span) : LinkedSite :=
  ((do
    let entry <- Linking.newBlock (some place) none
    let exit <- Linking.newBlock none none
    match body with
    | none => Linking.link entry exit
    | some body =>
      let last <- Linking.stmts (some entry) body.stmts
      let _ <- Linking.linkPast last exit
      return : Linking Unit).run ⟨[], []⟩).2

/-! ### A graph as linked blocks -/

/-- The block with what the edges of the graph say about it. -/
def Graph.link (graph : Graph) (block : Block) : LinkedBlock :=
  ⟨block, graph.successors block.id, graph.predecessors block.id, block.returns,
    block.fallsThrough⟩

/-- The blocks of a graph, linked along its edges. -/
def Graph.linked (graph : Graph) : List LinkedBlock := graph.blocks.map graph.link

/-- Control may run past the end of the block. -/
def Past (graph : Graph) (id : Nat) : Prop :=
  ∃ block, graph.block? id = some block ∧ block.fallsThrough = true

variable {entries : List (Stmt × Standing)} {here : Standing} {loops : List LoopTargets}
  {graph before after : Graph} {current id source target : Nat} {α β : Type}

theorem Graph.successors_addEdge : (graph.addEdge source target).successors id =
    graph.successors id ++ if id = source then [target] else [] := by
  simp only [successors, addEdge, List.filter_append, List.map_append]
  by_cases same : id = source
  · simp [same]
  · simp [same, Ne.symm same]

theorem Graph.predecessors_addEdge : (graph.addEdge source target).predecessors id =
    graph.predecessors id ++ if id = target then [source] else [] := by
  simp only [predecessors, addEdge, List.filter_append, List.map_append]
  by_cases same : id = target
  · simp [same]
  · simp [same, Ne.symm same]

theorem Blank.past (blank : Blank graph id) : Past graph id := by
  obtain ⟨block, found, ending⟩ := blank
  exact ⟨block, found, by simp [Block.fallsThrough, ending]⟩

/-- Control runs past a block that no jump has left and that does not return. -/
theorem Still.past (still : Still graph id) (quiet : graph.returnsAt id = false) :
    Past graph id := by
  obtain ⟨block, found, silent⟩ := still
  refine ⟨block, found, ?_⟩
  rw [Graph.returnsAt, found, Option.any_some, Block.returns, decide_eq_false_iff_not] at quiet
  unfold Block.fallsThrough
  revert silent quiet
  cases block.ending <;> simp [Ending.jumps]

theorem Past.mono (past : Past before id) (within : before.Within after) : Past after id := by
  obtain ⟨block, found, falls⟩ := past
  exact ⟨block, within id block found, falls⟩

/-! ### Operations on linked blocks -/

namespace Linking

/-- The linking step does to the linked blocks of the graph what the other step does to the
graph, has the same result and leaves the loops as they are. -/
def Mirrors (loops : List LoopTargets) (linking : Linking α) (build : Build α) (graph : Graph) :
    Prop :=
  linking.run ⟨graph.linked, loops⟩ =
    ((build.run graph).1, ⟨(build.run graph).2.linked, loops⟩)

theorem Mirrors.pure (value : α) (graph : Graph) :
    Mirrors loops (Pure.pure value) (Pure.pure value) graph := rfl

theorem Mirrors.bind {first : Linking α} {plain : Build α} {rest : α -> Linking β}
    {plainRest : α -> Build β} (former : Mirrors loops first plain graph)
    (latter : Mirrors loops (rest (plain.run graph).1) (plainRest (plain.run graph).1)
      (plain.run graph).2) :
    Mirrors loops (first >>= rest) (plain >>= plainRest) graph := by
  unfold Mirrors
  rw [StateT.run_bind, former, Build.run_bind]
  exact latter

/-- A step without a result that another step uses. -/
theorem Mirrors.seq {first : Linking α} {plain : Build α} {rest : Linking β} {plainRest : Build β}
    (former : Mirrors loops first plain graph)
    (latter : Mirrors loops rest plainRest (plain.run graph).2) :
    Mirrors loops (first >>= fun _ => rest) (plain >>= fun _ => plainRest) graph :=
  former.bind latter

/-- A step whose result the other step need not look for. -/
theorem Mirrors.known {first : Linking α} {plain : Build Unit} {value : α} {rest : α -> Linking β}
    {plainRest : Build β} (former : Mirrors loops first (do plain; return value) graph)
    (latter : Mirrors loops (rest value) plainRest (plain.run graph).2) :
    Mirrors loops (first >>= rest) (plain >>= fun _ => plainRest) graph := by
  unfold Mirrors
  rw [StateT.run_bind, former, Build.run_bind]
  exact latter

/-- Linked blocks are looked up like those of the graph. -/
theorem block?_linked : (⟨graph.linked, loops⟩ : LinkedSite).block? id =
    (graph.block? id).map graph.link := by
  unfold LinkedSite.block? Graph.linked Graph.block?
  rw [List.find?_map]
  rfl

theorem mirrors_newBlock (sound : graph.Sound) (place : Option Span)
    (branch : Option BranchKind) :
    Mirrors loops (newBlock place branch) (Build.newBlock place branch) graph := by
  have successors : graph.successors graph.nextId = [] := by
    refine List.eq_nil_iff_forall_not_mem.mpr fun target isTarget => ?_
    exact (sound.fresh (Nat.lt_succ_self _)).2.2 target (Graph.mem_successors.mp isTarget)
  have predecessors : graph.predecessors graph.nextId = [] := by
    refine List.eq_nil_iff_forall_not_mem.mpr fun source isSource => ?_
    exact Nat.not_succ_le_self _ (sound.target _ _ (Graph.mem_predecessors.mp isSource)).2
  have fresh : (graph.addBlock place branch).linked = graph.linked ++
      [⟨⟨graph.nextId, [], .fallThrough, place, branch⟩, [], [], false, true⟩] := by
    change (graph.blocks ++ [_]).map graph.link = _
    rw [List.map_append, List.map_singleton, Graph.link, successors, predecessors]
    rfl
  have length : graph.linked.length = graph.blocks.length := List.length_map _
  refine Eq.trans ?_
    (congrArg (fun blocks => (graph.nextId, (⟨blocks, loops⟩ : LinkedSite))) fresh.symm)
  simp [newBlock, modifyGet, MonadStateOf.modifyGet, StateT.modifyGet, StateT.run, length,
    Graph.nextId, Pure.pure]

theorem mirrors_link (source target : BlockId) (graph : Graph) :
    Mirrors loops (link source target) (Build.edge source target) graph := by
  have linked : (graph.addEdge source target).linked = (graph.linked.map fun block =>
      if block.id = source then
        { block with successors := block.successors ++ [target] } else block).map fun block =>
      if block.id = target then
        { block with predecessors := block.predecessors ++ [source] } else block := by
    unfold Graph.linked
    rw [List.map_map, List.map_map]
    refine List.map_congr_left fun block _ => ?_
    simp only [Graph.link, Graph.successors_addEdge, Graph.predecessors_addEdge,
      Function.comp_apply]
    by_cases isSource : block.id = source <;> by_cases isTarget : block.id = target
    · simp only [if_pos isSource, if_pos isTarget]
    · simp only [if_pos isSource, if_neg isTarget, List.append_nil]
    · simp only [if_neg isSource, if_pos isTarget, List.append_nil]
    · simp only [if_neg isSource, if_neg isTarget, List.append_nil]
  exact (congrArg (fun blocks => ((), (⟨blocks, loops⟩ : LinkedSite))) linked).symm

/-- A change of a block by its number, as far as the blocks of the graph go. -/
theorem mirrors_change (step : LinkedBlock -> LinkedBlock) (plain : Block -> Block)
    (same : ∀ block ∈ graph.blocks, block.id = id →
      step (graph.link block) = graph.link (plain block)) :
    Mirrors loops (change id step) (modify (·.update id plain)) graph := by
  have linked : (graph.update id plain).linked = graph.linked.map fun block =>
      if block.id = id then step block else block := by
    change (graph.blocks.map _).map graph.link = (graph.blocks.map graph.link).map _
    rw [List.map_map, List.map_map]
    refine List.map_congr_left fun block isBlock => ?_
    change graph.link (if block.id = id then plain block else block) =
      if block.id = id then step (graph.link block) else graph.link block
    split
    · next number => exact (same block isBlock number).symm
    · rfl
  exact (congrArg (fun blocks => ((), (⟨blocks, loops⟩ : LinkedSite))) linked).symm

theorem mirrors_append (id : BlockId) (stmt : Stmt) (graph : Graph) :
    Mirrors loops (append id stmt) (Build.append id stmt) graph :=
  mirrors_change _ _ fun _ _ _ => rfl

/-- A block without an ending gets one. -/
theorem mirrors_ending (sound : graph.Sound) (blank : Blank graph id) (ending : Ending)
    (step : LinkedBlock -> LinkedBlock)
    (same : ∀ block, block.ending = .fallThrough →
      step (graph.link block) = graph.link { block with ending := ending }) :
    Mirrors loops (change id step) (modify (·.setEnding id ending)) graph := by
  refine mirrors_change step _ fun block isBlock number => same block ?_
  obtain ⟨found, isFound, isBlank⟩ := blank
  have own := sound.block?_of_mem isBlock
  rw [number, isFound] at own
  cases own
  exact isBlank

/-- The last statement of a block that had no ending. -/
theorem mirrors_finish (sound : graph.Sound) (blank : Blank graph id) (stmt : Stmt)
    (ending : Ending) (step : LinkedBlock -> LinkedBlock)
    (same : ∀ block, block.ending = .fallThrough →
      step (graph.link block) = graph.link { block with ending := ending }) :
    Mirrors loops (finish id stmt step) (Build.finish id stmt ending) graph :=
  (mirrors_append id stmt graph).seq (mirrors_ending (sound.addStmt id stmt)
    ((Puts.append blank stmt).found blank) ending step same)

/-- The end of statements that control runs past. -/
theorem mirrors_linkPast (loops : List LoopTargets) (last : Option BlockId) (target : BlockId)
    (past : ∀ id : Nat, last = some id → Past graph id) :
    Mirrors loops (linkPast last target) (do
      Build.edgeFrom last target
      return last.isSome) graph := by
  cases last with
  | none => rfl
  | some id =>
    obtain ⟨block, found, falls⟩ := past id rfl
    have marked : ((⟨graph.linked, loops⟩ : LinkedSite).block? id).any (·.fallsThrough) = true := by
      rw [block?_linked, found]
      exact falls
    have links : Mirrors loops (do link id target; return true) (do
        Build.edge id target
        return true) graph := (mirrors_link id target graph).seq (.pure true _)
    have branch : (linkPast (some id) target).run ⟨graph.linked, loops⟩ =
        (if ((⟨graph.linked, loops⟩ : LinkedSite).block? id).any (·.fallsThrough) then do
          link id target
          return true
        else return false : Linking Bool).run ⟨graph.linked, loops⟩ := rfl
    rw [if_pos marked] at branch
    exact branch.trans links

theorem mirrors_jump (sound : graph.Sound) (blank : Blank graph current) (stmt : Stmt)
    {ending : Ending} (jumps : ending.jumps = true) (target : LoopTargets -> BlockId) :
    Mirrors loops (jump target ending current stmt)
      (Build.jump loops.head? target ending current stmt) graph := by
  refine (mirrors_finish sound blank stmt ending _ ?_).seq ?_
  · intro block isBlank
    cases ending <;> cases jumps <;> simp [Graph.link, Block.returns, Block.fallsThrough, isBlank]
  · cases loops with
    | nil => rfl
    | cons targets _ => exact mirrors_link current (target targets) _

/-- Ends of branches that control runs past meet in a new block. -/
theorem mirrors_meet (sound : graph.Sound) (place : Option Span) (otherwise : Option Stmt)
    (first second : Option BlockId) (single : otherwise = none → second = some current)
    (past : ∀ id : Nat, first = some id ∨ second = some id → Past graph id) :
    Mirrors loops (do
      let merge <- newBlock place none
      let pastIf <- linkPast first merge
      let pastElse <- linkElse current otherwise second merge
      return if pastIf || pastElse then some merge else none) (do
        let merge <- Build.newBlock place none
        Build.edgeFrom first merge
        Build.edgeFrom second merge
        return if first.isSome || second.isSome then some merge else none) graph := by
  have within : graph.Within (graph.addBlock place none) := .append rfl
  have one := mirrors_linkPast loops first graph.nextId
    fun id isEnd => (past id (.inl isEnd)).mono within
  have other : Mirrors loops (linkElse current otherwise second graph.nextId) (do
      Build.edgeFrom second graph.nextId
      return second.isSome)
        ((Build.edgeFrom first graph.nextId).run (graph.addBlock place none)).2 := by
    cases otherwise with
    | none =>
      rw [single rfl]
      exact (mirrors_link current graph.nextId _).seq (.pure true _)
    | some _ =>
      refine mirrors_linkPast loops second graph.nextId fun id isEnd => ?_
      rw [run_edgeFrom]
      exact (past id (.inr isEnd)).mono within
  exact (mirrors_newBlock sound place none).bind (one.known (other.known (.pure _ _)))

/-- The blocks of a loop are linked as the edges go. -/
theorem mirrors_openLoop (sound : graph.Sound) (isOpen : graph.Open current)
    (place bodyPlace : Span) (conditional : Bool) :
    Mirrors loops (openLoop current place bodyPlace conditional)
      (Build.openLoop current place bodyPlace conditional) graph := by
  have branchOpen : (graph.branch current (some place) none).Open graph.nextId :=
    sound.branch_open isOpen.toLive
  have headerSound : (graph.withHeader current place).Sound :=
    (sound.branch isOpen.toLive).setEnding branchOpen.quiet (by decide)
  have roundSound : (graph.withRound current place bodyPlace).Sound :=
    headerSound.branch (branchOpen.setEnding .loop (by decide)).toLive
  refine (mirrors_newBlock sound (some place) none).bind ?_
  refine (mirrors_ending (sound.addBlock (some place) none) (blank_append rfl
    sound.block?_nextId (List.find?_cons_of_pos (by simp)) rfl) .loop _ ?_).seq ?_
  · intro block isBlank
    simp [Graph.link, Block.returns, Block.fallsThrough, isBlank]
  refine (mirrors_link current graph.nextId _).seq ?_
  refine (mirrors_newBlock headerSound (some bodyPlace) (some .loopBody)).bind ?_
  refine (mirrors_link graph.nextId _ _).seq ?_
  refine (mirrors_newBlock roundSound (some place) none).bind ?_
  cases conditional with
  | true => exact (mirrors_link _ _ _).seq (.pure _ _)
  | false => exact .pure _ _

/-- A loop is left as it was entered. -/
theorem run_closeLoop_linked (loops : List LoopTargets) (targets : LoopTargets)
    (last : Option BlockId)
    (past : ∀ id : Nat, last = some id → Past graph id)
    (behind : (graph.block? targets.behind).isSome = true) :
    (closeLoop targets last).run ⟨graph.linked, targets :: loops⟩ =
      (((Build.closeLoop targets last).run graph).1,
        ⟨((Build.closeLoop targets last).run graph).2.linked, loops⟩) := by
  obtain ⟨block, found⟩ := Option.isSome_iff_exists.mp behind
  have entered : ((⟨(graph.addEdges last.toList targets.header).linked, loops⟩ :
      LinkedSite).block? targets.behind).any (·.predecessors.isEmpty) =
      ((graph.addEdges last.toList targets.header).predecessors targets.behind).isEmpty := by
    have same : (graph.addEdges last.toList targets.header).block? targets.behind = some block :=
      found
    rw [block?_linked, same, Option.map_some, Option.any_some, Graph.link, Graph.id_of_block? found]
  rw [run_closeLoop, ← entered]
  unfold closeLoop
  rw [StateT.run_bind, mirrors_linkPast _ last targets.header past, Build.run_bind, run_edgeFrom]
  rfl

/-- A loop around statements. -/
theorem mirrors_rounds (ready : Ready entries here loops.head? current before) (frame : Stmt)
    (bodyPlace : Span) (conditional : Bool) (body : List Stmt) (reached : here.reached = true)
    (listed : ∀ entry ∈ censusAll (here.inside frame) body, entry ∈ entries)
    (inner : ∀ {current : Nat} {before : Graph} (loops : List LoopTargets),
      Ready entries (here.inside frame) loops.head? current before →
      Mirrors loops (stmts (some current) body) (Build.stmts loops.head? (some current) body)
        before) :
    Mirrors loops (do
      let (targets, first) <- openLoop current frame.span bodyPlace conditional
      enter targets
      let last <- stmts (some first) body
      closeLoop targets last) (do
        let (targets, first) <- Build.openLoop current frame.span bodyPlace conditional
        let last <- Build.stmts (some targets) (some first) body
        Build.closeLoop targets last) before := by
  have opened := ready.opened frame bodyPlace conditional
  have laid := laid_stmts body (by exact reached) listed opened
  obtain ⟨_, _, behind⟩ := block?_withLoop ready.sound current frame.span bodyPlace conditional
  obtain ⟨now, isNow, _⟩ := laid.kept _ _ behind
  -- inside, the targets of the loop are on top of the others
  have round := inner (⟨_, _⟩ :: loops) opened
  refine (mirrors_openLoop ready.sound ready.isOpen frame.span bodyPlace
    conditional).bind ?_
  rw [run_openLoop]
  have closes := run_closeLoop_linked loops
    ⟨(before.withRound current frame.span bodyPlace).nextId, before.nextId⟩ _
    (fun id isLast => (laid.blank id isLast).past) (Option.isSome_of_eq_some isNow)
  refine Eq.trans ?_ closes
  exact congrArg (fun outcome : Option BlockId × LinkedSite =>
    (closeLoop ⟨(before.withRound current frame.span bodyPlace).nextId, before.nextId⟩
      outcome.1).run outcome.2) round

mutual

/-- Building a statement links blocks as the graph says. -/
theorem mirrors_stmt : (stmt : Stmt) -> {here : Standing} -> here.reached = true ->
    (∀ entry ∈ census here stmt, entry ∈ entries) -> {loops : List LoopTargets} ->
    {current : Nat} -> {before : Graph} -> Ready entries here loops.head? current before ->
    Mirrors loops (Linking.stmt current stmt) (Build.stmt loops.head? current stmt) before
  | .block body _, _, reached, listed, _, _, _, ready => by
    simp only [census, List.forall_mem_cons] at listed
    unfold Linking.stmt Build.stmt
    exact mirrors_stmts body reached listed.2 ready
  | .ret value span, _, _, _, _, _, _, ready => by
    unfold Linking.stmt Build.stmt
    exact (mirrors_finish ready.sound ready.blank _ .ret _ fun _ _ => rfl).seq
      ((mirrors_link _ _ _).seq (.pure _ _))
  | .brk _, _, _, _, _, _, _, ready | .cont _, _, _, _, _, _, _, ready => by
    unfold Linking.stmt Build.stmt
    exact (mirrors_jump ready.sound ready.blank _ rfl _).seq (.pure _ _)
  | .whileLoop test body bodySpan span, _, reached, listed, _, _, _, ready => by
    simp only [census, List.forall_mem_cons] at listed
    unfold Linking.stmt Build.stmt
    exact mirrors_rounds ready (.whileLoop test body bodySpan span) bodySpan true body reached
      listed.2 fun _ ready => mirrors_stmts body (by exact reached) listed.2 ready
  | .loop body bodySpan span, _, reached, listed, _, _, _, ready => by
    simp only [census, List.forall_mem_cons] at listed
    unfold Linking.stmt Build.stmt
    exact mirrors_rounds ready (.loop body bodySpan span) bodySpan false body reached
      listed.2 fun _ ready => mirrors_stmts body (by exact reached) listed.2 ready
  | .forLoop first test after body bodySpan span, _, reached, listed, _, _, _, ready => by
    simp only [census, List.forall_mem_cons, List.forall_mem_append] at listed
    unfold Linking.stmt Build.stmt
    exact mirrors_rounds ready (.forLoop first test after body bodySpan span) bodySpan test.isSome
      body reached listed.2.2 fun _ ready => mirrors_stmts body (by exact reached) listed.2.2 ready
  | .cond test body bodySpan otherwise span, _, reached, listed, _, current, _, ready => by
    simp only [census, List.forall_mem_cons, List.forall_mem_append] at listed
    obtain ⟨isEntry, bodyListed, elseListed⟩ := listed
    unfold Linking.stmt Build.stmt
    have fork := ready.condition isEntry reached
    have built := Builds.branched (built_stmts body) fork.around fork.sound fork.live
      (some bodySpan) (some .ifBranch)
    have former := (laid_stmts body reached bodyListed
      (fork.ready (some bodySpan) (some .ifBranch))).forked fork.sound
    have again := fork.again former built
    have latter := forked_elseBranch otherwise reached elseListed again
    have builtElse := built_elseBranch again.around again.sound again.live otherwise
    refine (mirrors_finish ready.sound ready.blank _ .cond _ ?_).seq ?_
    · intro block isBlank
      simp [Graph.link, Block.returns, Block.fallsThrough, isBlank]
    refine (mirrors_newBlock fork.sound (some bodySpan) (some .ifBranch)).bind ?_
    refine (mirrors_link current _ _).seq ?_
    refine (mirrors_stmts body reached bodyListed (fork.ready (some bodySpan)
      (some .ifBranch))).bind ?_
    refine (mirrors_elseBranch otherwise reached elseListed again).bind ?_
    refine mirrors_meet builtElse.sound (some span) otherwise _ _ ?_ ?_
    · rintro rfl
      rfl
    · rintro id (isEnd | isEnd)
      · exact ((former.still id isEnd).past (built.live id isEnd).1.quiet).mono latter.within
      · exact (latter.still id isEnd).past (builtElse.live id isEnd).1.quiet
  | .expr _, _, _, _, _, _, _, _ | .letIn _, _, _, _, _, _, _, _ | .instr _, _, _, _, _, _, _, _
  | .const _, _, _, _, _, _, _, _ | .struct _, _, _, _, _, _, _, _
  | .assign _ _ _, _, _, _, _, _, _, _ | .write _ _ _, _, _, _, _, _, _, _
  | .bad _, _, _, _, _, _, _, _ => by
    unfold Linking.stmt Build.stmt
    exact (mirrors_append _ _ _).seq (.pure _ _)

/-- Building the other branch of a condition links blocks as the graph says. -/
theorem mirrors_elseBranch : (otherwise : Option Stmt) -> {here : Standing} ->
    here.reached = true -> (∀ entry ∈ census? here otherwise, entry ∈ entries) ->
    {loops : List LoopTargets} -> {current : Nat} -> {before : Graph} ->
    Fork entries here loops.head? current before ->
    Mirrors loops (Linking.elseBranch current otherwise)
      (Build.elseBranch loops.head? current otherwise) before
  | none, _, _, _, _, _, _, _ => by
    unfold Linking.elseBranch Build.elseBranch
    exact .pure _ _
  | some otherwise, _, reached, listed, _, current, _, fork => by
    unfold Linking.elseBranch Build.elseBranch
    refine (mirrors_newBlock fork.sound _ _).bind ?_
    refine (mirrors_link current _ _).seq ?_
    exact mirrors_stmt otherwise reached listed (fork.ready _ _)

/-- Building statements links blocks as the graph says. -/
theorem mirrors_stmts : (body : List Stmt) -> {here : Standing} -> here.reached = true ->
    (∀ entry ∈ censusAll here body, entry ∈ entries) -> {loops : List LoopTargets} ->
    {current : Nat} -> {before : Graph} -> Ready entries here loops.head? current before ->
    Mirrors loops (Linking.stmts (some current) body)
      (Build.stmts loops.head? (some current) body) before
  | [], _, _, _, _, _, _, _ => by
    unfold Linking.stmts Build.stmts
    exact .pure _ _
  | stmt :: rest, _, reached, listed, loops, current, before, ready => by
    simp only [censusAll, List.forall_mem_append] at listed
    have former := laid_stmt stmt reached listed.1 ready
    have built := built_stmt stmt ready.around ready.sound ready.isOpen
    unfold Linking.stmts Build.stmts
    refine (mirrors_stmt stmt reached listed.1 ready).bind ?_
    rcases outcome : (Build.stmt loops.head? current stmt).run before with ⟨next, middle⟩
    rw [outcome] at former built
    cases next with
    | none =>
      cases rest <;> exact .pure _ _
    | some next =>
      exact mirrors_stmts rest (reached_behind reached built) listed.2 (ready.behind former built)

end
end Linking

/-- The blocks and marks that the builder links are those of the flow graph, and it has left
all loops at the end of a body. -/
theorem linkedGraph_eq (body : Option Body) (place : Span) :
    linkedGraph body place = ⟨(Flow.graph body place).linked, []⟩ := by
  cases body with
  | none =>
    exact congrArg Prod.snd (Linking.mirrors_link Graph.entry Graph.exit (Graph.bare place))
  | some body =>
    have ready := ready_bare (censusAll .body body.stmts) place
    have laid := laid_stmts body.stmts rfl (fun _ => id) ready
    have stmts := @Linking.mirrors_stmts _ body.stmts _ rfl (fun _ => id) [] _ _ ready
    have last := Linking.mirrors_linkPast [] _ Graph.exit
      fun id isLast => (laid.blank id isLast).past
    have whole : Linking.Mirrors [] (do
        let last <- Linking.stmts (some Graph.entry) body.stmts
        let _ <- Linking.linkPast last Graph.exit
        return) (do
          let last <- Build.stmts none (some Graph.entry) body.stmts
          Build.edgeFrom last Graph.exit
          return) (Graph.bare place) := stmts.bind (last.known (.pure () _))
    exact congrArg Prod.snd whole

end UnitCheck.Flow
