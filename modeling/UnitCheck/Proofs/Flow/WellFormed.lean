import Mathlib.Data.List.Perm.Subperm
import UnitCheck.Proofs.Flow.Chart
import UnitCheck.Proofs.Flow.Linked
import UnitCheck.Proofs.Flow.Steps
import UnitCheck.Proofs.Tree.Statements

/-!
# Well-formed flow graphs

What a reader of a flow graph may rely on, whatever the body is (`Graph.WellFormed`). All
but the statements follow from `Formed`, which every step of building keeps; the statements
in the blocks are those that the steps put there.
-/

namespace UnitCheck.Flow

/-- Control may get to the block from the entry. -/
def Graph.Reached (graph : Graph) (id : Nat) : Prop :=
  Relation.ReflTransGen (fun source target => target ∈ graph.successors source) Graph.entry id

/-- The statements in all blocks, block by block. -/
def Graph.held (graph : Graph) : List Stmt := graph.blocks.flatMap (·.stmts)

variable {graph before middle after : Graph} {id source target : Nat} {put : List Stmt}

/-! ### What every step keeps -/

/-- A block that returns ends with a return statement, and only the exit comes next. -/
structure Graph.Sealed (graph : Graph) (block : Block) : Prop where
  last : ∃ value span, block.stmts.getLast? = some (.ret value span)
  next : graph.successors block.id = [Graph.exit]

/-- What holds of a graph at any time: its blocks are numbered from one, those that return
are sealed, edges leave blocks that control may get to, and none leaves the exit. -/
structure Formed (graph : Graph) : Prop where
  numbered : graph.ids = List.range' 1 graph.blocks.length
  returning : ∀ id block, graph.block? id = some block → block.returns = true →
    graph.Sealed block
  led : ∀ source target : Nat, (source, target) ∈ graph.edges → graph.Reached source
  ended : ∀ target : Nat, (Graph.exit, target) ∉ graph.edges

/-- Control that goes on without a return goes on. -/
theorem Graph.Visited.reached (visited : graph.Visited id) : graph.Reached id := by
  refine Relation.ReflTransGen.mono ?_ Graph.entry id visited
  intro source target step
  exact Graph.mem_successors.mpr (Graph.mem_silentSuccessors.mp step).2

theorem Graph.Reached.mono (reached : before.Reached id)
    (kept : ∀ edge ∈ before.edges, edge ∈ after.edges) : after.Reached id := by
  refine Relation.ReflTransGen.mono ?_ Graph.entry id reached
  intro source target edge
  exact Graph.mem_successors.mpr (kept _ (Graph.mem_successors.mp edge))

/-- A block is found as one that returns or not. -/
theorem Graph.returnsAt_of_block? {block : Block} (found : graph.block? id = some block) :
    graph.returnsAt id = block.returns := by
  rw [Graph.returnsAt, found, Option.any_some]

/-- Empty blocks may be added. -/
theorem Formed.addBlock (formed : Formed before) (place : Option Span)
    (branch : Option BranchKind) : Formed (before.addBlock place branch) where
  numbered := by
    rw [Graph.ids_addBlock, formed.numbered, Graph.length_addBlock, Graph.nextId,
      List.range'_concat]
    simp [Nat.add_comm]
  returning id block found returns := by
    have added : (before.addBlock place branch).blocks = before.blocks ++ [_] := rfl
    rw [Graph.block?_append added, Option.or_eq_some_iff] at found
    rcases found with found | ⟨_, found⟩
    · obtain ⟨last, next⟩ := formed.returning id block found returns
      exact ⟨last, next⟩
    · rw [List.mem_singleton.mp (List.mem_of_find?_eq_some found)] at returns
      cases returns
  led := formed.led
  ended := formed.ended

/-- Edges may leave blocks that control gets to without a return, other than the exit. -/
theorem Formed.addEdges (formed : Formed before) (sources : List Nat)
    (live : ∀ source ∈ sources, before.Live source ∧ source ≠ Graph.exit) (target : Nat) :
    Formed (before.addEdges sources target) where
  numbered := formed.numbered
  returning id block found returns := by
    obtain ⟨last, next⟩ := formed.returning id block found returns
    refine ⟨last, (successors_append _ rfl fun edge isEdge same => ?_).trans next⟩
    obtain ⟨source, isSource, rfl⟩ := List.mem_map.mp isEdge
    have quiet := (live source isSource).1.quiet
    have own : before.block? id = some block := found
    simp only at same
    rw [same, Graph.id_of_block? found, Graph.returnsAt_of_block? own, returns] at quiet
    cases quiet
  led source last edge := by
    have kept : ∀ edge ∈ before.edges, edge ∈ (before.addEdges sources target).edges :=
      fun _ isEdge => Graph.mem_edges_addEdges.mpr (.inl isEdge)
    rcases Graph.mem_edges_addEdges.mp edge with earlier | ⟨isSource, _⟩
    · exact (formed.led source last earlier).mono kept
    · exact (live source isSource).1.visited.reached.mono kept
  ended last edge := by
    rcases Graph.mem_edges_addEdges.mp edge with earlier | ⟨isSource, _⟩
    · exact formed.ended last earlier
    · exact (live _ isSource).2 rfl

/-- A block may change as long as it is sealed where it returns then. -/
theorem Formed.update (formed : Formed before) {change : Block -> Block}
    (keeps : ∀ block, (change block).id = block.id)
    (sealing : ∀ block, before.block? id = some block → (change block).returns = true →
      before.Sealed (change block)) :
    Formed (before.update id change) where
  numbered := by rw [Graph.ids_update keeps, formed.numbered, Graph.length_update]
  returning other block found returns := by
    rw [Graph.block?_update keeps, Option.map_eq_some_iff] at found
    obtain ⟨earlier, isEarlier, isBlock⟩ := found
    split at isBlock
    · next same =>
      rw [← Graph.id_of_block? isEarlier, same] at isEarlier
      subst isBlock
      obtain ⟨last, next⟩ := sealing earlier isEarlier returns
      exact ⟨last, next⟩
    · subst isBlock
      obtain ⟨last, next⟩ := formed.returning other earlier isEarlier returns
      exact ⟨last, next⟩
  led := formed.led
  ended := formed.ended

/-- A statement may be put into a block that does not return. -/
theorem Formed.addStmt (formed : Formed before) (quiet : before.returnsAt id = false)
    (stmt : Stmt) : Formed (before.addStmt id stmt) := by
  refine formed.update (fun _ => rfl) fun block found returns => ?_
  rw [Graph.returnsAt_of_block? found] at quiet
  rw [show block.returns = true from returns] at quiet
  cases quiet

/-- A block may return from where nothing has left it. -/
theorem Formed.addReturn (formed : Formed before) (isOpen : before.Open id)
    (value : Option Expr) (span : Span) :
    Formed (((before.addStmt id (.ret value span)).setEnding id .ret).addEdge id Graph.exit) := by
  -- the same graph with the edge first, so that the ending seals the block
  have left : Formed (before.addEdges [id] Graph.exit) :=
    formed.addEdges [id] (List.forall_mem_singleton.mpr ⟨isOpen.toLive, isOpen.notExit⟩) _
  have filled : Formed ((before.addEdges [id] Graph.exit).addStmt id (.ret value span)) :=
    left.addStmt isOpen.quiet _
  refine (filled.update (fun _ => rfl) fun block found _ => ?_ :
    Formed (((before.addEdges [id] Graph.exit).addStmt id (.ret value span)).update id
      fun block => { block with ending := .ret }))
  have number := Graph.id_of_block? found
  rw [Graph.addStmt, Graph.block?_update (by intro block; rfl), Option.map_eq_some_iff] at found
  obtain ⟨earlier, isEarlier, rfl⟩ := found
  have own : before.edges.filter (·.1 = id) = [] := by
    rw [List.filter_eq_nil_iff]
    rintro ⟨source, target⟩ edge
    rw [decide_eq_true_eq]
    rintro rfl
    exact isOpen.unleft target edge
  rw [if_pos (Graph.id_of_block? isEarlier)]
  refine ⟨⟨value, span, by simp⟩, ?_⟩
  simp [Graph.successors, Graph.addEdges, Graph.addStmt, Graph.update,
    Graph.id_of_block? isEarlier, own]

/-- Every step keeps a graph formed. -/
theorem Step.formed (step : Step before put after) (formed : Formed before) : Formed after := by
  cases step with
  | block place branch => exact formed.addBlock place branch
  | edges sources target live => exact formed.addEdges sources live target
  | put isOpen stmt => exact formed.addStmt isOpen.quiet stmt
  | ending isOpen ending silent =>
    refine formed.update (fun _ => rfl) fun block _ returns => ?_
    simp [Block.returns, silent] at returns
  | ret isOpen value span => exact formed.addReturn isOpen value span

/-- Steps one after the other keep a graph formed. -/
theorem Steps.formed (steps : Steps before put after) (formed : Formed before) :
    Formed after := by
  induction steps with
  | refl => exact formed
  | step _ transition inductionHypothesis => exact transition.formed inductionHypothesis

/-- Building a body starts from a formed graph. -/
theorem formed_bare (place : Span) : Formed (Graph.bare place) where
  numbered := rfl
  returning id block found returns := by
    have isBlock := List.mem_of_find?_eq_some found
    simp [Graph.bare, Graph.empty, Graph.addBlock] at isBlock
    rcases isBlock with rfl | rfl <;> cases returns
  led _ _ edge := by cases edge
  ended _ edge := by cases edge

/-- The flow graph of every body is formed. -/
theorem formed_graph (body : Option Body) (place : Span) : Formed (Flow.graph body place) := by
  obtain ⟨_, _, steps⟩ := raises_graph body place
  exact steps.formed (formed_bare place)

/-! ### The statements in the blocks -/

/-- A statement more in one of several blocks with different numbers. -/
theorem held_put (stmt : Stmt) : (blocks : List Block) -> (blocks.map (·.id)).Nodup ->
    id ∈ blocks.map (·.id) ->
    ((blocks.map fun block =>
      if block.id = id then { block with stmts := block.stmts ++ [stmt] } else block).flatMap
        (·.stmts)).Perm (blocks.flatMap (·.stmts) ++ [stmt])
  | [], _, inside => by simp at inside
  | block :: rest, distinct, inside => by
    obtain ⟨isNew, distinct⟩ := List.nodup_cons.mp distinct
    by_cases same : block.id = id
    · subst same
      have others : rest.map (fun other => if other.id = block.id then
          { other with stmts := other.stmts ++ [stmt] } else other) = rest := by
        refine (List.map_congr_left fun other isOther => if_neg fun again => ?_).trans
          (List.map_id' rest)
        exact isNew (List.mem_map.mpr ⟨other, isOther, again⟩)
      simp only [List.map_cons, if_true, List.flatMap_cons, others, List.append_assoc]
      exact List.perm_append_comm.append_left _
    · have later : id ∈ rest.map (·.id) := by
        simpa [Ne.symm same] using inside
      simp only [List.map_cons, if_neg same, List.flatMap_cons, List.append_assoc]
      exact (held_put stmt rest distinct later).append_left _

/-- A statement put into a block of the graph stands in the blocks besides the others. -/
theorem Graph.held_addStmt (formed : Formed graph) (inside : id ∈ graph.ids) (stmt : Stmt) :
    (graph.addStmt id stmt).held.Perm (graph.held ++ [stmt]) := by
  refine held_put stmt graph.blocks ?_ inside
  have numbers : graph.blocks.map (·.id) = List.range' 1 graph.blocks.length := formed.numbered
  rw [numbers]
  exact List.nodup_range'

/-- The ending of a block holds no statement. -/
theorem Graph.held_setEnding (ending : Ending) :
    (graph.setEnding id ending).held = graph.held := by
  unfold Graph.held Graph.setEnding Graph.update
  rw [List.flatMap_map]
  congr 1
  funext block
  split <;> rfl

theorem Graph.Live.mem_ids (live : graph.Live id) (formed : Formed graph) : id ∈ graph.ids := by
  rw [formed.numbered, List.mem_range'_1, Nat.add_comm 1, Nat.lt_succ_iff]
  exact live.inside

/-- The blocks get the statements of a step. -/
theorem Step.held (step : Step before put after) (formed : Formed before) :
    after.held.Perm (before.held ++ put) := by
  cases step with
  | block place branch => simp [Graph.held, Graph.addBlock]
  | edges sources target live => simp [Graph.held, Graph.addEdges]
  | put isOpen stmt => exact Graph.held_addStmt formed (isOpen.toLive.mem_ids formed) stmt
  | ending isOpen ending silent => simp [Graph.held_setEnding]
  | ret isOpen value span =>
    refine (List.Perm.of_eq ?_).trans
      (Graph.held_addStmt formed (isOpen.toLive.mem_ids formed) (.ret value span))
    exact Graph.held_setEnding .ret

/-- The blocks get the statements of all steps. -/
theorem Steps.held (steps : Steps before put after) (formed : Formed before) :
    after.held.Perm (before.held ++ put) := by
  induction steps with
  | refl => simp
  | step prior transition inductionHypothesis =>
    rw [← List.append_assoc]
    exact (transition.held (prior.formed formed)).trans (inductionHypothesis.append_right _)

/-! ### Well-formed graphs -/

/-- What a reader of the flow graph of a body with these statements may rely on. -/
structure Graph.WellFormed (graph : Graph) (stmts : List Stmt) : Prop where
  distinct : graph.ids.Nodup
  paired : ∀ source target : Nat,
    (graph.successors source).count target = (graph.predecessors target).count source
  exit : graph.successors Graph.exit = []
  returns : ∀ block ∈ graph.blocks, block.returns = true ↔
    block.ending = .ret ∧ ∃ value span, block.stmts.getLast? = some (.ret value span)
  returned : ∀ block ∈ graph.blocks, block.returns = true →
    graph.successors block.id = [Graph.exit]
  reached : ∀ id : Nat, graph.predecessors id ≠ [] → graph.Reached id
  /-- No statement stands in the blocks more often than in the body. -/
  among : graph.held.Subperm stmts
  /-- Where the statements of the body start at different places, none stands there twice. -/
  once : (stmts.map (·.span.node)).Nodup → (graph.held.map (·.span.node)).Nodup

/-- A graph that building comes to from the two ends of a body is well-formed. -/
theorem wellFormed_of_raises {stmts : List Stmt} {place : Span}
    (raises : Raises stmts (Graph.bare place) graph) : graph.WellFormed stmts := by
  obtain ⟨put, among, steps⟩ := raises
  have formed := steps.formed (formed_bare place)
  have distinct : graph.ids.Nodup := by
    rw [formed.numbered]
    exact List.nodup_range'
  have sealed : ∀ block ∈ graph.blocks, block.returns = true → graph.Sealed block :=
    fun block isBlock => formed.returning block.id block (Graph.block?_of_mem distinct isBlock)
  have held : graph.held.Subperm stmts := by
    have all := steps.held (formed_bare place)
    rw [show (Graph.bare place).held = [] from rfl, List.nil_append] at all
    exact all.subperm.trans among.subperm
  refine ⟨distinct, ?_, ?_, ?_, ?_, ?_, held, ?_⟩
  · intro source target
    simp only [Graph.successors, Graph.predecessors, List.count, List.countP_map,
      List.countP_filter]
    refine List.countP_congr fun edge _ => ?_
    simp [and_comm]
  · refine List.eq_nil_iff_forall_not_mem.mpr fun target isTarget => ?_
    exact formed.ended target (Graph.mem_successors.mp isTarget)
  · intro block isBlock
    constructor
    · intro returns
      exact ⟨by simpa [Block.returns] using returns, (sealed block isBlock returns).last⟩
    · rintro ⟨ending, _⟩
      simp [Block.returns, ending]
  · exact fun block isBlock returns => (sealed block isBlock returns).next
  · intro id entered
    obtain ⟨source, isSource⟩ := List.exists_mem_of_ne_nil _ entered
    have edge := Graph.mem_predecessors.mp isSource
    exact (formed.led source id edge).tail (Graph.mem_successors.mpr edge)
  · intro starts
    obtain ⟨among', perm, isSublist⟩ := held
    exact (perm.symm.map _).nodup_iff.mpr (starts.sublist (isSublist.map _))

/-- The flow graph of every body is well-formed. Building with blocks that are linked in both
directions and marked at their ends gives the same graph, and all loops that it goes into have
been left at the end. -/
theorem wellFormed_graph (body : Option Body) (place : Span) :
    (Flow.graph body place).WellFormed (partsOf body) ∧
      linkedGraph body place = ⟨(Flow.graph body place).linked, []⟩ :=
  ⟨wellFormed_of_raises (raises_graph body place), linkedGraph_eq body place⟩

end UnitCheck.Flow
