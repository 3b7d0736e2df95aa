import UnitCheck.Proofs.Flow.WellFormed

/-!
# Branches through which control falls off the end

`Graph.missingBranches` combines a search from the entry with a search backwards from what
it found. Here both are gone: `missing_graph` says in terms of paths which branches are
listed.
-/

namespace UnitCheck.Flow

namespace Graph

variable {graph : Graph} {id source target : Nat}

/-- Control may get to the block and fall off the end from it. -/
structure Leak (graph : Graph) (id : Nat) : Prop where
  reached : graph.Reached id
  quiet : graph.returnsAt id = false
  leaves : exit ∈ graph.successors id

/-- The block starts no branch. -/
def Plain (graph : Graph) (id : Nat) : Prop := (graph.block? id).bind (·.branch) = none

/-- Control may get from one block to the other through blocks that start no branch, the
other one included. -/
def Flows (graph : Graph) : Nat -> Nat -> Prop :=
  Relation.ReflTransGen fun source target => target ∈ graph.successors source ∧ graph.Plain target

/-- Control may get from one block to the other without a return. -/
def Falls (graph : Graph) : Nat -> Nat -> Prop :=
  Relation.ReflTransGen fun source target => target ∈ graph.silentSuccessors source

/-- What the searches of a graph stay inside of: its edges lead to blocks of the graph, and
it has an entry. -/
structure Closed (graph : Graph) : Prop where
  target : ∀ source target : Nat, (source, target) ∈ graph.edges → target ∈ graph.ids
  entry : Graph.entry ∈ graph.ids

theorem Closed.of_reached (closed : graph.Closed) (reached : graph.Reached id) :
    id ∈ graph.ids := by
  cases reached with
  | refl => exact closed.entry
  | tail _ step => exact closed.target _ _ (mem_successors.mp step)

/-! ### What the searches find -/

theorem mem_leaks_iff (closed : graph.Closed) : id ∈ graph.leaks ↔ graph.Leak id := by
  have found : id ∈ graph.reach graph.successors [Graph.entry] ↔ graph.Reached id := by
    rw [mem_reach_iff]
    · simp [Reached]
    · exact fun source target edge => closed.target source target (mem_successors.mp edge)
    · simpa using closed.entry
  simp only [leaks, List.mem_filter, found, Bool.and_eq_true, List.contains_iff_mem,
    Bool.not_eq_true']
  exact ⟨fun ⟨reached, leaves, quiet⟩ => ⟨reached, quiet, leaves⟩,
    fun leak => ⟨leak.reached, leak.leaves, leak.quiet⟩⟩

/-- Going back stops at the block that starts a branch. -/
theorem mem_sources_iff :
    source ∈ graph.sources target ↔ target ∈ graph.successors source ∧ graph.Plain target := by
  unfold sources Plain
  cases (graph.block? target).bind (·.branch) <;> simp

/-- The search back from the leaks finds what flows to one of them. -/
theorem mem_back_iff (closed : graph.Closed) (formed : Formed graph) :
    id ∈ graph.reach graph.sources graph.leaks ↔ ∃ leak, graph.Leak leak ∧ graph.Flows id leak := by
  rw [mem_reach_iff]
  · simp only [mem_leaks_iff closed]
    refine exists_congr fun leak => and_congr_right fun _ => ?_
    rw [← Relation.reflTransGen_swap]
    refine iff_of_eq (congrFun (congrFun (congrArg Relation.ReflTransGen ?_) id) leak)
    funext source target
    exact propext mem_sources_iff
  · intro target source isSource
    have edge := mem_successors.mp (mem_sources_iff.mp isSource).1
    exact closed.of_reached (formed.led source target edge)
  · intro leak isLeak
    exact closed.of_reached ((mem_leaks_iff closed).mp isLeak).reached

/-- The branches listed are those that flow to a leak. -/
theorem mem_missingBranches_iff (closed : graph.Closed) (formed : Formed graph) {block : Block} :
    block ∈ graph.missingBranches ↔ block ∈ graph.blocks ∧ block.branch.isSome = true ∧
      ∃ leak, graph.Leak leak ∧ graph.Flows block.id leak := by
  simp only [missingBranches, List.mem_filter, Bool.and_eq_true, List.contains_iff_mem,
    mem_back_iff closed formed]

/-! ### Paths without a return -/

/-- A return leads to the exit only. -/
theorem next_of_returnsAt (formed : Formed graph) (returns : graph.returnsAt source = true)
    (edge : target ∈ graph.successors source) : target = exit := by
  obtain ⟨block, found, isReturn⟩ := (Option.any_eq_true _ _).mp returns
  have next := (formed.returning source block found isReturn).next
  rw [id_of_block? found] at next
  simpa [next] using edge

/-- What control may get to it gets to without a return, the exit apart. -/
theorem Reached.visited (reached : graph.Reached id) (formed : Formed graph)
    (notExit : id ≠ exit) : graph.Visited id := by
  induction reached with
  | refl => exact .refl
  | @tail source target _ edge inductionHypothesis =>
    have isSource : source ≠ exit := by
      rintro rfl
      exact formed.ended target (mem_successors.mp edge)
    refine (inductionHypothesis isSource).step ?_ (mem_successors.mp edge)
    by_contra returns
    exact notExit (next_of_returnsAt formed (by simpa using returns) edge)

/-- Whatever flows to a leak falls off the end. -/
theorem Leak.falls {leak : Nat} (isLeak : graph.Leak leak) (formed : Formed graph)
    (flows : graph.Flows id leak) : graph.Falls id exit := by
  induction flows using Relation.ReflTransGen.head_induction_on with
  | refl =>
    exact .single (mem_silentSuccessors.mpr ⟨isLeak.quiet, mem_successors.mp isLeak.leaves⟩)
  | @head source target step rest inductionHypothesis =>
    -- a return would lead to the exit, and nothing flows on from there
    have quiet : graph.returnsAt source = false := by
      by_contra returns
      have isExit := next_of_returnsAt formed (by simpa using returns) step.1
      subst isExit
      rcases Relation.ReflTransGen.cases_head rest with rfl | ⟨next, edge, _⟩
      · exact formed.ended _ (mem_successors.mp isLeak.leaves)
      · exact formed.ended next (mem_successors.mp edge.1)
    exact .head (mem_silentSuccessors.mpr ⟨quiet, mem_successors.mp step.1⟩) inductionHypothesis

/-- Control gets to whatever flows to a leak, without a return. -/
theorem Leak.visited {leak : Nat} (isLeak : graph.Leak leak) (formed : Formed graph)
    (flows : graph.Flows id leak) : graph.Visited id := by
  rcases Relation.ReflTransGen.cases_head flows with rfl | ⟨next, edge, _⟩
  · refine isLeak.reached.visited formed ?_
    rintro rfl
    exact formed.ended _ (mem_successors.mp isLeak.leaves)
  · refine (formed.led id next (mem_successors.mp edge.1)).visited formed ?_
    rintro rfl
    exact formed.ended next (mem_successors.mp edge.1)

end Graph

/-- The flow graph of every body is closed. -/
theorem closed_graph (body : Option Body) (place : Span) : (Flow.graph body place).Closed := by
  cases body with
  | none =>
    have ids : (Flow.graph none place).ids = [Graph.entry, Graph.exit] := rfl
    have edges : (Flow.graph none place).edges = [(Graph.entry, Graph.exit)] := rfl
    constructor <;> simp [ids, edges]
  | some body =>
    obtain ⟨target, entry⟩ := graph_closed body place
    exact ⟨target, entry⟩

/-- The branches listed for the flow graph of a body are, in the order of their numbers and
each once, those from which control gets to a leak without starting another branch. Control
gets to each of them, and from there to the exit, without a return; so where all paths
return there are none. -/
theorem missing_graph (body : Option Body) (place : Span) :
    let graph := Flow.graph body place
    (graph.missingBranches.map (·.id)).Pairwise (· < ·) ∧
      (∀ block, block ∈ graph.missingBranches ↔
        block ∈ graph.blocks ∧ block.branch.isSome = true ∧
          ∃ leak, graph.Leak leak ∧ graph.Flows block.id leak) ∧
      (∀ block ∈ graph.missingBranches,
        graph.Falls Graph.entry block.id ∧ graph.Falls block.id Graph.exit) ∧
      (graph.allReturn = true → graph.missingBranches = []) := by
  intro graph
  have closed : graph.Closed := closed_graph body place
  have formed : Formed graph := formed_graph body place
  have listed : ∀ block, block ∈ graph.missingBranches ↔ block ∈ graph.blocks ∧
      block.branch.isSome = true ∧ ∃ leak, graph.Leak leak ∧ graph.Flows block.id leak :=
    fun _ => Graph.mem_missingBranches_iff closed formed
  have falls : ∀ block ∈ graph.missingBranches,
      graph.Falls Graph.entry block.id ∧ graph.Falls block.id Graph.exit := by
    intro block isMissing
    obtain ⟨_, _, leak, isLeak, flows⟩ := (listed block).mp isMissing
    exact ⟨isLeak.visited formed flows, isLeak.falls formed flows⟩
  refine ⟨?_, listed, falls, ?_⟩
  · have increasing : (graph.blocks.map (·.id)).Pairwise (· < ·) := by
      rw [show graph.blocks.map (·.id) = List.range' 1 graph.blocks.length from formed.numbered]
      exact List.pairwise_lt_range'
    exact increasing.sublist (List.filter_sublist.map _)
  · intro allReturn
    refine List.eq_nil_iff_forall_not_mem.mpr fun block isMissing => ?_
    obtain ⟨toBlock, toExit⟩ := falls block isMissing
    exact (Graph.allReturn_iff closed.target closed.entry).mp allReturn (toBlock.trans toExit)

end UnitCheck.Flow
