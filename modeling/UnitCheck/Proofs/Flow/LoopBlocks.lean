import Mathlib.Data.List.Perm.Subperm
import UnitCheck.Proofs.Flow.Chart
import UnitCheck.Proofs.Flow.Steps
import UnitCheck.Proofs.Tree.Statements

/-!
# The two blocks of a loop

A loop adds two blocks that belong to it as a whole, its header and the one behind it, and a
condition adds one, where its branches meet. No other block belongs to a statement as a
whole, so where statements start at different places the blocks of a loop are the only ones
with its place (`LoopAt.only`).
-/

namespace UnitCheck.Flow

/-- Whether the block belongs to what starts there as a whole. -/
def Block.isWhole (node : NodeId) (block : Block) : Bool :=
  block.place.any (·.node = node) && block.branch = none && block.id ≠ Graph.entry

/-- How many blocks belong to what starts there as a whole. -/
def Graph.wholes (graph : Graph) (node : NodeId) : Nat := graph.blocks.countP (·.isWhole node)

/-- Whether blocks with that owner belong to what starts there as a whole. -/
def ownsWhole (node : NodeId) (owner : Option Span × Option BranchKind) : Bool :=
  owner.1.any (·.node = node) && owner.2 = none

variable {node : NodeId}

mutual

/-- A statement owns as a whole at most two blocks for each of its parts that starts there. -/
theorem countP_owners_le : (stmt : Stmt) ->
    (owners stmt).countP (ownsWhole node) ≤ 2 * stmt.starts.count node
  | .block body span => by
    have inside := countP_ownersAll_le body
    simp only [owners, Stmt.starts_block, List.count_cons]
    omega
  | .cond test body bodySpan otherwise span => by
    have inside := countP_ownersAll_le body
    have other := countP_ownersElse_le otherwise
    simp only [owners, ownsWhole, List.countP_cons, List.countP_append, List.countP_nil,
      Stmt.starts_cond, List.count_cons, List.count_append, Option.any_some, beq_iff_eq,
      reduceCtorEq, decide_false, decide_true, Bool.and_false, Bool.and_true, Bool.false_eq_true,
      if_false, decide_eq_true_eq] at *
    omega
  | .whileLoop _ body bodySpan span | .loop body bodySpan span
  | .forLoop _ _ _ body bodySpan span => by
    have inside := countP_ownersAll_le body
    simp only [owners, ownsWhole, List.countP_cons, Stmt.starts_whileLoop, Stmt.starts_loop,
      Stmt.starts_forLoop, List.count_cons, List.count_append, Option.any_some, beq_iff_eq,
      reduceCtorEq, decide_false, decide_true, Bool.and_false, Bool.and_true, Bool.false_eq_true,
      if_false, decide_eq_true_eq] at *
    omega
  | .ret _ _ | .brk _ | .cont _ | .expr _ | .letIn _ | .instr _ | .const _ | .struct _
  | .assign _ _ _ | .write _ _ _ | .bad _ => Nat.zero_le _

theorem countP_ownersElse_le : (otherwise : Option Stmt) ->
    (ownersElse otherwise).countP (ownsWhole node) ≤
      2 * (otherwise.toList.flatMap Stmt.starts).count node
  | none => Nat.le_refl _
  | some otherwise => by
    have inside := countP_owners_le otherwise
    simpa [ownersElse, ownsWhole] using inside

theorem countP_ownersAll_le : (body : List Stmt) ->
    (ownersAll body).countP (ownsWhole node) ≤ 2 * (Stmt.startsAll body).count node
  | [] => Nat.le_refl _
  | stmt :: rest => by
    have first := countP_owners_le stmt
    have others := countP_ownersAll_le rest
    simp only [ownersAll, List.countP_append, Stmt.startsAll_cons, List.count_append]
    omega

end

/-- In a body at most two blocks belong as a whole to each statement that starts there. -/
theorem wholes_graph_le (body : Body) (start : Span) (node : NodeId) :
    (Flow.graph (some body) start).wholes node ≤ 2 * (Stmt.startsAll body.stmts).count node := by
  obtain ⟨new, among, same⟩ := owners_graph body start
  have numbered : (Flow.graph (some body) start).ids =
      List.range' 1 (Flow.graph (some body) start).blocks.length := by
    rw [graph_eq]
    exact (built_body body start).sound.numbered
  unfold Graph.wholes
  unfold Graph.ids at numbered
  generalize (Flow.graph (some body) start).blocks = blocks at same numbered ⊢
  rcases blocks with _ | ⟨entry, _ | ⟨exit, others⟩⟩
  · simp at same
  · simp at same
  · simp only [List.map_cons, List.cons.injEq] at same
    obtain ⟨_, isExit, rfl⟩ := same
    -- the two ends belong to no statement
    have number : entry.id = Graph.entry := (List.cons.inj numbered).1
    have notEntry : ¬entry.isWhole node = true := by simp [Block.isWhole, number]
    have placeless : exit.place = none := congrArg Prod.fst isExit
    have notExit : ¬exit.isWhole node = true := by simp [Block.isWhole, placeless]
    rw [List.countP_cons_of_neg notEntry, List.countP_cons_of_neg notExit]
    refine le_trans ?_ (among.countP_le.trans (countP_ownersAll_le body.stmts))
    rw [List.countP_map]
    exact List.countP_mono_left fun block _ isWhole => (Bool.and_eq_true_iff.mp isWhole).1

/-- Where statements start at different places, a loop has no other blocks as a whole but its
header and the one behind it. -/
theorem Graph.LoopAt.only {body : Body} {start : Span} {loop : Stmt} {targets : LoopTargets}
    (isLoop : (Flow.graph (some body) start).LoopAt loop targets)
    (distinct : (Stmt.startsAll body.stmts).Nodup) :
    ∀ block ∈ (Flow.graph (some body) start).blocks, block.id ≠ Graph.entry →
      block.place = some loop.span → block.branch = none →
      block.id = targets.header ∨ block.id = targets.behind := by
  intro block isBlock notEntry place branch
  obtain ⟨header, isHeader, headerPlace, headerBranch, headerEnding⟩ := isLoop.header
  obtain ⟨behind, isBehind, behindPlace, behindBranch, behindEnding⟩ := isLoop.behind
  have headerId := Graph.id_of_block? isHeader
  have behindId := Graph.id_of_block? isBehind
  by_contra! other
  -- a third block would be one too many
  have three : [block, header, behind].Nodup := by
    simp only [List.nodup_cons, List.mem_cons, List.not_mem_nil, or_false, not_or,
      not_false_eq_true, List.nodup_nil, and_true]
    refine ⟨⟨?_, ?_⟩, ?_⟩
    · rintro rfl
      exact other.1 headerId
    · rintro rfl
      exact other.2 behindId
    · rintro rfl
      exact behindEnding headerEnding
  have inside : [block, header, behind] ⊆
      (Flow.graph (some body) start).blocks.filter (·.isWhole loop.span.node) := by
    simp only [List.cons_subset, List.nil_subset, and_true, List.mem_filter, Block.isWhole]
    refine ⟨⟨isBlock, ?_⟩, ⟨List.mem_of_find?_eq_some isHeader, ?_⟩,
      ⟨List.mem_of_find?_eq_some isBehind, ?_⟩⟩
    · simp [place, branch, notEntry]
    · simp [headerPlace, headerBranch, headerId, isLoop.notEntry.1]
    · simp [behindPlace, behindBranch, behindId, isLoop.notEntry.2]
  have enough := (List.subperm_of_subset three inside).length_le
  rw [← List.countP_eq_length_filter] at enough
  have bound := wholes_graph_le body start loop.span.node
  have once := List.nodup_iff_count_le_one.mp distinct loop.span.node
  simp only [Graph.wholes, List.length_cons, List.length_nil] at bound enough
  omega

end UnitCheck.Flow
