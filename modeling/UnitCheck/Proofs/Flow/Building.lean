import Mathlib.Logic.Relation
import UnitCheck.Flow.Returns

/-!
# What building a flow graph preserves

Building only ever adds to a graph, and only behind blocks that control reaches
and that nothing has left yet. `Graph.Sound` is what holds of every graph on the
way, `Graph.Open` what holds of the block in which control goes on, and `Grows`
relates the graph before some statements to the graph behind them. Each operation
on graphs keeps the first two and gives the third; nothing here depends on the
kinds of statements.
-/

namespace UnitCheck.Flow

/-!
### What the search of a flow graph finds

`search` drops every block it meets from the blocks it has not seen, so cycles
cost it nothing. `mem_search_iff` says that it finds exactly what can be reached
along edges that stay inside the given blocks, and `Graph.mem_reach_iff` drops
that restriction for graphs whose edges lead to their own blocks.
-/

section Search

/-- One step along `next` that stays inside `area`. -/
def StepsIn (next : BlockId -> List BlockId) (area : List BlockId) (source target : BlockId) :
    Prop :=
  target ∈ next source ∧ target ∈ area

/-- What can be reached from `seeds` along `next` without leaving `area`. -/
def ReachedIn (next : BlockId -> List BlockId) (area seeds : List BlockId) (id : BlockId) :
    Prop :=
  ∃ seed ∈ seeds, seed ∈ area ∧ Relation.ReflTransGen (StepsIn next area) seed id

variable {next : BlockId -> List BlockId} {area seeds : List BlockId} {id met : BlockId}

/-- A seed inside the area is reached. -/
theorem ReachedIn.seed (isSeed : id ∈ seeds) (inside : id ∈ area) :
    ReachedIn next area seeds id :=
  ⟨id, isSeed, inside, .refl⟩

/-- Reaching goes on along the steps of the area. -/
theorem ReachedIn.step {target : BlockId} (reached : ReachedIn next area seeds id)
    (leads : target ∈ next id) (inside : target ∈ area) : ReachedIn next area seeds target := by
  obtain ⟨seed, isSeed, seedInside, path⟩ := reached
  exact ⟨seed, isSeed, seedInside, path.tail ⟨leads, inside⟩⟩

/-- A block that was met may be replaced by what it leads to, once it is dropped. -/
theorem ReachedIn.of_erase (isSeed : met ∈ seeds) (inside : met ∈ area)
    (reached : ReachedIn next (area.erase met) (next met ++ seeds) id) :
    ReachedIn next area seeds id := by
  obtain ⟨seed, isLater, laterInside, path⟩ := reached
  have start : ReachedIn next area seeds seed := by
    have seedInside := List.mem_of_mem_erase laterInside
    rcases List.mem_append.mp isLater with leads | earlier
    · exact (ReachedIn.seed isSeed inside).step leads seedInside
    · exact .seed earlier seedInside
  clear isLater laterInside
  induction path with
  | refl => exact start
  | tail _ last inductionHypothesis =>
    exact inductionHypothesis.step last.1 (List.mem_of_mem_erase last.2)

/-- Dropping a block that was met loses nothing but the block. -/
theorem ReachedIn.erase (reached : ReachedIn next area seeds id) (different : id ≠ met) :
    ReachedIn next (area.erase met) (next met ++ seeds) id := by
  obtain ⟨seed, isSeed, seedInside, path⟩ := reached
  induction path with
  | refl =>
    exact .seed (List.mem_append_right _ isSeed) ((List.mem_erase_of_ne different).mpr seedInside)
  | @tail middle last _ step inductionHypothesis =>
    have inside := (List.mem_erase_of_ne different).mpr step.2
    by_cases same : middle = met
    · subst middle
      exact .seed (List.mem_append_left _ step.1) inside
    · exact (inductionHypothesis same).step step.1 inside

/-- Given as many steps as there are blocks, the search finds exactly what can be
reached inside them. -/
theorem mem_search_iff (steps : Nat) (enough : area.length ≤ steps) :
    id ∈ search next steps area seeds ↔ ReachedIn next area seeds id := by
  induction steps generalizing area seeds with
  | zero =>
    have empty : area = [] := List.eq_nil_of_length_eq_zero (Nat.le_zero.mp enough)
    subst empty
    constructor
    · intro found
      simp [search] at found
    · rintro ⟨seed, _, inside, _⟩
      simp at inside
  | succ steps inductionHypothesis =>
    unfold search
    cases found : seeds.find? (area.contains ·) with
    | none =>
      constructor
      · intro found
        simp at found
      · rintro ⟨seed, isSeed, inside, _⟩
        have outside := List.find?_eq_none.mp found seed isSeed
        simp [inside] at outside
    | some met =>
      have isSeed : met ∈ seeds := List.mem_of_find?_eq_some found
      have inside : met ∈ area := List.contains_iff_mem.mp (List.find?_some found)
      have fewer : (area.erase met).length ≤ steps := by
        have shorter := List.length_erase_of_mem inside
        omega
      rw [List.mem_cons, inductionHypothesis fewer]
      constructor
      · rintro (rfl | later)
        · exact .seed isSeed inside
        · exact later.of_erase isSeed inside
      · intro reached
        by_cases same : id = met
        · exact .inl same
        · exact .inr (reached.erase same)

/-- In a graph whose steps lead to blocks of the graph, the search finds exactly what
can be reached at all. -/
theorem Graph.mem_reach_iff {graph : Graph}
    (closed : ∀ source target, target ∈ next source → target ∈ graph.ids)
    (seedsInside : ∀ seed ∈ seeds, seed ∈ graph.ids) :
    id ∈ graph.reach next seeds ↔
      ∃ seed ∈ seeds, Relation.ReflTransGen (fun source target => target ∈ next source) seed id := by
  unfold Graph.reach
  rw [mem_search_iff _ (Nat.le_refl _)]
  constructor
  · rintro ⟨seed, isSeed, _, path⟩
    exact ⟨seed, isSeed, Relation.ReflTransGen.mono (fun _ _ step => step.1) seed id path⟩
  · rintro ⟨seed, isSeed, path⟩
    exact ⟨seed, isSeed, seedsInside seed isSeed,
      Relation.ReflTransGen.mono (fun source target leads => ⟨leads, closed source target leads⟩)
        seed id path⟩

end Search

/-! ### Graphs under construction -/

namespace Graph

/-- Control gets to the block from the entry without a return. -/
def Visited (graph : Graph) (id : BlockId) : Prop :=
  Relation.ReflTransGen (fun source target => target ∈ graph.silentSuccessors source) entry id

/-- What holds of a graph while it is built: its blocks are numbered from one, and an
edge goes from a block that control reaches to a block of the graph, to the exit
exactly when it stands for a return. -/
structure Sound (graph : Graph) : Prop where
  numbered : graph.ids = List.range' 1 graph.blocks.length
  ends : 2 ≤ graph.blocks.length
  source : ∀ source target : Nat, (source, target) ∈ graph.edges →
    source ≤ graph.blocks.length ∧ graph.Visited source
  target : ∀ source target : Nat, (source, target) ∈ graph.edges →
    1 ≤ target ∧ target ≤ graph.blocks.length
  returns : ∀ source target, (source, target) ∈ graph.edges →
    (target = exit ↔ graph.returnsAt source = true)

/-- The block is one that control reaches and does not return from. -/
structure Live (graph : Graph) (id : Nat) : Prop where
  inside : 1 ≤ id ∧ id ≤ graph.blocks.length
  quiet : graph.returnsAt id = false
  visited : graph.Visited id

/-- The block is one in which control goes on: it is live, and nothing leaves it yet. -/
structure Open (graph : Graph) (id : Nat) : Prop extends Live graph id where
  notExit : id ≠ exit
  unleft : ∀ target, (id, target) ∉ graph.edges

variable {graph after : Graph} {id source target other : Nat} {sources : List Nat}

@[simp] theorem mem_successors : target ∈ graph.successors source ↔
    (source, target) ∈ graph.edges := by
  simp [successors]

@[simp] theorem mem_predecessors : source ∈ graph.predecessors target ↔
    (source, target) ∈ graph.edges := by
  simp [predecessors]

@[simp] theorem mem_silentSuccessors : target ∈ graph.silentSuccessors source ↔
    graph.returnsAt source = false ∧ (source, target) ∈ graph.edges := by
  unfold silentSuccessors
  cases graph.returnsAt source <;> simp

/-- The numbers of a sound graph go from one to the number of blocks. -/
theorem Sound.mem_ids (sound : graph.Sound) :
    id ∈ graph.ids ↔ 1 ≤ id ∧ id ≤ graph.blocks.length := by
  rw [sound.numbered, List.mem_range'_1, Nat.add_comm 1, Nat.lt_succ_iff]

/-- A block of the graph stays visited when edges are added and no block that an
edge leaves turns into one that returns. -/
theorem Visited.mono (visited : graph.Visited id)
    (kept : ∀ edge ∈ graph.edges, edge ∈ after.edges)
    (quiet : ∀ source target, (source, target) ∈ graph.edges →
      after.returnsAt source = graph.returnsAt source) : after.Visited id := by
  refine Relation.ReflTransGen.mono ?_ entry id visited
  intro source target step
  obtain ⟨silent, edge⟩ := mem_silentSuccessors.mp step
  refine mem_silentSuccessors.mpr ⟨?_, kept _ edge⟩
  rw [quiet source target edge, silent]

/-- Control goes on along an edge of a block that does not return. -/
theorem Visited.step (visited : graph.Visited source) (quiet : graph.returnsAt source = false)
    (edge : (source, target) ∈ graph.edges) : graph.Visited target :=
  visited.tail (mem_silentSuccessors.mpr ⟨quiet, edge⟩)

/-! ### The views of changed graphs -/

/-- Changes that keep the number of a block are seen by looking the block up. -/
theorem block?_update {change : Block -> Block} (keeps : ∀ block, (change block).id = block.id) :
    (graph.update id change).block? other =
      (graph.block? other).map fun block => if block.id = id then change block else block := by
  unfold block? update
  rw [List.find?_map]
  congr 2
  funext block
  by_cases same : block.id = id <;> simp [same, keeps]

/-- Changes that keep the numbers of blocks keep all numbers. -/
theorem ids_update {change : Block -> Block} (keeps : ∀ block, (change block).id = block.id) :
    (graph.update id change).ids = graph.ids := by
  unfold ids update
  rw [List.map_map]
  apply List.map_congr_left
  intro block _
  by_cases same : block.id = id <;> simp [same, keeps]

@[simp] theorem length_update {change : Block -> Block} :
    (graph.update id change).blocks.length = graph.blocks.length := by
  simp [update]

@[simp] theorem length_addBlock {place : Option Span} {branch : Option BranchKind} :
    (graph.addBlock place branch).blocks.length = graph.blocks.length + 1 := by
  simp [addBlock]

@[simp] theorem ids_addBlock {place : Option Span} {branch : Option BranchKind} :
    (graph.addBlock place branch).ids = graph.ids ++ [graph.nextId] := by
  simp [ids, addBlock]

@[simp] theorem returnsAt_addBlock {place : Option Span} {branch : Option BranchKind} :
    (graph.addBlock place branch).returnsAt id = graph.returnsAt id := by
  unfold returnsAt block? addBlock
  rw [List.find?_append]
  cases graph.blocks.find? (·.id = id) with
  | some block => simp
  | none =>
    by_cases same : graph.nextId = id <;> simp [same, Block.returns]

@[simp] theorem returnsAt_addStmt {stmt : Stmt} :
    (graph.addStmt id stmt).returnsAt other = graph.returnsAt other := by
  unfold returnsAt addStmt
  rw [block?_update (by intro block; rfl)]
  cases graph.block? other with
  | none => rfl
  | some block =>
    by_cases same : block.id = id <;> simp [same, Block.returns]

/-- Setting an ending is seen at its block only. -/
theorem returnsAt_setEnding {ending : Ending} :
    (graph.setEnding id ending).returnsAt other =
      if other = id then (graph.block? id).isSome && ending = .ret
      else graph.returnsAt other := by
  unfold returnsAt setEnding
  rw [block?_update (by intro block; rfl)]
  cases found : graph.block? other with
  | none =>
    by_cases same : other = id
    · subst same
      simp [found]
    · simp [same]
  | some block =>
    have number : block.id = other := by
      simpa using List.find?_some found
    by_cases same : other = id
    · subst same
      simp [number, found, Block.returns]
    · simp [number, same]

@[simp] theorem returnsAt_addEdge : (graph.addEdge source target).returnsAt id =
    graph.returnsAt id := rfl

@[simp] theorem mem_edges_addEdge {edge : BlockId × BlockId} :
    edge ∈ (graph.addEdge source target).edges ↔
      edge ∈ graph.edges ∨ edge = (source, target) := by
  simp [addEdge]

/-- The graph with edges from several blocks to one. -/
def addEdges (graph : Graph) (sources : List Nat) (target : Nat) : Graph :=
  { graph with edges := graph.edges ++ sources.map (·, target) }

theorem addEdges_addEdges {more : List Nat} :
    (graph.addEdges sources target).addEdges more target =
      graph.addEdges (sources ++ more) target := by
  simp [addEdges]

@[simp] theorem returnsAt_addEdges :
    (graph.addEdges sources target).returnsAt id = graph.returnsAt id := rfl

@[simp] theorem mem_edges_addEdges :
    (source, other) ∈ (graph.addEdges sources target).edges ↔
      (source, other) ∈ graph.edges ∨ source ∈ sources ∧ other = target := by
  simp only [addEdges, List.mem_append, List.mem_map, Prod.mk.injEq]
  refine or_congr_right ⟨?_, ?_⟩
  · rintro ⟨_, isSource, rfl, rfl⟩
    exact ⟨isSource, rfl⟩
  · rintro ⟨isSource, rfl⟩
    exact ⟨source, isSource, rfl, rfl⟩

/-- Numbers of the graph have a block. -/
theorem Sound.isSome_block? (sound : graph.Sound) (inside : 1 ≤ id ∧ id ≤ graph.blocks.length) :
    (graph.block? id).isSome = true := by
  obtain ⟨block, member, number⟩ := List.mem_map.mp (sound.mem_ids.mpr inside)
  unfold block?
  rw [List.find?_isSome]
  exact ⟨block, member, by simpa using number⟩

/-! ### What each operation keeps -/

/-- Graphs with the same blocks by number, the same edges and the same returns are
sound together. -/
theorem Sound.of_views (sound : graph.Sound) (ids : after.ids = graph.ids)
    (length : after.blocks.length = graph.blocks.length) (edges : after.edges = graph.edges)
    (returns : ∀ id, after.returnsAt id = graph.returnsAt id) : after.Sound where
  numbered := by rw [ids, length, sound.numbered]
  ends := length ▸ sound.ends
  source source target edge := by
    rw [edges] at edge
    obtain ⟨inside, visited⟩ := sound.source source target edge
    refine ⟨length ▸ inside, visited.mono ?_ fun source _ _ => returns source⟩
    intro edge member
    rwa [edges]
  target source target edge := by
    rw [edges] at edge
    rw [length]
    exact sound.target source target edge
  returns source target edge := by
    rw [edges] at edge
    rw [returns]
    exact sound.returns source target edge

/-- A new block keeps a graph sound. -/
theorem Sound.addBlock (sound : graph.Sound) (place : Option Span) (branch : Option BranchKind) :
    (graph.addBlock place branch).Sound where
  numbered := by
    rw [ids_addBlock, sound.numbered, length_addBlock, nextId, List.range'_concat]
    simp [Nat.add_comm]
  ends := by
    have enough := sound.ends
    rw [length_addBlock]
    omega
  source source target edge := by
    obtain ⟨inside, visited⟩ := sound.source source target edge
    rw [length_addBlock]
    exact ⟨Nat.le_succ_of_le inside,
      visited.mono (fun _ member => member) fun _ _ _ => returnsAt_addBlock⟩
  target source target edge := by
    obtain ⟨positive, inside⟩ := sound.target source target edge
    rw [length_addBlock]
    exact ⟨positive, Nat.le_succ_of_le inside⟩
  returns source target edge := by
    rw [returnsAt_addBlock]
    exact sound.returns source target edge

/-- Numbers past the end of a sound graph have no block. -/
theorem Sound.block?_of_not_inside (outside : graph.blocks.length < id) (sound : graph.Sound) :
    graph.block? id = none := by
  unfold block?
  rw [List.find?_eq_none]
  intro block member
  have inside := (sound.mem_ids.mp (List.mem_map.mpr ⟨block, member, rfl⟩)).2
  rw [decide_eq_true_eq]
  intro same
  exact absurd outside (Nat.not_lt.mpr (same ▸ inside))

/-- The exit of a sound graph returns nothing, nor does a block past its end. -/
theorem Sound.quiet_of_not_inside (outside : graph.blocks.length < id) (sound : graph.Sound) :
    graph.returnsAt id = false := by
  simp [returnsAt, sound.block?_of_not_inside outside]

/-- A statement added to a block keeps a graph sound. -/
theorem Sound.addStmt (sound : graph.Sound) (id : BlockId) (stmt : Stmt) :
    (graph.addStmt id stmt).Sound :=
  sound.of_views (ids_update (by intro block; rfl)) length_update rfl fun _ => returnsAt_addStmt

/-- An ending other than a return changes nothing about a block that does not return. -/
theorem returnsAt_setEnding_quiet {ending : Ending} (quiet : graph.returnsAt id = false)
    (silent : ending ≠ .ret) (other : BlockId) :
    (graph.setEnding id ending).returnsAt other = graph.returnsAt other := by
  rw [returnsAt_setEnding]
  by_cases same : other = id
  · subst same
    simp [silent, quiet]
  · simp [same]

/-- An ending other than a return keeps a graph sound. -/
theorem Sound.setEnding (sound : graph.Sound) {ending : Ending}
    (quiet : graph.returnsAt id = false) (silent : ending ≠ .ret) :
    (graph.setEnding id ending).Sound :=
  sound.of_views (ids_update (by intro block; rfl)) length_update rfl
    (returnsAt_setEnding_quiet quiet silent)

/-- A statement in a block keeps what is open. -/
theorem Open.addStmt (isOpen : graph.Open id) (stmt : Stmt) : (graph.addStmt id stmt).Open id where
  inside := by
    rw [Graph.addStmt, length_update]
    exact isOpen.inside
  quiet := returnsAt_addStmt.trans isOpen.quiet
  visited := isOpen.visited.mono (fun _ edge => edge) fun _ _ _ => returnsAt_addStmt
  notExit := isOpen.notExit
  unleft := isOpen.unleft

/-- An ending other than a return keeps a block open. -/
theorem Open.setEnding (isOpen : graph.Open id) (ending : Ending) (silent : ending ≠ .ret) :
    (graph.setEnding id ending).Open id where
  inside := by
    rw [Graph.setEnding, length_update]
    exact isOpen.inside
  quiet := (returnsAt_setEnding_quiet isOpen.quiet silent id).trans isOpen.quiet
  visited := isOpen.visited.mono (fun _ edge => edge)
    fun source _ _ => returnsAt_setEnding_quiet isOpen.quiet silent source
  notExit := isOpen.notExit
  unleft := isOpen.unleft

/-- Edges from live blocks to a block other than the exit keep a graph sound. -/
theorem Sound.addEdges (sound : graph.Sound) (sources : List Nat)
    (live : ∀ source ∈ sources, graph.Live source)
    (targetInside : 1 ≤ target ∧ target ≤ graph.blocks.length) (notExit : target ≠ exit) :
    (graph.addEdges sources target).Sound where
  numbered := sound.numbered
  ends := sound.ends
  source other last edge := by
    have keeps {id : Nat} (visited : graph.Visited id) :
        (graph.addEdges sources target).Visited id :=
      visited.mono (fun _ member => mem_edges_addEdges.mpr (.inl member)) fun _ _ _ => rfl
    rcases mem_edges_addEdges.mp edge with earlier | ⟨isSource, _⟩
    · obtain ⟨inside, visited⟩ := sound.source other last earlier
      exact ⟨inside, keeps visited⟩
    · exact ⟨(live other isSource).inside.2, keeps (live other isSource).visited⟩
  target other last edge := by
    rcases mem_edges_addEdges.mp edge with earlier | ⟨_, same⟩
    · exact sound.target other last earlier
    · subst same
      exact targetInside
  returns other last edge := by
    rw [returnsAt_addEdges]
    rcases mem_edges_addEdges.mp edge with earlier | ⟨isSource, same⟩
    · exact sound.returns other last earlier
    · subst same
      simp [notExit, (live other isSource).quiet]

/-- An edge from a live block to a block other than the exit keeps a graph sound. -/
theorem Sound.addEdge (sound : graph.Sound) (live : graph.Live source)
    (targetInside : 1 ≤ target ∧ target ≤ graph.blocks.length) (notExit : target ≠ exit) :
    (graph.addEdge source target).Sound :=
  sound.addEdges [source] (List.forall_mem_singleton.mpr live) targetInside notExit

/-- A return at the end of an open block keeps a graph sound. -/
theorem Sound.addReturn (sound : graph.Sound) (isOpen : graph.Open id) :
    ((graph.setEnding id .ret).addEdge id exit).Sound := by
  -- the block that turns into one that returns has no edges, so no path is lost
  have others {other : Nat} (different : other ≠ id) :
      (graph.setEnding id .ret).returnsAt other = graph.returnsAt other := by
    simp [returnsAt_setEnding, different]
  have returning : (graph.setEnding id .ret).returnsAt id = true := by
    simp [returnsAt_setEnding, sound.isSome_block? isOpen.inside]
  have keeps {other : Nat} (visited : graph.Visited other) :
      ((graph.setEnding id .ret).addEdge id exit).Visited other := by
    refine visited.mono (fun _ member => mem_edges_addEdge.mpr (.inl member)) ?_
    intro source target edge
    refine others fun same => ?_
    subst same
    exact isOpen.unleft target edge
  refine ⟨?_, ?_, ?_, ?_, ?_⟩
  · have ids : ((graph.setEnding id .ret).addEdge id exit).ids = graph.ids :=
      ids_update (by intro block; rfl)
    have length : ((graph.setEnding id .ret).addEdge id exit).blocks.length =
        graph.blocks.length := length_update
    rw [ids, length, sound.numbered]
  · have length : ((graph.setEnding id .ret).addEdge id exit).blocks.length =
        graph.blocks.length := length_update
    rw [length]
    exact sound.ends
  · intro source target edge
    have length : ((graph.setEnding id .ret).addEdge id exit).blocks.length =
        graph.blocks.length := length_update
    rw [length]
    rcases mem_edges_addEdge.mp edge with earlier | added
    · obtain ⟨inside, visited⟩ := sound.source source target earlier
      exact ⟨inside, keeps visited⟩
    · cases added
      exact ⟨isOpen.inside.2, keeps isOpen.visited⟩
  · intro source target edge
    have length : ((graph.setEnding id .ret).addEdge id exit).blocks.length =
        graph.blocks.length := length_update
    rw [length]
    rcases mem_edges_addEdge.mp edge with earlier | added
    · exact sound.target source target earlier
    · cases added
      exact ⟨by decide, sound.ends⟩
  · intro source target edge
    rw [returnsAt_addEdge]
    rcases mem_edges_addEdge.mp edge with earlier | added
    · have different : source ≠ id := by
        rintro rfl
        exact isOpen.unleft target earlier
      rw [others different]
      exact sound.returns source target earlier
    · cases added
      simp [returning]

end Graph

/-! ### How a graph grows -/

/-- The targets of edges that statements may add to a graph of `bound` blocks: the
exit, new blocks, and what the jumps of the loop around them lead to. -/
def LeadsOn (loop : Option LoopTargets) (bound target : Nat) : Prop :=
  target = Graph.exit ∨ bound < target ∨
    ∃ targets, loop = some targets ∧ (target = targets.behind ∨ target = targets.header)

/-- What building behind the block `current` does to a graph: only that block and new
ones are left or change their ending. -/
structure Grows (loop : Option LoopTargets) (current : Nat) (before after : Graph) : Prop where
  longer : before.blocks.length ≤ after.blocks.length
  kept : ∀ edge ∈ before.edges, edge ∈ after.edges
  added : ∀ source target : Nat, (source, target) ∈ after.edges →
    (source, target) ∈ before.edges ∨
      ((source = current ∨ before.blocks.length < source) ∧
        LeadsOn loop before.blocks.length target)
  endings : ∀ id : Nat, id ≤ before.blocks.length → id ≠ current →
    after.returnsAt id = before.returnsAt id

namespace Grows

variable {loop : Option LoopTargets} {current next id source target : Nat}
  {before middle after : Graph}

/-- A graph may stay as it is. -/
theorem refl : Grows loop current before before :=
  ⟨Nat.le_refl _, fun _ edge => edge, fun _ _ edge => .inl edge, fun _ _ _ => rfl⟩

/-- A graph grows behind a block by growing behind that block, or a new one, again. -/
theorem trans (first : Grows loop current before middle) (second : Grows loop next middle after)
    (behind : next = current ∨ before.blocks.length < next) : Grows loop current before after where
  longer := Nat.le_trans first.longer second.longer
  kept edge member := second.kept edge (first.kept edge member)
  added source target edge := by
    have longer := first.longer
    rcases second.added source target edge with earlier | ⟨fresh, leads⟩
    · exact first.added source target earlier
    · refine .inr ⟨?_, ?_⟩
      · rcases fresh with rfl | fresh
        · exact behind
        · exact .inr (Nat.lt_of_le_of_lt longer fresh)
      · rcases leads with isExit | fresh | jumps
        · exact .inl isExit
        · exact .inr (.inl (Nat.lt_of_le_of_lt longer fresh))
        · exact .inr (.inr jumps)
  endings id inside different := by
    have longer := first.longer
    have apart : id ≠ next := by
      rcases behind with rfl | fresh
      · exact different
      · omega
    rw [second.endings id (Nat.le_trans inside longer) apart,
      first.endings id inside different]

/-- A new block. -/
theorem addBlock (place : Option Span) (branch : Option BranchKind) :
    Grows loop current before (before.addBlock place branch) where
  longer := by simp
  kept _ member := member
  added _ _ edge := .inl edge
  endings _ _ _ := Graph.returnsAt_addBlock

/-- A statement in a block. -/
theorem addStmt (id : Nat) (stmt : Stmt) : Grows loop current before (before.addStmt id stmt) where
  longer := Nat.le_of_eq Graph.length_update.symm
  kept _ member := member
  added _ _ edge := .inl edge
  endings _ _ _ := Graph.returnsAt_addStmt

/-- Another ending of the block. -/
theorem setEnding (ending : Ending) : Grows loop current before (before.setEnding current ending) where
  longer := Nat.le_of_eq Graph.length_update.symm
  kept _ member := member
  added _ _ edge := .inl edge
  endings _ _ different := by simp [Graph.returnsAt_setEnding, different]

/-- Edges from the block, or from new ones, to what counts as a target at the start. -/
theorem addEdges (grows : Grows loop current before middle) (sources : List Nat)
    (behind : ∀ next ∈ sources, next = current ∨ before.blocks.length < next)
    (leads : LeadsOn loop before.blocks.length target) :
    Grows loop current before (middle.addEdges sources target) where
  longer := grows.longer
  kept edge member := by
    obtain ⟨source, last⟩ := edge
    exact Graph.mem_edges_addEdges.mpr (.inl (grows.kept _ member))
  added source last edge := by
    rcases Graph.mem_edges_addEdges.mp edge with earlier | ⟨isSource, same⟩
    · exact grows.added source last earlier
    · subst same
      exact .inr ⟨behind source isSource, leads⟩
  endings := grows.endings

/-- An edge from the block, or from a new one, to what counts as a target at the start. -/
theorem addEdge (grows : Grows loop current before middle)
    (behind : next = current ∨ before.blocks.length < next)
    (leads : LeadsOn loop before.blocks.length target) :
    Grows loop current before (middle.addEdge next target) :=
  grows.addEdges [next] (List.forall_mem_singleton.mpr behind) leads

/-- What grows without the jumps of a loop grows inside any loop. -/
theorem anywhere (grows : Grows none current before after) : Grows loop current before after where
  longer := grows.longer
  kept := grows.kept
  added source target edge := by
    rcases grows.added source target edge with earlier | ⟨fresh, leads⟩
    · exact .inl earlier
    · refine .inr ⟨fresh, ?_⟩
      rcases leads with isExit | isNew | ⟨_, same, _⟩
      · exact .inl isExit
      · exact .inr (.inl isNew)
      · cases same
  endings := grows.endings

/-- What a loop of its own leads to counts as new around it. -/
theorem outside {targets : LoopTargets} (grows : Grows (some targets) current before after)
    (behind : before.blocks.length < targets.behind)
    (header : before.blocks.length < targets.header) : Grows loop current before after where
  longer := grows.longer
  kept := grows.kept
  added source target edge := by
    rcases grows.added source target edge with earlier | ⟨fresh, leads⟩
    · exact .inl earlier
    · refine .inr ⟨fresh, ?_⟩
      rcases leads with isExit | fresh | ⟨_, same, jumps⟩
      · exact .inl isExit
      · exact .inr (.inl fresh)
      · cases same
        rcases jumps with rfl | rfl
        · exact .inr (.inl behind)
        · exact .inr (.inl header)
  endings := grows.endings

/-- Control still reaches what it reached, as long as `current` keeps its ending or
nothing left it. -/
theorem visited (grows : Grows loop current before after) (sound : before.Sound)
    (steady : ∀ target : Nat, (current, target) ∈ before.edges →
      after.returnsAt current = before.returnsAt current)
    (visited : before.Visited id) : after.Visited id := by
  refine visited.mono grows.kept ?_
  intro source target edge
  by_cases same : source = current
  · subst same
    exact steady target edge
  · exact grows.endings source (sound.source source target edge).1 same

/-- Another open block stays open. -/
theorem isOpen (grows : Grows loop current before after) (sound : before.Sound)
    (steady : ∀ target : Nat, (current, target) ∈ before.edges →
      after.returnsAt current = before.returnsAt current)
    (isOpen : before.Open id) (different : id ≠ current) : after.Open id where
  inside := ⟨isOpen.inside.1, Nat.le_trans isOpen.inside.2 grows.longer⟩
  quiet := by rw [grows.endings id isOpen.inside.2 different, isOpen.quiet]
  visited := grows.visited sound steady isOpen.visited
  notExit := isOpen.notExit
  unleft target edge := by
    have inside := isOpen.inside.2
    rcases grows.added id target edge with earlier | ⟨same | fresh, _⟩
    · exact isOpen.unleft target earlier
    · exact different same
    · omega

/-- A live block stays live, as long as it keeps its ending. -/
theorem live (grows : Grows loop current before after) (sound : before.Sound)
    (steady : after.returnsAt current = before.returnsAt current) (live : before.Live id) :
    after.Live id where
  inside := ⟨live.inside.1, Nat.le_trans live.inside.2 grows.longer⟩
  quiet := by
    by_cases same : id = current
    · rw [same, steady, ← same, live.quiet]
    · rw [grows.endings id live.inside.2 same, live.quiet]
  visited := grows.visited sound (fun _ _ => steady) live.visited

end Grows

/-! ### New branches -/

namespace Graph

variable {graph : Graph} {id source target : Nat}

/-- The graph with a new block that control goes to from the block `source`. -/
def branch (graph : Graph) (source : Nat) (place : Option Span) (kind : Option BranchKind) :
    Graph :=
  (graph.addBlock place kind).addEdge source graph.nextId

variable {place : Option Span} {kind : Option BranchKind}

/-- A new block is not the exit and returns nothing, and no edge leaves it. -/
theorem Sound.fresh (sound : graph.Sound) (fresh : graph.blocks.length < id) :
    id ≠ exit ∧ graph.returnsAt id = false ∧ ∀ target : Nat, (id, target) ∉ graph.edges := by
  refine ⟨?_, sound.quiet_of_not_inside fresh, ?_⟩
  · have enough := sound.ends
    intro same
    rw [same] at fresh
    exact absurd enough (Nat.not_le.mpr fresh)
  · intro target edge
    have inside := (sound.source id target edge).1
    omega

/-- A block that nothing has left is open once control reaches it along an edge. -/
theorem Sound.open_target (sound : graph.Sound) (edge : (source, target) ∈ graph.edges)
    (notExit : target ≠ exit) (quiet : graph.returnsAt target = false)
    (unleft : ∀ last : Nat, (target, last) ∉ graph.edges) : graph.Open target where
  inside := sound.target source target edge
  quiet := quiet
  visited := by
    have silent : graph.returnsAt source = false := by
      have returns := sound.returns source target edge
      simpa [notExit] using returns
    exact (sound.source source target edge).2.step silent edge
  notExit := notExit
  unleft := unleft

/-- A branch from a live block keeps a graph sound. -/
theorem Sound.branch (sound : graph.Sound) (live : graph.Live source) :
    (graph.branch source place kind).Sound := by
  have grows : Grows none source graph (graph.addBlock place kind) := .addBlock place kind
  refine (sound.addBlock place kind).addEdge ?_ ?_ ?_
  · exact grows.live sound returnsAt_addBlock live
  · simp [nextId]
  · exact (sound.fresh (Nat.lt_succ_self _)).1

/-- A branch starts with an open block. -/
theorem Sound.branch_open (sound : graph.Sound) (live : graph.Live source) :
    (graph.branch source place kind).Open graph.nextId := by
  have fresh : graph.blocks.length < graph.nextId := Nat.lt_succ_self _
  obtain ⟨notExit, quiet, unleft⟩ := sound.fresh fresh
  refine (sound.branch live).open_target (mem_edges_addEdge.mpr (.inr rfl)) notExit ?_ ?_
  · exact returnsAt_addBlock.trans quiet
  · intro target edge
    rcases mem_edges_addEdge.mp edge with earlier | added
    · exact unleft target earlier
    · have inside := live.inside.2
      have same : graph.nextId = source := congrArg Prod.fst added
      rw [same] at fresh
      omega

/-- A branch lets a graph grow behind the block it starts from. -/
theorem branch_grows (loop : Option LoopTargets) :
    Grows loop source graph (graph.branch source place kind) :=
  (Grows.addBlock place kind).addEdge (.inl rfl) (.inr (.inl (Nat.lt_succ_self _)))

end Graph
end UnitCheck.Flow
