import Mathlib.Data.List.Nodup
import UnitCheck.Proofs.Flow.Standing

/-!
# The flow graph of a body and its census

Building a flow graph puts a statement into a block only where control reaches it, and the
last statement of a block that ends with a jump is that jump. So the census of the body
accounts for every block (`accounted_graph`): it lists the statements of the block as reached,
and the loop that it gives for a jump is the one whose blocks the jump leads to. The
invariant of the induction is `Laid`, which goes along with `Built`.
-/

namespace UnitCheck.Flow

/-- Whether a block that ends this way has been left by a break or a continue. -/
def Ending.jumps : Ending -> Bool
  | .brk | .cont => true
  | _ => false

/-- How a break or a continue ends its block. -/
def jumpEnding? : Stmt -> Option Ending
  | .brk _ => some .brk
  | .cont _ => some .cont
  | _ => none

/-- Where a jump out of a round goes: a break behind the loop, a continue to its header. -/
def LoopTargets.goal (targets : LoopTargets) (ending : Ending) : BlockId :=
  if ending = .brk then targets.behind else targets.header

namespace Graph

/-- The targets are the header of the loop and the block behind it: both belong to the
loop as a whole, and only the header is marked as one. No loop starts with the entry. -/
structure LoopAt (graph : Graph) (loop : Stmt) (targets : LoopTargets) : Prop where
  notEntry : targets.header ≠ entry ∧ targets.behind ≠ entry
  header : ∃ block, graph.block? targets.header = some block ∧
    block.place = some loop.span ∧ block.branch = none ∧ block.ending = .loop
  behind : ∃ block, graph.block? targets.behind = some block ∧
    block.place = some loop.span ∧ block.branch = none ∧ block.ending ≠ .loop

/-- Where a block ends with a jump, given the innermost loop around the jump: nowhere
without one, and otherwise only where the jump goes. -/
def Leads (graph : Graph) (id : Nat) (ending : Ending) : Option Stmt -> Prop
  | none => graph.successors id = []
  | some loop => ∃ targets, graph.LoopAt loop targets ∧
      graph.successors id = [targets.goal ending]

end Graph

/-- The census lists the statements of a block as reached, with the loop that its jump
leaves or starts again. -/
structure Accounted (entries : List (Stmt × Standing)) (graph : Graph) (block : Block) :
    Prop where
  stmts : ∀ stmt ∈ block.stmts, ∃ here, (stmt, here) ∈ entries ∧ here.reached = true
  jump : block.ending.jumps = true → ∃ stmt here, block.stmts.getLast? = some stmt ∧
    jumpEnding? stmt = some block.ending ∧ (stmt, here) ∈ entries ∧ here.reached = true ∧
    graph.Leads block.id block.ending here.loop

/-- The census accounts for all blocks of the graph. -/
def Charted (entries : List (Stmt × Standing)) (graph : Graph) : Prop :=
  ∀ id block, graph.block? id = some block → Accounted entries graph block

variable {entries : List (Stmt × Standing)} {here : Standing} {stmt : Stmt} {ending : Ending}
  {loop : Option LoopTargets} {targets : LoopTargets} {current next id source target : Nat}
  {graph before middle after : Graph} {new : List Block} {more : List (BlockId × BlockId)}

/-! ### What stays of a block -/

/-- The block belongs to the same code as the other one, and both or none are headers. -/
structure Block.Resembles (now block : Block) : Prop where
  place : now.place = block.place
  branch : now.branch = block.branch
  header : now.ending = .loop ↔ block.ending = .loop

/-- Blocks stay what they are; only the block `current` may get statements or an ending. -/
def Kept (current : Nat) (before after : Graph) : Prop :=
  ∀ id block, before.block? id = some block →
    ∃ now, after.block? id = some now ∧ now.Resembles block ∧ (id ≠ current → now = block)

theorem Block.Resembles.refl (block : Block) : block.Resembles block := ⟨rfl, rfl, Iff.rfl⟩

theorem Block.Resembles.trans {block now later : Block} (second : later.Resembles now)
    (first : now.Resembles block) : later.Resembles block where
  place := second.place.trans first.place
  branch := second.branch.trans first.branch
  header := second.header.trans first.header

theorem Kept.refl : Kept current before before :=
  fun _ block found => ⟨block, found, .refl block, fun _ => rfl⟩

/-- Blocks stay what they are behind the same block again, or behind a new one. -/
theorem Kept.trans (first : Kept current before middle) (second : Kept next middle after)
    (behind : next = current ∨ before.block? next = none) : Kept current before after := by
  intro id block found
  obtain ⟨now, isNow, resembles, same⟩ := first id block found
  obtain ⟨later, isLater, again, unchanged⟩ := second id now isNow
  refine ⟨later, isLater, again.trans resembles, fun different => ?_⟩
  have apart : id ≠ next := by
    rcases behind with rfl | missing
    · exact different
    · rintro rfl
      rw [found] at missing
      cases missing
  rw [unchanged apart, same different]

/-- The blocks of a loop stay its header and the block behind it. -/
theorem Graph.LoopAt.mono {loop : Stmt} (isLoop : before.LoopAt loop targets)
    (kept : Kept current before after) : after.LoopAt loop targets where
  notEntry := isLoop.notEntry
  header := by
    obtain ⟨block, found, place, branch, header⟩ := isLoop.header
    obtain ⟨now, isNow, resembles, _⟩ := kept _ block found
    exact ⟨now, isNow, resembles.place.trans place, resembles.branch.trans branch,
      resembles.header.mpr header⟩
  behind := by
    obtain ⟨block, found, place, branch, notHeader⟩ := isLoop.behind
    obtain ⟨now, isNow, resembles, _⟩ := kept _ block found
    exact ⟨now, isNow, resembles.place.trans place, resembles.branch.trans branch,
      fun isHeader => notHeader (resembles.header.mp isHeader)⟩

/-- The loop around some statements is still the one whose targets they jump to. -/
theorem loops_mono {around : Option Stmt} (loops : Option.Rel before.LoopAt around loop)
    (kept : Kept current before after) : Option.Rel after.LoopAt around loop := by
  cases loops with
  | some isLoop => exact .some (isLoop.mono kept)
  | none => exact .none

/-! ### Blocks by their numbers -/

namespace Graph

/-- Blocks are looked up in front of the ones added behind them. -/
theorem block?_append (blocks : after.blocks = before.blocks ++ new) :
    after.block? id = (before.block? id).or (new.find? (·.id = id)) := by
  unfold block?
  rw [blocks, List.find?_append]

theorem id_of_block? {block : Block} (found : graph.block? id = some block) : block.id = id := by
  simpa using List.find?_some found

/-- Where the numbers of blocks differ, every block is found by its own. -/
theorem block?_of_mem (distinct : graph.ids.Nodup) {block : Block}
    (isBlock : block ∈ graph.blocks) : graph.block? block.id = some block := by
  obtain ⟨found, isFound⟩ : ∃ found, graph.block? block.id = some found := by
    refine Option.isSome_iff_exists.mp (List.find?_isSome.mpr ⟨block, isBlock, ?_⟩)
    simp
  rw [isFound, List.inj_on_of_nodup_map distinct (List.mem_of_find?_eq_some isFound) isBlock
    (id_of_block? isFound)]

/-- In a sound graph every block is found by its number. -/
theorem Sound.block?_of_mem (sound : graph.Sound) {block : Block}
    (isBlock : block ∈ graph.blocks) : graph.block? block.id = some block := by
  refine Graph.block?_of_mem ?_ isBlock
  rw [sound.numbered]
  exact List.nodup_range'

/-- A new number has no block. -/
theorem Sound.block?_nextId (sound : graph.Sound) : graph.block? graph.nextId = none :=
  sound.block?_of_not_inside (Nat.lt_succ_self _)

end Graph

/-- The block has got no ending yet. -/
def Blank (graph : Graph) (id : Nat) : Prop :=
  ∃ block, graph.block? id = some block ∧ block.ending = .fallThrough

/-- No jump has left the block. -/
def Still (graph : Graph) (id : Nat) : Prop :=
  ∃ block, graph.block? id = some block ∧ block.ending.jumps = false

theorem Blank.still (blank : Blank graph id) : Still graph id := by
  obtain ⟨block, found, ending⟩ := blank
  exact ⟨block, found, by rw [ending]; rfl⟩

/-- A block without an ending stays so while others are built. -/
theorem Blank.mono (blank : Blank before id) (kept : Kept current before after)
    (different : id ≠ current) : Blank after id := by
  obtain ⟨block, found, ending⟩ := blank
  obtain ⟨now, isNow, _, same⟩ := kept id block found
  exact ⟨now, isNow, same different ▸ ending⟩

/-- A new block whose ending is not set yet. -/
theorem blank_append (blocks : after.blocks = before.blocks ++ new)
    (fresh : before.block? id = none) {block : Block} (found : new.find? (·.id = id) = some block)
    (ending : block.ending = .fallThrough) : Blank after id :=
  ⟨block, by rw [Graph.block?_append blocks, fresh, found]; rfl, ending⟩

/-! ### New blocks and edges -/

/-- All blocks are as they were, and there may be new ones. -/
def Graph.Within (before after : Graph) : Prop :=
  ∀ id block, before.block? id = some block → after.block? id = some block

theorem Graph.Within.kept (within : before.Within after) (current : Nat) :
    Kept current before after :=
  fun id block found => ⟨block, within id block found, .refl block, fun _ => rfl⟩

theorem Graph.Within.trans (first : before.Within middle) (second : middle.Within after) :
    before.Within after :=
  fun id block found => second id block (first id block found)

theorem Still.mono (still : Still before id) (within : before.Within after) : Still after id := by
  obtain ⟨block, found, quiet⟩ := still
  exact ⟨block, within id block found, quiet⟩

/-- New blocks leave the others as they are. -/
theorem Graph.Within.append (blocks : after.blocks = before.blocks ++ new) :
    before.Within after := by
  intro id block found
  rw [Graph.block?_append blocks, found]
  rfl

/-- Edges that leave other blocks are no successors. -/
theorem successors_append (more : List (BlockId × BlockId))
    (edges : after.edges = before.edges ++ more)
    (elsewhere : ∀ edge ∈ more, edge.1 ≠ id) : after.successors id = before.successors id := by
  have none : more.filter (·.1 = id) = [] := by
    simpa [List.filter_eq_nil_iff] using elsewhere
  unfold Graph.successors
  rw [edges, List.filter_append, none, List.append_nil]

/-- What accounts for a block still does where the block has the same successors. -/
theorem Accounted.mono {block : Block} (accounted : Accounted entries before block)
    (kept : Kept current before after)
    (steady : block.ending.jumps = true →
      after.successors block.id = before.successors block.id) :
    Accounted entries after block where
  stmts := accounted.stmts
  jump jumps := by
    obtain ⟨stmt, here, isLast, isJump, isEntry, reached, leads⟩ := accounted.jump jumps
    refine ⟨stmt, here, isLast, isJump, isEntry, reached, ?_⟩
    revert leads
    cases here.loop with
    | none => exact (steady jumps).trans
    | some loop =>
      rintro ⟨targets, isLoop, goal⟩
      exact ⟨targets, isLoop.mono kept, (steady jumps).trans goal⟩

/-- Empty blocks keep a graph charted, and so do edges from blocks that no jump has left. -/
theorem Charted.append (charted : Charted entries before)
    (blocks : after.blocks = before.blocks ++ new) (edges : after.edges = before.edges ++ more)
    (empty : ∀ block ∈ new, block.stmts = [] ∧ block.ending.jumps = false)
    (still : ∀ edge ∈ more, Still before edge.1 ∨ before.block? edge.1 = none) :
    Charted entries after := by
  intro id block found
  rw [Graph.block?_append blocks, Option.or_eq_some_iff] at found
  rcases found with found | ⟨_, found⟩
  · refine (charted id block found).mono ((Graph.Within.append blocks).kept 0) fun jumps => ?_
    refine successors_append more edges fun edge isEdge same => ?_
    rw [Graph.id_of_block? found] at same
    rcases still edge isEdge with ⟨other, isOther, quiet⟩ | missing
    · rw [same, found, Option.some.injEq] at isOther
      rw [isOther, quiet] at jumps
      cases jumps
    · rw [same, found] at missing
      cases missing
  · obtain ⟨noStmts, quiet⟩ := empty block (List.mem_of_find?_eq_some found)
    refine ⟨?_, ?_⟩
    · simp [noStmts]
    · simp [quiet]

/-- Edges from blocks that no jump has left keep a graph charted. -/
theorem Charted.addEdges (charted : Charted entries before) (sources : List Nat)
    (still : ∀ id ∈ sources, Still before id) :
    Charted entries (before.addEdges sources target) := by
  refine charted.append (List.append_nil _).symm rfl (List.forall_mem_nil _) ?_
  simpa using fun id isSource => Or.inl (still id isSource)

/-- Edges change no block. -/
theorem Graph.Within.addEdges (sources : List Nat) :
    before.Within (before.addEdges sources target) :=
  .append (List.append_nil _).symm

/-! ### Statements at the end of a block -/

/-- The graph with one more statement in the block `current`, which now ends that way. -/
structure Puts (stmt : Stmt) (ending : Ending) (current : Nat) (before after : Graph) :
    Prop where
  notHeader : ending ≠ .loop
  block? : ∀ id, after.block? id = (before.block? id).map fun block =>
    if block.id = current then { block with stmts := block.stmts ++ [stmt], ending := ending }
    else block
  others : ∀ id, id ≠ current → after.successors id = before.successors id

/-- A statement in a block without an ending. -/
theorem Puts.append (blank : Blank before current) (stmt : Stmt) :
    Puts stmt .fallThrough current before (before.addStmt current stmt) where
  notHeader := by decide
  block? id := by
    rw [Graph.addStmt, Graph.block?_update (by intro block; rfl)]
    refine Option.map_congr fun block found => ?_
    by_cases same : block.id = current
    · obtain ⟨other, isOther, ending⟩ := blank
      rw [← same, Graph.id_of_block? found, found, Option.some.injEq] at isOther
      rw [← isOther] at ending
      rw [if_pos same, if_pos same, ← ending]
    · rw [if_neg same, if_neg same]
  others _ _ := rfl

/-- The last statement of a block. -/
theorem Puts.finish (stmt : Stmt) (notHeader : ending ≠ .loop) :
    Puts stmt ending current before ((before.addStmt current stmt).setEnding current ending) where
  notHeader := notHeader
  block? id := by
    rw [Graph.setEnding, Graph.addStmt, Graph.block?_update (by intro block; rfl),
      Graph.block?_update (by intro block; rfl), Option.map_map]
    refine Option.map_congr fun block _ => ?_
    by_cases same : block.id = current <;> simp [same]
  others _ _ := rfl

/-- The last statement of a block, with the edge that it takes. -/
theorem Puts.addEdge (puts : Puts stmt ending current before after) (target : Nat) :
    Puts stmt ending current before (after.addEdge current target) where
  notHeader := puts.notHeader
  block? := puts.block?
  others id different := by
    rw [← puts.others id different]
    refine successors_append [(current, target)] rfl ?_
    simpa using different.symm

theorem Puts.kept (puts : Puts stmt ending current before after) (blank : Blank before current) :
    Kept current before after := by
  intro id block found
  have number := Graph.id_of_block? found
  have now := puts.block? id
  rw [found, Option.map_some] at now
  by_cases same : id = current
  · obtain ⟨other, isOther, fallsThrough⟩ := blank
    rw [← same, found, Option.some.injEq] at isOther
    rw [← isOther] at fallsThrough
    rw [if_pos (number.trans same)] at now
    refine ⟨_, now, ⟨rfl, rfl, ?_⟩, (absurd same ·)⟩
    simp [fallsThrough, puts.notHeader]
  · rw [if_neg (number ▸ same)] at now
    exact ⟨block, now, .refl block, fun _ => rfl⟩

/-- The census accounts for a reached statement behind others. -/
theorem Puts.charted (puts : Puts stmt ending current before after) (blank : Blank before current)
    (charted : Charted entries before) (isEntry : (stmt, here) ∈ entries)
    (reached : here.reached = true)
    (jump : ending.jumps = true →
      jumpEnding? stmt = some ending ∧ after.Leads current ending here.loop) :
    Charted entries after := by
  intro id now found
  rw [puts.block?, Option.map_eq_some_iff] at found
  obtain ⟨block, found, isNow⟩ := found
  have accounted := charted id block found
  by_cases same : block.id = current
  · rw [if_pos same] at isNow
    subst isNow
    refine ⟨?_, fun jumps => ?_⟩
    · intro other isOther
      rcases List.mem_append.mp isOther with earlier | isLast
      · exact accounted.stmts other earlier
      · exact ⟨here, List.mem_singleton.mp isLast ▸ isEntry, reached⟩
    · obtain ⟨isJump, leads⟩ := jump jumps
      exact ⟨stmt, here, by simp, isJump, isEntry, reached, same.symm ▸ leads⟩
  · rw [if_neg same] at isNow
    subst isNow
    exact accounted.mono (puts.kept blank) fun _ => puts.others block.id same

/-! ### The invariant of building -/

/-- What holds where statements are built: the loop around them is the one whose targets
their jumps go to. -/
structure Ready (entries : List (Stmt × Standing)) (here : Standing)
    (loop : Option LoopTargets) (current : Nat) (before : Graph) : Prop where
  around : Around loop before
  sound : before.Sound
  isOpen : before.Open current
  blank : Blank before current
  loops : Option.Rel before.LoopAt here.loop loop
  charted : Charted entries before

/-- What building statements in the block `current` leaves behind: a charted graph in which
control goes on, if it does, in a block without an ending. -/
structure Laid (entries : List (Stmt × Standing)) (current : Nat) (before : Graph)
    (outcome : Option BlockId × Graph) : Prop where
  charted : Charted entries outcome.2
  kept : Kept current before outcome.2
  blank : ∀ id : Nat, outcome.1 = some id → Blank outcome.2 id

variable {outcome : Option BlockId × Graph}

/-- A new block is none of the graph so far. -/
theorem Graph.Sound.behind_or_new (sound : before.Sound)
    (behind : next = current ∨ before.blocks.length < next) :
    next = current ∨ before.block? next = none :=
  behind.imp_right fun fresh => sound.block?_of_not_inside fresh

/-- Statements behind others, in the block where control goes on. -/
theorem Laid.behind (former : Laid entries current before (some next, middle))
    (latter : Laid entries next middle outcome)
    (behind : next = current ∨ before.block? next = none) :
    Laid entries current before outcome where
  charted := latter.charted
  kept := former.kept.trans latter.kept behind
  blank := latter.blank

/-- Statements can be built in the block in which control goes on behind others. -/
theorem Ready.behind {completed broken : Bool} (ready : Ready entries here loop current before)
    (former : Laid entries current before (some next, middle))
    (built : Built loop current before completed broken (some next, middle)) :
    Ready entries (here.behind stmt) loop next middle where
  around := ready.around.mono built.grows.longer
  sound := built.sound
  isOpen := (built.isOpen next rfl).1
  blank := former.blank next rfl
  loops := loops_mono ready.loops former.kept
  charted := former.charted

/-- What stands behind a statement that control runs past is reached. -/
theorem reached_behind {broken : Bool} (reached : here.reached = true)
    (built : Built loop current before (completes stmt) broken (some next, middle)) :
    (here.behind stmt).reached = true := by
  have completes : completes stmt = true := built.goesOn.symm
  simp [Standing.behind, reached, completes]

/-- The block that got the statement is found with it. -/
theorem Puts.found (puts : Puts stmt ending current before after) (blank : Blank before current) :
    ∃ block, after.block? current = some block ∧ block.ending = ending := by
  obtain ⟨block, found, _⟩ := blank
  refine ⟨{ block with stmts := block.stmts ++ [stmt], ending := ending }, ?_, rfl⟩
  rw [puts.block?, found, Option.map_some, if_pos (Graph.id_of_block? found)]

/-- A statement that control just runs past. -/
theorem Laid.append (ready : Ready entries here loop current before)
    (isEntry : (stmt, here) ∈ entries) (reached : here.reached = true) :
    Laid entries current before (some current, before.addStmt current stmt) where
  charted := by
    refine (Puts.append ready.blank stmt).charted ready.blank ready.charted isEntry reached ?_
    intro jumps
    cases jumps
  kept := (Puts.append ready.blank stmt).kept ready.blank
  blank id same := by
    cases same
    exact (Puts.append ready.blank stmt).found ready.blank

/-- A return. -/
theorem Laid.ret (ready : Ready entries here loop current before)
    (isEntry : (stmt, here) ∈ entries) (reached : here.reached = true) :
    Laid entries current before
      (none, ((before.addStmt current stmt).setEnding current .ret).addEdge current target) where
  charted := by
    refine ((Puts.finish stmt (by decide)).addEdge target).charted ready.blank ready.charted
      isEntry reached ?_
    intro jumps
    cases jumps
  kept := ((Puts.finish stmt (by decide)).addEdge target).kept ready.blank
  blank _ impossible := by cases impossible

/-- A jump goes to a block of the innermost loop around it, or nowhere. -/
theorem Laid.jump (ready : Ready entries here loop current before)
    (isEntry : (stmt, here) ∈ entries) (reached : here.reached = true)
    (isJump : jumpEnding? stmt = some ending) (notHeader : ending ≠ .loop)
    {goal : LoopTargets -> BlockId} (goes : ∀ targets, goal targets = targets.goal ending) :
    Laid entries current before
      (none, ((Build.jump loop goal ending current stmt).run before).2) := by
  have unleft : before.successors current = [] := by
    refine List.eq_nil_iff_forall_not_mem.mpr fun target isTarget => ?_
    exact ready.isOpen.unleft target (Graph.mem_successors.mp isTarget)
  have finish : Puts stmt ending current before
      ((before.addStmt current stmt).setEnding current ending) := .finish stmt notHeader
  have loops := ready.loops
  revert loops
  generalize around : here.loop = frame
  intro loops
  cases loops with
  | none =>
    refine ⟨finish.charted ready.blank ready.charted isEntry reached fun _ => ⟨isJump, ?_⟩,
      finish.kept ready.blank, fun _ impossible => by cases impossible⟩
    rw [around]
    exact unleft
  | @some frame targets isLoop =>
    have put := finish.addEdge (targets.goal ending)
    have run : ((Build.jump (some targets) goal ending current stmt).run before).2 =
        ((before.addStmt current stmt).setEnding current ending).addEdge current
          (targets.goal ending) := by
      rw [← goes]
      rfl
    rw [run]
    refine ⟨put.charted ready.blank ready.charted isEntry reached fun _ => ⟨isJump, ?_⟩,
      put.kept ready.blank, fun _ impossible => by cases impossible⟩
    rw [around]
    refine ⟨targets, isLoop.mono (put.kept ready.blank), ?_⟩
    have own : before.edges.filter (·.1 = current) = [] := List.map_eq_nil_iff.mp unleft
    simp [Graph.successors, Graph.addEdge, Graph.setEnding, Graph.addStmt, Graph.update, own]

/-! ### Branches -/

/-- What holds where a branch leaves the block `source`, which a condition has ended. -/
structure Fork (entries : List (Stmt × Standing)) (here : Standing)
    (loop : Option LoopTargets) (source : Nat) (before : Graph) : Prop where
  around : Around loop before
  sound : before.Sound
  live : before.Live source
  still : Still before source
  loops : Option.Rel before.LoopAt here.loop loop
  charted : Charted entries before

/-- What building a branch leaves behind: a charted graph in which all earlier blocks are as
they were. -/
structure Forked (entries : List (Stmt × Standing)) (before : Graph)
    (outcome : Option BlockId × Graph) : Prop where
  charted : Charted entries outcome.2
  within : before.Within outcome.2
  still : ∀ id : Nat, outcome.1 = some id → Still outcome.2 id

variable {place : Option Span} {kind : Option BranchKind}

/-- Statements can be built at the start of a branch. -/
theorem Fork.ready (fork : Fork entries here loop source before) (place : Option Span)
    (kind : Option BranchKind) :
    Ready entries here loop before.nextId (before.branch source place kind) where
  around := fork.around.mono (Graph.branch_grows none).longer
  sound := fork.sound.branch fork.live
  isOpen := fork.sound.branch_open fork.live
  blank := blank_append rfl fork.sound.block?_nextId (List.find?_cons_of_pos (by simp)) rfl
  loops := loops_mono fork.loops ((Graph.Within.append rfl).kept source)
  charted := by
    refine fork.charted.append rfl rfl ?_ ?_
    · simp [Ending.jumps]
    · simpa using Or.inl fork.still

/-- A condition leaves its block to the branches. -/
theorem Ready.condition (ready : Ready entries here loop current before)
    (isEntry : (stmt, here) ∈ entries) (reached : here.reached = true) :
    Fork entries here loop current ((before.addStmt current stmt).setEnding current .cond) := by
  have finished := Extended.finish loop ready.sound ready.isOpen stmt .cond (by decide)
  have stays := (ready.isOpen.addStmt stmt).setEnding .cond (by decide)
  have put : Puts stmt .cond current before
      ((before.addStmt current stmt).setEnding current .cond) := .finish stmt (by decide)
  refine ⟨ready.around.mono finished.grows.longer, finished.sound, stays.toLive, ?_,
    loops_mono ready.loops (put.kept ready.blank),
    put.charted ready.blank ready.charted isEntry reached ?_⟩
  · obtain ⟨block, found, ending⟩ := put.found ready.blank
    exact ⟨block, found, by rw [ending]; rfl⟩
  · intro jumps
    cases jumps

/-- The statements of a branch leave all earlier blocks as they were. -/
theorem Laid.forked (laid : Laid entries before.nextId (before.branch source place kind) outcome)
    (sound : before.Sound) : Forked entries before outcome where
  charted := laid.charted
  within id block found := by
    have different : id ≠ before.nextId := by
      rintro rfl
      rw [sound.block?_nextId] at found
      cases found
    obtain ⟨now, isNow, _, same⟩ := laid.kept id block (Graph.Within.append rfl id block found)
    rw [isNow, same different]
  still id same := (laid.blank id same).still

/-- A second branch leaves the same block. -/
theorem Fork.again {completed broken : Bool} (fork : Fork entries here loop source before)
    (forked : Forked entries before outcome)
    (branched : Branched loop source before completed broken outcome) :
    Fork entries here loop source outcome.2 where
  around := fork.around.mono branched.grows.longer
  sound := branched.sound
  live := branched.grows.live fork.sound branched.steady fork.live
  still := fork.still.mono forked.within
  loops := loops_mono fork.loops (forked.within.kept source)
  charted := forked.charted

/-- Two branches meet in a new block. -/
theorem Forked.meet (current : Nat) {first second : Option BlockId × Graph}
    (former : Forked entries before first)
    (latter : Forked entries first.2 second) (sound : second.2.Sound) (place : Option Span) :
    Laid entries current before
      ((do
        let merge <- Build.newBlock place none
        Build.edgeFrom first.1 merge
        Build.edgeFrom second.1 merge
        return if first.1.isSome || second.1.isSome then some merge else none :
          Build (Option BlockId)).run second.2) := by
  rw [run_meet]
  have still : ∀ id ∈ first.1.toList ++ second.1.toList, Still second.2 id := by
    intro id isEnd
    rcases List.mem_append.mp isEnd with isFirst | isSecond
    · exact (former.still id (Option.mem_toList.mp isFirst)).mono latter.within
    · exact latter.still id (Option.mem_toList.mp isSecond)
  refine ⟨latter.charted.append rfl rfl ?_ ?_, ?_, ?_⟩
  · simp [Ending.jumps]
  · intro edge isEdge
    obtain ⟨id, isEnd, rfl⟩ := List.mem_map.mp isEdge
    exact .inl (still id isEnd)
  · exact ((former.within.trans latter.within).trans (.append rfl)).kept current
  · intro id same
    split at same
    · cases same
      exact blank_append rfl sound.block?_nextId (List.find?_cons_of_pos (by simp)) rfl
    · cases same

/-! ### Loops -/

/-- The blocks that open a loop are its header, the start of its body and the one behind it. -/
theorem blocks_withLoop (sound : before.Sound) (current : Nat) (place bodyPlace : Span)
    (conditional : Bool) :
    (before.withLoop current place bodyPlace conditional).blocks = before.blocks ++
      [⟨before.nextId, [], .loop, some place, none⟩,
        ⟨before.nextId + 1, [], .fallThrough, some bodyPlace, some .loopBody⟩,
        ⟨before.nextId + 2, [], .fallThrough, some place, none⟩] := by
  have others : before.blocks.map (fun block =>
      if block.id = before.nextId then { block with ending := Ending.loop } else block) =
      before.blocks := by
    refine (List.map_congr_left fun block isBlock => if_neg fun same => ?_).trans
      (List.map_id' before.blocks)
    have found := sound.block?_of_mem isBlock
    rw [same, sound.block?_nextId] at found
    cases found
  have header : (before.withHeader current place).blocks = before.blocks ++
      [⟨before.nextId, [], .loop, some place, none⟩] := by
    simp [Graph.withHeader, Graph.setEnding, Graph.update, Graph.branch, Graph.addEdge,
      Graph.addBlock, others]
  simp [Graph.withLoop, Graph.addEdges, Graph.addBlock, Graph.withRound, Graph.branch,
    Graph.addEdge, header, Graph.nextId]

theorem edges_withLoop (current : Nat) (place bodyPlace : Span) (conditional : Bool) :
    (before.withLoop current place bodyPlace conditional).edges = before.edges ++
      ([(current, before.nextId), (before.nextId, (before.withHeader current place).nextId)] ++
        (if conditional then [before.nextId] else []).map
          (·, (before.withRound current place bodyPlace).nextId)) := by
  simp [Graph.withLoop, Graph.addEdges, Graph.addBlock, Graph.withRound, Graph.withHeader,
    Graph.setEnding, Graph.update, Graph.branch, Graph.addEdge, List.append_assoc]

/-- The blocks that open a loop, by their numbers. -/
theorem block?_withLoop (sound : before.Sound) (current : Nat) (place bodyPlace : Span)
    (conditional : Bool) :
    let after := before.withLoop current place bodyPlace conditional
    after.block? before.nextId = some ⟨before.nextId, [], .loop, some place, none⟩ ∧
    after.block? (before.withHeader current place).nextId =
      some ⟨before.nextId + 1, [], .fallThrough, some bodyPlace, some .loopBody⟩ ∧
    after.block? (before.withRound current place bodyPlace).nextId =
      some ⟨before.nextId + 2, [], .fallThrough, some place, none⟩ := by
  have blocks := blocks_withLoop sound current place bodyPlace conditional
  have numbers : (before.withHeader current place).nextId = before.nextId + 1 ∧
      (before.withRound current place bodyPlace).nextId = before.nextId + 2 := by
    simp [Graph.withRound, Graph.withHeader, Graph.branch, Graph.setEnding, Graph.addEdge,
      Graph.nextId]
  have fresh (more : Nat) : before.block? (before.nextId + more) = none := by
    refine sound.block?_of_not_inside ?_
    simp only [Graph.nextId]
    omega
  rw [numbers.1, numbers.2]
  simp only [Graph.block?_append blocks, fresh]
  rw [sound.block?_nextId]
  simp

variable {frame : Stmt} {bodyPlace : Span} {conditional : Bool}

/-- A loop opens with the blocks that its jumps lead to. -/
theorem Ready.opened (ready : Ready entries here loop current before) (frame : Stmt)
    (bodyPlace : Span) (conditional : Bool) :
    Ready entries (here.inside frame)
      (some ⟨(before.withRound current frame.span bodyPlace).nextId, before.nextId⟩)
      (before.withHeader current frame.span).nextId
      (before.withLoop current frame.span bodyPlace conditional) := by
  have opened := Opened.withLoop frame.span bodyPlace conditional ready.sound ready.isOpen
  obtain ⟨header, round, behind⟩ :=
    block?_withLoop ready.sound current frame.span bodyPlace conditional
  have notEntry {id : Nat} (fresh : before.blocks.length < id) : id ≠ Graph.entry :=
    Nat.ne_of_gt (Nat.lt_trans ready.sound.ends fresh)
  refine ⟨opened.around, opened.sound, opened.isOpen, ⟨_, round, rfl⟩,
    .some ⟨⟨notEntry opened.fresh.2.2, notEntry opened.fresh.2.1⟩,
      ⟨_, header, rfl, rfl, rfl⟩, ⟨_, behind, rfl, rfl, by simp⟩⟩, ?_⟩
  refine ready.charted.append (blocks_withLoop ready.sound current frame.span bodyPlace conditional)
    (edges_withLoop current frame.span bodyPlace conditional) ?_ ?_
  · simp [Ending.jumps]
  · -- one edge leaves the block that is still open, and the others leave the new header
    intro edge isEdge
    have source : edge.1 = current ∨ edge.1 = before.nextId := by
      cases conditional <;> simp at isEdge <;> grind
    rcases source with same | same
    · rw [same]
      exact .inl ready.blank.still
    · rw [same]
      exact .inr ready.sound.block?_nextId

/-- A loop closes behind the statements of its body. -/
theorem Laid.closeLoop (ready : Ready entries here loop current before)
    (laid : Laid entries (before.withHeader current frame.span).nextId
      (before.withLoop current frame.span bodyPlace conditional) outcome) :
    Laid entries current before ((Build.closeLoop
      ⟨(before.withRound current frame.span bodyPlace).nextId, before.nextId⟩
      outcome.1).run outcome.2) := by
  have opened := Opened.withLoop frame.span bodyPlace conditional ready.sound ready.isOpen
  obtain ⟨_, _, behind⟩ := block?_withLoop ready.sound current frame.span bodyPlace conditional
  have added := blocks_withLoop ready.sound current frame.span bodyPlace conditional
  have start : Kept current before (before.withLoop current frame.span bodyPlace conditional) :=
    (Graph.Within.append added).kept current
  rw [run_closeLoop]
  refine ⟨laid.charted.addEdges _ ?_, ?_, ?_⟩
  · intro id isLast
    exact (laid.blank id (Option.mem_toList.mp isLast)).still
  · refine (start.trans laid.kept (.inr ?_)).trans ((Graph.Within.addEdges _).kept current)
      (.inl rfl)
    exact ready.sound.block?_of_not_inside opened.fresh.1
  · intro id same
    simp only at same
    split at same
    · cases same
    · cases same
      exact Blank.mono ⟨_, behind, rfl⟩ laid.kept opened.different

/-- A loop around statements. -/
theorem Laid.rounds (ready : Ready entries here loop current before) (frame : Stmt)
    (bodyPlace : Span) (conditional : Bool)
    (body : Option LoopTargets -> BlockId -> Build (Option BlockId))
    (inner : ∀ {loop : Option LoopTargets} {current : Nat} {before : Graph},
      Ready entries (here.inside frame) loop current before →
      Laid entries current before ((body loop current).run before)) :
    let opened := (Build.openLoop current frame.span bodyPlace conditional).run before
    let outcome := (body (some opened.1.1) opened.1.2).run opened.2
    Laid entries current before ((Build.closeLoop opened.1.1 outcome.1).run outcome.2) := by
  rw [run_openLoop]
  exact .closeLoop ready (inner (ready.opened frame bodyPlace conditional))

/-! ### All statements -/

mutual

/-- The census accounts for what a reached statement puts into the graph. -/
theorem laid_stmt : (stmt : Stmt) -> {here : Standing} -> here.reached = true ->
    (∀ entry ∈ census here stmt, entry ∈ entries) -> {loop : Option LoopTargets} ->
    {current : Nat} -> {before : Graph} -> Ready entries here loop current before ->
    Laid entries current before ((Build.stmt loop current stmt).run before)
  | .block body _, _, reached, listed, _, _, _, ready => by
    simp only [census, List.forall_mem_cons] at listed
    unfold Build.stmt
    exact laid_stmts body reached listed.2 ready
  | .ret value span, _, reached, listed, _, _, _, ready => by
    simp only [census, List.forall_mem_singleton] at listed
    unfold Build.stmt
    exact .ret ready listed reached
  | .brk span, _, reached, listed, _, _, _, ready
  | .cont span, _, reached, listed, _, _, _, ready => by
    simp only [census, List.forall_mem_singleton] at listed
    unfold Build.stmt
    exact .jump ready listed reached rfl (by decide) fun _ => rfl
  | .whileLoop test body bodySpan span, _, reached, listed, _, _, _, ready => by
    simp only [census, List.forall_mem_cons] at listed
    unfold Build.stmt
    have rounds := Laid.rounds ready (.whileLoop test body bodySpan span) bodySpan true
      (fun loop current => Build.stmts loop (some current) body) fun ready =>
      laid_stmts body (by exact reached) listed.2 ready
    exact rounds
  | .loop body bodySpan span, _, reached, listed, _, _, _, ready => by
    simp only [census, List.forall_mem_cons] at listed
    unfold Build.stmt
    have rounds := Laid.rounds ready (.loop body bodySpan span) bodySpan false
      (fun loop current => Build.stmts loop (some current) body) fun ready =>
      laid_stmts body (by exact reached) listed.2 ready
    exact rounds
  | .forLoop first test after body bodySpan span, _, reached, listed, _, _, _, ready => by
    simp only [census, List.forall_mem_cons, List.forall_mem_append] at listed
    unfold Build.stmt
    have rounds := Laid.rounds ready (.forLoop first test after body bodySpan span) bodySpan
      test.isSome (fun loop current => Build.stmts loop (some current) body) fun ready =>
      laid_stmts body (by exact reached) listed.2.2 ready
    exact rounds
  | .cond test body bodySpan otherwise span, here, reached, listed, loop, current, before,
      ready => by
    simp only [census, List.forall_mem_cons, List.forall_mem_append] at listed
    obtain ⟨isEntry, bodyListed, elseListed⟩ := listed
    unfold Build.stmt
    let stmt : Stmt := .cond test body bodySpan otherwise span
    have put : Puts stmt .cond current before
        ((before.addStmt current stmt).setEnding current .cond) := .finish stmt (by decide)
    have fork := ready.condition isEntry reached
    have built := Builds.branched (built_stmts body) fork.around fork.sound fork.live
      (some bodySpan) (some .ifBranch)
    have former := (laid_stmts body reached bodyListed
      (fork.ready (some bodySpan) (some .ifBranch))).forked fork.sound
    have again := fork.again former built
    have latter := forked_elseBranch otherwise reached elseListed again
    have sound := (built_elseBranch again.around again.sound again.live otherwise).sound
    have met := former.meet current latter sound (some span)
    have laid : Laid entries current before _ :=
      ⟨met.charted, (put.kept ready.blank).trans met.kept (.inl rfl), met.blank⟩
    exact laid
  | .expr _, _, reached, listed, _, _, _, ready | .letIn _, _, reached, listed, _, _, _, ready
  | .instr _, _, reached, listed, _, _, _, ready | .const _, _, reached, listed, _, _, _, ready
  | .struct _, _, reached, listed, _, _, _, ready | .bad _, _, reached, listed, _, _, _, ready
  | .assign _ _ _, _, reached, listed, _, _, _, ready
  | .write _ _ _, _, reached, listed, _, _, _, ready => by
    simp only [census, List.forall_mem_singleton] at listed
    unfold Build.stmt
    exact .append ready listed reached

/-- The census accounts for the other branch of a reached condition. -/
theorem forked_elseBranch : (otherwise : Option Stmt) -> {here : Standing} ->
    here.reached = true -> (∀ entry ∈ census? here otherwise, entry ∈ entries) ->
    {loop : Option LoopTargets} -> {current : Nat} -> {before : Graph} ->
    Fork entries here loop current before ->
    Forked entries before ((Build.elseBranch loop current otherwise).run before)
  | none, _, _, _, _, _, _, fork => by
    unfold Build.elseBranch
    refine ⟨fork.charted, fun _ _ found => found, ?_⟩
    rintro id ⟨⟩
    exact fork.still
  | some otherwise, _, reached, listed, _, _, _, fork => by
    unfold Build.elseBranch
    exact (laid_stmt otherwise reached listed (fork.ready _ _)).forked fork.sound

/-- The census accounts for what reached statements put into the graph. -/
theorem laid_stmts : (body : List Stmt) -> {here : Standing} -> here.reached = true ->
    (∀ entry ∈ censusAll here body, entry ∈ entries) -> {loop : Option LoopTargets} ->
    {current : Nat} -> {before : Graph} -> Ready entries here loop current before ->
    Laid entries current before ((Build.stmts loop (some current) body).run before)
  | [], _, _, _, _, _, _, ready => by
    unfold Build.stmts
    refine ⟨ready.charted, .refl, ?_⟩
    rintro id ⟨⟩
    exact ready.blank
  | stmt :: rest, here, reached, listed, loop, current, before, ready => by
    simp only [censusAll, List.forall_mem_append] at listed
    have former := laid_stmt stmt reached listed.1 ready
    have built := built_stmt stmt ready.around ready.sound ready.isOpen
    rw [stmts_cons, Build.run_bind]
    rcases outcome : (Build.stmt loop current stmt).run before with ⟨next, middle⟩
    rw [outcome] at former built
    cases next with
    | none => exact ⟨former.charted, former.kept, fun _ impossible => by cases impossible⟩
    | some next =>
      have further := reached_behind reached built
      exact former.behind (laid_stmts rest further listed.2 (ready.behind former built))
        (ready.sound.behind_or_new (built.isOpen next rfl).2)

end

/-! ### Whole bodies -/

/-- Statements can be built at the start of a body. -/
theorem ready_bare (entries : List (Stmt × Standing)) (place : Span) :
    Ready entries .body none Graph.entry (Graph.bare place) where
  around := by
    refine ⟨?_, ?_, ?_, ?_⟩ <;> intro _ impossible <;> cases impossible
  sound := sound_bare place
  isOpen := open_bare place
  blank := ⟨_, rfl, rfl⟩
  loops := .none
  charted := by
    have charted : Charted entries Graph.empty := fun _ _ impossible => by cases impossible
    refine charted.append rfl rfl ?_ (List.forall_mem_nil _)
    simp [Ending.jumps]

/-- The census of a body accounts for all blocks of its flow graph. -/
theorem accounted_graph (body : Body) (place : Span) :
    ∀ block ∈ (Flow.graph (some body) place).blocks,
      Accounted (censusAll .body body.stmts) (Flow.graph (some body) place) block := by
  have laid := laid_stmts body.stmts rfl (fun _ => id) (ready_bare _ place)
  have built := built_body body place
  rw [graph_eq]
  intro block isBlock
  refine laid.charted.addEdges _ ?_ block.id block (built.sound.block?_of_mem isBlock)
  exact fun id isLast => (laid.blank id (Option.mem_toList.mp isLast)).still

end UnitCheck.Flow
