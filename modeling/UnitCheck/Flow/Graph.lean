import UnitCheck.Finding.Basic

/-!
# Flow graphs

A flow graph has the blocks of a body, numbered from one, and the edges that
control takes between them. Successors and predecessors are views of the list of
edges, so an edge is always seen from both of its ends.

The flow graph of a body is built statement by statement. Building reports
nothing: a jump outside a loop just ends its block, and statements that control
cannot reach are left out.
-/

namespace UnitCheck.Flow

/-- The number of a block. -/
abbrev BlockId := Nat

/-- How a block ends. -/
inductive Ending where
  | fallThrough | ret | brk | cont | cond | loop
deriving Repr, DecidableEq, Inhabited

/-- Statements that run one after the other. -/
structure Block where
  id : BlockId
  stmts : List Stmt
  ending : Ending
  /-- What the block belongs to; the end of a body has no place. -/
  place : Option Span
  /-- The branch that the block starts. -/
  branch : Option BranchKind

namespace Block

/-- Whether the block leaves the body with a return. -/
def returns (block : Block) : Bool := block.ending = .ret

/-- Whether control may run past the last statement of the block. -/
def fallsThrough (block : Block) : Bool :=
  match block.ending with
  | .ret | .brk | .cont => false
  | .fallThrough | .cond | .loop => true

end Block

/-- The blocks of a body and the edges between them, both in the order they were
added. -/
structure Graph where
  blocks : List Block
  edges : List (BlockId × BlockId)

namespace Graph

/-- The block that a body starts with. -/
def entry : BlockId := 1

/-- The block behind the end of a body. -/
def exit : BlockId := 2

/-- A graph without blocks. -/
def empty : Graph := ⟨[], []⟩

/-- The block of that number. -/
def block? (graph : Graph) (id : BlockId) : Option Block :=
  graph.blocks.find? (·.id = id)

/-- The blocks that control may reach next, in the order of the edges. -/
def successors (graph : Graph) (id : BlockId) : List BlockId :=
  (graph.edges.filter (·.1 = id)).map Prod.snd

/-- The blocks that control may come from, in the order of the edges. -/
def predecessors (graph : Graph) (id : BlockId) : List BlockId :=
  (graph.edges.filter (·.2 = id)).map Prod.fst

/-- The numbers of the blocks. -/
def ids (graph : Graph) : List BlockId := graph.blocks.map (·.id)

/-- The number that the next block gets. -/
def nextId (graph : Graph) : BlockId := graph.blocks.length + 1

/-- Adds an empty block. -/
def addBlock (graph : Graph) (place : Option Span) (branch : Option BranchKind) : Graph :=
  { graph with
    blocks := graph.blocks ++ [⟨graph.nextId, [], .fallThrough, place, branch⟩] }

/-- Adds an edge. -/
def addEdge (graph : Graph) (source target : BlockId) : Graph :=
  { graph with edges := graph.edges ++ [(source, target)] }

/-- Changes the block of that number. -/
def update (graph : Graph) (id : BlockId) (change : Block -> Block) : Graph :=
  { graph with
    blocks := graph.blocks.map fun block => if block.id = id then change block else block }

/-- Adds a statement to a block and leaves its ending. -/
def addStmt (graph : Graph) (id : BlockId) (stmt : Stmt) : Graph :=
  graph.update id fun block => { block with stmts := block.stmts ++ [stmt] }

/-- Sets how a block ends. -/
def setEnding (graph : Graph) (id : BlockId) (ending : Ending) : Graph :=
  graph.update id fun block => { block with ending := ending }

end Graph

/-! ### Building -/

/-- Where the jumps of a loop go. -/
structure LoopTargets where
  /-- The block behind the loop. -/
  behind : BlockId
  /-- The block that starts the next round. -/
  header : BlockId
deriving Repr, DecidableEq

/-- A step of building a graph. -/
abbrev Build := StateM Graph

namespace Build

/-- Adds an empty block and gives its number. -/
def newBlock (place : Option Span) (branch : Option BranchKind) : Build BlockId := do
  let graph <- get
  set (graph.addBlock place branch)
  return graph.nextId

/-- Adds an edge. -/
def edge (source target : BlockId) : Build Unit :=
  modify (·.addEdge source target)

/-- Adds an edge from a block that control may never reach. -/
def edgeFrom (source : Option BlockId) (target : BlockId) : Build Unit :=
  match source with
  | some id => edge id target
  | none => return

/-- Adds a statement to a block. -/
def append (id : BlockId) (stmt : Stmt) : Build Unit :=
  modify (·.addStmt id stmt)

/-- Adds the last statement of a block and says how the block ends. -/
def finish (id : BlockId) (stmt : Stmt) (ending : Ending) : Build Unit :=
  modify fun graph => (graph.addStmt id stmt).setEnding id ending

/-- Ends a block with a jump to one of the targets of the innermost loop. -/
def jump (loop : Option LoopTargets) (target : LoopTargets -> BlockId) (ending : Ending)
    (current : BlockId) (stmt : Stmt) : Build Unit := do
  finish current stmt ending
  match loop with
  | some targets => edge current (target targets)
  | none => return

/-- The blocks of a loop: its header, the start of its body and the block behind it.
Only a loop with a condition is left from its header. -/
def openLoop (current : BlockId) (place bodyPlace : Span) (conditional : Bool) :
    Build (LoopTargets × BlockId) := do
  let header <- newBlock (some place) none
  modify (·.setEnding header .loop)
  edge current header
  let body <- newBlock (some bodyPlace) (some .loopBody)
  edge header body
  let behind <- newBlock (some place) none
  if conditional then edge header behind
  return (⟨behind, header⟩, body)

/-- Closes a loop behind the last block of its body. Control goes on behind the loop
if anything leads there. -/
def closeLoop (targets : LoopTargets) (last : Option BlockId) : Build (Option BlockId) := do
  edgeFrom last targets.header
  let graph <- get
  return if (graph.predecessors targets.behind).isEmpty then none else some targets.behind

mutual

/-- Builds a statement behind the statements of the block `current`. The result is the
block in which control goes on, if it does. -/
def stmt (loop : Option LoopTargets) (current : BlockId) : Stmt -> Build (Option BlockId)
  | .block body _ => stmts loop (some current) body
  | .ret value span => do
    finish current (.ret value span) .ret
    edge current Graph.exit
    return none
  | .brk span => do
    jump loop (·.behind) .brk current (.brk span)
    return none
  | .cont span => do
    jump loop (·.header) .cont current (.cont span)
    return none
  | .cond test body bodySpan otherwise span => do
    finish current (.cond test body bodySpan otherwise span) .cond
    let first <- newBlock (some bodySpan) (some .ifBranch)
    edge current first
    let afterIf <- stmts loop (some first) body
    let afterElse <- elseBranch loop current otherwise
    let merge <- newBlock (some span) none
    edgeFrom afterIf merge
    edgeFrom afterElse merge
    return if afterIf.isSome || afterElse.isSome then some merge else none
  | .whileLoop _ body bodySpan span => do
    let (targets, first) <- openLoop current span bodySpan true
    let last <- stmts (some targets) (some first) body
    closeLoop targets last
  | .loop body bodySpan span => do
    let (targets, first) <- openLoop current span bodySpan false
    let last <- stmts (some targets) (some first) body
    closeLoop targets last
  | .forLoop _ test _ body bodySpan span => do
    let (targets, first) <- openLoop current span bodySpan test.isSome
    let last <- stmts (some targets) (some first) body
    closeLoop targets last
  | other => do
    append current other
    return some current

/-- Builds the branch that is taken when the condition at the end of `current` fails.
Without a branch control goes on from `current` itself. -/
def elseBranch (loop : Option LoopTargets) (current : BlockId) :
    Option Stmt -> Build (Option BlockId)
  | none => return some current
  | some otherwise => do
    let first <- newBlock (some otherwise.span) (some .elseBranch)
    edge current first
    stmt loop first otherwise

/-- Builds statements one behind the other; what follows the end of control is left
out. -/
def stmts (loop : Option LoopTargets) : Option BlockId -> List Stmt -> Build (Option BlockId)
  | current, [] => return current
  | none, _ => return none
  | some current, first :: rest => do
    let next <- stmt loop current first
    stmts loop next rest

end
end Build

/-- The flow graph of a body. Its first two blocks are the entry and the exit; without a
body the one leads to the other. -/
def graph (body : Option Body) (place : Span) : Graph :=
  let start := (Graph.empty.addBlock (some place) none).addBlock none none
  match body with
  | none => start.addEdge Graph.entry Graph.exit
  | some body =>
    ((do
      let last <- Build.stmts none (some Graph.entry) body.stmts
      Build.edgeFrom last Graph.exit : Build Unit).run start).2

end UnitCheck.Flow
