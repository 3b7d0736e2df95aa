import UnitCheck.Flow.Graph

/-!
# Returns on all paths

Whether control can fall off the end of a body, and through which branches. All
questions are about blocks that can be reached along edges, so they share one
search.
-/

namespace UnitCheck.Flow

/-- What can be reached from `pending` along `next` inside `unseen`, each block once.
A block is dropped from `unseen` when it is met, so as many steps as there are blocks
suffice. -/
def search (next : BlockId -> List BlockId) :
    (steps : Nat) -> (unseen pending : List BlockId) -> List BlockId
  | 0, _, _ => []
  | steps + 1, unseen, pending =>
    match pending.find? (unseen.contains ·) with
    | none => []
    | some id => id :: search next steps (unseen.erase id) (next id ++ pending)

namespace Graph

/-- What can be reached from `seeds` along `next`. -/
def reach (graph : Graph) (next : BlockId -> List BlockId) (seeds : List BlockId) :
    List BlockId :=
  search next graph.ids.length graph.ids seeds

/-- Whether the block of that number leaves the body with a return. -/
def returnsAt (graph : Graph) (id : BlockId) : Bool :=
  (graph.block? id).any (·.returns)

/-- The blocks that control may reach next without a return. -/
def silentSuccessors (graph : Graph) (id : BlockId) : List BlockId :=
  if graph.returnsAt id then [] else graph.successors id

/-- Whether every path through the body returns: the exit cannot be reached without a
return. -/
def allReturn (graph : Graph) : Bool :=
  !(graph.reach graph.silentSuccessors [entry]).contains exit

/-- The blocks from which control falls off the end: they can be reached, lead to the
exit and do not return. -/
def leaks (graph : Graph) : List BlockId :=
  (graph.reach graph.successors [entry]).filter fun id =>
    (graph.successors id).contains exit && !graph.returnsAt id

/-- Where control came from, up to the block that started the branch. -/
def sources (graph : Graph) (id : BlockId) : List BlockId :=
  match (graph.block? id).bind (·.branch) with
  | some _ => []
  | none => graph.predecessors id

/-- The branches through which control falls off the end, in the order of their
blocks. -/
def missingBranches (graph : Graph) : List Block :=
  let back := graph.reach graph.sources graph.leaks
  graph.blocks.filter fun block => block.branch.isSome && back.contains block.id

/-- The neighbours of a block in either direction. -/
def neighbours (graph : Graph) (id : BlockId) : List BlockId :=
  graph.successors id ++ graph.predecessors id

/-- The blocks connected to the entry or the exit, in order. -/
def connected (graph : Graph) : List Block :=
  let found := graph.reach graph.neighbours [entry, exit]
  graph.blocks.filter fun block => found.contains block.id

end Graph
end UnitCheck.Flow
