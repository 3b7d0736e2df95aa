import UnitCheck.Diagnostic.Basic
import UnitCheck.Finding.Wording
import UnitCheck.Options.Basic
import UnitCheck.Pass
import UnitCheck.Scope.Member
import UnitCheck.Scope.Symbol
import UnitCheck.Scope.Table
import UnitCheck.Text.Style
import UnitCheck.Tree.Item

/-!
# Sessions

A session is one unit together with everything the passes have found out about
it. The tree of the unit never changes; a pass is a state transformer on the
session.

What the passes learn about the nodes of a unit are facts. Each kind of fact is a
log, the latest entry first: recording never removes anything, and the latest
entry for a node is the one that counts.
-/

namespace UnitCheck

/-! ### Facts -/

/-- A log of facts about nodes, the latest first. -/
abbrev FactLog (α : Type) := List (NodeId × α)

namespace FactLog

/-- The fact that counts for a node. -/
def find? {α : Type} (log : FactLog α) (node : NodeId) : Option α :=
  List.lookup node log

/-- Records a fact about a node. -/
def record {α : Type} (log : FactLog α) (node : NodeId) (fact : α) : FactLog α :=
  (node, fact) :: log

/-- The number of nodes with a fact. -/
def nodeCount {α : Type} (log : FactLog α) : Nat :=
  (log.map Prod.fst).eraseDups.length

end FactLog

/-- What is known about the nodes of a unit. -/
structure Facts where
  /-- The types of expressions. -/
  exprs : FactLog Ty
  /-- The types that written types stand for. -/
  forms : FactLog Ty
  /-- The symbols that names refer to. -/
  refs : FactLog Symbol
  /-- The symbols of declaring nodes. -/
  decls : FactLog Symbol
  /-- The hops of field accesses. -/
  members : FactLog (List MemberStep)

/-- Nothing is known. -/
def Facts.empty : Facts := ⟨[], [], [], [], []⟩

/-! ### What is found out about a unit -/

/-- A unit with everything found out about it. -/
structure Session where
  /-- The unit; an empty session has none and its passes have nothing to walk. -/
  unit : Option Module
  options : Options
  table : Table
  definitions : Definitions
  /-- What is known about the types of symbols, the latest first. -/
  known : List (SymbolId × SymbolType)
  facts : Facts
  /-- What the passes have to say, in the order it was found. -/
  findings : List Finding
  passes : Tracker
  /-- The globals whose initializers the current type check has gone through. -/
  checked : List NodeId
  /-- The progress messages written so far. -/
  progress : List String

/-- A step of a pass. -/
abbrev Check := StateM Session

namespace Session

/-- A session before its first pass. -/
def start (unit : Option Module) (options : Options) : Session :=
  ⟨unit, options, .empty, .empty, [], .empty, [], .empty, [], []⟩

/-- The file of the unit. -/
def file (session : Session) : String :=
  match session.unit with
  | some unit => unit.file
  | none => ""

/-- The items of the unit. -/
def items (session : Session) : List Item :=
  match session.unit with
  | some unit => unit.items
  | none => []

/-- The diagnostics of the findings. -/
def bag (session : Session) : Bag :=
  ⟨session.file, session.findings.map (·.diagnostic session.file)⟩

/-- What is known about the type of a symbol. -/
def knownOf (session : Session) (id : SymbolId) : SymbolType :=
  (session.known.lookup id).getD (.ofType none)

/-- The number of errors found. -/
def errorCount (session : Session) : Nat :=
  (session.findings.filter (·.severity = .error)).length

/-- Everything written as progress messages. -/
def trace (session : Session) : String :=
  String.join session.progress

end Session

namespace Check

/-- Adds a finding. -/
def report (finding : Finding) : Check Unit :=
  modify fun session => { session with findings := session.findings ++ [finding] }

/-- Writes a progress message in a style, if progress is to be shown. -/
def say (style : Style) (text : String) : Check Unit :=
  modify fun session =>
    if session.options.debug then
      { session with progress := session.progress ++ [style.paint text] }
    else session

/-- Records the type of an expression. -/
def recordExpr (node : NodeId) (type : Ty) : Check Unit :=
  modify fun session =>
    { session with facts := { session.facts with exprs := session.facts.exprs.record node type } }

/-- Records the type that a written type stands for. -/
def recordForm (node : NodeId) (type : Ty) : Check Unit :=
  modify fun session =>
    { session with facts := { session.facts with forms := session.facts.forms.record node type } }

/-- Records the symbol that a name refers to. -/
def recordRef (node : NodeId) (symbol : Symbol) : Check Unit :=
  modify fun session =>
    { session with facts := { session.facts with refs := session.facts.refs.record node symbol } }

/-- Records the symbol of a declaring node. -/
def recordDecl (node : NodeId) (symbol : Symbol) : Check Unit :=
  modify fun session =>
    { session with facts := { session.facts with decls := session.facts.decls.record node symbol } }

/-- Records the hops of a field access. -/
def recordMembers (node : NodeId) (steps : List MemberStep) : Check Unit :=
  modify fun session =>
    { session with
      facts := { session.facts with members := session.facts.members.record node steps } }

/-- Sets what is known about the type of a symbol. -/
def setKnown (id : SymbolId) (known : SymbolType) : Check Unit :=
  modify fun session => { session with known := (id, known) :: session.known }

/-- Sets the type of a symbol and leaves the rest of what is known. -/
def setType (id : SymbolId) (type : Ty) : Check Unit :=
  modify fun session =>
    { session with known := (id, { session.knownOf id with type := some type }) :: session.known }

/-- Replaces the table. -/
def setTable (table : Table) : Check Unit :=
  modify fun session => { session with table := table }

/-- Changes the definitions of named types. -/
def define (change : Definitions -> Definitions) : Check Unit :=
  modify fun session => { session with definitions := change session.definitions }

/-- Reports the prerequisites of a pass that have not completed; whether there are none. -/
def require (pass : Pass) : Check Bool := do
  let missing := (<- get).passes.missing pass
  missing.forM fun earlier => report (.passTooEarly pass earlier)
  return missing.isEmpty

/-- Records that a pass has completed. -/
def complete (pass : Pass) : Check Unit := do
  let session <- get
  match session.passes.complete pass with
  | .ok passes =>
    set { session with passes := passes }
    say .cyan ("[" ++ pass.text ++ "] done, " ++ toString session.errorCount ++
      " error(s) so far\n")
  | .error error => report (.passRefused error)

/-- Runs a pass when its prerequisites have completed. -/
def runPass (pass : Pass) (walk : Check Unit) : Check Unit := do
  if <- require pass then
    walk
    complete pass

end Check
end UnitCheck
