import UnitCheck.Scope.Symbol

/-!
# The table of names

The table has two tiers. Globals live in three namespaces and keep the order of
their declaration. Locals live in one arena, the latest first; opening a frame
notes the length of the arena and closing it cuts the arena back, so a look-up
meets the innermost binding first.
-/

namespace UnitCheck

/-- The namespaces of the global tier. -/
inductive Namespace where
  | function | type | value
deriving Repr, DecidableEq, Inhabited

/-- The namespace's name. -/
def Namespace.text : Namespace -> String
  | .function => "function"
  | .type => "type"
  | .value => "value"

/-- The namespace in which symbols of a kind are declared. -/
def SymbolKind.space : SymbolKind -> Namespace
  | .function | .asmFunction | .intrinsic => .function
  | .struct | .enum | .typeAlias => .type
  | _ => .value

/-- Why the table refuses an operation. -/
inductive TableError where
  | duplicate (name : String) (previous : Symbol)
  | underflow
  | noScope
deriving Repr, DecidableEq

/-- The wording of each cause. -/
def TableError.message : TableError -> String
  | .duplicate name _ => "symbol '" ++ name ++ "' already declared"
  | .underflow => "scope stack underflow"
  | .noScope => "no open scope for local declaration"

/-- The table of names of one unit. -/
structure Table where
  /-- The globals in the order of their declaration. -/
  globals : List Symbol
  /-- The arena of locals, the latest first. -/
  locals : List Symbol
  /-- The length of the arena when each open frame was opened, the innermost first. -/
  frames : List Nat
deriving Repr, DecidableEq, Inhabited

namespace Table

/-- A table without names and frames. -/
def empty : Table := ⟨[], [], []⟩

/-- The global called `name` in one namespace. -/
def global? (table : Table) (space : Namespace) (name : String) : Option Symbol :=
  table.globals.find? fun symbol => symbol.kind.space = space && symbol.name = name

/-- Adds a global to the namespace of its kind, unless its name is taken there. -/
def declareGlobal (table : Table) (symbol : Symbol) : Except TableError Table :=
  match table.global? symbol.kind.space symbol.name with
  | some previous => .error (.duplicate symbol.name previous)
  | none => .ok { table with globals := table.globals ++ [symbol] }

/-- The number of open frames. -/
def depth (table : Table) : Nat := table.frames.length

/-- Opens a frame. -/
def beginScope (table : Table) : Table :=
  { table with frames := table.locals.length :: table.frames }

/-- Closes the innermost frame and forgets its locals. -/
def endScope (table : Table) : Except TableError Table :=
  match table.frames with
  | [] => .error .underflow
  | start :: outer =>
    .ok { table with
      locals := table.locals.drop (table.locals.length - start)
      frames := outer }

/-- The locals declared since the arena had length `start`. -/
def localsSince (table : Table) (start : Nat) : List Symbol :=
  table.locals.take (table.locals.length - start)

/-- Adds a local to the innermost frame, unless its name is taken there; a name of
an outer frame may be declared again. -/
def declareLocal (table : Table) (symbol : Symbol) : Except TableError Table :=
  match table.frames with
  | [] => .error .noScope
  | start :: _ =>
    match (table.localsSince start).find? (·.name = symbol.name) with
    | some previous => .error (.duplicate symbol.name previous)
    | none => .ok { table with locals := symbol :: table.locals }

/-- The innermost local called `name`. -/
def local? (table : Table) (name : String) : Option Symbol :=
  table.locals.find? (·.name = name)

/-- What `name` means as a value: the innermost local, or the global value,
function or type of that name. -/
def resolve? (table : Table) (name : String) : Option Symbol :=
  table.local? name <|> table.global? .value name <|> table.global? .function name <|>
    table.global? .type name

/-- What `name` means as a type: the innermost local type, or the global one. Locals
that are no types do not hide it. -/
def resolveType? (table : Table) (name : String) : Option Symbol :=
  table.locals.find? (fun symbol => symbol.name = name && symbol.isType) <|>
    table.global? .type name

/-- The global function called `name`. -/
def resolveFunction? (table : Table) (name : String) : Option Symbol :=
  table.global? .function name

end Table
end UnitCheck
