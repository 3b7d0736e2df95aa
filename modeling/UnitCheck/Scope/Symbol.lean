import UnitCheck.Tree.Item
import UnitCheck.Type.Basic

/-!
# Symbols

A symbol stands for one declaration. It never changes; what is found out about
its type later is kept in a `SymbolType` beside it, under the symbol's identity.
-/

namespace UnitCheck

/-- What a symbol stands for. -/
inductive SymbolKind where
  | function | asmFunction | intrinsic
  | constant | static
  | typeAlias | enum | struct
  | localVar | lowLevel | parameter
  /-- None of the others. -/
  | other
deriving Repr, DecidableEq, Inhabited

namespace SymbolKind

/-- The kind in words. -/
def text : SymbolKind -> String
  | .function => "function"
  | .asmFunction => "assembler function"
  | .intrinsic => "intrinsic"
  | .constant => "constant"
  | .static => "static"
  | .typeAlias => "type alias"
  | .enum => "enum"
  | .struct => "struct"
  | .localVar => "local"
  | .lowLevel => "low-level binding"
  | .parameter => "parameter"
  | .other => "unknown"

/-- The kinds with a meaning of their own. -/
def all : List SymbolKind :=
  [.function, .asmFunction, .intrinsic, .constant, .static, .typeAlias, .enum, .struct,
    .localVar, .lowLevel, .parameter]

/-- The kind described by a text. -/
def ofText (text : String) : SymbolKind :=
  (all.find? (·.text = text)).getD .other

/-- Kinds that are called by name. -/
def isCallable : SymbolKind -> Bool
  | .function | .asmFunction | .intrinsic => true
  | _ => false

/-- Kinds that name a type. -/
def isType : SymbolKind -> Bool
  | .struct | .enum | .typeAlias => true
  | _ => false

end SymbolKind

/-- The identity of a symbol: a builtin one by its number, any other by the node
that declares it. -/
inductive SymbolId where
  | builtin (number : Nat)
  | node (id : NodeId)
deriving Repr, DecidableEq, Inhabited

/-- A declared entity. -/
structure Symbol where
  id : SymbolId
  name : String
  kind : SymbolKind
  /-- Where the name is declared; builtin symbols are declared nowhere. -/
  site : Option Span
  isMutable : Bool
  isVolatile : Bool
  isAtomic : Bool
  isThreadLocal : Bool
  attributes : List Attribute
deriving Repr, DecidableEq, Inhabited

namespace Symbol

/-- A symbol without flags and attributes. -/
def plain (id : SymbolId) (name : String) (kind : SymbolKind) (site : Option Span) : Symbol :=
  ⟨id, name, kind, site, false, false, false, false, []⟩

/-- Whether the symbol names a type. -/
def isType (symbol : Symbol) : Bool := symbol.kind.isType

/-- Whether the declaration has an attribute of that name. -/
def hasAttribute (symbol : Symbol) (name : String) : Bool :=
  symbol.attributes.any (·.name = name)

/-- The symbol as a reference names it: its kind, its name and where it is declared. -/
def renderRef (symbol : Symbol) : String :=
  symbol.kind.text ++ " " ++ symbol.name ++
    match symbol.site with
    | some span => "@" ++ span.start.renderShort
    | none => ""

end Symbol

/-- What is known about the type of a symbol. -/
structure SymbolType where
  /-- Missing until the declaration's signature is resolved. -/
  type : Option Ty
  params : List Ty
  /-- Whether a call may have more arguments than parameters. -/
  variadic : Bool
deriving Inhabited

/-- What is known about a symbol that is not a function. -/
def SymbolType.ofType (type : Option Ty) : SymbolType := ⟨type, [], false⟩

/-- The symbol with its type and flags in words. -/
def Symbol.render (symbol : Symbol) (known : SymbolType) : String :=
  symbol.kind.text ++ " " ++ symbol.name ++ ": " ++
    (match known.type with
      | some type => type.render
      | none => "?") ++
    (if symbol.isMutable then " mut" else "") ++
    (if symbol.isVolatile then " volatile" else "") ++
    (if symbol.isAtomic then " atomic" else "") ++
    (if symbol.isThreadLocal then " threadlocal" else "") ++
    (if known.variadic then " variadic" else "")

end UnitCheck
