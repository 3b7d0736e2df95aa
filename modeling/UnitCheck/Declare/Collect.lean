import UnitCheck.Session.Basic

/-!
# Declaring globals

Every top-level declaration with a usable name becomes a global, unless its name
is taken in its namespace. Bodies and initializers are not entered, so a
function may call another one that is declared later.
-/

namespace UnitCheck.Declare

/-- A function that every unit finds declared. -/
structure Intrinsic where
  name : String
  params : List Ty
  result : Ty
  variadic : Bool

/-- The functions that every unit finds declared, in order. -/
def intrinsics : List Intrinsic :=
  [⟨"memcpy", [.opaquePointer, .opaquePointer, .prim .u64], .void, false⟩,
    ⟨"memmove", [.opaquePointer, .opaquePointer, .prim .u64], .void, false⟩,
    ⟨"memset", [.opaquePointer, .prim .u8, .prim .u64], .void, false⟩,
    ⟨"abort", [], .void, false⟩]

namespace Intrinsic

/-- The symbol of the intrinsic with a number. -/
def symbol (intrinsic : Intrinsic) (number : Nat) : Symbol :=
  .plain (.builtin number) intrinsic.name .intrinsic none

/-- What is known about the type of an intrinsic. -/
def known (intrinsic : Intrinsic) : SymbolType :=
  ⟨some (.function intrinsic.params intrinsic.result "" intrinsic.variadic), intrinsic.params,
    intrinsic.variadic⟩

/-- Declares the intrinsic with a number. -/
def declare (intrinsic : Intrinsic) (number : Nat) : Check Unit := do
  let symbol := intrinsic.symbol number
  match (<- get).table.declareGlobal symbol with
  | .ok table =>
    Check.setTable table
    Check.setKnown symbol.id intrinsic.known
  | .error _ => Check.report (.intrinsicTwice intrinsic.name)

end Intrinsic

/-- Declares the intrinsics from a number on. -/
def declareIntrinsics (number : Nat) : List Intrinsic -> Check Unit
  | [] => return
  | intrinsic :: rest => do
    intrinsic.declare number
    declareIntrinsics (number + 1) rest

/-- What a declaration says about itself. -/
structure Header where
  kind : DeclKind
  name : Option Ident
  attributes : List Attribute

/-- The header of an item that declares a global. -/
def header? : Item -> Option Header
  | .function decl => some ⟨.function, decl.name, decl.attributes⟩
  | .asm decl => some ⟨.asmFunction, decl.name, decl.attributes⟩
  | .struct decl => some ⟨.struct, decl.name, decl.attributes⟩
  | .enum decl => some ⟨.enum, decl.name, decl.attributes⟩
  | .const decl => some ⟨.constant, decl.name, decl.attributes⟩
  | .static decl => some ⟨.static, decl.name, decl.attributes⟩
  | .typeAlias decl => some ⟨.typeAlias, decl.name, decl.attributes⟩
  | .entry _ | .stray _ => none

/-- The kind of symbol that a declaration makes. -/
def symbolKind : DeclKind -> SymbolKind
  | .function | .entrypoint => .function
  | .asmFunction => .asmFunction
  | .struct => .struct
  | .enum => .enum
  | .constant => .constant
  | .static => .static
  | .typeAlias => .typeAlias

/-- The symbol that an item declares. -/
def symbolOf (item : Item) (header : Header) (name : Ident) : Symbol :=
  let symbol : Symbol :=
    { Symbol.plain (.node item.span.node) name.name (symbolKind header.kind) (some name.span) with
      attributes := header.attributes }
  match item with
  | .static decl =>
    { symbol with
      isMutable := decl.isMutable
      isVolatile := decl.isVolatile
      isAtomic := decl.isAtomic
      isThreadLocal := decl.isThreadLocal }
  | _ => symbol

/-- A declared global whose signature is still to be resolved. -/
structure Pending where
  symbol : Symbol
  item : Item

/-- Gives a struct or an enumeration its type, so that any signature may name it; the
types of other globals come later. -/
def introduce (item : Item) (symbol : Symbol) : Check Unit := do
  let id := item.span.node
  match symbol.kind with
  | .struct =>
    Check.define (·.setStruct id .empty)
    Check.setKnown symbol.id (.ofType (some (.struct symbol.name id)))
  | .enum =>
    Check.define (·.setEnum id ⟨.prim .s32, []⟩)
    Check.setKnown symbol.id (.ofType (some (.enum symbol.name id)))
  | _ => Check.setKnown symbol.id (.ofType none)

/-- Declares the global of an item; nothing is pending when it is refused. -/
def declareGlobal (item : Item) (header : Header) : Check (Option Pending) := do
  match header.name with
  | none =>
    Check.report (.malformed item.span (.unnamed header.kind))
    return none
  | some name =>
    let symbol := symbolOf item header name
    if symbol.isType && Prim.isReserved symbol.name then
      Check.report (.malformed name.span (.reservedName symbol.name))
      return none
    else
      match (<- get).table.declareGlobal symbol with
      | .error (.duplicate _ previous) =>
        Check.report (.redeclared name.span previous.site (.symbol symbol.name))
        return none
      | .error _ => return none
      | .ok table =>
        Check.setTable table
        introduce item symbol
        Check.say .green ("declared " ++ symbol.kind.text ++ " " ++ symbol.name ++ "\n")
        Check.recordDecl item.span.node symbol
        return some ⟨symbol, item⟩

/-- Mentions a declaration inside a stray block. -/
def sayNested (span : Span) : Check Unit := do
  let file := (<- get).file
  Check.say .cyan ("skipping nested declaration at " ++
    Location.render (some (span.inFile file)) ++ "\n")

mutual

/-- Mentions the declarations inside a stray block, which stay undeclared. -/
def skipNested : Stmt -> Check Unit
  | .block body _ => skipNestedAll body
  | .const decl => sayNested decl.span
  | .struct decl => sayNested decl.span
  | _ => return

/-- `skipNested` on several statements in turn. -/
def skipNestedAll : List Stmt -> Check Unit
  | [] => return
  | stmt :: rest => do
    skipNested stmt
    skipNestedAll rest

end

/-- Declares what one item declares. `entry` is the first entrypoint met so far; the
result is the first entrypoint after this item and the global that is pending. -/
def collectItem (entry : Option Span) (item : Item) : Check (Option Span × Option Pending) := do
  match item with
  | .entry decl =>
    match entry with
    | some first =>
      Check.report (.duplicateEntrypoint decl.span first)
      return (entry, none)
    | none => return (some decl.span, none)
  | .stray (.block body _) =>
    skipNestedAll body
    return (entry, none)
  | .stray (.bad span) =>
    Check.report (.malformed span .unreadable)
    return (entry, none)
  | .stray stmt =>
    Check.report (.malformed stmt.span .notDeclaration)
    return (entry, none)
  | item =>
    match header? item with
    | some header => return (entry, <- declareGlobal item header)
    | none => return (entry, none)

/-- Declares the globals of the items in turn; the result is what is pending. -/
def collect (entry : Option Span) : List Item -> Check (List Pending)
  | [] => return []
  | item :: rest => do
    let (entry, pending) <- collectItem entry item
    return pending.toList ++ (<- collect entry rest)

end UnitCheck.Declare
