import UnitCheck.Declare.Collect
import UnitCheck.Session.WrittenType

/-!
# Resolving aliases and signatures

An alias is resolved after the aliases that its target mentions, so an alias may
name another one that is declared later. Meeting an alias that is still being
resolved means that it refers to itself.

Then come the fields of structs, the storage and variants of enumerations and the
types of functions, constants and statics. A struct that would hold itself by value
has the offending field cut to the unknown type, so that sizes stay computable.
-/

namespace UnitCheck.Declare

/-- A declared alias. -/
structure DeclaredAlias where
  symbol : Symbol
  decl : AliasDecl

/-- The aliases among the pending globals. -/
def aliases (pending : List Pending) : List DeclaredAlias :=
  pending.filterMap fun entry =>
    match entry.item with
    | .typeAlias decl => some ⟨entry.symbol, decl⟩
    | _ => none

/-- The names that the target of an alias mentions. -/
def DeclaredAlias.mentions (entry : DeclaredAlias) : List Ident :=
  match entry.decl.target with
  | some target => target.mentions
  | none => []

/-- Gives an alias the type of its target, unless it turned out to be cyclic. -/
def DeclaredAlias.settle (entry : DeclaredAlias) : Check Unit := do
  match ((<- get).knownOf entry.symbol.id).type with
  | some _ => return
  | none =>
    match entry.decl.target with
    | some target => Check.setType entry.symbol.id (<- Check.typeOf target)
    | none =>
      Check.report (.malformed entry.decl.span (.aliasWithoutTarget entry.symbol.name))
      Check.setType entry.symbol.id .unknown

/-- The alias that a name refers to. -/
def aliasNamed? (all : List DeclaredAlias) (name : String) : Check (Option DeclaredAlias) := do
  match (<- get).table.resolveType? name with
  | some symbol => return all.find? (·.symbol.id = symbol.id)
  | none => return none

/-- Where an alias is cyclic, names its declaration. -/
def DeclaredAlias.ident (entry : DeclaredAlias) : Ident :=
  entry.decl.name.getD ⟨entry.symbol.name, entry.decl.span⟩

/-- Resolves an alias. `path` holds the aliases being resolved and `settled` those
that are; the result is the aliases settled afterwards. No path is longer than the
number of aliases, which bounds `fuel`. -/
def resolveAlias (all : List DeclaredAlias) :
    (fuel : Nat) -> (path settled : List SymbolId) -> DeclaredAlias -> Check (List SymbolId)
  | 0, _, settled, _ => return settled
  | fuel + 1, path, settled, entry => do
    if path.contains entry.symbol.id then
      Check.report (.cyclicAlias entry.ident)
      Check.setType entry.symbol.id .unknown
      return settled
    else if settled.contains entry.symbol.id then
      return settled
    else
      let settled <- entry.mentions.foldlM (fun settled mention => do
        match <- aliasNamed? all mention.name with
        | some other => resolveAlias all fuel (entry.symbol.id :: path) settled other
        | none => return settled) settled
      entry.settle
      return entry.symbol.id :: settled

/-- Resolves the aliases in turn. -/
def resolveAliases (all : List DeclaredAlias) : Check Unit := do
  let _ <- all.foldlM (fun settled entry => resolveAlias all (all.length + 1) [] settled entry) []
  return

/-! ### Signatures -/

/-- Whether an attribute of that name is present. -/
def hasAttribute (attributes : List Attribute) (name : String) : Bool :=
  attributes.any (·.name = name)

/-- The layout that a struct's attributes ask for. -/
def layoutOf (attributes : List Attribute) : StructLayout :=
  if hasAttribute attributes "packed" then .packed else .padded

/-- The fields of a struct from a place on. A field called `_` is named by its place;
a second field of one name is reported and left out. -/
def structFields (index : Nat) (seen : List Ident) :
    List FieldDecl -> Check (List StructField)
  | [] => return []
  | field :: rest => do
    if field.name.name = "_" then
      let type <- Check.typeOf field.type
      return ⟨toString index, type⟩ :: (<- structFields (index + 1) seen rest)
    else
      match seen.find? (·.name = field.name.name) with
      | some previous =>
        Check.report (.redeclared field.name.span (some previous.span) (.field field.name.name))
        structFields (index + 1) seen rest
      | none =>
        let type <- Check.typeOf field.type
        return ⟨field.name.name, type⟩ :: (<- structFields (index + 1) (field.name :: seen) rest)

/-- The type that an enumeration is stored as. -/
def enumBase (decl : EnumDecl) : Check Ty := do
  match decl.base with
  | none => return .prim .s32
  | some form =>
    let base <- Check.typeOf form
    if base.isInteger then return base
    else
      if !base.isUnknown then Check.report (.invalidEnumBase form.span base)
      return .prim .s32

/-- The variants of an enumeration; a second one of one name is reported and left out. -/
def enumVariants (seen : List Ident) : List VariantDecl -> Check (List String)
  | [] => return []
  | variant :: rest => do
    match seen.find? (·.name = variant.name.name) with
    | some previous =>
      Check.report
        (.redeclared variant.name.span (some previous.span) (.variant variant.name.name))
      enumVariants seen rest
    | none => return variant.name.name :: (<- enumVariants (variant.name :: seen) rest)

/-- Defines the struct or the enumeration that is pending. -/
def defineType (pending : Pending) : Check Unit := do
  match pending.item with
  | .struct decl =>
    let fields <- structFields 0 [] decl.fields
    Check.define (·.setStruct decl.span.node ⟨fields, layoutOf decl.attributes⟩)
  | .enum decl =>
    let base <- enumBase decl
    let variants <- enumVariants [] decl.variants
    Check.define (·.setEnum decl.span.node ⟨base, variants⟩)
  | _ => return

/-- The struct that a field of this type stores in place. -/
def valueStruct? : Ty -> Option (String × TypeId)
  | .struct name id => some (name, id)
  | .fixedArray element _ => valueStruct? element
  | .const inner => valueStruct? inner
  | .mutable inner => valueStruct? inner
  | _ => none

/-- A struct whose field at a place has lost its type. -/
def cutField (body : StructBody) (index : Nat) : StructBody :=
  { body with
    fields := body.fields.modify index fun field => { field with type := .unknown } }

/-- Goes through the structs that a struct stores in place. `path` holds the structs
being gone through and `done` those that have been; `blame` is the declaration to
report, until it has been reported. The result says whether the struct is on the
path, and which structs are done. No path is longer than the number of structs,
which bounds `fuel`. -/
def visitStruct : (fuel : Nat) -> (path done : List TypeId) -> (blame : Option Span) ->
    (name : String) -> (id : TypeId) -> Check (Bool × List TypeId)
  | 0, _, done, _, _, _ => return (false, done)
  | fuel + 1, path, done, blame, name, id => do
    if path.contains id then return (true, done)
    else if done.contains id then return (false, done)
    else
      let fields := ((<- get).definitions.struct id).fields
      let (_, done) <- fields.zipIdx.foldlM (fun (blame, done) (field, index) => do
        match valueStruct? field.type with
        | none => return (blame, done)
        | some (inner, innerId) =>
          let (cyclic, done) <- visitStruct fuel (id :: path) done blame inner innerId
          if cyclic then
            match blame with
            | some span => Check.report (.recursiveStruct span field.name name inner)
            | none => pure ()
            Check.define fun definitions =>
              definitions.setStruct id (cutField (definitions.struct id) index)
            return (none, done)
          else return (blame, done)) (blame, done)
      return (false, id :: done)

/-- Cuts the structs that would hold themselves by value. -/
def cutRecursion (pending : List Pending) : Check Unit := do
  let _ <- pending.foldlM (fun done entry => do
    match entry.item with
    | .struct decl =>
      let (_, done) <-
        visitStruct (pending.length + 1) [] done (some decl.span) entry.symbol.name decl.span.node
      return done
    | _ => return done) []
  return

/-- The calling convention that attributes name; the last one counts. -/
def conventionOf (attributes : List Attribute) : String :=
  attributes.foldl (fun convention entry =>
    if entry.name = "convention" then (entry.payload.map (·.text)).getD convention
    else convention) ""

/-- Gives a function its type. -/
def functionSignature (symbol : Symbol) (params : List Param) (result : Option TypeForm)
    (attributes : List Attribute) : Check Unit := do
  let params <- params.mapM fun param => Check.typeOf param.type
  let result <- Check.typeOf? result
  let variadic := hasAttribute attributes "ignore"
  Check.setKnown symbol.id
    ⟨some (.function params (result.getD .void) (conventionOf attributes) variadic), params,
      variadic⟩

/-- Gives a constant or static with a written type that type; without one it takes
the type of its value when that is checked. -/
def valueSignature (symbol : Symbol) (type : Option TypeForm) : Check Unit := do
  match type with
  | some form => Check.setType symbol.id (<- Check.typeOf form)
  | none => return

/-- Resolves the signature of a pending function, constant or static. -/
def resolveSignature (pending : Pending) : Check Unit :=
  match pending.item with
  | .function decl => functionSignature pending.symbol decl.params decl.result decl.attributes
  | .asm decl => functionSignature pending.symbol decl.params decl.result decl.attributes
  | .const decl => valueSignature pending.symbol decl.type
  | .static decl => valueSignature pending.symbol decl.type
  | _ => return

/-- Resolves the signatures of the pending globals: aliases first, so that all others
see their targets, then the types they define, and then everything else. -/
def resolveSignatures (pending : List Pending) : Check Unit := do
  resolveAliases (aliases pending)
  pending.forM defineType
  cutRecursion pending
  pending.forM resolveSignature

/-- The walk of the first pass. -/
def walk : Check Unit := do
  declareIntrinsics 0 intrinsics
  let pending <- collect none (<- get).items
  resolveSignatures pending

/-- The first pass: declares the globals of the unit and resolves their signatures. -/
def pass : Check Unit :=
  Check.runPass .declare walk

end UnitCheck.Declare
