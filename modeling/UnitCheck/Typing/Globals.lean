import UnitCheck.Typing.Stmt

/-!
# Types of globals and bodies

The globals are typed first, since bodies read their types. A global without a
written type is typed when it is first read, so it may be read before its
declaration; a global whose value needs its own type is reported. Each global is
typed once.
-/

namespace UnitCheck.Typing

/-- A global with a value. -/
inductive Global where
  | const (decl : ConstDecl)
  | static (decl : StaticDecl)

namespace Global

/-- Where the global is declared. -/
def span : Global -> Span
  | .const decl => decl.span
  | .static decl => decl.span

/-- The identity of the global's node. -/
def node (global : Global) : NodeId := global.span.node

/-- Types the value of the global. -/
def check (demand : Demand) : Global -> Check Ty
  | .const decl => checkConst demand decl
  | .static decl => checkStatic demand decl

end Global

/-- The global that an item declares. -/
def global? : Item -> Option Global
  | .const decl => some (.const decl)
  | .static decl => some (.static decl)
  | _ => none

/-- The globals of a unit. -/
def globals (items : List Item) : List Global :=
  items.filterMap global?

/-- The type of the symbol that a node declares. -/
def declType (node : NodeId) : Check Ty := do
  let session <- get
  match session.facts.decls.find? node with
  | some symbol => return (session.knownOf symbol.id).type.getD .unknown
  | none => return .unknown

/-- Notes that a global has been typed. -/
def markChecked (node : NodeId) : Check Unit :=
  modify fun session => { session with checked := node :: session.checked }

/-- Types a global, unless that has been done. `path` holds the globals being typed;
meeting one of them again means that its value depends on itself. No path is longer
than the number of globals, which bounds `fuel`. -/
def checkGlobal (all : List Global) : (fuel : Nat) -> (path : List NodeId) -> Global -> Check Ty
  | 0, _, _ => return .unknown
  | fuel + 1, path, global => do
    let node := global.node
    if (<- get).checked.contains node then
      declType node
    else if path.contains node then
      Check.report (.selfReference global.span)
      setDeclType node .unknown
      return .unknown
    else
      let demand : Demand := fun symbol =>
        match all.find? (fun other => symbol.id = .node other.node) with
        | some other => checkGlobal all fuel (node :: path) other
        | none => return .unknown
      let type <- global.check demand
      markChecked node
      return type

/-- Finds the type of a global that is read where no global is being typed. -/
def demandGlobal (all : List Global) : Demand := fun symbol =>
  match all.find? (fun other => symbol.id = .node other.node) with
  | some other => checkGlobal all (all.length + 1) [] other
  | none => return .unknown

/-- The type that an enumeration's values are compared with. -/
def enumValueType (decl : EnumDecl) : Check Ty := do
  let session <- get
  match session.facts.decls.find? decl.span.node with
  | none => return .prim .s32
  | some symbol =>
    match (session.knownOf symbol.id).type with
    | some (.enum _ id) =>
      return match session.definitions.enum? id with
        | some body => body.base
        | none => .prim .s32
    | _ => return .prim .s32

/-- Types the written values of an enumeration. -/
def checkVariants (demand : Demand) (base : Ty) : List VariantDecl -> Check Unit
  | [] => return
  | variant :: rest => do
    match variant.value with
    | some value =>
      let found <- checkExpr demand value (some base)
      tell (mismatch? value.span found base)
    | none => pure ()
    checkVariants demand base rest

/-- Types a global or the values of an enumeration. -/
def checkGlobalItem (all : List Global) : Item -> Check Unit
  | .const decl => do let _ <- checkGlobal all (all.length + 1) [] (.const decl)
  | .static decl => do let _ <- checkGlobal all (all.length + 1) [] (.static decl)
  | .enum decl => do checkVariants (demandGlobal all) (<- enumValueType decl) decl.variants
  | _ => return

/-- The result type of the function that a node declares; without a symbol it returns
nothing. -/
def resultType (node : NodeId) : Check Ty := do
  let session <- get
  match session.facts.decls.find? node with
  | none => return .void
  | some symbol =>
    match (session.knownOf symbol.id).type with
    | some (.function _ result _ _) => return result
    | _ => return .void

/-- Types the body of a function or an entrypoint. -/
def checkBodyItem (all : List Global) : Item -> Check Unit
  | .function decl =>
    match decl.body with
    | some body => do checkStmts (demandGlobal all) (<- resultType decl.span.node) body.stmts
    | none => return
  | .entry decl => checkStmts (demandGlobal all) .void decl.body.stmts
  | _ => return

/-- The walk of the third pass. -/
def walk : Check Unit := do
  modify fun session => { session with checked := [] }
  let items := (<- get).items
  items.forM (checkGlobalItem (globals items))
  items.forM (checkBodyItem (globals items))

/-- The third pass: finds the type of every expression of the unit and compares it
with what its place expects. -/
def pass : Check Unit :=
  Check.runPass .typeCheck walk

end UnitCheck.Typing
