import UnitCheck.Proofs.Session.Itemwise
import UnitCheck.Proofs.Tree.Origin

/-!
# The structs of a unit

An item declares a struct, or some in its statements. From inside an item the structs at top
level can be reached and those in its own statements. The structs of a tree are those that
its items declare, wherever the tree stands.
-/

namespace UnitCheck

/-- The struct that the statement declares. -/
def Stmt.struct? : Stmt -> Option StructDecl
  | .struct decl => some decl
  | _ => none

namespace Item

/-- The struct that the item is. -/
def struct? : Item -> Option StructDecl
  | .struct decl => some decl
  | _ => none

/-- The structs that the item declares in its statements. -/
def innerStructs (item : Item) : List StructDecl :=
  (Stmt.partsAll item.stmts).filterMap Stmt.struct?

/-- The structs that the item declares. -/
def structs (item : Item) : List StructDecl := item.struct?.toList ++ item.innerStructs

/-- The structs that can be reached from inside the item: those at top level and its own. -/
def reachable (items : List Item) (item : Item) : List StructDecl :=
  items.filterMap struct? ++ item.innerStructs

end Item

/-- One of the declarations is that of a struct of the name at the node. -/
def StructAt (decls : List StructDecl) (name : String) (id : NodeId) : Prop :=
  ∃ decl ∈ decls, (∃ ident, decl.name = some ident ∧ ident.name = name) ∧ decl.span.node = id

theorem structAt_append {decls others : List StructDecl} {name : String} {id : NodeId} :
    StructAt (decls ++ others) name id ↔ StructAt decls name id ∨ StructAt others name id := by
  simp only [StructAt, List.mem_append, or_and_right, exists_or]

/-! ### Trees come from their structs -/

section Origin

variable {struct : String -> NodeId -> Prop}

namespace TypeForm

mutual

theorem from_ofStructs : (form : TypeForm) -> form.From (.ofStructs struct)
  | .named _ _ | .opaquePointer _ | .address _ => trivial
  | .pointer inner _ | .array inner _ | .fixedArray inner _ _ | .const inner _
  | .mutable inner _ => ⟨trivial, from_ofStructs inner⟩
  | .function params result _ _ => ⟨trivial, allFrom_ofStructs params, from_ofStructs result⟩

theorem allFrom_ofStructs : (forms : List TypeForm) -> AllFrom (.ofStructs struct) forms
  | [] => trivial
  | form :: rest => ⟨from_ofStructs form, allFrom_ofStructs rest⟩

end
end TypeForm

namespace Expr

mutual

theorem from_ofStructs : (expr : Expr) -> expr.From (.ofStructs struct)
  | .literal _ | .name _ | .bad _ => trivial
  | .binary _ left right _ | .index left right _ =>
    ⟨trivial, from_ofStructs left, from_ofStructs right⟩
  | .unary _ operand _ | .field operand _ _ | .addressOf operand _ =>
    ⟨trivial, from_ofStructs operand⟩
  | .call _ args _ => ⟨trivial, trivial, allFrom_ofStructs args⟩
  | .callValue function args _ => ⟨trivial, from_ofStructs function, allFrom_ofStructs args⟩
  | .cast type operand _ | .load type operand _ =>
    ⟨trivial, type.from_ofStructs, from_ofStructs operand⟩
  | .array _ items _ =>
    ⟨trivial, fun type _ => type.from_ofStructs, allFrom_ofStructs items⟩
  | .alloc type _ => ⟨trivial, type.from_ofStructs⟩

theorem allFrom_ofStructs : (exprs : List Expr) -> AllFrom (.ofStructs struct) exprs
  | [] => trivial
  | expr :: rest => ⟨from_ofStructs expr, allFrom_ofStructs rest⟩

end
end Expr

theorem headFrom_ofStructs (attributes : List Attribute) (name : Option Ident) (span : Span) :
    HeadFrom (.ofStructs struct) attributes name span :=
  ⟨fun _ _ => ⟨trivial, fun _ _ => trivial⟩, fun _ _ => trivial, trivial⟩

theorem signatureFrom_ofStructs (params : List Param) (result : Option TypeForm) :
    SignatureFrom (.ofStructs struct) params result :=
  ⟨fun param _ => ⟨trivial, trivial, param.type.from_ofStructs⟩, fun form _ => form.from_ofStructs⟩

theorem ConstDecl.from_ofStructs (decl : ConstDecl) : decl.From (.ofStructs struct) :=
  ⟨headFrom_ofStructs _ _ _, fun form _ => form.from_ofStructs, fun expr _ => expr.from_ofStructs⟩

theorem BindingDecl.from_ofStructs (binding : BindingDecl) : binding.From (.ofStructs struct) :=
  ⟨trivial, trivial, fun form _ => form.from_ofStructs, fun expr _ => expr.from_ofStructs⟩

theorem StructDecl.from_ofStructs (decl : StructDecl)
    (declared : ∀ name ∈ decl.name, struct name.name decl.span.node) :
    decl.From (.ofStructs struct) :=
  ⟨headFrom_ofStructs _ _ _, fun field _ => ⟨trivial, field.type.from_ofStructs⟩, declared⟩

/-- What the structs among some statements ask for. -/
def AllDeclared (struct : String -> NodeId -> Prop) (parts : List Stmt) : Prop :=
  ∀ stmt ∈ parts, ∀ decl ∈ stmt.struct?, ∀ name ∈ decl.name, struct name.name decl.span.node

namespace Stmt

mutual

theorem from_ofStructs : (stmt : Stmt) -> AllDeclared struct stmt.parts ->
    stmt.From (.ofStructs struct)
  | .block body _, declared => by
    simp only [AllDeclared, parts, List.forall_mem_cons] at declared
    exact ⟨trivial, allFrom_ofStructs body declared.2⟩
  | .cond test body _ otherwise _, declared => by
    simp only [AllDeclared, parts, List.forall_mem_cons, List.forall_mem_append] at declared
    exact ⟨trivial, trivial, test.from_ofStructs, allFrom_ofStructs body declared.2.1,
      from?_ofStructs otherwise declared.2.2⟩
  | .whileLoop test body _ _, declared => by
    simp only [AllDeclared, parts, List.forall_mem_cons] at declared
    exact ⟨trivial, trivial, test.from_ofStructs, allFrom_ofStructs body declared.2⟩
  | .loop body _ _, declared => by
    simp only [AllDeclared, parts, List.forall_mem_cons] at declared
    exact ⟨trivial, trivial, allFrom_ofStructs body declared.2⟩
  | .forLoop first _ after body _ _, declared => by
    simp only [AllDeclared, parts, List.forall_mem_cons, List.forall_mem_append] at declared
    exact ⟨trivial, trivial, from?_ofStructs first declared.2.1.1,
      fun expr _ => expr.from_ofStructs, from?_ofStructs after declared.2.1.2,
      allFrom_ofStructs body declared.2.2⟩
  | .struct decl, declared => decl.from_ofStructs (List.forall_mem_singleton.mp declared decl rfl)
  | .expr value, _ => value.from_ofStructs
  | .letIn binding, _ | .instr binding, _ => binding.from_ofStructs
  | .const decl, _ => decl.from_ofStructs
  | .assign target value _, _ | .write target value _, _ =>
    ⟨trivial, target.from_ofStructs, value.from_ofStructs⟩
  | .ret _ _, _ => ⟨trivial, fun expr _ => expr.from_ofStructs⟩
  | .brk _, _ | .cont _, _ | .bad _, _ => trivial

theorem from?_ofStructs : (stmt : Option Stmt) -> AllDeclared struct (parts? stmt) ->
    From? (.ofStructs struct) stmt
  | none, _ => trivial
  | some stmt, declared => from_ofStructs stmt declared

theorem allFrom_ofStructs : (stmts : List Stmt) -> AllDeclared struct (partsAll stmts) ->
    AllFrom (.ofStructs struct) stmts
  | [], _ => trivial
  | stmt :: rest, declared => by
    simp only [AllDeclared, partsAll, List.forall_mem_append] at declared
    exact ⟨from_ofStructs stmt declared.1, allFrom_ofStructs rest declared.2⟩

end
end Stmt

/-- An item whose structs are declared comes from them. -/
theorem Item.from_ofStructs (item : Item)
    (declared : ∀ decl ∈ item.structs, ∀ name ∈ decl.name, struct name.name decl.span.node) :
    item.From (.ofStructs struct) := by
  obtain ⟨own, inner⟩ := List.forall_mem_append.mp declared
  have inside : AllDeclared struct (Stmt.partsAll item.stmts) := fun stmt isStmt decl isStruct =>
    inner decl (List.mem_filterMap.mpr ⟨stmt, isStmt, isStruct⟩)
  cases item with
  | function decl =>
    refine FunctionDecl.From.mk (headFrom_ofStructs _ _ _) (signatureFrom_ofStructs _ _)
      fun body isBody => ⟨trivial, Stmt.allFrom_ofStructs body.stmts ?_⟩
    have isBody : decl.body = some body := isBody
    simpa only [Item.stmts, Item.body, isBody] using inside
  | asm decl => exact AsmDecl.From.mk (headFrom_ofStructs _ _ _) (signatureFrom_ofStructs _ _)
  | entry decl =>
    exact EntryDecl.From.mk (headFrom_ofStructs _ _ _)
      ⟨trivial, Stmt.allFrom_ofStructs decl.body.stmts inside⟩
  | struct decl => exact decl.from_ofStructs (own decl List.mem_cons_self)
  | enum decl =>
    exact EnumDecl.From.mk (headFrom_ofStructs _ _ _) (fun form _ => form.from_ofStructs)
      fun _ _ => ⟨trivial, fun expr _ => expr.from_ofStructs⟩
  | const decl => exact decl.from_ofStructs
  | static decl =>
    exact StaticDecl.From.mk (headFrom_ofStructs _ _ _) (fun form _ => form.from_ofStructs)
      fun expr _ => expr.from_ofStructs
  | typeAlias decl =>
    exact AliasDecl.From.mk (headFrom_ofStructs _ _ _) fun form _ => form.from_ofStructs
  | stray stmt =>
    have parts : AllDeclared struct (Stmt.partsAll [stmt]) := inside
    simp only [Stmt.partsAll, List.append_nil] at parts
    exact stmt.from_ofStructs parts

/-- The items of a unit come from the structs that they declare. -/
theorem Item.from_structs (items : List Item) :
    ∀ item ∈ items, item.From (.ofStructs (StructAt (items.flatMap Item.structs))) :=
  fun item isItem => item.from_ofStructs fun decl isDecl name isName =>
    ⟨decl, List.mem_flatMap.mpr ⟨item, isItem, isDecl⟩, ⟨name, isName, rfl⟩, rfl⟩

end Origin

/-! ### What can be reached -/

variable {declared : NodeId -> Prop} {items : List Item}

/-- A struct in the statements of an item stands at one of its locals. -/
theorem Item.node_mem_locals_of_innerStructs {item : Item} {decl : StructDecl}
    (isInner : decl ∈ item.innerStructs) : decl.span.node ∈ item.locals := by
  obtain ⟨stmt, isStmt, isStruct⟩ := List.mem_filterMap.mp isInner
  refine List.mem_append_right _ (List.mem_flatMap.mpr ⟨stmt, isStmt, ?_⟩)
  cases stmt with
  | struct other =>
    cases isStruct
    exact List.mem_singleton.mpr rfl
  | _ => cases isStruct

/-- A struct of the unit that is visible from an item can be reached from it. -/
theorem structAt_reachable (spread : Spread declared items) {item : Item} (isItem : item ∈ items)
    {name : String} {id : NodeId} (isStruct : StructAt (items.flatMap Item.structs) name id)
    (visible : (item.outlook declared).visible id) :
    StructAt (Item.reachable items item) name id := by
  obtain ⟨decl, isDecl, named, rfl⟩ := isStruct
  obtain ⟨other, isOther, isOwn⟩ := List.mem_flatMap.mp isDecl
  refine ⟨decl, ?_, named, rfl⟩
  obtain isTop | isInner := List.mem_append.mp isOwn
  · exact List.mem_append_left _
      (List.mem_filterMap.mpr ⟨other, isOther, Option.mem_toList.mp isTop⟩)
  · have inOther := other.locals_subset_inner (Item.node_mem_locals_of_innerStructs isInner)
    obtain isDeclared | isLocal := visible
    · exact (spread.apart other isOther _ inOther isDeclared).elim
    · obtain rfl := Item.eq_of_mem_nodes spread.distinct isItem isOther
        (item.locals_subset_inner isLocal) inOther
      exact List.mem_append_right _ isInner

end UnitCheck
