import UnitCheck.Proofs.Tree.Distinct

/-!
# Where a tree comes from

An origin says which stretches of a text count as places and which structs are declared. A
tree is from an origin when all its spans are places and all its structs are declared. What
is read from data is from the spans of these data.
-/

namespace UnitCheck

/-- The places of a text and the structs of a unit, by name and node. -/
structure Origin where
  span : Span -> Prop
  struct : String -> NodeId -> Prop

/-- The places of a text, where any struct will do. -/
def Origin.ofSpans (span : Span -> Prop) : Origin := ⟨span, fun _ _ => True⟩

/-- Any place will do. -/
def Origin.ofStructs (struct : String -> NodeId -> Prop) : Origin := ⟨fun _ => True, struct⟩

/-- There is nothing to come from anywhere. -/
theorem none_from {α : Type} {property : α -> Prop} : ∀ value ∈ (none : Option α), property value :=
  fun _ impossible => nomatch impossible

theorem some_from {α : Type} {property : α -> Prop} {value : α} (holds : property value) :
    ∀ found ∈ some value, property found := by
  rintro _ ⟨⟩
  exact holds

section Tree

variable (origin : Origin)

/-- The name stands at a place. -/
def Ident.From (name : Ident) : Prop := origin.span name.span

/-- The literal stands at a place. -/
def Literal.From (literal : Literal) : Prop := origin.span literal.span

namespace TypeForm

mutual

/-- The written type and its parts stand at places. -/
def From : TypeForm -> Prop
  | .named _ span | .opaquePointer span | .address span => origin.span span
  | .pointer inner span | .array inner span | .fixedArray inner _ span | .const inner span
  | .mutable inner span => origin.span span ∧ From inner
  | .function params result _ span => origin.span span ∧ AllFrom params ∧ From result

/-- `From` for several written types. -/
def AllFrom : List TypeForm -> Prop
  | [] => True
  | form :: rest => From form ∧ AllFrom rest

end
end TypeForm

namespace Expr

mutual

/-- The expression and its parts stand at places. -/
def From : Expr -> Prop
  | .literal value => value.From origin
  | .name ident => ident.From origin
  | .binary _ left right span | .index left right span =>
    origin.span span ∧ From left ∧ From right
  | .unary _ operand span | .field operand _ span | .addressOf operand span =>
    origin.span span ∧ From operand
  | .call callee args span => origin.span span ∧ callee.From origin ∧ AllFrom args
  | .callValue function args span => origin.span span ∧ From function ∧ AllFrom args
  | .cast type operand span | .load type operand span =>
    origin.span span ∧ type.From origin ∧ From operand
  | .array element items span =>
    origin.span span ∧ (∀ type ∈ element, type.From origin) ∧ AllFrom items
  | .alloc type span => origin.span span ∧ type.From origin
  | .bad span => origin.span span

/-- `From` for several expressions. -/
def AllFrom : List Expr -> Prop
  | [] => True
  | expr :: rest => From expr ∧ AllFrom rest

end
end Expr

/-- The attribute and its value stand at places. -/
structure Attribute.From (subject : Attribute) : Prop where
  span : origin.span subject.span
  payload : ∀ value ∈ subject.payload, value.From origin

/-- What all declarations with attributes and a name have in common. -/
structure HeadFrom (attributes : List Attribute) (name : Option Ident) (span : Span) : Prop where
  attributes : ∀ subject ∈ attributes, subject.From origin
  name : ∀ ident ∈ name, ident.From origin
  span : origin.span span

/-- The field stands at places. -/
structure FieldDecl.From (field : FieldDecl) : Prop where
  name : field.name.From origin
  type : field.type.From origin

/-- The struct stands at places and is declared. -/
structure StructDecl.From (decl : StructDecl) : Prop
    extends HeadFrom origin decl.attributes decl.name decl.span where
  fields : ∀ field ∈ decl.fields, field.From origin
  declared : ∀ name ∈ decl.name, origin.struct name.name decl.span.node

/-- The constant stands at places. -/
structure ConstDecl.From (decl : ConstDecl) : Prop
    extends HeadFrom origin decl.attributes decl.name decl.span where
  type : ∀ form ∈ decl.type, form.From origin
  value : ∀ expr ∈ decl.value, expr.From origin

/-- The binding stands at places. -/
structure BindingDecl.From (binding : BindingDecl) : Prop where
  span : origin.span binding.span
  name : binding.name.From origin
  type : ∀ form ∈ binding.type, form.From origin
  value : ∀ expr ∈ binding.value, expr.From origin

namespace Stmt

mutual

/-- The statement and its parts stand at places, and its structs are declared. -/
def From : Stmt -> Prop
  | .block body span => origin.span span ∧ AllFrom body
  | .expr value => value.From origin
  | .letIn binding | .instr binding => binding.From origin
  | .const decl => decl.From origin
  | .struct decl => decl.From origin
  | .assign target value span | .write target value span =>
    origin.span span ∧ target.From origin ∧ value.From origin
  | .cond test body bodySpan otherwise span =>
    origin.span span ∧ origin.span bodySpan ∧ test.From origin ∧ AllFrom body ∧ From? otherwise
  | .whileLoop test body bodySpan span =>
    origin.span span ∧ origin.span bodySpan ∧ test.From origin ∧ AllFrom body
  | .loop body bodySpan span => origin.span span ∧ origin.span bodySpan ∧ AllFrom body
  | .forLoop first test after body bodySpan span =>
    origin.span span ∧ origin.span bodySpan ∧ From? first ∧ (∀ expr ∈ test, expr.From origin) ∧
      From? after ∧ AllFrom body
  | .ret value span => origin.span span ∧ ∀ expr ∈ value, expr.From origin
  | .brk span | .cont span | .bad span => origin.span span

/-- `From` for a statement that may be missing. -/
def From? : Option Stmt -> Prop
  | none => True
  | some stmt => From stmt

/-- `From` for several statements. -/
def AllFrom : List Stmt -> Prop
  | [] => True
  | stmt :: rest => From stmt ∧ AllFrom rest

end
end Stmt

/-- The body stands at places, and its structs are declared. -/
structure Body.From (body : Body) : Prop where
  span : origin.span body.span
  stmts : Stmt.AllFrom origin body.stmts

/-- The parameter stands at places. -/
structure Param.From (param : Param) : Prop where
  span : origin.span param.span
  name : param.name.From origin
  type : param.type.From origin

/-- The signature stands at places. -/
structure SignatureFrom (params : List Param) (result : Option TypeForm) : Prop where
  params : ∀ param ∈ params, param.From origin
  result : ∀ form ∈ result, form.From origin

/-- The variant stands at places. -/
structure VariantDecl.From (variant : VariantDecl) : Prop where
  name : variant.name.From origin
  value : ∀ expr ∈ variant.value, expr.From origin

/-- The function stands at places, and its structs are declared. -/
structure FunctionDecl.From (decl : FunctionDecl) : Prop
    extends HeadFrom origin decl.attributes decl.name decl.span,
      SignatureFrom origin decl.params decl.result where
  body : ∀ body ∈ decl.body, body.From origin

/-- The enumeration stands at places. -/
structure EnumDecl.From (decl : EnumDecl) : Prop
    extends HeadFrom origin decl.attributes decl.name decl.span where
  base : ∀ form ∈ decl.base, form.From origin
  variants : ∀ variant ∈ decl.variants, variant.From origin

/-- The assembler function stands at places. -/
structure AsmDecl.From (decl : AsmDecl) : Prop
    extends HeadFrom origin decl.attributes decl.name decl.span,
      SignatureFrom origin decl.params decl.result where

/-- The entrypoint stands at places, and its structs are declared. -/
structure EntryDecl.From (decl : EntryDecl) : Prop
    extends HeadFrom origin decl.attributes none decl.span where
  body : decl.body.From origin

/-- The static stands at places. -/
structure StaticDecl.From (decl : StaticDecl) : Prop
    extends HeadFrom origin decl.attributes decl.name decl.span where
  type : ∀ form ∈ decl.type, form.From origin
  value : ∀ expr ∈ decl.value, expr.From origin

/-- The alias stands at places. -/
structure AliasDecl.From (decl : AliasDecl) : Prop
    extends HeadFrom origin decl.attributes decl.name decl.span where
  target : ∀ form ∈ decl.target, form.From origin

/-- The item and its parts stand at places, and its structs are declared. -/
def Item.From : Item -> Prop
  | .function decl => decl.From origin
  | .asm decl => decl.From origin
  | .entry decl => decl.From origin
  | .struct decl => decl.From origin
  | .enum decl => decl.From origin
  | .const decl => decl.From origin
  | .static decl => decl.From origin
  | .typeAlias decl => decl.From origin
  | .stray stmt => stmt.From origin

end Tree

section Parts

variable {origin : Origin}

theorem TypeForm.span_from {form : TypeForm} (isFrom : form.From origin) :
    origin.span form.span := by
  cases form <;> simp_all [TypeForm.From, TypeForm.span]

theorem Expr.span_from {expr : Expr} (isFrom : expr.From origin) : origin.span expr.span := by
  cases expr <;> simp_all [Expr.From, Expr.span, Ident.From, Literal.From]

theorem Stmt.span_from {stmt : Stmt} (isFrom : stmt.From origin) : origin.span stmt.span := by
  cases stmt with
  | expr value => exact Expr.span_from isFrom
  | letIn binding | instr binding => exact BindingDecl.From.span isFrom
  | const decl => exact (ConstDecl.From.toHeadFrom isFrom).span
  | struct decl => exact (StructDecl.From.toHeadFrom isFrom).span
  | _ => simp_all [Stmt.From, Stmt.span]

theorem Item.span_from {item : Item} (isFrom : item.From origin) : origin.span item.span := by
  cases item with
  | function decl => exact (FunctionDecl.From.toHeadFrom isFrom).span
  | asm decl => exact (AsmDecl.From.toHeadFrom isFrom).span
  | entry decl => exact (EntryDecl.From.toHeadFrom isFrom).span
  | struct decl => exact (StructDecl.From.toHeadFrom isFrom).span
  | enum decl => exact (EnumDecl.From.toHeadFrom isFrom).span
  | const decl => exact (ConstDecl.From.toHeadFrom isFrom).span
  | static decl => exact (StaticDecl.From.toHeadFrom isFrom).span
  | typeAlias decl => exact (AliasDecl.From.toHeadFrom isFrom).span
  | stray stmt => exact Stmt.span_from isFrom

@[simp] theorem Expr.allFrom_iff {exprs : List Expr} :
    Expr.AllFrom origin exprs ↔ ∀ expr ∈ exprs, expr.From origin := by
  induction exprs with
  | nil => simp [Expr.AllFrom]
  | cons expr rest inductionHypothesis => simp [Expr.AllFrom, inductionHypothesis]

@[simp] theorem TypeForm.allFrom_iff {forms : List TypeForm} :
    TypeForm.AllFrom origin forms ↔ ∀ form ∈ forms, form.From origin := by
  induction forms with
  | nil => simp [TypeForm.AllFrom]
  | cons form rest inductionHypothesis => simp [TypeForm.AllFrom, inductionHypothesis]

@[simp] theorem Stmt.from?_iff {stmt : Option Stmt} :
    Stmt.From? origin stmt ↔ ∀ found ∈ stmt, found.From origin := by
  cases stmt <;> simp [Stmt.From?]

@[simp] theorem Stmt.allFrom_iff {stmts : List Stmt} :
    Stmt.AllFrom origin stmts ↔ ∀ stmt ∈ stmts, stmt.From origin := by
  induction stmts with
  | nil => simp [Stmt.AllFrom]
  | cons stmt rest inductionHypothesis => simp [Stmt.AllFrom, inductionHypothesis]

end Parts
end UnitCheck
