import UnitCheck.Declare.Signature
import UnitCheck.Proofs.Session.Script

/-!
# Signatures are scripted

What a written type stands for depends on what its names stand for and on nothing else.
Where this is settled, resolving the signature of a declaration takes the same acts in
every session, and the acts keep to the nodes of the declaration.
-/

namespace UnitCheck.Declare

/-- What names of types stand for, and what is known about that. -/
structure Naming where
  symbol : String -> Option Symbol
  known : SymbolId -> SymbolType

namespace Naming

/-- What names stand for in a session. -/
def of (session : Session) : Naming := ⟨session.table.resolveType?, session.knownOf⟩

/-- The acts of resolving signatures: names are recorded with the symbols of types that
names stand for, and types are defined that may be found out about. -/
def Allows (names : Naming) (learns : SymbolId -> Prop) : Act -> Prop
  | .refers _ symbol => ∃ name, names.symbol name = some symbol
  | .struct id _ | .enum id _ => learns (.node id)
  | .report _ | .written _ _ | .knows _ _ | .settles _ _ => True
  | .say _ | .typed _ _ | .declares _ _ | .hops _ _ | .global _ | .locals _ _ | .checked _ => False

/-- Resolving signatures leaves the table alone. -/
theorem table_of_allows {names : Naming} {learns : SymbolId -> Prop} {act : Act}
    (allowed : names.Allows learns act) (session : Session) :
    (act.apply session).table = session.table := by
  cases act <;> first | rfl | exact allowed.elim

/-- A walk that relies on what some names stand for. It writes inside a territory and finds
out about some symbols, none of which a name stands for. -/
def regime (names : Naming) (about : String -> Prop) (territory : NodeId -> Prop)
    (learns : SymbolId -> Prop) : Regime where
  holds session := ∀ name, about name →
    session.table.resolveType? name = names.symbol name ∧
      ∀ symbol ∈ names.symbol name, session.knownOf symbol.id = names.known symbol.id
  permits act := (∀ node, act.site? = some node → territory node) ∧
    (∀ id, act.subject? = some id → learns id ∧
      ∀ name, about name → ∀ symbol ∈ names.symbol name, symbol.id ≠ id) ∧ names.Allows learns act
  stable act session permitted holds name isAbout := by
    obtain ⟨-, apart, allowed⟩ := permitted
    obtain ⟨means, known⟩ := holds name isAbout
    refine ⟨by rw [table_of_allows allowed, means], fun symbol isMeant => ?_⟩
    rw [Act.knownOf_apply, if_neg, known symbol isMeant]
    exact fun subject => (apart _ subject).2 name isAbout symbol isMeant rfl

variable {names : Naming} {about : String -> Prop} {territory : NodeId -> Prop}
  {learns : SymbolId -> Prop}

/-- An act that is about no symbol is permitted inside the territory. -/
theorem permits_of_site {act : Act} (site : ∀ node, act.site? = some node → territory node)
    (subject : act.subject? = none) (allowed : names.Allows learns act) :
    (names.regime about territory learns).permits act := by
  refine ⟨site, fun id isSubject => ?_, allowed⟩
  rw [subject] at isSubject
  cases isSubject

theorem permits_report (finding : Finding) :
    (names.regime about territory learns).permits (.report finding) :=
  permits_of_site (fun _ impossible => by cases impossible) rfl trivial

theorem scripted_report (finding : Finding) :
    (names.regime about territory learns).Scripted (Check.report finding) :=
  .act (.report finding) (fun _ => rfl) (permits_report finding)

theorem scripted_recordForm {node : NodeId} (inside : territory node) (type : Ty) :
    (names.regime about territory learns).Scripted (Check.recordForm node type) :=
  .act (.written node type) (fun _ => rfl)
    (permits_of_site (fun _ same => by cases same; exact inside) rfl trivial)

theorem scripted_recordRef {node : NodeId} (inside : territory node) {symbol : Symbol}
    (named : ∃ name, names.symbol name = some symbol) :
    (names.regime about territory learns).Scripted (Check.recordRef node symbol) :=
  .act (.refers node symbol) (fun _ => rfl)
    (permits_of_site (fun _ same => by cases same; exact inside) rfl named)

theorem scripted_setStruct {node : NodeId} (inside : territory node) (own : learns (.node node))
    (body : StructBody) : (names.regime about territory learns).Scripted (Check.define (·.setStruct node body)) :=
  .act (.struct node body) (fun _ => rfl)
    (permits_of_site (fun _ same => by cases same; exact inside) rfl own)

theorem scripted_setEnum {node : NodeId} (inside : territory node) (own : learns (.node node))
    (body : EnumBody) : (names.regime about territory learns).Scripted (Check.define (·.setEnum node body)) :=
  .act (.enum node body) (fun _ => rfl)
    (permits_of_site (fun _ same => by cases same; exact inside) rfl own)

/-- A symbol that may be found out about: no name stands for it. -/
structure Spares (names : Naming) (about : String -> Prop) (learns : SymbolId -> Prop)
    (id : SymbolId) : Prop where
  learns : learns id
  apart : ∀ name, about name → ∀ symbol ∈ names.symbol name, symbol.id ≠ id

theorem scripted_setKnown {id : SymbolId} (spares : names.Spares about learns id)
    (known : SymbolType) : (names.regime about territory learns).Scripted (Check.setKnown id known) := by
  refine .act (.knows id known) (fun _ => rfl) ⟨nofun, ?_, trivial⟩
  rintro _ ⟨⟩
  exact ⟨spares.learns, spares.apart⟩

theorem scripted_setType {id : SymbolId} (spares : names.Spares about learns id) (type : Ty) :
    (names.regime about territory learns).Scripted (Check.setType id type) := by
  refine .act (.settles id type) (fun _ => rfl) ⟨nofun, ?_, trivial⟩
  rintro _ ⟨⟩
  exact ⟨spares.learns, spares.apart⟩

/-! ### Written types -/

theorem scripted_namedType {name : String} (isAbout : about name) {span : Span}
    (inside : territory span.node) :
    (names.regime about territory learns).Scripted (Check.namedType name span) := by
  unfold Check.namedType
  cases Prim.ofName? name with
  | some builtin => exact .pure _
  | none =>
    cases meant : names.symbol name with
    | none =>
      have missing : (names.regime about territory learns).Scripted
          (pure (.unknown, [⟨name, span⟩]) : Check (Ty × List Ident)) := .pure _
      refine .read missing fun session holds => ?_
      simp only [(holds name isAbout).1, meant]
    | some symbol =>
      have found : (names.regime about territory learns).Scripted (do
          Check.recordRef span.node symbol
          return ((names.known symbol.id).type.getD .unknown, []) : Check (Ty × List Ident)) :=
        .bind (scripted_recordRef inside ⟨name, meant⟩) fun _ => .pure _
      refine .read found fun session holds => ?_
      obtain ⟨means, known⟩ := holds name isAbout
      simp only [means, meant, known symbol meant]

mutual

theorem scripted_resolveForm : (form : TypeForm) -> (∀ ident ∈ form.mentions, about ident.name) ->
    (∀ node ∈ form.nodes, territory node) ->
    (names.regime about territory learns).Scripted (Check.resolveForm form)
  | .named name span, isAbout, inside => by
    simp only [TypeForm.mentions, TypeForm.nodes, List.forall_mem_singleton] at isAbout inside
    unfold Check.resolveForm
    exact .bind (scripted_namedType isAbout inside) fun _ =>
      .bind (scripted_recordForm inside _) fun _ => .pure _
  | .opaquePointer span, _, inside | .address span, _, inside => by
    simp only [TypeForm.nodes, List.forall_mem_singleton] at inside
    unfold Check.resolveForm
    exact .bind (scripted_recordForm inside _) fun _ => .pure _
  | .pointer element span, isAbout, inside | .array element span, isAbout, inside
  | .fixedArray element _ span, isAbout, inside | .const element span, isAbout, inside
  | .mutable element span, isAbout, inside => by
    simp only [TypeForm.nodes, List.forall_mem_cons] at inside
    unfold Check.resolveForm
    exact .bind (scripted_resolveForm element isAbout inside.2) fun _ =>
      .bind (scripted_recordForm inside.1 _) fun _ => .pure _
  | .function params result variadic span, isAbout, inside => by
    simp only [TypeForm.mentions, TypeForm.nodes, List.forall_mem_cons,
      List.forall_mem_append] at isAbout inside
    unfold Check.resolveForm
    exact .bind (scripted_resolveForms params isAbout.1 inside.2.1) fun _ =>
      .bind (scripted_resolveForm result isAbout.2 inside.2.2) fun _ =>
      .bind (scripted_recordForm inside.1 _) fun _ => .pure _

theorem scripted_resolveForms : (forms : List TypeForm) ->
    (∀ ident ∈ TypeForm.mentionsAll forms, about ident.name) ->
    (∀ node ∈ TypeForm.nodesAll forms, territory node) ->
    (names.regime about territory learns).Scripted (Check.resolveForms forms)
  | [], _, _ => by
    unfold Check.resolveForms
    exact .pure _
  | form :: rest, isAbout, inside => by
    simp only [TypeForm.mentionsAll, TypeForm.nodesAll, List.forall_mem_append] at isAbout inside
    unfold Check.resolveForms
    exact .bind (scripted_resolveForm form isAbout.1 inside.1) fun _ =>
      .bind (scripted_resolveForms rest isAbout.2 inside.2) fun _ => .pure _

end

theorem scripted_typeOf {form : TypeForm} (isAbout : ∀ ident ∈ form.mentions, about ident.name)
    (inside : ∀ node ∈ form.nodes, territory node) :
    (names.regime about territory learns).Scripted (Check.typeOf form) :=
  .bind (scripted_resolveForm form isAbout inside) fun _ =>
    .bind (.forM _ fun _ _ => scripted_report _) fun _ => .pure _

/-! ### Signatures -/

section Signatures

/-- Any name may be relied on. -/
abbrev anywhere : String -> Prop := fun _ => True

theorem scripted_typeOf? {form : Option TypeForm}
    (inside : ∀ node ∈ form.toList.flatMap TypeForm.nodes, territory node) :
    (names.regime anywhere territory learns).Scripted (Check.typeOf? form) := by
  cases form with
  | none => exact .pure _
  | some form =>
    exact .bind (scripted_typeOf (fun _ _ => trivial) (by simpa using inside)) fun _ => .pure _

theorem scripted_structFields (fields : List FieldDecl)
    (inside : ∀ node ∈ (fields.map (·.type)).flatMap TypeForm.nodes, territory node) (index : Nat)
    (seen : List Ident) :
    (names.regime anywhere territory learns).Scripted (structFields index seen fields) := by
  induction fields generalizing index seen with
  | nil => exact .pure _
  | cons field rest inductionHypothesis =>
    simp only [List.map_cons, List.flatMap_cons, List.forall_mem_append] at inside
    have type : (names.regime anywhere territory learns).Scripted (Check.typeOf field.type) :=
      scripted_typeOf (fun _ _ => trivial) inside.1
    have others := inductionHypothesis inside.2
    unfold structFields
    split
    · exact .bind type fun _ => .bind (others _ _) fun _ => .pure _
    · split
      · exact .bind (scripted_report _) fun _ => others _ _
      · exact .bind type fun _ => .bind (others _ _) fun _ => .pure _

theorem scripted_enumBase (decl : EnumDecl)
    (inside : ∀ node ∈ decl.base.toList.flatMap TypeForm.nodes, territory node) :
    (names.regime anywhere territory learns).Scripted (enumBase decl) := by
  unfold enumBase
  cases written : decl.base with
  | none => exact .pure _
  | some form =>
    rw [written] at inside
    refine .bind (scripted_typeOf (fun _ _ => trivial) (by simpa using inside)) fun base => ?_
    split
    · exact .pure _
    · split
      · exact .bind (scripted_report _) fun _ => .pure _
      · exact .pure _

theorem scripted_enumVariants (variants : List VariantDecl) (seen : List Ident) :
    (names.regime about territory learns).Scripted (enumVariants seen variants) := by
  induction variants generalizing seen with
  | nil => exact .pure _
  | cons variant rest inductionHypothesis =>
    unfold enumVariants
    split
    · exact .bind (scripted_report _) fun _ => inductionHypothesis _
    · exact .bind (inductionHypothesis _) fun _ => .pure _

/-- Defining the type that is pending is scripted. -/
theorem scripted_defineType {pending : Pending} (own : territory pending.item.span.node)
    (learnt : learns (.node pending.item.span.node))
    (inside : ∀ node ∈ pending.item.forms.flatMap TypeForm.nodes, territory node) :
    (names.regime anywhere territory learns).Scripted (defineType pending) := by
  obtain ⟨symbol, item⟩ := pending
  cases item with
  | struct decl =>
    exact .bind (scripted_structFields decl.fields inside 0 []) fun _ => scripted_setStruct own learnt _
  | enum decl =>
    exact .bind (scripted_enumBase decl inside) fun _ =>
      .bind (scripted_enumVariants decl.variants []) fun _ => scripted_setEnum own learnt _
  | _ => exact .pure _

theorem scripted_functionSignature {symbol : Symbol}
    (spares : names.Spares anywhere learns symbol.id) {params : List Param}
    {result : Option TypeForm}
    (inside : ∀ node ∈ (params.map (·.type) ++ result.toList).flatMap TypeForm.nodes, territory node)
    (attributes : List Attribute) :
    (names.regime anywhere territory learns).Scripted
      (functionSignature symbol params result attributes) := by
  simp only [List.flatMap_append, List.forall_mem_append] at inside
  refine .bind (.mapM _ fun param isParam => ?_) fun _ =>
    .bind (scripted_typeOf? inside.2) fun _ => scripted_setKnown spares _
  refine scripted_typeOf (fun _ _ => trivial) fun node isNode => inside.1 node ?_
  exact List.mem_flatMap.mpr ⟨_, List.mem_map_of_mem isParam, isNode⟩

theorem scripted_valueSignature {symbol : Symbol}
    (spares : names.Spares anywhere learns symbol.id) {type : Option TypeForm}
    (inside : ∀ node ∈ type.toList.flatMap TypeForm.nodes, territory node) :
    (names.regime anywhere territory learns).Scripted (valueSignature symbol type) := by
  cases type with
  | none => exact .pure _
  | some form =>
    exact .bind (scripted_typeOf (fun _ _ => trivial) (by simpa using inside)) fun _ =>
      scripted_setType spares _

/-- Resolving the signature that is pending is scripted where no type is. -/
theorem scripted_resolveSignature {pending : Pending}
    (spares : pending.symbol.isType = false → names.Spares anywhere learns pending.symbol.id)
    (typed : ∀ header ∈ header? pending.item, pending.symbol.kind = symbolKind header.kind)
    (inside : ∀ node ∈ pending.item.forms.flatMap TypeForm.nodes, territory node) :
    (names.regime anywhere territory learns).Scripted (resolveSignature pending) := by
  obtain ⟨symbol, item⟩ := pending
  have value (header : Header) (declares : header? item = some header)
      (isValue : (symbolKind header.kind).isType = false) :
      names.Spares anywhere learns symbol.id := by
    refine spares ?_
    unfold Symbol.isType
    rw [typed header declares]
    exact isValue
  cases item with
  | function decl =>
    exact scripted_functionSignature (value _ rfl rfl) (by simpa [Item.forms] using inside) _
  | asm decl =>
    exact scripted_functionSignature (value _ rfl rfl) (by simpa [Item.forms] using inside) _
  | const decl => exact scripted_valueSignature (value _ rfl rfl) inside
  | static decl => exact scripted_valueSignature (value _ rfl rfl) inside
  | _ => exact .pure _

end Signatures

end Naming
end UnitCheck.Declare
