import UnitCheck.Proofs.Finding.Places
import UnitCheck.Proofs.Session.Trace

/-!
# Sessions with an origin

Everything that a session keeps comes from the tree of its unit: symbols stand where the
tree declares them, the structs in types are declared in it, and findings are about its
places. `sourced` says so of a session, and `Regime.Gives` says of a walk that it obeys and
that what it hands on has a property.
-/

namespace UnitCheck

/-! ### Walks that hand something on -/

/-- From this session the walk takes permitted acts only, and what it hands on has the
property. -/
structure Regime.GivesAt {α : Type} (regime : Regime) (session : Session) (walk : Check α)
    (property : α -> Prop) : Prop where
  trace : Trace regime.permits session (walk.run session).2
  gives : property (walk.run session).1

/-- Where it can rely on what the regime asks for, the walk takes permitted acts only, and
what it hands on has the property. -/
def Regime.Gives {α : Type} (regime : Regime) (walk : Check α) (property : α -> Prop) : Prop :=
  ∀ session, regime.holds session → regime.GivesAt session walk property

namespace Regime.Gives

variable {regime : Regime} {α β : Type} {property weaker : α -> Prop} {goal : β -> Prop}

theorem obeys {walk : Check α} (gives : regime.Gives walk property) : regime.Obeys walk :=
  fun session holds => (gives session holds).trace

theorem pure {value : α} (holds : property value) : regime.Gives (pure value) property :=
  fun _ _ => ⟨.refl, holds⟩

theorem ofObeys {walk : Check α} (obeys : regime.Obeys walk) : regime.Gives walk fun _ => True :=
  fun session holds => ⟨obeys session holds, trivial⟩

/-- A walk that obeys may follow any trace. -/
theorem behind {first : Check α} {rest : α -> Check β} {session : Session}
    (one : regime.GivesAt session first property) (holds : regime.holds session)
    (others : ∀ value, property value → regime.Gives (rest value) goal) :
    regime.GivesAt session (first >>= rest) goal :=
  have later := others _ one.gives _ (one.trace.holds holds)
  ⟨one.trace.trans later.trace, later.gives⟩

/-- What the first walk hands on is something for the second one to start from. -/
theorem bind {first : Check α} {rest : α -> Check β} (one : regime.Gives first property)
    (others : ∀ value, property value → regime.Gives (rest value) goal) :
    regime.Gives (first >>= rest) goal :=
  fun session holds => behind (one session holds) holds others

/-- A walk that looks at the session first, and relies on what it finds there. -/
theorem read {rest : Session -> Check β}
    (others : ∀ session, regime.holds session → regime.GivesAt session (rest session) goal) :
    regime.Gives (get >>= rest) goal :=
  fun session holds => ⟨(others session holds).trace, (others session holds).gives⟩

theorem mono {walk : Check α} (gives : regime.Gives walk property)
    (weaken : ∀ value, property value → weaker value) : regime.Gives walk weaker :=
  fun session holds => ⟨(gives session holds).trace, weaken _ (gives session holds).gives⟩

/-- A walk that turns every value of a list into another. -/
theorem mapM {visit : α -> Check β} (values : List α)
    (gives : ∀ value ∈ values, regime.Gives (visit value) goal) :
    regime.Gives (values.mapM visit) fun found => ∀ value ∈ found, goal value := by
  induction values with
  | nil => exact .pure (List.forall_mem_nil _)
  | cons value rest inductionHypothesis =>
    obtain ⟨one, others⟩ := List.forall_mem_cons.mp gives
    rw [List.mapM_cons]
    exact one.bind fun _ first => (inductionHypothesis others).bind fun _ later =>
      .pure (List.forall_mem_cons.mpr ⟨first, later⟩)

/-- A walk over a list that hands on a value with an invariant. -/
theorem foldlM {visit : β -> α -> Check β} (values : List α)
    (gives : ∀ value ∈ values, ∀ state, goal state → regime.Gives (visit state value) goal)
    {state : β} (holds : goal state) : regime.Gives (values.foldlM visit state) goal := by
  induction values generalizing state with
  | nil => exact .pure holds
  | cons value rest inductionHypothesis =>
    obtain ⟨one, others⟩ := List.forall_mem_cons.mp gives
    rw [List.foldlM_cons]
    exact (one state holds).bind fun _ next => inductionHypothesis others next

end Regime.Gives

/-! ### Types and symbols -/

namespace Ty

mutual

/-- The structs that the type mentions are declared. -/
def From (origin : Origin) : Ty -> Prop
  | .prim _ | .opaquePointer | .enum _ _ => True
  | .pointer inner | .array inner | .fixedArray inner _ | .const inner | .mutable inner =>
    From origin inner
  | .struct name id => origin.struct name id
  | .function params result _ _ => AllFrom origin params ∧ From origin result

/-- `From` for several types. -/
def AllFrom (origin : Origin) : List Ty -> Prop
  | [] => True
  | type :: rest => From origin type ∧ AllFrom origin rest

end

attribute [simp] From

variable {origin : Origin}

@[simp] theorem allFrom_iff {types : List Ty} :
    AllFrom origin types ↔ ∀ type ∈ types, type.From origin := by
  induction types with
  | nil => simp [AllFrom]
  | cons type rest inductionHypothesis => simp [AllFrom, inductionHypothesis]

end Ty

/-- The symbol stands at a place, if anywhere. -/
def Symbol.From (origin : Origin) (symbol : Symbol) : Prop :=
  ∀ span ∈ symbol.site, origin.span span

/-- A finding about a place and a symbol that stands somewhere else, if anywhere. -/
theorem Finding.from_symbol {origin : Origin} {finding : Finding} {span : Span} {symbol : Symbol}
    (isPlace : origin.span span) (symbolFrom : symbol.From origin)
    (about : finding.spans = span :: symbol.site.toList) : finding.From origin := by
  unfold Finding.From
  rw [about]
  exact List.forall_mem_cons.mpr
    ⟨isPlace, fun site isSite => symbolFrom site (Option.mem_toList.mp isSite)⟩

/-- The types known of a symbol mention declared structs only. -/
structure SymbolType.From (origin : Origin) (known : SymbolType) : Prop where
  type : ∀ type ∈ known.type, type.From origin
  params : ∀ param ∈ known.params, param.From origin

/-- The fields of a struct mention declared structs only. -/
def StructBody.From (origin : Origin) (body : StructBody) : Prop :=
  ∀ field ∈ body.fields, field.type.From origin

/-! ### Sessions -/

/-- What a session keeps comes from the tree of its unit. -/
structure Sourced (origin : Origin) (session : Session) : Prop where
  items : ∀ item ∈ session.items, item.From origin
  globals : ∀ symbol ∈ session.table.globals, symbol.From origin
  locals : ∀ symbol ∈ session.table.locals, symbol.From origin
  refs : ∀ entry ∈ session.facts.refs, entry.2.From origin
  decls : ∀ entry ∈ session.facts.decls, entry.2.From origin
  forms : ∀ entry ∈ session.facts.forms, entry.2.From origin
  exprs : ∀ entry ∈ session.facts.exprs, entry.2.From origin
  known : ∀ entry ∈ session.known, entry.2.From origin
  structs : ∀ entry ∈ session.definitions.structs, entry.2.From origin
  enums : ∀ entry ∈ session.definitions.enums, entry.2.base.From origin
  findings : ∀ finding ∈ session.findings, finding.From origin

/-- The act brings in nothing from elsewhere. -/
def MaySource (origin : Origin) : Act -> Prop
  | .report finding => finding.From origin
  | .written _ type | .settles _ type | .typed _ type => type.From origin
  | .refers _ symbol | .declares _ symbol | .global symbol => symbol.From origin
  | .knows _ known => known.From origin
  | .locals arena _ => ∀ symbol ∈ arena, symbol.From origin
  | .struct _ body => body.From origin
  | .enum _ body => body.base.From origin
  | .say _ | .hops _ _ | .checked _ => True

variable {origin : Origin}

theorem SymbolType.from_ofType {type : Option Ty} (isFrom : ∀ found ∈ type, found.From origin) :
    (SymbolType.ofType type).From origin :=
  ⟨isFrom, List.forall_mem_nil _⟩

namespace Sourced

variable {session : Session}

theorem knownOf (sourced : Sourced origin session) (id : SymbolId) :
    (session.knownOf id).From origin := by
  unfold Session.knownOf
  cases found : session.known.lookup id with
  | none => exact SymbolType.from_ofType none_from
  | some known => exact sourced.known _ (mem_of_lookup found)

theorem ref (sourced : Sourced origin session) {node : NodeId} {symbol : Symbol}
    (found : session.facts.refs.find? node = some symbol) : symbol.From origin :=
  sourced.refs _ (mem_of_lookup found)

theorem decl (sourced : Sourced origin session) {node : NodeId} {symbol : Symbol}
    (found : session.facts.decls.find? node = some symbol) : symbol.From origin :=
  sourced.decls _ (mem_of_lookup found)

theorem form (sourced : Sourced origin session) {node : NodeId} {type : Ty}
    (found : session.facts.forms.find? node = some type) : type.From origin :=
  sourced.forms _ (mem_of_lookup found)

theorem struct (sourced : Sourced origin session) (id : TypeId) :
    (session.definitions.struct id).From origin := by
  unfold Definitions.struct
  cases found : session.definitions.structs.lookup id with
  | none => exact List.forall_mem_nil _
  | some body => exact sourced.structs _ (mem_of_lookup found)

theorem global? (sourced : Sourced origin session) {space : Namespace} {name : String}
    {symbol : Symbol} (found : session.table.global? space name = some symbol) :
    symbol.From origin :=
  sourced.globals _ (List.mem_of_find?_eq_some found)

theorem resolve? (sourced : Sourced origin session) {name : String} {symbol : Symbol}
    (found : session.table.resolve? name = some symbol) : symbol.From origin := by
  unfold Table.resolve? Table.local? at found
  simp only [Option.orElse_eq_orElse, Option.orElse_eq_or, Option.or_eq_some_iff] at found
  obtain isLocal | ⟨-, isValue | ⟨-, isFunction | ⟨-, isType⟩⟩⟩ := found
  · exact sourced.locals _ (List.mem_of_find?_eq_some isLocal)
  · exact sourced.global? isValue
  · exact sourced.global? isFunction
  · exact sourced.global? isType

theorem resolveType? (sourced : Sourced origin session) {name : String} {symbol : Symbol}
    (found : session.table.resolveType? name = some symbol) : symbol.From origin := by
  unfold Table.resolveType? at found
  simp only [Option.orElse_eq_orElse, Option.orElse_eq_or, Option.or_eq_some_iff] at found
  obtain isLocal | ⟨-, isType⟩ := found
  · exact sourced.locals _ (List.mem_of_find?_eq_some isLocal)
  · exact sourced.global? isType

end Sourced

/-- Walks that bring in nothing from elsewhere. -/
def sourced (origin : Origin) : Regime where
  holds := Sourced origin
  permits := MaySource origin
  stable act session permitted holds := by
    obtain ⟨items, globals, locals, refs, decls, forms, exprs, known, structs, enums, findings⟩ := holds
    cases act with
    | report finding =>
      exact ⟨items, globals, locals, refs, decls, forms, exprs, known, structs, enums,
        List.forall_mem_append.mpr ⟨findings, List.forall_mem_singleton.mpr permitted⟩⟩
    | written node type =>
      exact ⟨items, globals, locals, refs, decls, List.forall_mem_cons.mpr ⟨permitted, forms⟩, exprs,
        known, structs, enums, findings⟩
    | typed node type =>
      exact ⟨items, globals, locals, refs, decls, forms, List.forall_mem_cons.mpr ⟨permitted, exprs⟩,
        known, structs, enums, findings⟩
    | refers node symbol =>
      exact ⟨items, globals, locals, List.forall_mem_cons.mpr ⟨permitted, refs⟩, decls, forms, exprs,
        known, structs, enums, findings⟩
    | declares node symbol =>
      exact ⟨items, globals, locals, refs, List.forall_mem_cons.mpr ⟨permitted, decls⟩, forms, exprs,
        known, structs, enums, findings⟩
    | knows id found =>
      exact ⟨items, globals, locals, refs, decls, forms, exprs,
        List.forall_mem_cons.mpr ⟨permitted, known⟩, structs, enums, findings⟩
    | settles id type =>
      have settled : SymbolType.From origin { session.knownOf id with type := some type } :=
        ⟨some_from permitted, (Sourced.knownOf
          ⟨items, globals, locals, refs, decls, forms, exprs, known, structs, enums, findings⟩
          id).params⟩
      exact ⟨items, globals, locals, refs, decls, forms, exprs,
        List.forall_mem_cons.mpr ⟨settled, known⟩, structs, enums, findings⟩
    | global symbol =>
      exact ⟨items, List.forall_mem_append.mpr ⟨globals, List.forall_mem_singleton.mpr permitted⟩,
        locals, refs, decls, forms, exprs, known, structs, enums, findings⟩
    | locals arena frames =>
      exact ⟨items, globals, permitted, refs, decls, forms, exprs, known, structs, enums, findings⟩
    | struct id body =>
      exact ⟨items, globals, locals, refs, decls, forms, exprs, known,
        List.forall_mem_cons.mpr ⟨permitted, structs⟩, enums, findings⟩
    | enum id body =>
      exact ⟨items, globals, locals, refs, decls, forms, exprs, known, structs,
        List.forall_mem_cons.mpr ⟨permitted, enums⟩, findings⟩
    | _ => exact ⟨items, globals, locals, refs, decls, forms, exprs, known, structs, enums, findings⟩

namespace Check

/-- A finding about one place. -/
theorem obeys_report_place {finding : Finding} {span : Span} (isPlace : origin.span span)
    (about : finding.spans = [span]) : (sourced origin).Obeys (report finding) :=
  obeys_report (Finding.from_place isPlace about)

/-! ### Written types -/

theorem gives_namedType (name : String) {span : Span} (isPlace : origin.span span) :
    (sourced origin).Gives (namedType name span) fun found =>
      found.1.From origin ∧ ∀ missing ∈ found.2, missing.From origin := by
  unfold namedType
  cases Prim.ofName? name with
  | some builtin => exact .pure ⟨trivial, List.forall_mem_nil _⟩
  | none =>
    refine .read fun session holds => ?_
    cases found : session.table.resolveType? name with
    | none => exact Regime.Gives.pure ⟨trivial, List.forall_mem_singleton.mpr isPlace⟩ session holds
    | some symbol =>
      refine Regime.Gives.bind (.ofObeys (obeys_recordRef (holds.resolveType? found)))
        (fun _ _ => .pure ⟨?_, List.forall_mem_nil _⟩) session holds
      cases known : (session.knownOf symbol.id).type with
      | none => trivial
      | some type => exact (holds.knownOf symbol.id).type type known

/-- Recording what a written type stands for. -/
theorem gives_recorded {node : NodeId} {type : Ty} {missing : List Ident}
    (isFrom : type.From origin) (missingFrom : ∀ name ∈ missing, name.From origin) :
    (sourced origin).Gives (do
      recordForm node type
      return (type, missing)) fun found =>
        found.1.From origin ∧ ∀ missing ∈ found.2, missing.From origin :=
  (Regime.Gives.ofObeys (obeys_recordForm isFrom)).bind fun _ _ => .pure ⟨isFrom, missingFrom⟩

mutual

/-- What a written type stands for mentions declared structs only. -/
theorem gives_resolveForm : (form : TypeForm) -> form.From origin ->
    (sourced origin).Gives (resolveForm form) fun found =>
      found.1.From origin ∧ ∀ missing ∈ found.2, missing.From origin
  | .named name span, isFrom => by
    unfold resolveForm
    exact (gives_namedType name isFrom).bind fun _ found => gives_recorded found.1 found.2
  | .opaquePointer _, _ | .address _, _ => by
    unfold resolveForm
    exact gives_recorded trivial (List.forall_mem_nil _)
  | .pointer inner _, isFrom | .array inner _, isFrom | .fixedArray inner _ _, isFrom
  | .const inner _, isFrom | .mutable inner _, isFrom => by
    unfold resolveForm
    exact (gives_resolveForm inner isFrom.2).bind fun _ found => gives_recorded found.1 found.2
  | .function params result _ _, isFrom => by
    unfold resolveForm
    refine (gives_resolveForms params isFrom.2.1).bind fun _ first =>
      (gives_resolveForm result isFrom.2.2).bind fun _ second => gives_recorded ?_ ?_
    · exact ⟨Ty.allFrom_iff.mpr first.1, second.1⟩
    · exact List.forall_mem_append.mpr ⟨first.2, second.2⟩

/-- `gives_resolveForm` for several written types. -/
theorem gives_resolveForms : (forms : List TypeForm) -> TypeForm.AllFrom origin forms ->
    (sourced origin).Gives (resolveForms forms) fun found =>
      (∀ type ∈ found.1, type.From origin) ∧ ∀ missing ∈ found.2, missing.From origin
  | [], _ => by
    unfold resolveForms
    exact .pure ⟨List.forall_mem_nil _, List.forall_mem_nil _⟩
  | form :: rest, isFrom => by
    unfold resolveForms
    exact (gives_resolveForm form isFrom.1).bind fun _ first =>
      (gives_resolveForms rest isFrom.2).bind fun _ later =>
      .pure ⟨List.forall_mem_cons.mpr ⟨first.1, later.1⟩,
        List.forall_mem_append.mpr ⟨first.2, later.2⟩⟩

end

theorem gives_typeOf (form : TypeForm) (isFrom : form.From origin) :
    (sourced origin).Gives (typeOf form) (Ty.From origin) := by
  unfold typeOf
  refine (gives_resolveForm form isFrom).bind fun found holds => ?_
  refine (Regime.Gives.ofObeys (.forM found.2 fun name isMissing => ?_)).bind fun _ _ => .pure holds.1
  exact obeys_report (List.forall_mem_singleton.mpr (holds.2 name isMissing))

theorem gives_typeOf? : (form : Option TypeForm) -> (∀ found ∈ form, found.From origin) ->
    (sourced origin).Gives (typeOf? form) fun type => ∀ found ∈ type, found.From origin
  | none, _ => .pure none_from
  | some form, isFrom => (gives_typeOf form (isFrom form rfl)).bind fun _ found =>
    .pure (some_from found)

theorem gives_recordedType (form : TypeForm) (isFrom : form.From origin) :
    (sourced origin).Gives (recordedType form) (Ty.From origin) := by
  refine .read fun session holds => ?_
  cases found : session.facts.forms.find? form.node with
  | some type => exact Regime.Gives.pure (holds.form found) session holds
  | none =>
    exact Regime.Gives.bind (gives_resolveForm form isFrom) (fun _ found => .pure found.1) session
      holds

end Check
end UnitCheck
