import Mathlib.Algebra.Module.Submodule.Lattice
import Mathlib.Data.List.Perm.Subperm
import Mathlib.Data.List.Permutation
import UnitCheck.Proofs.Declare.Recursion
import UnitCheck.Tree.Decode

/-!
# Behind the first pass sizes can be worked out

The search for recursive structs comes behind the definitions of all types and ahead of the
signatures of functions and values. What comes ahead of it gives fields to pending structs
only and stores enumerations as integers, and what comes behind it defines nothing; neither
reports a recursive struct. So what the search has cut is what the first pass leaves.
-/

namespace UnitCheck.Declare

/-- The first pass up to the search for recursive structs. -/
def draft : Check (List Pending) := do
  declareIntrinsics 0 intrinsics
  let pending <- collect none (<- get).items
  resolveAliases (aliases pending)
  pending.forM defineType
  return pending

/-- The first pass is its draft, the search for recursive structs, and the signatures of
functions and values. -/
theorem after_walk_draft (session : Session) : session.after walk =
    ((draft.run session).2.after (cutRecursion (draft.run session).1)).after
      ((draft.run session).1.forM resolveSignature) := by
  have split : walk = (do
      let pending <- draft
      cutRecursion pending
      pending.forM resolveSignature) := by
    unfold walk draft resolveSignatures
    simp only [bind_assoc, pure_bind]
  rw [split, Session.after, StateT.run_bind]
  exact Session.after_bind (draft.run session).2 (cutRecursion (draft.run session).1) _

/-! ### Drafts -/

/-- Only the given structs have fields, enumerations are stored as integers, and no
recursive struct has been reported. -/
structure Drafted (ids : TypeId -> Prop) (session : Session) : Prop where
  listed : ∀ id, (session.definitions.struct id).fields ≠ [] → ids id
  integers : session.definitions.StoredAsIntegers
  silent : ¬session.ReportsRecursion

/-- The acts of a draft that gives fields to the given structs. -/
def MayDraft (ids : TypeId -> Prop) : Act -> Prop
  | .struct id body => body.fields ≠ [] → ids id
  | .enum _ body => body.base.isInteger = true
  | .report finding => finding.isRecursion = false
  | _ => True

theorem not_reportsRecursion_report {session : Session} {finding : Finding}
    (silent : ¬session.ReportsRecursion) (isOther : finding.isRecursion = false) :
    ¬(Act.apply session (.report finding)).ReportsRecursion := by
  rintro ⟨found, isFound, isRecursion⟩
  rcases List.mem_append.mp isFound with isOld | isNew
  · exact silent ⟨found, isOld, isRecursion⟩
  · cases List.mem_singleton.mp isNew
    rw [isOther] at isRecursion
    cases isRecursion

theorem Drafted.act {ids : TypeId -> Prop} {act : Act} {session : Session}
    (permitted : MayDraft ids act) (drafted : Drafted ids session) :
    Drafted ids (act.apply session) := by
  obtain ⟨listed, integers, silent⟩ := drafted
  cases act with
  | report finding => exact ⟨listed, integers, not_reportsRecursion_report silent permitted⟩
  | struct id body =>
    refine ⟨fun other => ?_, integers, silent⟩
    change ((List.lookup other ((id, body) :: session.definitions.structs)).getD .empty).fields ≠ [] →
      ids other
    rw [List.lookup_cons]
    split
    · rename_i same
      rw [eq_of_beq same]
      exact permitted
    · exact listed other
  | enum id body =>
    refine ⟨listed, fun other found => ?_, silent⟩
    change List.lookup other ((id, body) :: session.definitions.enums) = some found → _
    rw [List.lookup_cons]
    split
    · rintro ⟨⟩
      exact permitted
    · exact integers other found
  | _ => exact ⟨listed, integers, silent⟩

/-- Drafting, where fields are given to the given structs. -/
def drafting (ids : TypeId -> Prop) : Regime where
  holds := Drafted ids
  permits := MayDraft ids
  stable _ _ := Drafted.act

variable {ids : TypeId -> Prop}

theorem mayCollect_drafting : MayCollect (drafting ids) where
  report _ isOther := isOther
  say _ := trivial
  declares _ _ _ := trivial
  knows _ _ := trivial
  global _ := trivial
  struct _ hasFields := absurd rfl hasFields
  enum _ := rfl

theorem mayInspect_drafting : MayInspect (drafting ids) fun _ => True where
  unknownType _ := rfl
  written _ _ _ := trivial
  refers _ _ _ := trivial
  report _ isOther _ _ := isOther

theorem mayLearn_drafting (id : SymbolId) : MayLearn (drafting ids) id :=
  ⟨fun _ => trivial, fun _ => trivial⟩

/-- What an enumeration is stored as is an integer, whatever it asks for. -/
theorem isInteger_enumBase (decl : EnumDecl) (session : Session) :
    ((enumBase decl).run session).1.isInteger = true := by
  unfold enumBase
  cases decl.base with
  | none => rfl
  | some form =>
    rw [StateT.run_bind]
    generalize (Check.typeOf form).run session = outcome
    obtain ⟨base, after⟩ := outcome
    change ((if base.isInteger = true then pure base else _ : Check Ty).run after).1.isInteger = true
    split
    · assumption
    · cases base.isUnknown <;> rfl

theorem obeys_defineType_drafting {entry : Pending}
    (isListed : ∀ decl, entry.item = .struct decl → ids decl.span.node) :
    (drafting ids).Obeys (defineType entry) := by
  have free (forms : List TypeForm) : Lie (fun _ => True) forms := fun _ _ => trivial
  unfold defineType
  split
  · rename_i decl isStruct
    refine .bind (obeys_structFields mayInspect_drafting _ (free _) 0 []) fun fields => ?_
    have permitted : MayDraft ids (.struct decl.span.node ⟨fields, layoutOf decl.attributes⟩) :=
      fun _ => isListed decl isStruct
    exact fun _ _ => .single permitted
  · rename_i decl _
    refine .bindYields (·.isInteger = true) (obeys_enumBase mayInspect_drafting decl (free _))
      (fun session _ => isInteger_enumBase decl session) fun base isInteger => ?_
    refine .bind (obeys_enumVariants mayInspect_drafting decl.variants []) fun variants => ?_
    have permitted : MayDraft ids (.enum decl.span.node ⟨base, variants⟩) := isInteger
    exact fun _ _ => .single permitted
  · exact .pure _

/-- A draft gives fields to the structs that are pending. -/
theorem drafted_draft {session : Session} (blank : Drafted (fun _ => False) session) :
    Drafted (· ∈ structIds (draft.run session).1) (draft.run session).2 := by
  have free (forms : List TypeForm) : Lie (fun _ => True) forms := fun _ _ => trivial
  have collects : (drafting fun _ => False).Obeys (do
      declareIntrinsics 0 intrinsics
      collect none (<- get).items) :=
    .bind (obeys_declareIntrinsics mayCollect_drafting 0 intrinsics) fun _ =>
      .read fun seen => obeys_collect mayCollect_drafting seen.items none
  have collected := (collects session blank).holds blank
  have split : draft = (do
      let pending <- (do
        declareIntrinsics 0 intrinsics
        collect none (<- get).items)
      resolveAliases (aliases pending)
      pending.forM defineType
      return pending) := by
    unfold draft
    simp only [bind_assoc]
  rw [split, StateT.run_bind]
  generalize (StateT.run (do
    declareIntrinsics 0 intrinsics
    collect none (<- get).items) session) = outcome at collected ⊢
  obtain ⟨pending, middle⟩ := outcome
  have defines : (drafting (· ∈ structIds pending)).Obeys (do
      resolveAliases (aliases pending)
      pending.forM defineType
      return pending) := by
    refine .bind (obeys_resolveAliases ⟨mayInspect_drafting, fun _ => rfl⟩ _
      (fun _ _ => mayLearn_drafting _) fun _ _ => free _) fun _ =>
      .bind (.forM _ fun entry isEntry => ?_) fun _ => .pure _
    exact obeys_defineType_drafting fun decl isStruct => mem_structIds isEntry isStruct
  have wider : Drafted (· ∈ structIds pending) middle :=
    ⟨fun id hasFields => (collected.listed id hasFields).elim, collected.integers, collected.silent⟩
  exact (defines middle wider).holds wider

/-! ### Signatures -/

/-- The definitions are these, and it is so that a recursive struct has been reported. -/
structure Cleared (definitions : Definitions) (reported : Prop) (session : Session) : Prop where
  definitions : session.definitions = definitions
  reported : session.ReportsRecursion ↔ reported

/-- What signatures keep: they define nothing and report no recursive struct. -/
def signing (definitions : Definitions) (reported : Prop) : Regime where
  holds := Cleared definitions reported
  permits
    | .struct _ _ | .enum _ _ => False
    | .report finding => finding.isRecursion = false
    | _ => True
  stable act session permitted cleared := by
    obtain ⟨same, reports⟩ := cleared
    cases act with
    | report finding =>
      refine ⟨same, Iff.trans ?_ reports⟩
      constructor
      · exact fun after => by_contra fun silent => not_reportsRecursion_report silent permitted after
      · rintro ⟨found, isFound, isRecursion⟩
        exact ⟨found, List.mem_append_left _ isFound, isRecursion⟩
    | struct id body => exact permitted.elim
    | enum id body => exact permitted.elim
    | _ => exact ⟨same, reports⟩

theorem mayInspect_signing {definitions : Definitions} {reported : Prop} :
    MayInspect (signing definitions reported) fun _ => True where
  unknownType _ := rfl
  written _ _ _ := trivial
  refers _ _ _ := trivial
  report _ isOther _ _ := isOther

/-- Signatures neither define types nor report recursive structs. -/
theorem cleared_signatures (session : Session) (pending : List Pending) :
    Cleared session.definitions session.ReportsRecursion
      (session.after (pending.forM resolveSignature)) := by
  have holds : Cleared session.definitions session.ReportsRecursion session := ⟨rfl, Iff.rfl⟩
  have obeys : (signing session.definitions session.ReportsRecursion).Obeys
      (pending.forM resolveSignature) :=
    .forM _ fun entry _ => obeys_resolveSignature mayInspect_signing entry
      (fun _ => ⟨fun _ => trivial, fun _ => trivial⟩) fun _ _ => trivial
  exact (obeys session holds).holds holds

/-! ### The first pass -/

/-- Before the first pass nothing is defined. -/
theorem blank_start (unit : Option Module) (options : Options) :
    Drafted (fun _ => False) (.start unit options) := by
  refine ⟨fun id hasFields => hasFields rfl, fun id body isBody => ?_, ?_⟩
  · cases isBody
  · rintro ⟨finding, isFinding, -⟩
    cases isFinding

/-- A first pass ahead of the search for recursive structs. -/
def drafted (unit : Option Module) (options : Options) : Session :=
  (draft.run (.start unit options)).2

/-- A first pass behind the search for recursive structs. -/
def searched (unit : Option Module) (options : Options) : Session :=
  (drafted unit options).after (cutRecursion (draft.run (.start unit options)).1)

variable (unit : Option Module) (options : Options)

theorem drafted_start : Drafted (· ∈ structIds (draft.run (.start unit options)).1)
    (drafted unit options) :=
  drafted_draft (blank_start unit options)

/-- The first pass defines and reports what it does up to the end of the search. -/
theorem cleared_declared : Cleared (searched unit options).definitions
    (searched unit options).ReportsRecursion ((Session.start unit options).step .declare) := by
  have split : (Session.start unit options).after Pass.declare.walk =
      (searched unit options).after
        ((draft.run (.start unit options)).1.forM resolveSignature) :=
    after_walk_draft _
  have ready : (Session.start unit options).passes.missing .declare = [] := rfl
  have alike := (run_pass ready rfl).1
  rw [split] at alike
  obtain ⟨definitions, reported⟩ := cleared_signatures (searched unit options)
    (draft.run (.start unit options)).1
  refine ⟨alike.definitions.trans definitions, Iff.trans ?_ reported⟩
  unfold Session.ReportsRecursion
  rw [← alike.findings]
  rfl

theorem founded_searched : (searched unit options).definitions.Founded := by
  obtain ⟨listed, integers, -⟩ := drafted_start unit options
  refine cutRecursion_founded (fun outer inner contains => listed outer ?_) integers
  obtain ⟨field, isField, -⟩ := contains
  exact List.ne_nil_of_mem isField

/-- A recursive struct is an error. -/
theorem error_of_isRecursion {finding : Finding} (isRecursion : finding.isRecursion = true) :
    finding.severity = .error := by
  cases finding <;> first | rfl | cases isRecursion

/-- Behind the first pass no struct holds itself by value, and working out the size or the
alignment of any type ends. The search for recursive structs takes no type from any field and
says nothing where no struct holds itself; where one does, an error is reported. -/
theorem founded_declared :
    ((Session.start unit options).step .declare).definitions.Founded ∧
      ((drafted unit options).definitions.Acyclic →
        ((Session.start unit options).step .declare).definitions =
            (drafted unit options).definitions ∧
          ∀ finding ∈ ((Session.start unit options).step .declare).findings,
            finding.isRecursion = false) ∧
      (¬(drafted unit options).definitions.Acyclic →
        ∃ finding ∈ ((Session.start unit options).step .declare).findings,
          finding.isRecursion = true ∧ finding.severity = .error) := by
  obtain ⟨definitions, reported⟩ := cleared_declared unit options
  have founded := founded_searched unit options
  rw [definitions]
  refine ⟨founded, fun acyclic => ?_, fun cyclic => ?_⟩
  · have unchanged : searched unit options = drafted unit options :=
      cutRecursion_of_acyclic acyclic _
    rw [unchanged] at reported ⊢
    refine ⟨rfl, fun finding isFinding => Bool.eq_false_iff.mpr fun isRecursion => ?_⟩
    exact (drafted_start unit options).silent (reported.mp ⟨finding, isFinding, isRecursion⟩)
  · rcases cutRecursion_reports (drafted unit options) (draft.run (.start unit options)).1 with
      unchanged | reports
    · -- what the search leaves is acyclic, so it has changed something
      have same : searched unit options = drafted unit options := unchanged
      exact absurd (same ▸ founded.acyclic) cyclic
    · obtain ⟨finding, isFinding, isRecursion⟩ := reported.mpr reports
      exact ⟨finding, isFinding, isRecursion, error_of_isRecursion isRecursion⟩

/-- A struct with one field of a named type. -/
def holder (name field type : Ident) (fieldSpan span : Span) : Item :=
  .struct ⟨[], some name, [⟨field, .named type.name type.span, fieldSpan⟩], span⟩

/-- Two structs that hold each other. -/
def mutualUnit : Module :=
  ⟨"unit", [
    holder ⟨"A", .ofLine 8 9⟩ ⟨"b", .ofLine 11 12⟩ ⟨"B", .ofLine 13 14⟩ (.ofLine 10 15) (.ofLine 0 16),
    holder ⟨"B", .ofLine 25 26⟩ ⟨"a", .ofLine 28 29⟩ ⟨"A", .ofLine 30 31⟩ (.ofLine 27 32)
      (.ofLine 17 33)], some (.ofLine 0 33)⟩

/-- Structs that hold each other are reported, and behind the first pass neither holds itself. -/
theorem founded_declared_mutual :
    Module.decode "unit" "(struct A (b B)) (struct B (a A))" = .ok mutualUnit ∧
      ¬(drafted (some mutualUnit) .standard).definitions.Acyclic ∧
      ((Session.start (some mutualUnit) .standard).step .declare).definitions.Acyclic ∧
      ∃ finding ∈ ((Session.start (some mutualUnit) .standard).step .declare).findings,
        finding.isRecursion = true ∧ finding.severity = .error := by
  have contains {definitions : Definitions} {outer inner : TypeId} (name : String)
      (stored : (definitions.struct outer).fields.findSome? (valueStruct? ·.type) =
        some (name, inner)) : definitions.Contains outer inner := by
    obtain ⟨field, isField, isStruct⟩ := List.exists_of_findSome?_eq_some stored
    exact ⟨field, isField, (stores_iff _).mpr ⟨name, isStruct⟩⟩
  have cyclic : ¬(drafted (some mutualUnit) .standard).definitions.Acyclic := by
    intro acyclic
    have first : (drafted (some mutualUnit) .standard).definitions.Contains 0 17 :=
      contains "B" (by decide +kernel)
    have second : (drafted (some mutualUnit) .standard).definitions.Contains 17 0 :=
      contains "A" (by decide +kernel)
    exact acyclic 0 (.tail (.single first) second)
  obtain ⟨founded, -, reports⟩ := founded_declared (some mutualUnit) .standard
  exact ⟨Module.decode_chars (by cbv), cyclic, founded.acyclic, reports cyclic⟩

end UnitCheck.Declare
