import UnitCheck.Proofs.Session.Trace
import UnitCheck.Proofs.Type.Within

/-!
# What a written type stands for in a session

Resolving a written type gives the type that is built as the written one is, with what
the session knows of the names in it. Looking names up changes neither the table nor
what is known, so it makes no difference in which order the parts are resolved.
-/

namespace UnitCheck

namespace TypeForm

mutual

/-- The type that a written type stands for where names stand for these types. -/
def meaning (named : String -> Ty) : TypeForm -> Ty
  | .named name _ => named name
  | .opaquePointer _ => .opaquePointer
  | .pointer element _ => .pointer (meaning named element)
  | .address _ => .prim .addr
  | .array element _ => .array (meaning named element)
  | .fixedArray element length _ => .fixedArray (meaning named element) length
  | .const inner _ => .const (meaning named inner)
  | .mutable inner _ => .mutable (meaning named inner)
  | .function params result variadic _ =>
    .function (meaningAll named params) (meaning named result) "" variadic

/-- The types that several written types stand for. -/
def meaningAll (named : String -> Ty) : List TypeForm -> List Ty
  | [] => []
  | form :: rest => meaning named form :: meaningAll named rest

end

variable {named other : String -> Ty} {visible : TypeId -> Prop}

mutual

/-- What a written type means depends on the names that it mentions. -/
theorem meaning_congr : (form : TypeForm) ->
    (∀ mention ∈ form.mentions, named mention.name = other mention.name) ->
    form.meaning named = form.meaning other
  | .named name span, same => by
    unfold meaning
    exact same ⟨name, span⟩ (by simp [mentions])
  | .opaquePointer _, _ | .address _, _ => by
    unfold meaning
    rfl
  | .pointer inner _, same | .array inner _, same | .fixedArray inner _ _, same
  | .const inner _, same | .mutable inner _, same => by
    unfold mentions at same
    unfold meaning
    rw [meaning_congr inner same]
  | .function params result _ _, same => by
    simp only [mentions, List.forall_mem_append] at same
    unfold meaning
    rw [meaningAll_congr params same.1, meaning_congr result same.2]

theorem meaningAll_congr : (forms : List TypeForm) ->
    (∀ mention ∈ mentionsAll forms, named mention.name = other mention.name) ->
    meaningAll named forms = meaningAll other forms
  | [], _ => by
    unfold meaningAll
    rfl
  | form :: rest, same => by
    simp only [mentionsAll, List.forall_mem_append] at same
    unfold meaningAll
    rw [meaning_congr form same.1, meaningAll_congr rest same.2]

end

mutual

/-- A written type mentions no more than the types its names stand for. -/
theorem within_meaning (within : ∀ name, (named name).Within visible) :
    (form : TypeForm) -> (form.meaning named).Within visible
  | .named name _ => within name
  | .opaquePointer _ | .address _ => trivial
  | .pointer inner _ | .array inner _ | .fixedArray inner _ _ | .const inner _
  | .mutable inner _ => within_meaning within inner
  | .function params result _ _ =>
    ⟨allWithin_meaningAll within params, within_meaning within result⟩

theorem allWithin_meaningAll (within : ∀ name, (named name).Within visible) :
    (forms : List TypeForm) -> Ty.AllWithin visible (meaningAll named forms)
  | [] => trivial
  | form :: rest => ⟨within_meaning within form, allWithin_meaningAll within rest⟩

end
end TypeForm

/-- What a name stands for as a type in a session; without a meaning, or before it has a
type, it stands for the unknown type. -/
def Session.named (session : Session) (name : String) : Ty :=
  match Prim.ofName? name with
  | some builtin => .prim builtin
  | none =>
    match session.table.resolveType? name with
    | none => .unknown
    | some symbol => (session.knownOf symbol.id).type.getD .unknown

theorem Session.named_congr {one other : Session} (table : one.table = other.table)
    (known : one.known = other.known) : one.named = other.named := by
  unfold Session.named Session.knownOf
  rw [table, known]

namespace Check

/-- Reading written types: names and meanings are noted, and names without one reported. -/
def reading : Regime where
  holds _ := True
  permits
    | .report (.unknownType _) | .written _ _ | .refers _ _ => True
    | _ => False
  stable _ _ _ _ := trivial

theorem mayRead_reading : MayRead reading fun _ => True where
  unknownType _ := trivial
  written _ _ _ := trivial
  refers _ _ _ := trivial

/-- What reading written types leaves alone. -/
structure Reads (before after : Session) : Prop where
  table : after.table = before.table
  known : after.known = before.known
  definitions : after.definitions = before.definitions
  earlier : before.findings <+: after.findings
  findings : ∀ finding ∈ after.findings, finding ∈ before.findings ∨
    ∃ name, finding = .unknownType name

theorem Reads.refl (session : Session) : Reads session session :=
  ⟨rfl, rfl, rfl, List.prefix_refl _, fun _ => .inl⟩

theorem Reads.trans {before middle after : Session} (first : Reads before middle)
    (second : Reads middle after) : Reads before after where
  table := second.table.trans first.table
  known := second.known.trans first.known
  definitions := second.definitions.trans first.definitions
  earlier := first.earlier.trans second.earlier
  findings finding isFinding :=
    (second.findings finding isFinding).elim (first.findings finding) .inr

theorem reads_of_trace {before after : Session} (trace : Trace reading.permits before after) :
    Reads before after where
  table := trace.keeps fun act _ permitted => by
    cases act <;> first | rfl | exact permitted.elim
  known := trace.keeps fun act _ permitted => by
    cases act <;> first | rfl | exact permitted.elim
  definitions := trace.keeps fun act _ permitted => by
    cases act <;> first | rfl | exact permitted.elim
  earlier := trace.findings
  findings := by
    induction trace with
    | refl => exact fun _ => .inl
    | step _ act permitted inductionHypothesis =>
      cases act with
      | report finding =>
        intro other isOther
        obtain isOld | isNew := List.mem_append.mp isOther
        · exact inductionHypothesis other isOld
        · rw [List.mem_singleton.mp isNew]
          cases finding with
          | unknownType name => exact .inr ⟨name, rfl⟩
          | _ => exact permitted.elim
      | _ => exact inductionHypothesis

theorem reads_resolveForm (form : TypeForm) (session : Session) :
    Reads session ((resolveForm form).run session).2 :=
  reads_of_trace (obeys_resolveForm mayRead_reading form (fun _ _ => trivial) session trivial)

theorem reads_resolveForms (forms : List TypeForm) (session : Session) :
    Reads session ((resolveForms forms).run session).2 :=
  reads_of_trace (obeys_resolveForms mayRead_reading forms (fun _ _ => trivial) session trivial)

theorem reads_typeOf (form : TypeForm) (session : Session) :
    Reads session ((typeOf form).run session).2 :=
  reads_of_trace (obeys_typeOf mayRead_reading form (fun _ _ => trivial) session trivial)

theorem Reads.named {before after : Session} (reads : Reads before after) :
    after.named = before.named :=
  Session.named_congr reads.table reads.known

theorem namedType_yields (name : String) (span : Span) (session : Session) :
    ((namedType name span).run session).1.1 = session.named name := by
  unfold namedType Session.named
  cases Prim.ofName? name with
  | some builtin => rfl
  | none =>
    rw [StateT.run_bind]
    simp only [StateT.run_get, pure_bind]
    cases session.table.resolveType? name <;> rfl

mutual

/-- A written type stands for what it means where names stand for what the session says. -/
theorem resolveForm_yields : (form : TypeForm) -> (session : Session) ->
    ((resolveForm form).run session).1.1 = form.meaning session.named
  | .named name span, session => by
    unfold resolveForm TypeForm.meaning
    exact namedType_yields name span session
  | .opaquePointer _, _ | .address _, _ => by
    unfold resolveForm TypeForm.meaning
    rfl
  | .pointer inner span, session => by
    unfold resolveForm TypeForm.meaning
    rw [← resolveForm_yields inner session]
    rfl
  | .array inner span, session => by
    unfold resolveForm TypeForm.meaning
    rw [← resolveForm_yields inner session]
    rfl
  | .fixedArray inner length span, session => by
    unfold resolveForm TypeForm.meaning
    rw [← resolveForm_yields inner session]
    rfl
  | .const inner span, session => by
    unfold resolveForm TypeForm.meaning
    rw [← resolveForm_yields inner session]
    rfl
  | .mutable inner span, session => by
    unfold resolveForm TypeForm.meaning
    rw [← resolveForm_yields inner session]
    rfl
  | .function params result variadic span, session => by
    unfold resolveForm TypeForm.meaning
    -- the result is resolved where the parameters have left the session
    have same := (reads_resolveForms params session).named
    rw [← resolveForms_yields params session, ← same, ← resolveForm_yields result _]
    rfl

/-- `resolveForm_yields` for several written types. -/
theorem resolveForms_yields : (forms : List TypeForm) -> (session : Session) ->
    ((resolveForms forms).run session).1.1 = TypeForm.meaningAll session.named forms
  | [], _ => by
    unfold resolveForms TypeForm.meaningAll
    rfl
  | form :: rest, session => by
    unfold resolveForms TypeForm.meaningAll
    have same := (reads_resolveForm form session).named
    rw [← resolveForm_yields form session, ← same, ← resolveForms_yields rest _]
    rfl

end

/-- The type of a written type, whether or not all its names have a meaning. -/
theorem typeOf_yields (form : TypeForm) (session : Session) :
    ((typeOf form).run session).1 = form.meaning session.named := by
  rw [← resolveForm_yields]
  unfold typeOf
  rw [StateT.run_bind]
  generalize (resolveForm form).run session = outcome
  obtain ⟨⟨type, missing⟩, after⟩ := outcome
  change (((missing.forM fun name => report (.unknownType name)) >>= fun _ =>
    (pure type : Check Ty)).run after).1 = type
  rw [StateT.run_bind]
  rfl

end Check
end UnitCheck
