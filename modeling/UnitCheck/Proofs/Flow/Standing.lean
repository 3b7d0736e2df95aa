import UnitCheck.Proofs.Flow.Completion
import UnitCheck.Proofs.Lint.Ending
import UnitCheck.Proofs.Tree.Parts

/-!
# How the statements of a body stand in it

A census of a body lists its statements, each with what is around it and whether something
in front of it keeps control away. Two walks over a body decide that by different rules:
one asks whether the code in front completes, the other whether a list has ended. What the
first walk gets to, the second one heeds (`heeded_of_reached`).
-/

namespace UnitCheck.Flow

/-- How a statement stands in the code around it. -/
structure Standing where
  /-- The body of a function or an entrypoint is around it. -/
  inBody : Bool
  /-- The innermost loop around it; the first clause of a loop stands in front of the loop. -/
  loop : Option Stmt
  /-- All code in front of it completes, and it is in no clause of a loop. -/
  reached : Bool
  /-- No list that it stands in has ended in front of it. -/
  heeded : Bool

namespace Standing

/-- The start of a body. -/
def body : Standing := ⟨true, none, true, true⟩

/-- What surrounds the statement. -/
def site (here : Standing) : Lint.Site := ⟨here.inBody, here.loop.isSome⟩

/-- Behind a statement of the same list. -/
def behind (here : Standing) (stmt : Stmt) : Standing :=
  { here with
    reached := here.reached && completes stmt
    heeded := here.heeded && !Lint.endsList here.site stmt }

/-- Inside a loop. -/
def inside (here : Standing) (loop : Stmt) : Standing := { here with loop := some loop }

/-- In a clause of a loop. -/
def clause (here : Standing) : Standing := { here with reached := false }

end Standing

mutual

/-- The statement and all statements inside it, each with how it stands. -/
def census (here : Standing) : Stmt -> List (Stmt × Standing)
  | .block body span => (.block body span, here) :: censusAll here body
  | .cond test body bodySpan otherwise span =>
    (.cond test body bodySpan otherwise span, here) ::
      (censusAll here body ++ census? here otherwise)
  | .whileLoop test body bodySpan span =>
    (.whileLoop test body bodySpan span, here) ::
      censusAll (here.inside (.whileLoop test body bodySpan span)) body
  | .loop body bodySpan span =>
    (.loop body bodySpan span, here) :: censusAll (here.inside (.loop body bodySpan span)) body
  | .forLoop first test after body bodySpan span =>
    (.forLoop first test after body bodySpan span, here) ::
      (census? here.clause first ++
        census? (here.inside (.forLoop first test after body bodySpan span)).clause after ++
        censusAll (here.inside (.forLoop first test after body bodySpan span)) body)
  | other => [(other, here)]

/-- The census of a statement that may be missing. -/
def census? (here : Standing) : Option Stmt -> List (Stmt × Standing)
  | none => []
  | some stmt => census here stmt

/-- The census of several statements in turn. -/
def censusAll (here : Standing) : List Stmt -> List (Stmt × Standing)
  | [] => []
  | stmt :: rest => census here stmt ++ censusAll (here.behind stmt) rest

end

variable {here : Standing} {stmt : Stmt}

mutual

/-- The census of a statement lists its parts. -/
theorem map_fst_census : (stmt : Stmt) -> (here : Standing) ->
    (census here stmt).map Prod.fst = stmt.parts
  | .block body _, here => by
    simp [census, Stmt.parts, map_fst_censusAll body]
  | .cond _ body _ otherwise _, here => by
    simp [census, Stmt.parts, map_fst_censusAll body, map_fst_census? otherwise]
  | .whileLoop _ body _ _, here | .loop body _ _, here => by
    simp [census, Stmt.parts, map_fst_censusAll body]
  | .forLoop first _ after body _ _, here => by
    simp [census, Stmt.parts, map_fst_census? first, map_fst_census? after,
      map_fst_censusAll body]
  | .expr _, _ | .letIn _, _ | .instr _, _ | .const _, _ | .struct _, _ | .assign _ _ _, _
  | .write _ _ _, _ | .ret _ _, _ | .brk _, _ | .cont _, _ | .bad _, _ => rfl

theorem map_fst_census? : (stmt : Option Stmt) -> (here : Standing) ->
    (census? here stmt).map Prod.fst = Stmt.parts? stmt
  | none, _ => rfl
  | some stmt, here => map_fst_census stmt here

theorem map_fst_censusAll : (body : List Stmt) -> (here : Standing) ->
    (censusAll here body).map Prod.fst = Stmt.partsAll body
  | [], _ => rfl
  | stmt :: rest, here => by
    simp [censusAll, Stmt.partsAll, map_fst_census stmt, map_fst_censusAll rest]

end

mutual

/-- What holds of the standing of a statement holds in all of the statement, if it passes to
all places in and behind statements. -/
theorem forall_census (property : Standing -> Prop)
    (behind : ∀ here stmt, property here → property (here.behind stmt))
    (inside : ∀ here loop, property here → property (here.inside loop))
    (clause : ∀ here, property here → property here.clause) :
    (stmt : Stmt) -> {here : Standing} -> property here ->
    ∀ entry ∈ census here stmt, property entry.2
  | .block body _, here, holds => by
    simp only [census, List.forall_mem_cons]
    exact ⟨holds, forall_censusAll property behind inside clause body holds⟩
  | .cond _ body _ otherwise _, here, holds => by
    simp only [census, List.forall_mem_cons, List.forall_mem_append]
    exact ⟨holds, forall_censusAll property behind inside clause body holds,
      forall_census? property behind inside clause otherwise holds⟩
  | .whileLoop _ body _ _, here, holds | .loop body _ _, here, holds => by
    simp only [census, List.forall_mem_cons]
    exact ⟨holds, forall_censusAll property behind inside clause body (inside _ _ holds)⟩
  | .forLoop first _ after body _ _, here, holds => by
    simp only [census, List.forall_mem_cons, List.forall_mem_append]
    exact ⟨holds, ⟨forall_census? property behind inside clause first (clause _ holds),
      forall_census? property behind inside clause after (clause _ (inside _ _ holds))⟩,
      forall_censusAll property behind inside clause body (inside _ _ holds)⟩
  | .expr _, _, holds | .letIn _, _, holds | .instr _, _, holds | .const _, _, holds
  | .struct _, _, holds | .assign _ _ _, _, holds | .write _ _ _, _, holds | .ret _ _, _, holds
  | .brk _, _, holds | .cont _, _, holds | .bad _, _, holds => by
    simpa [census] using holds

theorem forall_census? (property : Standing -> Prop)
    (behind : ∀ here stmt, property here → property (here.behind stmt))
    (inside : ∀ here loop, property here → property (here.inside loop))
    (clause : ∀ here, property here → property here.clause) :
    (stmt : Option Stmt) -> {here : Standing} -> property here ->
    ∀ entry ∈ census? here stmt, property entry.2
  | none, _, _ => List.forall_mem_nil _
  | some stmt, _, holds => forall_census property behind inside clause stmt holds

theorem forall_censusAll (property : Standing -> Prop)
    (behind : ∀ here stmt, property here → property (here.behind stmt))
    (inside : ∀ here loop, property here → property (here.inside loop))
    (clause : ∀ here, property here → property here.clause) :
    (body : List Stmt) -> {here : Standing} -> property here ->
    ∀ entry ∈ censusAll here body, property entry.2
  | [], _, _ => List.forall_mem_nil _
  | stmt :: rest, here, holds => by
    simp only [censusAll, List.forall_mem_append]
    exact ⟨forall_census property behind inside clause stmt holds,
      forall_censusAll property behind inside clause rest (behind here stmt holds)⟩

end

/-- What ends a list does not complete. -/
theorem endsList_of_completes {site : Lint.Site} (completes : completes stmt = true) :
    Lint.endsList site stmt = false := by
  cases stmt with
  | ret | brk | cont => cases completes
  | _ => rfl

/-- Where all code in front of a statement completes, no list has ended in front of it. -/
theorem heeded_of_reached (body : List Stmt) :
    ∀ entry ∈ censusAll .body body, entry.2.reached = true → entry.2.heeded = true := by
  refine forall_censusAll (fun here => here.reached = true → here.heeded = true) ?_ ?_ ?_ body
    fun _ => rfl
  · intro here stmt holds reached
    obtain ⟨reached, completes⟩ := Bool.and_eq_true_iff.mp reached
    simp [Standing.behind, holds reached, endsList_of_completes completes]
  · intro here loop holds
    exact holds
  · intro here _ reached
    cases reached

/-- Behind the end of a list no statement is heeded, nor anything inside one. -/
theorem not_heeded (body : List Stmt) (ended : here.heeded = false) :
    ∀ entry ∈ censusAll here body, entry.2.heeded = false := by
  refine forall_censusAll (fun here => here.heeded = false) ?_ ?_ ?_ body ended
  · intro here stmt ended
    simp [Standing.behind, ended]
  · exact fun _ _ ended => ended
  · exact fun _ ended => ended

end UnitCheck.Flow
