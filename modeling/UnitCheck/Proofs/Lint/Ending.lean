import UnitCheck.Finding.Wording
import UnitCheck.Lint.Unit

/-!
# What stands behind the end of a list

A return in a body and a jump in a loop end the list they stand in; anywhere else they end
nothing. The statements up to the end are looked at as if there were no end. Behind it no
statement is looked at, and each gets one finding: the first of the kind that ended the list
repeats the end, and all others cannot be reached.
-/

namespace UnitCheck.Lint

/-- Whether the statement ends the list it stands in. -/
def endsList (site : Site) : Stmt -> Bool
  | .ret _ _ => site.inBody
  | .brk _ | .cont _ => site.inLoop
  | _ => false

/-- Whether both statements are returns, both breaks or both continues. -/
def sameEnd : Stmt -> Stmt -> Bool
  | .ret _ _, .ret _ _ | .brk _, .brk _ | .cont _, .cont _ => true
  | _, _ => false

/-- The finding about a statement behind the end of its list, the one at `index` of those. -/
def lateFinding (strict : Bool) (ending : Stmt) (later : List Stmt) (index : Nat)
    (stmt : Stmt) : Finding :=
  match terminator? ending with
  | some kind =>
    if index = later.findIdx (sameEnd ending) then .duplicateTerminator stmt.span kind
    else .unreachable stmt.span strict
  | none => .unreachable stmt.span strict

/-- The findings about what stands behind the first of these statements, which ends the
list. -/
def lateFindings (strict : Bool) : List Stmt -> List Finding
  | [] => []
  | ending :: later => later.mapIdx (lateFinding strict ending later)

/-- The code of a statement that repeats the end of its list. -/
def repeatCode : Stmt -> String
  | .ret _ _ => "C0001"
  | .brk _ => "C0002"
  | .cont _ => "C0003"
  | _ => "C0004"

/-- The codes due behind the first of these statements, which ends the list: only the next
statement of its kind repeats it. -/
def lateCodes : List Stmt -> List String
  | [] => []
  | ending :: later => later.mapIdx fun index _ =>
    if index = later.findIdx (sameEnd ending) then repeatCode ending else "C0004"

variable {view : View} {site : Site} {strict : Bool} {stmt ending : Stmt} {kind : Terminator}

/-- What ends a list closes it, and nothing else does. -/
theorem closes?_eq (site : Site) (stmt : Stmt) :
    closes? site stmt = if endsList site stmt then terminator? stmt else none := by
  cases stmt <;> rfl

theorem terminator?_of_endsList (ends : endsList site stmt = true) :
    ∃ kind, terminator? stmt = some kind := by
  cases stmt with
  | ret | brk | cont => exact ⟨_, rfl⟩
  | _ => cases ends

theorem sameEnd_eq (isKind : terminator? ending = some kind) (stmt : Stmt) :
    sameEnd ending stmt = decide (terminator? stmt = some kind) := by
  cases ending with
  | ret | brk | cont =>
    cases isKind
    cases stmt <;> rfl
  | _ => cases isKind

/-- The findings behind the end of a list, each by its place among them. -/
theorem deadFindings_eq (strict : Bool) (kind : Terminator) (later : List Stmt) :
    deadFindings strict kind later = later.mapIdx fun index stmt =>
      if index = later.findIdx (terminator? · = some kind) then
        .duplicateTerminator stmt.span kind
      else .unreachable stmt.span strict := by
  induction later with
  | nil => rfl
  | cons stmt rest inductionHypothesis =>
    rw [deadFindings, List.mapIdx_cons, List.findIdx_cons]
    by_cases repeats : terminator? stmt = some kind
    · -- the end is repeated here, and behind that no statement repeats it
      simp only [repeats, if_true, decide_true, cond_true]
      congr 1
      apply List.ext_getElem?
      simp
    · simp [repeats, inductionHypothesis]

theorem deadFindings_eq_late (isKind : terminator? ending = some kind) (later : List Stmt) :
    deadFindings strict kind later = later.mapIdx (lateFinding strict ending later) := by
  rw [deadFindings_eq]
  have same : sameEnd ending = fun stmt => decide (terminator? stmt = some kind) :=
    funext (sameEnd_eq isKind)
  unfold lateFinding
  simp only [isKind, same]

/-- Every finding behind the end of a list has the code due there. -/
theorem code_lateFindings (strict : Bool) (isKind : terminator? ending = some kind)
    (later : List Stmt) :
    (lateFindings strict (ending :: later)).map (·.code) = lateCodes (ending :: later) := by
  have code : kind.code = repeatCode ending := by
    cases ending with
    | ret | brk | cont =>
      cases isKind
      rfl
    | _ => cases isKind
  have each (index : Nat) (stmt : Stmt) : (lateFinding strict ending later index stmt).code =
      if index = later.findIdx (sameEnd ending) then repeatCode ending else "C0004" := by
    unfold lateFinding
    rw [isKind, ← code]
    simp only
    split <;> rfl
  apply List.ext_getElem?
  simp [lateFindings, lateCodes, Function.comp_def, each]

/-- The statements of a list are looked at up to its end; behind that each has one finding,
whose code says whether it is the first to repeat the end. A list without an end is looked
at as a whole. -/
theorem stmtsFindings_up_to_end (view : View) (site : Site) (stmts : List Stmt) :
    let ending := stmts.findIdx (endsList site)
    stmtsFindings view site stmts =
        (stmts.take (ending + 1)).flatMap (stmtFindings view site) ++
          lateFindings view.strict (stmts.drop ending) ∧
      (lateFindings view.strict (stmts.drop ending)).map (·.code) =
        lateCodes (stmts.drop ending) := by
  induction stmts with
  | nil => exact ⟨rfl, rfl⟩
  | cons stmt rest inductionHypothesis =>
    rw [stmtsFindings, closes?_eq, List.findIdx_cons]
    cases ends : endsList site stmt with
    | true =>
      obtain ⟨kind, isKind⟩ := terminator?_of_endsList ends
      simp only [cond_true, List.drop_zero]
      refine ⟨?_, code_lateFindings view.strict isKind rest⟩
      simp [isKind, lateFindings, deadFindings_eq_late isKind]
    | false =>
      obtain ⟨findings, codes⟩ := inductionHypothesis
      simp only [cond_false, List.drop_succ_cons]
      refine ⟨?_, codes⟩
      simp [findings]

end UnitCheck.Lint
