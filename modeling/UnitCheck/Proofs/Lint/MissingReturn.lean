import Mathlib.Algebra.Module.Submodule.Lattice
import Mathlib.Data.List.Perm.Subperm
import Mathlib.Data.List.Permutation
import UnitCheck.Proofs.Flow.Paths
import UnitCheck.Proofs.Session.Passes
import UnitCheck.Tree.Decode

/-!
# Functions that owe a result

A function that owes a result is reported when the structure of its body lets
control fall off the end. The structure shows every path but those that leave a
loop by a `break` in one of the loop's clauses. So where a check reports no error,
control falls off the end of such a function through a clause or not at all.
-/

namespace UnitCheck.Lint

/-- A function that owes a result and whose body may complete is reported. -/
theorem missingReturn_of_completes {session : Session} {decl : FunctionDecl} {body : Body}
    {symbol : Symbol} {result : Ty} (owes : owedResult? session decl = some (symbol, result))
    (completes : Flow.completesAll body.stmts = true) :
    ∃ finding ∈ missingReturn? session decl body, finding.severity = .error := by
  have notAll : (Flow.graph (some body) decl.span).allReturn = false := by
    obtain ⟨inside, start⟩ := Flow.graph_closed body decl.span
    rw [← Bool.not_eq_true, Flow.Graph.allReturn_iff inside start, Flow.visited_exit_iff]
    exact not_not_intro completes
  unfold missingReturn?
  simp only [owes, notAll]
  exact ⟨_, rfl, rfl⟩

/-- What is to be said about an item of the unit is said. -/
theorem mem_findings_of_item {session : Session} {decl : FunctionDecl} {body : Body}
    (isItem : .function decl ∈ session.items) (hasBody : decl.body = some body)
    {finding : Finding} (missing : finding ∈ missingReturn? session decl body) :
    finding ∈ findings session := by
  refine List.mem_append_left _ (List.mem_flatMap.mpr ⟨_, isItem, ?_⟩)
  simp only [itemFindings, hasBody]
  exact List.mem_append_right _ (Option.mem_toList.mpr missing)

/-- A function owes the result of its type, unless that is `void` or unknown. -/
theorem owedResult?_eq {session : Session} {decl : FunctionDecl} {symbol : Symbol}
    {params : List Ty} {result : Ty} {convention : String} {variadic : Bool}
    (declared : session.facts.decls.find? decl.span.node = some symbol)
    (known : (session.knownOf symbol.id).type = some (.function params result convention variadic))
    (notVoid : result.isVoid = false) (notUnknown : result.isUnknown = false) :
    owedResult? session decl = some (symbol, result) := by
  unfold owedResult?
  simp [declared, known, notVoid, notUnknown]

/-- Where a check reports no error, control falls off the end of a function that owes a
result exactly when it can do so on a path where a `break` in a clause of a loop takes
effect. -/
theorem falls_off_iff_through_clause {unit : Module} {options : Options} {decl : FunctionDecl}
    {body : Body} {symbol : Symbol} {params : List Ty} {result : Ty} {convention : String}
    {variadic : Bool}
    (noError : ∀ finding ∈ (Session.check (some unit) options).findings,
      finding.severity ≠ .error)
    (isItem : .function decl ∈ unit.items) (hasBody : decl.body = some body)
    (declared : (Session.check (some unit) options).facts.decls.find? decl.span.node = some symbol)
    (known : ((Session.check (some unit) options).knownOf symbol.id).type =
      some (.function params result convention variadic))
    (notVoid : result.isVoid = false) (notUnknown : result.isUnknown = false) :
    (∃ jumped, Flow.Path (.stmts body.stmts) .done jumped) ↔
      Flow.Path (.stmts body.stmts) .done true := by
  refine ⟨?_, fun path => ⟨true, path⟩⟩
  rintro ⟨jumped, path⟩
  cases jumped with
  | true => exact path
  | false =>
    exfalso
    obtain ⟨judged, items, facts, knowns, reported⟩ := check_lint (some unit) options
    have owes : owedResult? judged decl = some (symbol, result) := by
      have knownThere : (judged.knownOf symbol.id).type =
          some (.function params result convention variadic) := by
        unfold Session.knownOf at known ⊢
        rw [← knowns]
        exact known
      exact owedResult?_eq (facts ▸ declared) knownThere notVoid notUnknown
    obtain ⟨finding, missing, isError⟩ :=
      missingReturn_of_completes owes ((path.shown rfl).1 rfl)
    refine noError finding ?_ isError
    rw [reported]
    exact List.mem_append_right _ (mem_findings_of_item (items ▸ isItem) hasBody missing)

/-- The stretch of a text of one line between two columns. -/
def stretch (first last : Nat) : Span := ⟨⟨1, first + 1, first⟩, ⟨1, last + 1, last⟩⟩

/-- The body of a function that a loop leaves by its last clause. -/
def clauseBreakBody : Body :=
  ⟨[.forLoop none none (some (.brk (stretch 29 36))) [] (stretch 37 44) (stretch 20 45)],
    stretch 13 46⟩

/-- A function that a loop leaves by its last clause. -/
def clauseBreakDecl : FunctionDecl :=
  ⟨[], some ⟨"f", stretch 4 5⟩, [], some (.named "s32" (stretch 9 12)), some clauseBreakBody,
    stretch 0 47⟩

/-- A unit with one function, which a loop leaves by its last clause. -/
def clauseBreakUnit : Module :=
  ⟨"unit", [.function clauseBreakDecl], some (stretch 0 47)⟩

/-- The symbol of the function. -/
def clauseBreakSymbol : Symbol :=
  .plain (.node 0) "f" .function (some (stretch 4 5))

/-- Nothing is found in the unit. -/
theorem findings_clauseBreakUnit :
    (Session.check (some clauseBreakUnit) .standard).findings = [] := by
  decide +kernel

/-- The function of the unit is declared. -/
theorem declared_clauseBreakUnit :
    (Session.check (some clauseBreakUnit) .standard).facts.decls.find?
      clauseBreakDecl.span.node = some clauseBreakSymbol := by
  decide +kernel

/-- The function of the unit owes a number. -/
theorem known_clauseBreakUnit :
    ((Session.check (some clauseBreakUnit) .standard).knownOf clauseBreakSymbol.id).type =
      some (.function [] (.prim .s32) "" false) := by
  decide +kernel

/-- Control falls off the function by the last clause of its loop. -/
theorem path_clauseBreakUnit : Flow.Path (.stmts clauseBreakBody.stmts) .done true :=
  .cons (.forLoop .missing (.brkBehind .nil rfl (.present .brk))) .nil

/-- The theorem applies to a function that control does fall off. -/
theorem falls_off_iff_through_clause_there :
    (∃ jumped, Flow.Path (.stmts clauseBreakBody.stmts) .done jumped) ↔
      Flow.Path (.stmts clauseBreakBody.stmts) .done true := by
  have noError : ∀ finding ∈ (Session.check (some clauseBreakUnit) .standard).findings,
      finding.severity ≠ .error := by
    rw [findings_clauseBreakUnit]
    exact fun _ impossible => absurd impossible List.not_mem_nil
  exact falls_off_iff_through_clause noError List.mem_cons_self rfl declared_clauseBreakUnit
    known_clauseBreakUnit rfl rfl

/-- A check that reports nothing lets a function pass that owes a result and that control
falls off: its loop has no condition, but its last clause breaks. -/
theorem falls_off_unreported :
    Module.decode "unit" "(fn f () s32 (block (for _ _ (break) (block))))" = .ok clauseBreakUnit ∧
    (Session.check (some clauseBreakUnit) .standard).findings = [] ∧
    .function clauseBreakDecl ∈ clauseBreakUnit.items ∧
    clauseBreakDecl.body = some clauseBreakBody ∧
    (Session.check (some clauseBreakUnit) .standard).facts.decls.find?
      clauseBreakDecl.span.node = some clauseBreakSymbol ∧
    ((Session.check (some clauseBreakUnit) .standard).knownOf clauseBreakSymbol.id).type =
      some (.function [] (.prim .s32) "" false) ∧
    Flow.Path (.stmts clauseBreakBody.stmts) .done true := by
  refine ⟨Module.decode_chars (by cbv), findings_clauseBreakUnit, List.mem_cons_self, rfl,
    declared_clauseBreakUnit, known_clauseBreakUnit, path_clauseBreakUnit⟩

end UnitCheck.Lint
