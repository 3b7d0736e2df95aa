import Mathlib.Algebra.Module.Submodule.Lattice
import Mathlib.Data.List.Perm.Subperm
import Mathlib.Data.List.Permutation
import UnitCheck.Proofs.Lint.Strict
import UnitCheck.Proofs.Session.Twins
import UnitCheck.Tree.Decode

/-!
# What options change

Checks of one unit under different options are compared round by round. Up to the last pass
they stay twins and find the same, nothing of it about reachability; the last pass finds what
it finds with the strictness it is given.
-/

namespace UnitCheck

/-- Twins that have found the same, and nothing about reachability yet. -/
structure Session.Matched (one other : Session) : Prop where
  twins : one.Twins other
  findings : other.findings = one.findings
  ordinary : ∀ finding ∈ one.findings, finding.isUnreachable = false

namespace Session.Matched

variable {one other nextOne nextOther : Session}

theorem between (matched : one.Matched other) (alikeOne : one.Alike nextOne)
    (alikeOther : other.Alike nextOther) : nextOne.Matched nextOther where
  twins := matched.twins.between alikeOne alikeOther
  findings := by rw [alikeOther.findings, matched.findings, alikeOne.findings]
  ordinary := by
    rw [alikeOne.findings]
    exact matched.ordinary

/-- All rounds but the last keep sessions matched. -/
theorem round {pass : Pass} (early : pass ≠ .lint) (matched : one.Matched other)
    (alikeOne : (one.after pass.walk).Alike nextOne)
    (alikeOther : (other.after pass.walk).Alike nextOther)
    (trusted : other.options.derefMode = one.options.derefMode ∨ nextOne.Quiet) :
    nextOne.Matched nextOther := by
  obtain ⟨twins, found, isOne, isOther⟩ :=
    matched.twins.walk (Pass.aloof_walk early) (trusted.imp_right alikeOne.quiet)
  refine Matched.between ⟨twins, ?_, ?_⟩ alikeOne alikeOther
  · rw [isOne, isOther, matched.findings]
  · obtain ⟨same, isSame, ordinary⟩ := (Pass.aloof_walk early).finds one
    intro finding inside
    rcases List.mem_append.mp (isSame ▸ inside) with earlier | new
    · exact matched.ordinary finding earlier
    · exact ordinary finding new

/-- The last round does so up to strictness. -/
theorem lastFindings (matched : one.Matched other) :
    (other.after Pass.lint.walk).findings =
      (one.after Pass.lint.walk).findings.map (.under other.options.strict) := by
  have earlier : one.findings.map (.under other.options.strict) = one.findings :=
    List.map_congr_left (fun finding inside =>
      Finding.under_of_ordinary (matched.ordinary finding inside) _) |>.trans (List.map_id _)
  rw [after_lint, after_lint]
  simp only
  rw [List.map_append, earlier, matched.findings, matched.twins.lint, Lint.findings_under]

end Session.Matched

variable (unit : Option Module) {one other : Options}

/-- Where field accesses find the same, checks of one unit are matched ahead of the last
pass. -/
theorem matched_ahead (suits : other.Suits one)
    (trusted : other.derefMode = one.derefMode ∨ (Session.ahead unit one .lint).Quiet) :
    (Session.ahead unit one .lint).Matched (Session.ahead unit other .lint) := by
  obtain ⟨start, scope, typeCheck, attributes, lint, -, -⟩ := check_walks unit one
  obtain ⟨startOther, scopeOther, typeCheckOther, attributesOther, lintOther, -, -⟩ :=
    check_walks unit other
  have asGiven (pass : Pass) (same : other.derefMode = one.derefMode) :
      (Session.ahead unit other pass).options.derefMode =
        (Session.ahead unit one pass).options.derefMode := by
    rw [options_ahead, options_ahead, same]
  have atAttributes := trusted.imp_right fun quiet => quiet_before_walk _ (lint.quiet quiet)
  have atTypeCheck :=
    atAttributes.imp_right fun quiet => quiet_before_walk _ (attributes.quiet quiet)
  have atScope := atTypeCheck.imp_right fun quiet => quiet_before_walk _ (typeCheck.quiet quiet)
  have matched : (Session.start unit one).Matched (Session.start unit other) :=
    ⟨⟨rfl, suits⟩, rfl, List.forall_mem_nil _⟩
  exact (matched.between start startOther)
    |>.round (by decide) scope scopeOther (atScope.imp_left (asGiven .declare))
    |>.round (by decide) typeCheck typeCheckOther (atTypeCheck.imp_left (asGiven .scope))
    |>.round (by decide) attributes attributesOther (atAttributes.imp_left (asGiven .typeCheck))
    |>.round (by decide) lint lintOther (trusted.imp_left (asGiven .attributes))

/-- Checks of one unit are twins, and find the same up to strictness. -/
theorem check_matched (suits : other.Suits one)
    (trusted : other.derefMode = one.derefMode ∨ (Session.check unit one).Quiet) :
    (Session.check unit one).Twins (Session.check unit other) ∧
      (Session.check unit other).findings =
        (Session.check unit one).findings.map (.under other.strict) := by
  obtain ⟨-, -, -, -, -, last, -⟩ := check_walks unit one
  obtain ⟨-, -, -, -, -, lastOther, -⟩ := check_walks unit other
  have matched := matched_ahead unit suits
    (trusted.imp_right fun quiet => quiet_before_walk _ (last.quiet quiet))
  refine ⟨matched.twins.walk_lint.between last lastOther, ?_⟩
  rw [lastOther.findings, matched.lastFindings, last.findings, options_ahead]

/-- What is found is worded alike up to strictness. -/
theorem diagnostics_check (suits : other.Suits one)
    (trusted : other.derefMode = one.derefMode ∨ (Session.check unit one).Quiet) :
    (Session.check unit other).bag.diagnostics =
      (Session.check unit one).bag.diagnostics.map (.under other.strict) := by
  obtain ⟨twins, findings⟩ := check_matched unit suits trusted
  have worded (session : Session) : session.bag.diagnostics =
      session.findings.map (·.diagnostic session.file) := rfl
  rw [worded, worded, findings, twins.file, List.map_map, List.map_map]
  exact List.map_congr_left fun finding _ => finding.diagnostic_under other.strict _

/-- Code may be generated where nothing fatal has been found. -/
theorem canGenerate_check (options : Options) :
    (Session.check unit options).canGenerate = true ↔ (Session.check unit options).Quiet := by
  obtain ⟨-, -, -, -, -, -, complete⟩ := check_walks unit options
  rw [← Session.quiet_iff]
  unfold Session.canGenerate
  rw [complete, Bool.and_true, Bool.not_eq_true']

/-- The sessions end with the same diagnostics, the same verdict and the same facts about their
unit. -/
structure Session.SameOutcome (one other : Session) : Prop where
  bag : other.bag = one.bag
  verdict : other.canGenerate = one.canGenerate
  table : other.table = one.table
  definitions : other.definitions = one.definitions
  known : other.known = one.known
  facts : other.facts = one.facts

/-- Checks that are equally strict end the same. -/
theorem sameOutcome_check (suits : other.Suits one) (strict : other.strict = one.strict)
    (trusted : other.derefMode = one.derefMode ∨ (Session.check unit one).Quiet) :
    (Session.check unit one).SameOutcome (Session.check unit other) := by
  obtain ⟨twins, found⟩ := check_matched unit suits trusted
  obtain ⟨-, asItself⟩ := check_matched unit one.suits_refl (.inl rfl)
  have findings : (Session.check unit other).findings = (Session.check unit one).findings := by
    rw [found, strict, ← asItself]
  have bag : (Session.check unit other).bag = (Session.check unit one).bag := by
    unfold Session.bag
    rw [findings, twins.file]
  refine ⟨bag, ?_, twins.table, twins.definitions, twins.known, twins.facts⟩
  obtain ⟨-, -, -, -, -, -, complete⟩ := check_walks unit one
  obtain ⟨-, -, -, -, -, -, completeOther⟩ := check_walks unit other
  unfold Session.canGenerate
  rw [bag, complete, completeOther]

/-- A diagnostic that fails no unit under a strict check fails none otherwise. -/
theorem Diagnostic.isFatal_under {diagnostic : Diagnostic} (mild : diagnostic.isFatal = false) :
    (diagnostic.under false).isFatal = false := by
  unfold Diagnostic.under
  split
  · rfl
  · exact mild

/-- How a check depends on its options. Progress messages, colors and the number of jobs make
no difference to its outcome. Strictness decides about the severity of unreachable code and
about nothing else, so a strict check accepts less. Where field accesses that do not look
through `mut` are accepted, looking through it makes no difference. -/
theorem check_under_options (options : Options) :
    (∀ debug color jobs, (Session.check unit options).SameOutcome
      (.check unit { options with debug := debug, color := color, jobs := jobs })) ∧
    (∀ strict, (Session.check unit { options with strict := strict }).bag.diagnostics =
      (Session.check unit options).bag.diagnostics.map (.under strict)) ∧
    ((Session.check unit { options with strict := true }).canGenerate = true →
      (Session.check unit { options with strict := false }).canGenerate = true) ∧
    ((Session.check unit { options with mutDeref := "explicit" }).canGenerate = true →
      (Session.check unit { options with mutDeref := "explicit" }).SameOutcome
        (.check unit { options with mutDeref := "implicit" })) := by
  refine ⟨fun debug color jobs => ?_, fun strict => ?_, fun accepted => ?_, fun accepted => ?_⟩
  · exact sameOutcome_check unit ⟨rfl, .inl rfl⟩ rfl (.inl rfl)
  · exact diagnostics_check unit ⟨rfl, .inl rfl⟩ (.inl rfl)
  · rw [canGenerate_check, ← Session.quiet_iff] at accepted ⊢
    have suits : ({ options with strict := false } : Options).Suits
        { options with strict := true } := ⟨rfl, .inl rfl⟩
    have diagnostics := diagnostics_check unit suits (.inl rfl)
    unfold Bag.hasErrors at accepted ⊢
    rw [List.any_eq_false] at accepted ⊢
    rw [diagnostics, List.forall_mem_map]
    intro diagnostic inside
    simpa using Diagnostic.isFatal_under (by simpa using accepted diagnostic inside)
  · rw [canGenerate_check] at accepted
    exact sameOutcome_check unit ⟨rfl, .inr rfl⟩ rfl (.inr accepted)

/-- A unit that reads a field behind a pointer. -/
def fieldReadUnit : Module :=
  ⟨"unit",
    [.struct ⟨[], some ⟨"P", .ofLine 8 9⟩,
      [⟨⟨"x", .ofLine 11 12⟩, .named "s32" (.ofLine 13 16), .ofLine 10 17⟩], .ofLine 0 18⟩,
    .function ⟨[], some ⟨"f", .ofLine 23 24⟩,
      [⟨⟨"p", .ofLine 27 28⟩, .pointer (.named "P" (.ofLine 34 35)) (.ofLine 29 36), false,
        .ofLine 26 37⟩],
      some (.named "s32" (.ofLine 39 42)),
      some ⟨[.ret (some (.field (.name ⟨"p", .ofLine 61 62⟩) ["x"] (.ofLine 58 65)))
        (.ofLine 50 66)], .ofLine 43 67⟩,
      .ofLine 19 68⟩],
    some (.ofLine 0 68)⟩

/-- The unit is accepted under options that are strict and do not look through `mut`, and so
under options that are neither. -/
theorem check_under_options_field :
    Module.decode "unit"
        "(struct P (x s32)) (fn f ((p (ptr P))) s32 (block (return (. p x))))" =
          .ok fieldReadUnit ∧
      (Session.check (some fieldReadUnit) { Options.standard with strict := false }).canGenerate =
        true ∧
      (Session.check (some fieldReadUnit)
        { Options.standard with mutDeref := "explicit" }).SameOutcome
        (.check (some fieldReadUnit) { Options.standard with mutDeref := "implicit" }) := by
  have strictly : (Session.check (some fieldReadUnit)
      { Options.standard with strict := true }).canGenerate = true := by decide +kernel
  have explicitly : (Session.check (some fieldReadUnit)
      { Options.standard with mutDeref := "explicit" }).canGenerate = true := by decide +kernel
  obtain ⟨-, -, loosely, implicitly⟩ := check_under_options (some fieldReadUnit) .standard
  exact ⟨Module.decode_chars (by cbv), loosely strictly, implicitly explicitly⟩

end UnitCheck
