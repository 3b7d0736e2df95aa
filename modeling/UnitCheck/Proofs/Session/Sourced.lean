import Mathlib.Algebra.Module.Submodule.Lattice
import Mathlib.Data.List.Perm.Subperm
import Mathlib.Data.List.Permutation
import UnitCheck.Proofs.Attribute.Origin
import UnitCheck.Proofs.Declare.Origin
import UnitCheck.Proofs.Lint.Origin
import UnitCheck.Proofs.Resolve.Origin
import UnitCheck.Proofs.Session.Passes
import UnitCheck.Proofs.Tree.Places
import UnitCheck.Proofs.Typing.BodyOrigin

/-!
# Checks bring in nothing from outside their unit

Each walk of a check keeps a session whose parts all come from the tree of the unit, so what
the whole check finds out comes from there. In a decoded unit every span of the tree is that
of a datum, so this is true of every place that a diagnostic labels.
-/

namespace UnitCheck

variable {origin : Origin}

namespace Sourced

variable {before after : Session}

theorem of_alike (alike : before.Alike after) (holds : Sourced origin before) :
    Sourced origin after := by
  rw [alike.same]
  exact ⟨holds.items, holds.globals, holds.locals, holds.refs, holds.decls, holds.forms,
    holds.exprs, holds.known, holds.structs, holds.enums, holds.findings⟩

/-- Findings about places of the origin may be added. -/
theorem report_all (holds : Sourced origin before) {findings : List Finding}
    (isFrom : ∀ finding ∈ findings, finding.From origin) :
    Sourced origin { before with findings := before.findings ++ findings } :=
  ⟨holds.items, holds.globals, holds.locals, holds.refs, holds.decls, holds.forms, holds.exprs,
    holds.known, holds.structs, holds.enums, List.forall_mem_append.mpr ⟨holds.findings, isFrom⟩⟩

/-- A fresh session keeps nothing but its unit. -/
theorem start {unit : Module} (itemsFrom : ∀ item ∈ unit.items, item.From origin)
    (options : Options) : Sourced origin (.start (some unit) options) :=
  ⟨itemsFrom, List.forall_mem_nil _, List.forall_mem_nil _, List.forall_mem_nil _,
    List.forall_mem_nil _, List.forall_mem_nil _, List.forall_mem_nil _, List.forall_mem_nil _,
    List.forall_mem_nil _, List.forall_mem_nil _, List.forall_mem_nil _⟩

end Sourced

/-- Every walk keeps to the origin of the unit. -/
theorem sourced_after_walk (pass : Pass) {session : Session} (holds : Sourced origin session) :
    Sourced origin (session.after pass.walk) := by
  cases pass with
  | declare => exact Trace.holds (Declare.sourced_walk session holds) holds
  | scope => exact Trace.holds (Resolve.sourced_walk session holds) holds
  | typeCheck => exact Typing.sourced_walk holds
  | attributes =>
    rw [after_attributes]
    exact holds.report_all (List.forall_mem_flatMap.mpr fun item isItem =>
      Attributes.from_itemFindings (holds.items item isItem))
  | lint =>
    rw [after_lint]
    exact holds.report_all (Lint.from_findings holds.items)

/-- Everything that a check finds out about a unit comes from its tree. -/
theorem sourced_check {unit : Module} (itemsFrom : ∀ item ∈ unit.items, item.From origin)
    (options : Options) : Sourced origin (.check (some unit) options) := by
  obtain ⟨first, second, third, fourth, fifth, last, -⟩ := check_walks (some unit) options
  have declare := (Sourced.start itemsFrom options).of_alike first
  have scope := (sourced_after_walk .declare declare).of_alike second
  have typeCheck := (sourced_after_walk .scope scope).of_alike third
  have attributes := (sourced_after_walk .typeCheck typeCheck).of_alike fourth
  have lint := (sourced_after_walk .attributes attributes).of_alike fifth
  exact (sourced_after_walk .lint lint).of_alike last

/-! ### Labels point into the text -/

/-- A check leaves its unit alone. -/
theorem unit_check (unit : Option Module) (options : Options) :
    (Session.check unit options).unit = unit := by
  have after (pass : Pass) (session : Session) : (session.after pass.walk).unit = session.unit := by
    obtain ⟨_, trace⟩ := trace_walk pass session
    exact trace.unit
  have alike {one other : Session} (alike : one.Alike other) : other.unit = one.unit := by
    rw [alike.same]
  obtain ⟨-, -, -, -, -, last, -⟩ := check_walks unit options
  exact (alike last).trans ((after .lint _).trans (ahead_keeps alike after unit options .lint))

/-- A label of a finding from the origin is at one of its places. -/
theorem Finding.From.label {finding : Finding} (isFrom : finding.From origin) {file : String}
    {label : Label} (isLabel : label ∈ (finding.diagnostic file).labels) :
    ∃ span, origin.span span ∧ label.location = some (span.inFile file) := by
  have isLocation : label.location ∈ (finding.diagnostic file).labels.map (·.location) :=
    List.mem_map_of_mem isLabel
  rw [Finding.locations_diagnostic] at isLocation
  obtain ⟨span, isSpan, same⟩ := List.mem_map.mp isLocation
  exact ⟨span, isFrom span isSpan, same.symm⟩

/-- The labels of a session that keeps to its origin are at places of the origin. -/
theorem Sourced.label {session : Session} (holds : Sourced origin session) :
    ∀ diagnostic ∈ session.bag.diagnostics, ∀ label ∈ diagnostic.labels,
      ∃ span, origin.span span ∧ label.location = some (span.inFile session.file) := by
  intro diagnostic isDiagnostic label isLabel
  obtain ⟨finding, isFinding, rfl⟩ := List.mem_map.mp isDiagnostic
  exact (holds.findings finding isFinding).label isLabel

/-- Every label of every diagnostic of a decoded unit, the primary one and the others, has
a location, and this is exactly the span of a datum of the text. -/
theorem labels_at_data {file text : String} {unit : Module}
    (read : Module.decode file text = .ok unit) (options : Options) :
    ∀ diagnostic ∈ (Session.check (some unit) options).bag.diagnostics,
      ∀ label ∈ diagnostic.labels,
        ∃ span, SpanOfDatum text span ∧ label.location = some (span.inFile file) := by
  have sameFile : (Session.check (some unit) options).file = file := by
    unfold Session.file
    rw [unit_check]
    exact file_of_decode read
  have labelled := (sourced_check (Module.from_decode read) options).label
  rwa [sameFile] at labelled

/-- A unit with a function that has two parameters of one name. -/
def twoParamsUnit : Module :=
  ⟨"unit", [.function ⟨[], some ⟨"f", .ofLine 4 5⟩,
    [⟨⟨"a", .ofLine 8 9⟩, .named "s32" (.ofLine 10 13), false, .ofLine 7 14⟩,
      ⟨⟨"a", .ofLine 16 17⟩, .named "s32" (.ofLine 18 21), false, .ofLine 15 22⟩],
    some (.named "void" (.ofLine 24 28)), some ⟨[], .ofLine 29 36⟩, .ofLine 0 37⟩],
    some (.ofLine 0 37)⟩

/-- The parameter that repeats a name and the one that has it are both labelled. -/
theorem labels_at_data_params :
    Module.decode "unit" "(fn f ((a s32) (a s32)) void (block))" = .ok twoParamsUnit ∧
      ∃ diagnostic ∈ (Session.check (some twoParamsUnit) .standard).bag.diagnostics,
        diagnostic.labels.map (·.style) = [.primary, .secondary] ∧
          ∀ label ∈ diagnostic.labels,
            ∃ span, SpanOfDatum "(fn f ((a s32) (a s32)) void (block))" span ∧
              label.location = some (span.inFile "unit") := by
  have read : Module.decode "unit" "(fn f ((a s32) (a s32)) void (block))" =
      .ok twoParamsUnit := Module.decode_chars (by cbv)
  have reported : ∃ diagnostic ∈ (Session.check (some twoParamsUnit) .standard).bag.diagnostics,
      diagnostic.labels.map (·.style) = [.primary, .secondary] := by
    decide +kernel
  obtain ⟨diagnostic, isDiagnostic, styles⟩ := reported
  exact ⟨read, diagnostic, isDiagnostic, styles,
    labels_at_data read .standard diagnostic isDiagnostic⟩

end UnitCheck
