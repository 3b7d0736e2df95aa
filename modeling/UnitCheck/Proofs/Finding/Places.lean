import UnitCheck.Finding.Wording
import UnitCheck.Proofs.Tree.Origin

/-!
# The places of findings

A finding is about places, and its diagnostic labels exactly these: the first one is the
primary label, the others follow in order. No label is without a place. The stamp of a
finding is what it keeps without them: how severe it is, and its code.
-/

namespace UnitCheck.Finding

/-- The places that a finding is about, in the order of its labels. -/
def spans : Finding -> List Span
  | .intrinsicTwice _ | .scopesLeftOpen _ | .passTooEarly _ _ | .passRefused _ => []
  | .malformed span _ | .invalidEnumBase span _ | .recursiveStruct span _ _ _
  | .scopeUnderflow span | .mismatch span _ _ | .literalOverflow span _ _ | .notNumber span _
  | .operandMismatch span _ _ _ _ | .invalidOperand span _ _ _ | .pointerOrder span _
  | .unordered span _ | .negatedUnsigned span _ | .selfReference span | .emptyArray span
  | .valueNotCallable span _ | .argumentCount span _ _ _ | .argumentOrder span _ _
  | .unknownVariant span _ _ _ | .fieldAccess span _ | .indexNotInteger span _
  | .notIndexable span _ | .indexOutOfBounds span _ _ _ | .invalidCast span _ _
  | .voidBinding span _ | .missingInitializer span _ | .conditionNotBool span _
  | .missingReturnValue span _ | .unexpectedReturnValue span | .returnMismatch span _ _
  | .notAddressable span | .notAssignable span | .constTarget span | .loadOperand span _
  | .writeOperand span _ | .missingBody _ span | .returnOutsideFunction span
  | .breakOutsideLoop span | .continueOutsideLoop span | .duplicateTerminator span _
  | .unreachable span _ | .lowLevelOutside span _ => [span]
  | .unknownType name | .cyclicAlias name | .undeclared name | .typeAsValue name _
  | .localOutsideScope name | .notCallable name _ => [name.span]
  | .duplicateEntrypoint span other | .addressOfAddress span other
  | .externalWithBody _ span other => [span, other]
  | .redeclared span previous _ => span :: previous.toList
  | .duplicateParameter name previous | .duplicateLocal name previous =>
    name.span :: previous.toList
  | .constantTarget span symbol | .immutableTarget span symbol => span :: symbol.site.toList
  | .unknownAttribute subject _ | .misusedAttribute subject _ _
  | .missingAttributeValue subject _ => [subject.span]
  | .duplicateAttribute subject first => [subject.span, first]
  | .unexpectedAttributeValue _ payload | .invalidAttributeValue _ payload _ => [payload.span]
  | .conflictingAttributes first second => [second.span, first.span]
  | .missingReturn span _ _ branches => span :: branches.map Prod.snd

theorem locations_explain? (file : String) (place : Option Span) (message : String) :
    (explain? file place message).map (·.location) =
      place.toList.map fun span => some (span.inFile file) := by
  cases place <;> rfl

/-- The labels of a finding are at its places. -/
theorem locations_diagnostic (finding : Finding) (file : String) :
    (finding.diagnostic file).labels.map (·.location) =
      finding.spans.map fun span => some (span.inFile file) := by
  cases finding with
  | fieldAccess span problem =>
    simp only [diagnostic, fieldAccessDiagnostic]
    split <;> rfl
  | missingInitializer span what => cases what <;> rfl
  | redeclared | duplicateParameter | duplicateLocal | constantTarget | immutableTarget =>
    simp only [diagnostic, error, List.map_cons, locations_explain?, spans]
    rfl
  | missingReturn span name result branches =>
    simp only [diagnostic, error, List.map_cons, List.map_map, spans]
    rfl
  | _ => rfl

/-- The finding is about places of the origin. -/
def From (origin : Origin) (finding : Finding) : Prop := ∀ span ∈ finding.spans, origin.span span

theorem from_place {origin : Origin} {finding : Finding} {span : Span} (isPlace : origin.span span)
    (about : finding.spans = [span]) : finding.From origin := by
  unfold From
  rw [about]
  exact List.forall_mem_singleton.mpr isPlace

/-- How severe a finding is, and its code. -/
def stamp (finding : Finding) : Severity × String := (finding.severity, finding.code)

/-- A diagnostic bears the code of its finding. -/
theorem code_diagnostic (finding : Finding) (file : String) :
    (finding.diagnostic file).code = finding.code := by
  unfold code
  cases finding with
  | fieldAccess span problem =>
    simp only [diagnostic, fieldAccessDiagnostic]
    split <;> rfl
  | missingInitializer span what => cases what <;> rfl
  | _ => rfl

/-- The stamps of findings, in order. -/
def stamps (findings : List Finding) : List (Severity × String) :=
  findings.map stamp

@[simp] theorem stamps_nil : stamps [] = [] := rfl

@[simp] theorem stamps_cons (finding : Finding) (rest : List Finding) :
    stamps (finding :: rest) = finding.stamp :: stamps rest := rfl

@[simp] theorem stamps_append (first second : List Finding) :
    stamps (first ++ second) = stamps first ++ stamps second :=
  List.map_append

theorem stamps_flatMap {α : Type} (values : List α) (found : α -> List Finding) :
    stamps (values.flatMap found) = values.flatMap fun value => stamps (found value) :=
  List.map_flatMap

end UnitCheck.Finding
