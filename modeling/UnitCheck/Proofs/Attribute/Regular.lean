import Mathlib.Data.List.Nodup
import Mathlib.Data.List.Perm.Basic
import UnitCheck.Attribute.Check
import UnitCheck.Finding.Wording

/-!
# Regular declarations

A declaration is regular when each of its attributes obeys the rule of its name, no two of
them repeat or exclude each other, and a function has a body unless it is external. Nothing
is said about a declaration exactly when it is regular. What is said does not depend on the
order of its attributes, as long as these have different names.
-/

namespace UnitCheck.Attributes

/-- A declaration: its kind, its attributes, where it stands, and the function that it
declares, if it declares one. -/
structure Declaration where
  kind : DeclKind
  attributes : List Attribute
  span : Span
  function : Option FunctionDecl

/-- The declaration with other attributes. -/
def Declaration.bearing (declaration : Declaration) (attributes : List Attribute) :
    Declaration :=
  { declaration with attributes := attributes }

section Bearing

variable (declaration : Declaration) (attributes : List Attribute)

@[simp] theorem Declaration.bearing_kind :
    (declaration.bearing attributes).kind = declaration.kind := rfl

@[simp] theorem Declaration.bearing_attributes :
    (declaration.bearing attributes).attributes = attributes := rfl

@[simp] theorem Declaration.bearing_function :
    (declaration.bearing attributes).function = declaration.function := rfl

end Bearing

/-- Everything to be said about the attributes of a declaration. -/
def Declaration.findings (declaration : Declaration) : List Finding :=
  declFindings declaration.kind declaration.attributes declaration.function

/-- The names of attributes. -/
def names (attributes : List Attribute) : List String := attributes.map (·.name)

/-- What the rule wants of the value of an attribute: none, or one of its texts. -/
def Rule.Takes (rule : Rule) (payload : Option Literal) : Prop :=
  match rule.choices with
  | none => payload = none
  | some choices => ∃ value, payload = some value ∧ value.kind = .string ∧ value.text ∈ choices

/-- The attribute has a rule, may decorate declarations of the kind and has a value that the
rule takes. -/
def Obeys (kind : DeclKind) (subject : Attribute) : Prop :=
  ∃ rule ∈ rules, rule.name = subject.name ∧ kind ∈ rule.allowed ∧ rule.Takes subject.payload

/-- Declarations that the rules allow. -/
structure Declaration.Regular (declaration : Declaration) : Prop where
  obey : ∀ subject ∈ declaration.attributes, Obeys declaration.kind subject
  distinct : (names declaration.attributes).Nodup
  compatible : ∀ pair ∈ conflicts,
    ¬ (pair.1 ∈ names declaration.attributes ∧ pair.2 ∈ names declaration.attributes)
  body : ∀ decl ∈ declaration.function,
    decl.body.isSome ↔ "extern" ∉ names declaration.attributes

/-! ### Rules -/

/-- There is one rule for each name. -/
theorem rule?_eq_some_iff {name : String} {rule : Rule} :
    rule? name = some rule ↔ rule ∈ rules ∧ rule.name = name := by
  have distinct : (rules.map (·.name)).Nodup := by decide
  constructor
  · intro found
    exact ⟨List.mem_of_find?_eq_some found, by simpa using List.find?_some found⟩
  · rintro ⟨isRule, rfl⟩
    have isFound : (rule? rule.name).isSome :=
      List.find?_isSome.mpr ⟨rule, isRule, decide_eq_true rfl⟩
    obtain ⟨other, found⟩ := Option.isSome_iff_exists.mp isFound
    have same : other.name = rule.name := by simpa using List.find?_some found
    rw [found, List.inj_on_of_nodup_map distinct (List.mem_of_find?_eq_some found) isRule same]

/-- Nothing is said about a value that the rule takes. -/
theorem payload?_eq_none_iff {rule : Rule} {subject : Attribute} :
    payload? rule subject = none ↔ rule.Takes subject.payload := by
  unfold payload? Rule.Takes
  cases rule.choices <;> cases subject.payload <;> simp

section Seen

variable {kind : DeclKind} {seen : List Attribute} {subject : Attribute}

theorem find?_name_isSome {name : String} :
    (seen.find? (·.name = name)).isSome ↔ name ∈ names seen := by
  rw [List.find?_isSome, names, List.mem_map]
  simp only [decide_eq_true_eq]

theorem find?_name_eq_none {name : String} :
    seen.find? (·.name = name) = none ↔ name ∉ names seen := by
  rw [← find?_name_isSome, Option.not_isSome_iff_eq_none]

/-! ### Attributes one by one -/

/-- An attribute with a new name is judged by itself. -/
theorem judge_of_fresh (kind : DeclKind) (fresh : subject.name ∉ names seen) :
    judge kind seen subject = judge kind [] subject := by
  unfold judge
  rw [find?_name_eq_none.mpr fresh]
  rfl

/-- Nothing is said about an attribute that obeys its rule and has a new name. -/
theorem judge_eq_none_iff :
    (judge kind seen subject).1 = none ↔ Obeys kind subject ∧ subject.name ∉ names seen := by
  cases found : rule? subject.name with
  | none =>
    have lawless : ¬ Obeys kind subject := by
      rintro ⟨rule, isRule, isName, -⟩
      rw [rule?_eq_some_iff.mpr ⟨isRule, isName⟩] at found
      cases found
    simp [judge, found, lawless]
  | some rule =>
    have obeys : Obeys kind subject ↔ kind ∈ rule.allowed ∧ payload? rule subject = none := by
      rw [payload?_eq_none_iff]
      refine ⟨?_, fun lawful => ?_⟩
      · rintro ⟨other, isRule, isName, lawful⟩
        rw [rule?_eq_some_iff.mpr ⟨isRule, isName⟩] at found
        cases found
        exact lawful
      · obtain ⟨isRule, isName⟩ := rule?_eq_some_iff.mp found
        exact ⟨rule, isRule, isName, lawful⟩
    rw [obeys, ← find?_name_eq_none]
    simp only [judge, found]
    cases seen.find? (·.name = subject.name) with
    | some first => simp
    | none => by_cases allowed : kind ∈ rule.allowed <;> simp [allowed]

/-- An attribute counts from then on when it has a rule and a new name. -/
theorem judge_snd_eq_true_iff :
    (judge kind seen subject).2 = true ↔
      (rule? subject.name).isSome ∧ subject.name ∉ names seen := by
  unfold judge
  cases rule? subject.name with
  | none => simp
  | some rule =>
    rw [← find?_name_eq_none]
    cases seen.find? (·.name = subject.name) with
    | some first => simp
    | none => by_cases allowed : kind ∈ rule.allowed <;> simp [allowed]

/-! ### All attributes of a declaration -/

/-- The attributes that count behind one more. -/
def counted (kind : DeclKind) (seen : List Attribute) (subject : Attribute) : List Attribute :=
  if (judge kind seen subject).2 then subject :: seen else seen

theorem mem_names_counted {name : String} :
    name ∈ names (counted kind seen subject) ↔
      name ∈ names seen ∨ (rule? name).isSome ∧ name = subject.name := by
  unfold counted
  by_cases isNew : (judge kind seen subject).2 = true
  · obtain ⟨hasRule, -⟩ := judge_snd_eq_true_iff.mp isNew
    rw [if_pos isNew, names, List.map_cons, List.mem_cons, ← names, or_comm]
    refine or_congr_right ⟨?_, And.right⟩
    rintro rfl
    exact ⟨hasRule, rfl⟩
  · rw [if_neg isNew]
    refine ⟨Or.inl, ?_⟩
    rintro (old | ⟨hasRule, rfl⟩)
    · exact old
    · by_contra fresh
      exact isNew (judge_snd_eq_true_iff.mpr ⟨hasRule, fresh⟩)

theorem judgeAll_cons (kind : DeclKind) (seen : List Attribute) (subject : Attribute)
    (rest : List Attribute) :
    judgeAll kind seen (subject :: rest) =
      ((judge kind seen subject).1.toList ++ (judgeAll kind (counted kind seen subject) rest).1,
        (judgeAll kind (counted kind seen subject) rest).2) := rfl

theorem names_cons (subject : Attribute) (rest : List Attribute) :
    names (subject :: rest) = subject.name :: names rest := rfl

/-- What counts in the end are the names with rules that have come up. -/
theorem mem_names_judgeAll {name : String} (attributes : List Attribute) :
    name ∈ names (judgeAll kind seen attributes).2 ↔
      name ∈ names seen ∨ (rule? name).isSome ∧ name ∈ names attributes := by
  induction attributes generalizing seen with
  | nil => simp [judgeAll, names]
  | cons subject rest inductionHypothesis =>
    rw [judgeAll_cons, inductionHypothesis, mem_names_counted, names_cons, List.mem_cons]
    tauto

/-- Nothing is said about attributes one by one when they obey their rules and their names
are new. -/
theorem judgeAll_eq_nil_iff (attributes : List Attribute) :
    (judgeAll kind seen attributes).1 = [] ↔
      (∀ subject ∈ attributes, Obeys kind subject) ∧ (names attributes).Nodup ∧
        ∀ name ∈ names attributes, name ∉ names seen := by
  induction attributes generalizing seen with
  | nil => simp [judgeAll, names]
  | cons subject rest inductionHypothesis =>
    rw [judgeAll_cons, List.append_eq_nil_iff, inductionHypothesis, Option.toList_eq_nil_iff,
      judge_eq_none_iff, List.forall_mem_cons, names_cons, List.nodup_cons, List.forall_mem_cons]
    constructor
    · rintro ⟨⟨obeys, isNew⟩, restObey, distinct, fresh⟩
      have hasRule : (rule? subject.name).isSome := by
        obtain ⟨rule, isRule, isName, -⟩ := obeys
        rw [rule?_eq_some_iff.mpr ⟨isRule, isName⟩]
        rfl
      have apart {name : String} (isLater : name ∈ names rest) :
          ¬ (name ∈ names seen ∨ (rule? name).isSome ∧ name = subject.name) :=
        fun old => fresh name isLater (mem_names_counted.mpr old)
      exact ⟨⟨obeys, restObey⟩,
        ⟨fun isLater => apart isLater (.inr ⟨hasRule, rfl⟩), distinct⟩, isNew,
        fun name isLater old => apart isLater (.inl old)⟩
    · rintro ⟨⟨obeys, restObey⟩, ⟨notLater, distinct⟩, isNew, fresh⟩
      refine ⟨⟨obeys, isNew⟩, restObey, distinct, fun name isLater old => ?_⟩
      obtain old | ⟨-, rfl⟩ := mem_names_counted.mp old
      · exact fresh name isLater old
      · exact notLater isLater

/-- Attributes with different new names are judged each by itself. -/
theorem judgeAll_of_distinct (kind : DeclKind) (attributes : List Attribute)
    (distinct : (names attributes).Nodup) (fresh : ∀ name ∈ names attributes, name ∉ names seen) :
    (judgeAll kind seen attributes).1 =
      attributes.flatMap fun subject => (judge kind [] subject).1.toList := by
  induction attributes generalizing seen with
  | nil => rfl
  | cons subject rest inductionHypothesis =>
    rw [names_cons] at distinct fresh
    obtain ⟨notLater, distinctRest⟩ := List.nodup_cons.mp distinct
    obtain ⟨isNew, freshRest⟩ := List.forall_mem_cons.mp fresh
    rw [judgeAll_cons, List.flatMap_cons, judge_of_fresh kind isNew,
      inductionHypothesis distinctRest fun name isLater old => ?_]
    obtain old | ⟨-, rfl⟩ := mem_names_counted.mp old
    · exact freshRest name isLater old
    · exact notLater isLater

/-! ### What the attributes come to together -/

/-- Two attributes are reported when both names of a pair count. -/
theorem code_conflict? (seen : List Attribute) (pair : String × String) :
    (conflict? seen pair).map Finding.code =
      if pair.1 ∈ names seen ∧ pair.2 ∈ names seen then some "A0005" else none := by
  simp only [← find?_name_isSome]
  unfold conflict?
  cases seen.find? (·.name = pair.1) with
  | none => rfl
  | some left =>
    cases seen.find? (·.name = pair.2) with
    | none => rfl
    | some right =>
      simp only
      split <;> rfl

/-- A function is reported when it has a body just as `extern` counts. -/
theorem code_bodyProblem? (seen : List Attribute) (decl : FunctionDecl) :
    (bodyProblem? seen decl).map Finding.code =
      if "extern" ∈ names seen then decl.body.map fun _ => "A0007"
      else if decl.body.isSome then none else some "A0008" := by
  simp only [← find?_name_isSome]
  unfold bodyProblem?
  cases seen.find? (·.name = "extern") <;> cases decl.body <;> rfl

end Seen

theorem conflict?_eq_none_iff {seen : List Attribute} {pair : String × String} :
    conflict? seen pair = none ↔ ¬ (pair.1 ∈ names seen ∧ pair.2 ∈ names seen) := by
  rw [← Option.map_eq_none_iff, code_conflict?]
  split <;> simp [*]

theorem bodyProblem?_eq_none_iff {seen : List Attribute} {decl : FunctionDecl} :
    bodyProblem? seen decl = none ↔ (decl.body.isSome ↔ "extern" ∉ names seen) := by
  rw [← Option.map_eq_none_iff, code_bodyProblem?]
  cases decl.body <;> simp

/-- What is said about attributes together has the same codes where the same names count. -/
theorem codes_together {one other : List Attribute}
    (same : ∀ name, name ∈ names one ↔ name ∈ names other) (function : Option FunctionDecl) :
    (conflicts.filterMap (conflict? one)).map Finding.code =
        (conflicts.filterMap (conflict? other)).map Finding.code ∧
      (function.bind (bodyProblem? one)).toList.map Finding.code =
        (function.bind (bodyProblem? other)).toList.map Finding.code := by
  constructor
  · rw [List.map_filterMap, List.map_filterMap]
    refine List.filterMap_congr fun pair _ => ?_
    rw [code_conflict?, code_conflict?]
    simp only [same]
  · cases function with
    | none => rfl
    | some decl =>
      have codes : (bodyProblem? one decl).map Finding.code =
          (bodyProblem? other decl).map Finding.code := by
        rw [code_bodyProblem?, code_bodyProblem?]
        simp only [same]
      rw [Option.bind_some, Option.bind_some, ← Option.toList_map, ← Option.toList_map, codes]

/-- The attributes of a declaration that count in the end. -/
def Declaration.counting (declaration : Declaration) : List Attribute :=
  (judgeAll declaration.kind [] declaration.attributes).2

/-- What is said about a declaration is said about its attributes one by one, about those
that exclude each other, and about its body. -/
theorem Declaration.findings_eq (declaration : Declaration) :
    declaration.findings =
      (judgeAll declaration.kind [] declaration.attributes).1 ++
        conflicts.filterMap (conflict? declaration.counting) ++
        (declaration.function.bind (bodyProblem? declaration.counting)).toList := rfl

theorem Declaration.mem_counting {declaration : Declaration} {name : String} :
    name ∈ names declaration.counting ↔
      (rule? name).isSome ∧ name ∈ names declaration.attributes := by
  rw [counting, mem_names_judgeAll]
  simp [names]

/-- Nothing is said about a declaration exactly when it is regular. -/
theorem Declaration.findings_eq_nil_iff (declaration : Declaration) :
    declaration.findings = [] ↔ declaration.Regular := by
  have ruled : ∀ pair ∈ conflicts, (rule? pair.1).isSome ∧ (rule? pair.2).isSome := by decide
  have ruledExtern : (rule? "extern").isSome := by decide
  have oneByOne : (judgeAll declaration.kind [] declaration.attributes).1 = [] ↔
      (∀ subject ∈ declaration.attributes, Obeys declaration.kind subject) ∧
        (names declaration.attributes).Nodup := by
    rw [judgeAll_eq_nil_iff]
    simp [names]
  have inPairs : conflicts.filterMap (conflict? declaration.counting) = [] ↔
      ∀ pair ∈ conflicts, ¬ (pair.1 ∈ names declaration.attributes ∧
        pair.2 ∈ names declaration.attributes) := by
    rw [List.filterMap_eq_nil_iff]
    refine forall₂_congr fun pair isPair => ?_
    obtain ⟨first, second⟩ := ruled pair isPair
    rw [conflict?_eq_none_iff, mem_counting, mem_counting]
    simp [first, second]
  have ofBody : (declaration.function.bind (bodyProblem? declaration.counting)).toList = [] ↔
      ∀ decl ∈ declaration.function,
        (decl.body.isSome ↔ "extern" ∉ names declaration.attributes) := by
    rw [Option.toList_eq_nil_iff, Option.bind_eq_none_iff]
    refine forall₂_congr fun decl isFunction => ?_
    rw [bodyProblem?_eq_none_iff, mem_counting]
    simp [ruledExtern]
  rw [findings_eq, List.append_eq_nil_iff, List.append_eq_nil_iff, oneByOne, inPairs, ofBody]
  constructor
  · rintro ⟨⟨⟨obey, distinct⟩, compatible⟩, body⟩
    exact ⟨obey, distinct, compatible, body⟩
  · rintro ⟨obey, distinct, compatible, body⟩
    exact ⟨⟨⟨obey, distinct⟩, compatible⟩, body⟩

/-- Attributes with different names may change places without another code being reported. -/
theorem Declaration.codes_of_perm {declaration : Declaration}
    (distinct : (names declaration.attributes).Nodup) {permuted : List Attribute}
    (perm : permuted.Perm declaration.attributes) :
    ((declaration.bearing permuted).findings.map Finding.code).Perm
      (declaration.findings.map Finding.code) := by
  have permNames : (names permuted).Perm (names declaration.attributes) := perm.map _
  have same (name : String) :
      name ∈ names (declaration.bearing permuted).counting ↔ name ∈ names declaration.counting := by
    rw [mem_counting, mem_counting]
    exact and_congr_right fun _ => permNames.mem_iff
  have fresh (attributes : List Attribute) : ∀ name ∈ names attributes, name ∉ names [] :=
    fun _ _ => List.not_mem_nil
  obtain ⟨inPairs, ofBody⟩ := codes_together same declaration.function
  rw [findings_eq, findings_eq]
  simp only [List.map_append, bearing_kind, bearing_attributes, bearing_function, inPairs, ofBody]
  refine List.Perm.append_right _ (List.Perm.append_right _ (List.Perm.map _ ?_))
  rw [judgeAll_of_distinct _ _ distinct (fresh _),
    judgeAll_of_distinct _ _ (permNames.nodup_iff.mpr distinct) (fresh _)]
  exact perm.flatMap_right _

/-- Nothing is said about a declaration exactly when it is regular, and attributes with
different names may change places without another code being reported. -/
theorem declarations_judged (declaration : Declaration) :
    (declaration.findings = [] ↔ declaration.Regular) ∧
    ((names declaration.attributes).Nodup → ∀ permuted, permuted.Perm declaration.attributes →
      ((declaration.bearing permuted).findings.map Finding.code).Perm
        (declaration.findings.map Finding.code)) :=
  ⟨declaration.findings_eq_nil_iff,
    fun distinct _ perm => Declaration.codes_of_perm distinct perm⟩

/-- An external function with a body and with attributes that exclude each other, one of
which has a value that it does not take. -/
def crowdedDeclaration : Declaration where
  kind := .function
  attributes := [
    ⟨"noinline", none, ⟨⟨1, 5, 4⟩, ⟨1, 14, 13⟩⟩⟩,
    ⟨"inline", some ⟨.string, "often", ⟨⟨1, 24, 23⟩, ⟨1, 31, 30⟩⟩⟩, ⟨⟨1, 15, 14⟩, ⟨1, 32, 31⟩⟩⟩,
    ⟨"extern", none, ⟨⟨1, 33, 32⟩, ⟨1, 40, 39⟩⟩⟩]
  span := ⟨⟨1, 1, 0⟩, ⟨1, 59, 58⟩⟩
  function := some ⟨[], some ⟨"f", ⟨⟨1, 41, 40⟩, ⟨1, 42, 41⟩⟩⟩, [], none,
    some ⟨[], ⟨⟨1, 51, 50⟩, ⟨1, 58, 57⟩⟩⟩, ⟨⟨1, 1, 0⟩, ⟨1, 59, 58⟩⟩⟩

/-- The three codes due for it are due with its attributes in the opposite order. -/
theorem declarations_judged_reversed :
    crowdedDeclaration.findings.map Finding.code = ["A0003", "A0005", "A0007"] ∧
      (names crowdedDeclaration.attributes).Nodup ∧
      ((crowdedDeclaration.bearing crowdedDeclaration.attributes.reverse).findings.map
        Finding.code).Perm (crowdedDeclaration.findings.map Finding.code) :=
  ⟨by decide +kernel, by decide,
    (declarations_judged crowdedDeclaration).2 (by decide) _ (List.reverse_perm _)⟩

end UnitCheck.Attributes
