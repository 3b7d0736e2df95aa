import Mathlib.Data.List.Forall2
import UnitCheck.Scenario.Basic

/-!
# Documents and their scenarios

A document is what stands in front of its first scenario heading and one section for each such
heading. Scenarios are collected with a draft of the one being read; here the outcome is tied to
the sections themselves (`collectFrom_none_iff`): a section gives a scenario if its blocks are
known and fill it, where a block that leaves nothing behind makes room for another of its kind.
-/

namespace UnitCheck.Scenario

/-! ### Sections -/

/-- A scenario's heading and what stands between it and the next one. -/
structure Section where
  name : String
  /-- The line of the heading. -/
  line : Nat
  body : List Part

/-- The name and the line of a heading that starts a scenario. -/
def Part.opens? : Part -> Option (String × Nat)
  | .heading title line => (nameOf? title).map (·, line)
  | .fence _ _ _ => none

/-- What stands in front of the first scenario heading, and the sections. -/
def sections : List Part -> List Part × List Section
  | [] => ([], [])
  | part :: rest =>
    match part.opens? with
    | some (name, line) => ([], ⟨name, line, (sections rest).1⟩ :: (sections rest).2)
    | none => (part :: (sections rest).1, (sections rest).2)

/-- The content of a block of this kind. -/
def Part.content? (kind : FenceKind) : Part -> Option String
  | .heading _ _ => none
  | .fence language content _ => if language = kind.text then some content else none

/-- The contents of the blocks of a kind, in order. -/
def contents (kind : FenceKind) (parts : List Part) : List String :=
  parts.filterMap (·.content? kind)

/-- The part is no block that names a language. -/
def Part.Unlabelled : Part -> Prop
  | .heading _ _ => True
  | .fence language _ _ => language = ""

/-- The part is no block that names a language of no kind. -/
def Part.Known : Part -> Prop
  | .heading _ _ => True
  | .fence language _ _ => language = "" ∨ ∃ kind : FenceKind, language = kind.text

/-! ### Slots -/

/-- The contents are put in one place, one after the other. The place has to be empty for each of
them, and holds in the end what the last of them leaves there. -/
inductive Fills {α : Type} (empty : α) (put : String -> α) : α -> List String -> α -> Prop where
  | done (held : α) : Fills empty put held [] held
  | put {held last : α} {content : String} {rest : List String} (isEmpty : held = empty)
      (later : Fills empty put (put content) rest last) : Fills empty put held (content :: rest) last

section Slots

variable {α : Type} {empty held last : α} {put : String -> α} {contents : List String}

theorem fills_nil_iff : Fills empty put held [] last ↔ last = held := by
  constructor
  · rintro ⟨⟩
    rfl
  · rintro rfl
    exact .done _

theorem fills_cons_iff {content : String} : Fills empty put held (content :: contents) last ↔
    held = empty ∧ Fills empty put (put content) contents last := by
  constructor
  · rintro (_ | ⟨isEmpty, later⟩)
    exact ⟨isEmpty, later⟩
  · exact fun ⟨isEmpty, later⟩ => .put isEmpty later

/-- All contents but the last one leave the place empty. -/
theorem fills_iff : Fills empty put empty contents last ↔
    (contents = [] ∧ last = empty) ∨ ∃ blank content, contents = blank ++ [content] ∧
      (∀ other ∈ blank, put other = empty) ∧ last = put content := by
  induction contents with
  | nil => simp [fills_nil_iff]
  | cons content rest inductionHypothesis =>
    rw [fills_cons_iff]
    constructor
    · rintro ⟨-, later⟩
      refine .inr ?_
      cases rest with
      | nil => exact ⟨[], content, rfl, by simp, fills_nil_iff.mp later⟩
      | cons next rest =>
        have isEmpty := (fills_cons_iff.mp later).1
        rw [isEmpty, inductionHypothesis] at later
        obtain ⟨impossible, -⟩ | ⟨blank, final, split, allEmpty, same⟩ := later
        · cases impossible
        · exact ⟨content :: blank, final, congrArg (content :: ·) split,
            List.forall_mem_cons.mpr ⟨isEmpty, allEmpty⟩, same⟩
    · rintro (⟨impossible, -⟩ | ⟨blank, final, split, allEmpty, same⟩)
      · cases impossible
      · refine ⟨rfl, ?_⟩
        cases blank with
        | nil =>
          cases split
          exact fills_nil_iff.mpr same
        | cons other blank =>
          obtain ⟨rfl, rfl⟩ := List.cons.inj split
          obtain ⟨isEmpty, allEmpty⟩ := List.forall_mem_cons.mp allEmpty
          rw [isEmpty]
          exact inductionHypothesis.mpr (.inr ⟨blank, final, rfl, allEmpty, same⟩)

end Slots

/-! ### Languages -/

theorem text_injective {kind other : FenceKind} (same : kind.text = other.text) : kind = other := by
  cases kind <;> cases other <;> first | rfl | simp [FenceKind.text] at same

theorem ofText?_eq_some_iff {language : String} {kind : FenceKind} :
    FenceKind.ofText? language = some kind ↔ language = kind.text := by
  constructor
  · intro found
    have same := List.find?_some found
    exact (of_decide_eq_true same).symm
  · rintro rfl
    cases kind <;> rfl

theorem ofText?_eq_none_iff {language : String} :
    FenceKind.ofText? language = none ↔ ∀ kind : FenceKind, language ≠ kind.text := by
  rw [Option.eq_none_iff_forall_ne_some]
  exact forall_congr' fun kind => not_congr ofText?_eq_some_iff

theorem text_ne_empty (kind : FenceKind) : kind.text ≠ "" := by
  cases kind <;> simp [FenceKind.text]

/-! ### Drafts -/

namespace Draft

variable {draft filled next : Draft} {body : List Part}

/-- The blocks of the body are known, and filled into the draft they make the other one. -/
@[mk_iff]
structure Fits (draft : Draft) (body : List Part) (filled : Draft) : Prop where
  known : ∀ part ∈ body, part.Known
  name : filled.name = draft.name
  line : filled.line = draft.line
  unit : Fills "" dropFinalFeeds draft.input (contents .unit body) filled.input
  codes : Fills none (some ∘ codes) draft.expect (contents .codes body) filled.expect
  options : Fills "" id draft.config (contents .options body) filled.config

theorem fits_nil_iff : draft.Fits [] filled ↔ filled = draft := by
  constructor
  · rintro ⟨-, name, line, unit, codes, options⟩
    obtain ⟨_, _, _, _, _⟩ := filled
    cases name
    cases line
    cases fills_nil_iff.mp unit
    cases fills_nil_iff.mp codes
    cases fills_nil_iff.mp options
    rfl
  · rintro rfl
    exact ⟨by simp, rfl, rfl, .done _, .done _, .done _⟩

/-- A part without content is passed over. -/
theorem fits_skip {part : Part} (known : part.Known) (empty : ∀ kind, part.content? kind = none) :
    draft.Fits (part :: body) filled ↔ draft.Fits body filled := by
  have same (kind : FenceKind) : contents kind (part :: body) = contents kind body :=
    List.filterMap_cons_none (empty kind)
  constructor
  · rintro ⟨allKnown, name, line, unit, codes, options⟩
    rw [same] at unit codes options
    exact ⟨(List.forall_mem_cons.mp allKnown).2, name, line, unit, codes, options⟩
  · rintro ⟨allKnown, name, line, unit, codes, options⟩
    refine ⟨List.forall_mem_cons.mpr ⟨known, allKnown⟩, name, line, ?_, ?_, ?_⟩ <;> rwa [same]

theorem contents_fence (kind other : FenceKind) (content : String) (line : Nat) :
    contents other (.fence kind.text content line :: body) =
      if other = kind then content :: contents other body else contents other body := by
  by_cases same : other = kind
  · subst same
    simp [contents, Part.content?]
  · have apart : kind.text ≠ other.text := fun sameText => same (text_injective sameText).symm
    simp [contents, Part.content?, same, apart]

/-- There is room for a block of the kind. -/
def Free (draft : Draft) : FenceKind -> Prop
  | .unit => draft.input = ""
  | .codes => draft.expect = none
  | .options => draft.config = ""

/-- The draft with a block of the kind, whatever was there. -/
def put (draft : Draft) (content : String) : FenceKind -> Draft
  | .unit => { draft with input := dropFinalFeeds content }
  | .codes => { draft with expect := some (Scenario.codes content) }
  | .options => { draft with config := content }

theorem add_eq_ok_iff {kind : FenceKind} {content : String} {line : Nat} :
    draft.add kind content line = .ok next ↔ draft.Free kind ∧ draft.put content kind = next := by
  cases kind with
  | unit => by_cases free : draft.input = "" <;> simp [add, Free, put, free]
  | codes => by_cases free : draft.expect = none <;> simp [add, Free, put, free]
  | options => by_cases free : draft.config = "" <;> simp [add, Free, put, free]

/-- A block of a known kind takes the room for its kind and no other. -/
theorem fits_fence {kind : FenceKind} {content : String} {line : Nat} :
    draft.Fits (.fence kind.text content line :: body) filled ↔
      draft.Free kind ∧ (draft.put content kind).Fits body filled := by
  have known : Part.Known (.fence kind.text content line) := .inr ⟨kind, rfl⟩
  cases kind <;>
    simp only [fits_iff, List.forall_mem_cons, known, contents_fence, if_true, reduceCtorEq, if_false,
      fills_cons_iff, Free, put] <;>
    tauto

/-- The scenario is the draft, which knows its unit and its codes. -/
structure Finishes (draft : Draft) (scenario : Scenario) : Prop where
  name : scenario.name = draft.name
  line : scenario.line = draft.line
  input : scenario.input = draft.input
  nonempty : draft.input ≠ ""
  expect : draft.expect = some scenario.expect
  config : scenario.config = draft.config

theorem finish_eq_ok_iff {isLast : Bool} {scenario : Scenario} :
    draft.finish isLast = .ok scenario ↔ draft.Finishes scenario := by
  unfold finish
  constructor
  · intro finished
    split at finished
    · cases finished
    · rename_i nonempty
      split at finished
      · cases finished
      · rename_i expect known
        cases finished
        exact ⟨rfl, rfl, rfl, by simpa using nonempty, known, rfl⟩
  · rintro ⟨name, line, input, nonempty, expect, config⟩
    obtain ⟨_, _, _, _, _⟩ := scenario
    cases name
    cases line
    cases input
    cases config
    simp [nonempty, expect]

end Draft

/-! ### Collecting -/

/-- The section gives the scenario. Of the unit's blocks only the last one has characters other
than line feeds, of the blocks of options only the last one may have any. -/
structure Recorded (part : Section) (scenario : Scenario) : Prop where
  known : ∀ inner ∈ part.body, inner.Known
  name : scenario.name = part.name
  line : scenario.line = part.line
  unit : ∃ blank content, contents .unit part.body = blank ++ [content] ∧
    (∀ other ∈ blank, dropFinalFeeds other = "") ∧ dropFinalFeeds content ≠ "" ∧
      scenario.input = dropFinalFeeds content
  codes : ∃ content, contents .codes part.body = [content] ∧
    scenario.expect = Scenario.codes content
  options : (contents .options part.body = [] ∧ scenario.config = "") ∨ ∃ blank,
    contents .options part.body = blank ++ [scenario.config] ∧ ∀ other ∈ blank, other = ""

theorem recorded_iff {part : Section} {scenario : Scenario} : Recorded part scenario ↔
    ∃ filled : Draft, (Draft.start part.name part.line).Fits part.body filled ∧
      filled.Finishes scenario := by
  constructor
  · rintro ⟨known, name, line, ⟨blank, content, isUnit, allBlank, nonempty, input⟩,
      ⟨codes, isCodes, expect⟩, options⟩
    refine ⟨⟨part.name, part.line, dropFinalFeeds content, some (Scenario.codes codes),
      scenario.config⟩, ⟨known, rfl, rfl, ?_, ?_, ?_⟩,
      ⟨name, line, input, nonempty, congrArg some expect.symm, rfl⟩⟩
    · exact fills_iff.mpr (.inr ⟨blank, content, isUnit, allBlank, rfl⟩)
    · exact fills_iff.mpr (.inr ⟨[], codes, isCodes, by simp, rfl⟩)
    · obtain ⟨isOptions, config⟩ | ⟨blank, isOptions, allBlank⟩ := options
      · exact fills_iff.mpr (.inl ⟨isOptions, config⟩)
      · exact fills_iff.mpr (.inr ⟨blank, scenario.config, isOptions, allBlank, rfl⟩)
  · rintro ⟨filled, ⟨known, name, line, unit, codes, options⟩,
      ⟨sameName, sameLine, sameInput, nonempty, sameExpect, sameConfig⟩⟩
    refine ⟨known, sameName.trans name, sameLine.trans line, ?_, ?_, ?_⟩
    · obtain ⟨-, nothing⟩ | ⟨blank, content, isUnit, allBlank, input⟩ := fills_iff.mp unit
      · exact absurd nothing nonempty
      · exact ⟨blank, content, isUnit, allBlank, input ▸ nonempty, sameInput.trans input⟩
    · obtain ⟨-, nothing⟩ | ⟨blank, content, isCodes, allBlank, expect⟩ := fills_iff.mp codes
      · cases nothing.symm.trans sameExpect
      · have noBlank : blank = [] :=
          List.eq_nil_iff_forall_not_mem.mpr fun other inside => by cases allBlank other inside
        cases noBlank
        exact ⟨content, isCodes, Option.some.inj (sameExpect.symm.trans expect)⟩
    · obtain ⟨isOptions, config⟩ | ⟨blank, content, isOptions, allBlank, config⟩ :=
        fills_iff.mp options
      · exact .inl ⟨isOptions, sameConfig.trans config⟩
      · refine .inr ⟨blank, ?_, allBlank⟩
        rw [sameConfig, config]
        exact isOptions

theorem bind_eq_ok_iff {α β : Type} {first : Except DocumentError α}
    {next : α -> Except DocumentError β} {result : β} :
    first >>= next = .ok result ↔ ∃ value, first = .ok value ∧ next value = .ok result := by
  cases first <;> simp [bind, Except.bind]

variable {draft : Draft} {current : Option Draft} {parts : List Part} {cases : List Scenario}
  {title language content : String} {line : Nat}

/-- A part is passed over, starts a section, or is a block that names a language. -/
theorem Part.kinds (part : Part) : (part.Unlabelled ∧ part.opens? = none) ∨
    (∃ title line name, part = .heading title line ∧ nameOf? title = some name) ∨
      ∃ language content line, part = .fence language content line ∧ language ≠ "" := by
  cases part with
  | heading title line =>
    cases named : nameOf? title with
    | none => exact .inl ⟨trivial, by simp [Part.opens?, named]⟩
    | some name => exact .inr (.inl ⟨title, line, name, rfl, named⟩)
  | fence language content line =>
    by_cases empty : language = ""
    · exact .inl ⟨empty, rfl⟩
    · exact .inr (.inr ⟨language, content, line, rfl, empty⟩)

theorem collectFrom_skip {part : Part} (unlabelled : part.Unlabelled) (plain : part.opens? = none) :
    collectFrom current (part :: parts) = collectFrom current parts := by
  cases part with
  | heading title line =>
    have unnamed : nameOf? title = none := by simpa [Part.opens?] using plain
    cases current <;> simp [collectFrom, unnamed]
  | fence language content line =>
    cases unlabelled
    cases current <;> simp [collectFrom]

/-- The next scenario heading finishes the draft and starts another one. -/
theorem collectFrom_heading {name : String} (named : nameOf? title = some name) :
    collectFrom (some draft) (.heading title line :: parts) = .ok cases ↔
      ∃ scenario others, cases = scenario :: others ∧ draft.Finishes scenario ∧
        collectFrom (some (.start name line)) parts = .ok others := by
  simp only [collectFrom, named, bind_eq_ok_iff, Draft.finish_eq_ok_iff]
  constructor
  · rintro ⟨scenario, finishes, others, collected, done⟩
    cases done
    exact ⟨scenario, others, rfl, finishes, collected⟩
  · rintro ⟨scenario, others, rfl, finishes, collected⟩
    exact ⟨scenario, finishes, others, collected, rfl⟩

/-- A block is added to the draft, if it is of a known kind and there is room for it. -/
theorem collectFrom_fence (labelled : language ≠ "") :
    collectFrom (some draft) (.fence language content line :: parts) = .ok cases ↔
      ∃ kind : FenceKind, language = kind.text ∧ draft.Free kind ∧
        collectFrom (some (draft.put content kind)) parts = .ok cases := by
  simp only [collectFrom, String.isEmpty_iff, labelled, if_false]
  cases found : FenceKind.ofText? language with
  | none =>
    constructor
    · intro failed
      cases failed
    · rintro ⟨kind, same, -⟩
      exact absurd same (ofText?_eq_none_iff.mp found kind)
  | some kind =>
    cases ofText?_eq_some_iff.mp found
    simp only [bind_eq_ok_iff, Draft.add_eq_ok_iff]
    constructor
    · rintro ⟨_, ⟨free, rfl⟩, collected⟩
      exact ⟨kind, rfl, free, collected⟩
    · rintro ⟨other, same, free, collected⟩
      cases text_injective same
      exact ⟨_, ⟨free, rfl⟩, collected⟩

theorem sections_skip {part : Part} (plain : part.opens? = none) :
    sections (part :: parts) = (part :: (sections parts).1, (sections parts).2) := by
  rw [sections, plain]

theorem sections_heading {name : String} (named : nameOf? title = some name) :
    sections (.heading title line :: parts) =
      ([], ⟨name, line, (sections parts).1⟩ :: (sections parts).2) := by
  simp [sections, Part.opens?, named]

theorem content?_of_unlabelled {part : Part} (unlabelled : part.Unlabelled) (kind : FenceKind) :
    part.content? kind = none := by
  cases part with
  | heading => rfl
  | fence language content line =>
    cases unlabelled
    simp [Part.content?, (text_ne_empty kind).symm]

theorem Part.Unlabelled.known {part : Part} (unlabelled : part.Unlabelled) : part.Known := by
  cases part with
  | heading => trivial
  | fence language content line => exact .inl unlabelled

/-- With a draft, the parts in front of the next scenario heading are filled into it. -/
theorem collectFrom_some_iff : collectFrom (some draft) parts = .ok cases ↔
    ∃ filled scenario others, cases = scenario :: others ∧ draft.Fits (sections parts).1 filled ∧
      filled.Finishes scenario ∧ List.Forall₂ Recorded (sections parts).2 others := by
  induction parts generalizing draft cases with
  | nil =>
    simp only [collectFrom, bind_eq_ok_iff, Draft.finish_eq_ok_iff, sections, Draft.fits_nil_iff]
    constructor
    · rintro ⟨scenario, finishes, done⟩
      cases done
      exact ⟨draft, scenario, [], rfl, rfl, finishes, .nil⟩
    · rintro ⟨_, scenario, _, rfl, rfl, finishes, ⟨⟩⟩
      exact ⟨scenario, finishes, rfl⟩
  | cons part parts inductionHypothesis =>
    obtain ⟨unlabelled, plain⟩ | ⟨title, line, name, rfl, named⟩ |
      ⟨language, content, line, rfl, labelled⟩ := part.kinds
    · rw [collectFrom_skip unlabelled plain, sections_skip plain, inductionHypothesis]
      simp only [Draft.fits_skip unlabelled.known (content?_of_unlabelled unlabelled)]
    · rw [collectFrom_heading named, sections_heading named]
      simp only [inductionHypothesis, Draft.fits_nil_iff]
      constructor
      · rintro ⟨scenario, _, rfl, finishes, filled, next, others, rfl, fits, finishesNext, recorded⟩
        exact ⟨draft, scenario, _, rfl, rfl, finishes,
          .cons (recorded_iff.mpr ⟨filled, fits, finishesNext⟩) recorded⟩
      · rintro ⟨_, scenario, _, rfl, rfl, finishes, _ | ⟨first, recorded⟩⟩
        obtain ⟨filled, fits, finishesNext⟩ := recorded_iff.mp first
        exact ⟨scenario, _, rfl, finishes, filled, _, _, rfl, fits, finishesNext, recorded⟩
    · rw [collectFrom_fence labelled, sections_skip rfl]
      constructor
      · rintro ⟨kind, rfl, free, collected⟩
        obtain ⟨filled, scenario, others, rfl, fits, finishes, recorded⟩ :=
          inductionHypothesis.mp collected
        exact ⟨filled, scenario, others, rfl, Draft.fits_fence.mpr ⟨free, fits⟩, finishes, recorded⟩
      · rintro ⟨filled, scenario, others, rfl, fits, finishes, recorded⟩
        obtain unnamed | ⟨kind, rfl⟩ := fits.known _ List.mem_cons_self
        · exact absurd unnamed labelled
        · obtain ⟨free, fits⟩ := Draft.fits_fence.mp fits
          exact ⟨kind, rfl, free,
            inductionHypothesis.mpr ⟨filled, scenario, others, rfl, fits, finishes, recorded⟩⟩

/-- A document gives scenarios exactly if no block in front of the first scenario heading names a
language and its sections give these scenarios. -/
theorem collectFrom_none_iff : collectFrom none parts = .ok cases ↔
    (∀ part ∈ (sections parts).1, part.Unlabelled) ∧
      List.Forall₂ Recorded (sections parts).2 cases := by
  induction parts generalizing cases with
  | nil => simp [collectFrom, sections, eq_comm]
  | cons part parts inductionHypothesis =>
    obtain ⟨unlabelled, plain⟩ | ⟨title, line, name, rfl, named⟩ |
      ⟨language, content, line, rfl, labelled⟩ := part.kinds
    · rw [collectFrom_skip unlabelled plain, sections_skip plain, inductionHypothesis]
      simp only [List.forall_mem_cons, unlabelled, true_and]
    · have start : collectFrom none (.heading title line :: parts) =
          collectFrom (some (.start name line)) parts := by
        simp [collectFrom, named]
      rw [start, collectFrom_some_iff, sections_heading named]
      constructor
      · rintro ⟨filled, scenario, others, rfl, fits, finishes, recorded⟩
        exact ⟨by simp, .cons (recorded_iff.mpr ⟨filled, fits, finishes⟩) recorded⟩
      · rintro ⟨-, _ | ⟨first, recorded⟩⟩
        obtain ⟨filled, fits, finishes⟩ := recorded_iff.mp first
        exact ⟨filled, _, _, rfl, fits, finishes, recorded⟩
    · rw [sections_skip rfl]
      constructor
      · intro collected
        cases found : FenceKind.ofText? language <;>
          simp [collectFrom, labelled, found] at collected
      · rintro ⟨unlabelled, -⟩
        exact absurd (unlabelled _ List.mem_cons_self) labelled

/-! ### Blocks that give way -/

/-- A block that leaves nothing behind stands ahead of another one of its kind. -/
def Section.Covers (part : Section) : Prop :=
  (∃ content ∈ (contents .unit part.body).dropLast, dropFinalFeeds content = "") ∨
    "" ∈ (contents .options part.body).dropLast

/-- The section gives the scenario with all the blocks it has: one with the unit, one with the
codes and possibly one with options. -/
structure Exact (part : Section) (scenario : Scenario) : Prop where
  name : scenario.name = part.name
  line : scenario.line = part.line
  unit : ∃ content, contents .unit part.body = [content] ∧ scenario.input = dropFinalFeeds content
  codes : ∃ content, contents .codes part.body = [content] ∧
    scenario.expect = Scenario.codes content
  options : (contents .options part.body = [] ∧ scenario.config = "") ∨
    contents .options part.body = [scenario.config]

section Blocks

variable {part : Section} {scenario : Scenario} {parts : List Section}

/-- Only a block that leaves nothing behind gives way to another one. -/
theorem Recorded.exact_iff (recorded : Recorded part scenario) :
    Exact part scenario ↔ ¬part.Covers := by
  constructor
  · rintro ⟨-, -, ⟨unit, isUnit, -⟩, -, options⟩ (⟨content, inside, -⟩ | inside)
    · rw [isUnit] at inside
      cases inside
    · obtain ⟨isOptions, -⟩ | isOptions := options <;> rw [isOptions] at inside <;> cases inside
  · intro kept
    obtain ⟨blank, content, isUnit, allBlank, -, input⟩ := recorded.unit
    refine ⟨recorded.name, recorded.line, ⟨content, ?_, input⟩, recorded.codes, ?_⟩
    · have noBlank : blank = [] := List.eq_nil_iff_forall_not_mem.mpr fun other inside =>
        kept (.inl ⟨other, by rwa [isUnit, List.dropLast_concat], allBlank other inside⟩)
      rw [isUnit, noBlank, List.nil_append]
    · obtain none | ⟨blank, isOptions, allBlank⟩ := recorded.options
      · exact .inl none
      · have noBlank : blank = [] := List.eq_nil_iff_forall_not_mem.mpr fun other inside =>
          kept (.inr (by rwa [isOptions, List.dropLast_concat, ← allBlank other inside]))
        rw [isOptions, noBlank, List.nil_append]
        exact .inr rfl

theorem forall₂_exact_iff (recorded : List.Forall₂ Recorded parts cases) :
    List.Forall₂ Exact parts cases ↔ ∀ part ∈ parts, ¬part.Covers := by
  induction recorded with
  | nil => simp
  | cons first _ inductionHypothesis =>
    rw [List.forall₂_cons, first.exact_iff, inductionHypothesis, List.forall_mem_cons]

theorem headings_of_recorded (recorded : List.Forall₂ Recorded parts cases) :
    cases.map (fun scenario => (scenario.name, scenario.line)) =
      parts.map fun part => (part.name, part.line) := by
  induction recorded with
  | nil => rfl
  | cons first _ inductionHypothesis =>
    rw [List.map_cons, List.map_cons, inductionHypothesis, first.name, first.line]

end Blocks

/-- There is a section for every scenario heading. -/
theorem headings_sections (parts : List Part) :
    (sections parts).2.map (fun part => (part.name, part.line)) = parts.filterMap (·.opens?) := by
  induction parts with
  | nil => rfl
  | cons part parts inductionHypothesis =>
    cases opened : part.opens? with
    | none => rw [sections_skip opened, List.filterMap_cons_none opened, inductionHypothesis]
    | some start => simp [sections, opened, inductionHypothesis]

/-- A document that gives scenarios gives one for every scenario heading, in order, each out of the
blocks between its heading and the next one. They are one block with the unit, one with the codes
and at most one with options, unless one of them leaves nothing behind and another one of its kind
takes its place. -/
theorem scenarios_of_sections (collected : collectFrom none parts = .ok cases) :
    cases.map (fun scenario => (scenario.name, scenario.line)) = parts.filterMap (·.opens?) ∧
      List.Forall₂ Recorded (sections parts).2 cases ∧
      (List.Forall₂ Exact (sections parts).2 cases ↔
        ∀ part ∈ (sections parts).2, ¬part.Covers) := by
  have recorded := (collectFrom_none_iff.mp collected).2
  exact ⟨(headings_of_recorded recorded).trans (headings_sections parts), recorded,
    forall₂_exact_iff recorded⟩

/-- Blocks in any order, with prose among them. -/
theorem scenarios_of_sections_unordered :
    let parts : List Part := [.heading "Test: first" 1, .fence "expect" "T0001 # the type\n" 3,
      .heading "Prose" 5, .fence "ast" "(a)\n\n" 7, .heading "Test: second" 9,
      .fence "config" "strict: true\n" 11, .fence "ast" "(b)\n" 13, .fence "expect" "" 1]
    let cases : List Scenario :=
      [⟨"first", 1, "(a)", ["T0001"], ""⟩, ⟨"second", 9, "(b)", [], "strict: true\n"⟩]
    collectFrom none parts = .ok cases ∧
      parts.filterMap (·.opens?) = [("first", 1), ("second", 9)] ∧
      List.Forall₂ Recorded (sections parts).2 cases ∧ List.Forall₂ Exact (sections parts).2 cases := by
  intro parts cases
  have collected : collectFrom none parts = .ok cases := by decide +kernel
  obtain ⟨headings, recorded, exact_iff⟩ := scenarios_of_sections collected
  refine ⟨collected, headings.symm, recorded, exact_iff.mpr ?_⟩
  unfold Section.Covers
  decide +kernel

/-- An empty block gives way to the unit, so that two of them make up a scenario. -/
theorem empty_unit_gives_way :
    collectFrom none [.heading "Test: x" 1, .fence "ast" "" 1, .fence "ast" "(a)\n" 7,
      .fence "expect" "" 1] = .ok [⟨"x", 1, "(a)", [], ""⟩] ∧
    ¬List.Forall₂ Exact (sections [.heading "Test: x" 1, .fence "ast" "" 1,
      .fence "ast" "(a)\n" 7, .fence "expect" "" 1]).2 [⟨"x", 1, "(a)", [], ""⟩] := by
  refine ⟨by decide +kernel, fun exact => ?_⟩
  obtain _ | ⟨first, -⟩ := exact
  obtain ⟨content, isUnit, -⟩ := first.unit
  have two : contents .unit [.fence "ast" "" 1, .fence "ast" "(a)\n" 7, .fence "expect" "" 1] =
      ["", "(a)\n"] := by decide +kernel
  cases two.symm.trans isUnit

end UnitCheck.Scenario
