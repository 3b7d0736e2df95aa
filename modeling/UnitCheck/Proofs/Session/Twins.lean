import UnitCheck.Proofs.Declare.Aloof
import UnitCheck.Proofs.Resolve.Aloof
import UnitCheck.Proofs.Session.Passes
import UnitCheck.Proofs.Typing.Aloof

/-!
# Two runs of one unit

Twins have found out the same about one unit and may differ in their guise. All walks keep
them twins. All but the last find the same in both; what the last finds depends on how strict
they are.
-/

namespace UnitCheck

/-- The sessions differ in their guise only, and the guise of the other suits the one. -/
structure Session.Twins (one other : Session) : Prop where
  same : other = one.wearing other.guise
  suits : other.options.Suits one.options

theorem Options.suits_refl (options : Options) : options.Suits options := ⟨rfl, .inl rfl⟩

/-! ### The walks before the last -/

namespace Attributes

theorem ordinary_payload? (rule : Rule) (subject : Attribute) :
    ∀ finding ∈ payload? rule subject, finding.isUnreachable = false := by
  unfold payload?
  split
  · simp
  · simp [Finding.isUnreachable]
  · simp [Finding.isUnreachable]
  · split <;> simp [Finding.isUnreachable]

theorem ordinary_judge (kind : DeclKind) (seen : List Attribute) (subject : Attribute) :
    ∀ finding ∈ (judge kind seen subject).1, finding.isUnreachable = false := by
  unfold judge
  split
  · simp [Finding.isUnreachable]
  · split
    · simp [Finding.isUnreachable]
    · split
      · exact ordinary_payload? _ _
      · simp [Finding.isUnreachable]

theorem ordinary_judgeAll (kind : DeclKind) (attributes seen : List Attribute) :
    ∀ finding ∈ (judgeAll kind seen attributes).1, finding.isUnreachable = false := by
  induction attributes generalizing seen with
  | nil => exact List.forall_mem_nil _
  | cons subject rest inductionHypothesis =>
    refine List.forall_mem_append.mpr ⟨fun finding inside => ?_, inductionHypothesis _⟩
    exact ordinary_judge kind seen subject finding (Option.mem_toList.mp inside)

theorem ordinary_conflict? (seen : List Attribute) (pair : String × String) :
    ∀ finding ∈ conflict? seen pair, finding.isUnreachable = false := by
  unfold conflict?
  split
  · split <;> simp [Finding.isUnreachable]
  · simp

theorem ordinary_bodyProblem? (seen : List Attribute) (decl : FunctionDecl) :
    ∀ finding ∈ bodyProblem? seen decl, finding.isUnreachable = false := by
  unfold bodyProblem?
  simp only
  split <;> simp [Finding.isUnreachable]

theorem ordinary_declFindings (kind : DeclKind) (attributes : List Attribute)
    (function : Option FunctionDecl) :
    ∀ finding ∈ declFindings kind attributes function, finding.isUnreachable = false := by
  refine List.forall_mem_append.mpr ⟨List.forall_mem_append.mpr ⟨?_, ?_⟩, ?_⟩
  · exact ordinary_judgeAll kind attributes []
  · intro finding inside
    obtain ⟨pair, -, isConflict⟩ := List.mem_filterMap.mp inside
    exact ordinary_conflict? _ pair finding isConflict
  · intro finding inside
    obtain ⟨decl, -, isProblem⟩ := Option.bind_eq_some_iff.mp (Option.mem_toList.mp inside)
    exact ordinary_bodyProblem? _ decl finding isProblem

mutual

theorem ordinary_stmtFindings :
    (stmt : Stmt) -> ∀ finding ∈ stmtFindings stmt, finding.isUnreachable = false
  | .block body _ | .whileLoop _ body _ _ | .loop body _ _ | .forLoop _ _ _ body _ _ => by
    unfold stmtFindings
    exact ordinary_stmtsFindings body
  | .const decl => by
    unfold stmtFindings
    exact ordinary_declFindings _ _ _
  | .struct decl => by
    unfold stmtFindings
    exact ordinary_declFindings _ _ _
  | .cond _ body _ otherwise _ => by
    unfold stmtFindings
    exact List.forall_mem_append.mpr
      ⟨ordinary_stmtsFindings body, ordinary_stmtFindings? otherwise⟩
  | .expr _ | .letIn _ | .instr _ | .assign _ _ _ | .write _ _ _ | .ret _ _ | .brk _ | .cont _
  | .bad _ => by
    simp only [stmtFindings]
    exact List.forall_mem_nil _

theorem ordinary_stmtFindings? :
    (stmt : Option Stmt) -> ∀ finding ∈ stmtFindings? stmt, finding.isUnreachable = false
  | none => List.forall_mem_nil _
  | some stmt => ordinary_stmtFindings stmt

theorem ordinary_stmtsFindings :
    (body : List Stmt) -> ∀ finding ∈ stmtsFindings body, finding.isUnreachable = false
  | [] => List.forall_mem_nil _
  | stmt :: rest => by
    unfold stmtsFindings
    exact List.forall_mem_append.mpr ⟨ordinary_stmtFindings stmt, ordinary_stmtsFindings rest⟩

end

/-- Nothing is said about reachability where attributes are checked. -/
theorem ordinary_itemFindings (item : Item) :
    ∀ finding ∈ itemFindings item, finding.isUnreachable = false := by
  cases item with
  | function decl =>
    refine List.forall_mem_append.mpr ⟨ordinary_declFindings _ _ _, ?_⟩
    cases decl.body with
    | some body => exact ordinary_stmtsFindings _
    | none => exact List.forall_mem_nil _
  | entry decl =>
    exact List.forall_mem_append.mpr ⟨ordinary_declFindings _ _ _, ordinary_stmtsFindings _⟩
  | stray stmt => exact ordinary_stmtFindings stmt
  | asm | struct | enum | const | static | typeAlias => exact ordinary_declFindings _ _ _

/-- The fourth pass is aloof. -/
theorem aloof_walk : Aloof Pass.attributes.walk := by
  refine .read (fun _ _ _ => rfl) fun session => .forM _ fun finding isFound => ?_
  obtain ⟨item, -, inside⟩ := List.mem_flatMap.mp isFound
  exact Check.aloof_report finding (ordinary_itemFindings item finding inside)

end Attributes

/-- All passes but the last are aloof. -/
theorem Pass.aloof_walk {pass : Pass} (early : pass ≠ .lint) : Aloof pass.walk := by
  cases pass with
  | declare => exact Declare.aloof_walk
  | scope => exact Resolve.aloof_walk
  | typeCheck => exact Typing.aloof_walk
  | attributes => exact Attributes.aloof_walk
  | lint => exact absurd rfl early

/-! ### Twins -/

namespace Session.Twins

variable {one other nextOne nextOther : Session}

theorem table (twins : one.Twins other) : other.table = one.table := by
  rw [twins.same]
  rfl

theorem definitions (twins : one.Twins other) : other.definitions = one.definitions := by
  rw [twins.same]
  rfl

theorem known (twins : one.Twins other) : other.known = one.known := by
  rw [twins.same]
  rfl

theorem facts (twins : one.Twins other) : other.facts = one.facts := by
  rw [twins.same]
  rfl

theorem file (twins : one.Twins other) : other.file = one.file := by
  rw [twins.same]
  rfl

/-- Progress messages and completed passes are a matter of the guise. -/
theorem between (twins : one.Twins other) (alikeOne : one.Alike nextOne)
    (alikeOther : other.Alike nextOther) : nextOne.Twins nextOther where
  same := by
    rw [alikeOther.same, twins.same, alikeOne.same]
    rfl
  suits := by
    rw [alikeOther.options, alikeOne.options]
    exact twins.suits

/-- An aloof walk keeps twins and finds the same in both. Where only the other looks through
`mut`, the one has to end quiet. -/
theorem walk (twins : one.Twins other) {walk : Check Unit} (aloof : Aloof walk)
    (trusted : other.options.derefMode = one.options.derefMode ∨ (one.after walk).Quiet) :
    (one.after walk).Twins (other.after walk) ∧
      ∃ found, (one.after walk).findings = one.findings ++ found ∧
        (other.after walk).findings = other.findings ++ found := by
  obtain ⟨found, progress, isFound, ran⟩ := aloof.follows one other.guise twins.suits trusted
  rw [← twins.same] at ran
  have after : other.after walk =
      (one.after walk).wearing (other.guise.telling found progress) := congrArg Prod.snd ran
  refine ⟨⟨?_, ?_⟩, found, isFound, ?_⟩
  · rw [after]
    rfl
  · have kept : (other.after walk).options = other.options := by
      rw [after]
      rfl
    rw [kept, Session.after, aloof.options]
    exact twins.suits
  · rw [after]
    rfl

/-- What the last walk finds depends on the guise through the strictness only. -/
theorem lint (twins : one.Twins other) : Lint.findings other =
    Lint.findings { one with options := { one.options with strict := other.options.strict } } := by
  obtain ⟨guise, rfl⟩ : ∃ guise, other = one.wearing guise := ⟨_, twins.same⟩
  rfl

/-- The last walk keeps twins. -/
theorem walk_lint (twins : one.Twins other) :
    (one.after Pass.lint.walk).Twins (other.after Pass.lint.walk) := by
  rw [after_lint, after_lint]
  refine ⟨?_, twins.suits⟩
  obtain ⟨guise, rfl⟩ : ∃ guise, other = one.wearing guise := ⟨_, twins.same⟩
  rfl

end Session.Twins
end UnitCheck
