import UnitCheck.Attribute.Check
import UnitCheck.Proofs.Finding.Places

/-!
# What is said about attributes comes from the unit

Whatever is said about the attributes of a declaration is about these attributes, about
their values, or about a function and its body.
-/

namespace UnitCheck.Attributes

variable {origin : Origin}

theorem from_payload? {subject : Attribute} (isFrom : subject.From origin) (rule : Rule) :
    ∀ finding ∈ payload? rule subject, finding.From origin := by
  unfold payload?
  split
  · exact none_from
  · exact some_from (Finding.from_place (isFrom.payload _ ‹_›) rfl)
  · exact some_from (Finding.from_place isFrom.span rfl)
  · split
    · exact none_from
    · exact some_from (Finding.from_place (isFrom.payload _ ‹_›) rfl)

/-- An attribute is judged by itself and by the earlier ones. -/
theorem from_judge {seen : List Attribute} (seenFrom : ∀ earlier ∈ seen, earlier.From origin)
    {subject : Attribute} (isFrom : subject.From origin) (kind : DeclKind) :
    ∀ finding ∈ (judge kind seen subject).1, finding.From origin := by
  unfold judge
  split
  · exact some_from (Finding.from_place isFrom.span rfl)
  · split
    · rename_i first found
      have firstFrom := seenFrom first (List.mem_of_find?_eq_some found)
      exact some_from (show Finding.From origin (.duplicateAttribute subject first.span) from
        List.forall_mem_cons.mpr ⟨isFrom.span, List.forall_mem_singleton.mpr firstFrom.span⟩)
    · split
      · exact from_payload? isFrom _
      · exact some_from (Finding.from_place isFrom.span rfl)

theorem from_judgeAll (kind : DeclKind) (attributes : List Attribute)
    (isFrom : ∀ subject ∈ attributes, subject.From origin) {seen : List Attribute}
    (seenFrom : ∀ earlier ∈ seen, earlier.From origin) :
    (∀ finding ∈ (judgeAll kind seen attributes).1, finding.From origin) ∧
      ∀ subject ∈ (judgeAll kind seen attributes).2, subject.From origin := by
  induction attributes generalizing seen with
  | nil => exact ⟨List.forall_mem_nil _, seenFrom⟩
  | cons subject rest inductionHypothesis =>
    obtain ⟨subjectFrom, restFrom⟩ := List.forall_mem_cons.mp isFrom
    have judged := from_judge seenFrom subjectFrom kind
    have laterFrom : ∀ earlier ∈ (if (judge kind seen subject).2 then subject :: seen else seen),
        earlier.From origin := by
      split
      · exact List.forall_mem_cons.mpr ⟨subjectFrom, seenFrom⟩
      · exact seenFrom
    obtain ⟨said, allFrom⟩ := inductionHypothesis restFrom laterFrom
    exact ⟨List.forall_mem_append.mpr
      ⟨fun finding isSaid => judged finding (Option.mem_toList.mp isSaid), said⟩, allFrom⟩

section Seen

variable {seen : List Attribute} (seenFrom : ∀ earlier ∈ seen, earlier.From origin)
include seenFrom

/-- Attributes that exclude each other are both there. -/
theorem from_conflict? (pair : String × String) :
    ∀ finding ∈ conflict? seen pair, finding.From origin := by
  have pairFrom {one other : Attribute} (isOne : one.From origin) (isOther : other.From origin) :
      Finding.From origin (.conflictingAttributes one other) :=
    List.forall_mem_cons.mpr ⟨isOther.span, List.forall_mem_singleton.mpr isOne.span⟩
  unfold conflict?
  split
  · have left := seenFrom _ (List.mem_of_find?_eq_some ‹seen.find? (·.name = pair.1) = _›)
    have right := seenFrom _ (List.mem_of_find?_eq_some ‹seen.find? (·.name = pair.2) = _›)
    split
    · exact some_from (pairFrom right left)
    · exact some_from (pairFrom left right)
  · exact none_from

theorem from_bodyProblem? {decl : FunctionDecl} (isFrom : decl.From origin) :
    ∀ finding ∈ bodyProblem? seen decl, finding.From origin := by
  unfold bodyProblem?
  simp only
  split
  · rename_i mark body isMark isBody
    have markFrom := seenFrom mark (List.mem_of_find?_eq_some isMark)
    exact some_from (List.forall_mem_cons.mpr
      ⟨(isFrom.body body isBody).span, List.forall_mem_singleton.mpr markFrom.span⟩)
  · exact some_from (Finding.from_place isFrom.span rfl)
  · exact none_from

end Seen

/-- Everything said about the attributes of a declaration is about places in it. -/
theorem from_declFindings (kind : DeclKind) {attributes : List Attribute}
    (isFrom : ∀ subject ∈ attributes, subject.From origin) {function : Option FunctionDecl}
    (functionFrom : ∀ decl ∈ function, decl.From origin) :
    ∀ finding ∈ declFindings kind attributes function, finding.From origin := by
  obtain ⟨said, seenFrom⟩ := from_judgeAll kind attributes isFrom (List.forall_mem_nil _)
  refine List.forall_mem_append.mpr ⟨List.forall_mem_append.mpr ⟨said, ?_⟩, ?_⟩
  · intro finding isConflict
    obtain ⟨pair, -, found⟩ := List.mem_filterMap.mp isConflict
    exact from_conflict? seenFrom pair finding found
  · intro finding isProblem
    obtain ⟨decl, isFunction, found⟩ := Option.bind_eq_some_iff.mp (Option.mem_toList.mp isProblem)
    exact from_bodyProblem? seenFrom (functionFrom decl isFunction) finding found

mutual

theorem from_stmtFindings : (stmt : Stmt) -> stmt.From origin ->
    ∀ finding ∈ stmtFindings stmt, finding.From origin
  | .block body _, isFrom => from_stmtsFindings body isFrom.2
  | .const decl, isFrom =>
    from_declFindings .constant (ConstDecl.From.toHeadFrom isFrom).attributes none_from
  | .struct decl, isFrom =>
    from_declFindings .struct (StructDecl.From.toHeadFrom isFrom).attributes none_from
  | .cond _ body _ otherwise _, isFrom => by
    obtain ⟨-, -, -, bodyFrom, otherwiseFrom⟩ := isFrom
    exact List.forall_mem_append.mpr
      ⟨from_stmtsFindings body bodyFrom, from_stmtFindings? otherwise otherwiseFrom⟩
  | .whileLoop _ body _ _, isFrom => by
    obtain ⟨-, -, -, bodyFrom⟩ := isFrom
    exact from_stmtsFindings body bodyFrom
  | .loop body _ _, isFrom => from_stmtsFindings body isFrom.2.2
  | .forLoop _ _ _ body _ _, isFrom => by
    obtain ⟨-, -, -, -, -, bodyFrom⟩ := isFrom
    exact from_stmtsFindings body bodyFrom
  | .expr _, _ | .letIn _, _ | .instr _, _ | .assign _ _ _, _ | .write _ _ _, _ | .ret _ _, _
  | .brk _, _ | .cont _, _ | .bad _, _ => List.forall_mem_nil _

theorem from_stmtFindings? : (stmt : Option Stmt) -> Stmt.From? origin stmt ->
    ∀ finding ∈ stmtFindings? stmt, finding.From origin
  | none, _ => List.forall_mem_nil _
  | some stmt, isFrom => from_stmtFindings stmt isFrom

theorem from_stmtsFindings : (stmts : List Stmt) -> Stmt.AllFrom origin stmts ->
    ∀ finding ∈ stmtsFindings stmts, finding.From origin
  | [], _ => List.forall_mem_nil _
  | stmt :: rest, isFrom =>
    List.forall_mem_append.mpr ⟨from_stmtFindings stmt isFrom.1, from_stmtsFindings rest isFrom.2⟩

end

/-- Everything said about the attributes of an item is about places in it. -/
theorem from_itemFindings {item : Item} (isFrom : item.From origin) :
    ∀ finding ∈ itemFindings item, finding.From origin := by
  cases item with
  | function decl =>
    refine List.forall_mem_append.mpr ⟨from_declFindings .function
      (FunctionDecl.From.toHeadFrom isFrom).attributes (some_from isFrom), ?_⟩
    split
    · exact from_stmtsFindings _ (FunctionDecl.From.body isFrom _ ‹_›).stmts
    · exact List.forall_mem_nil _
  | asm decl =>
    exact from_declFindings .asmFunction (AsmDecl.From.toHeadFrom isFrom).attributes none_from
  | entry decl =>
    exact List.forall_mem_append.mpr ⟨from_declFindings .entrypoint
      (EntryDecl.From.toHeadFrom isFrom).attributes none_from,
      from_stmtsFindings _ (EntryDecl.From.body isFrom).stmts⟩
  | struct decl =>
    exact from_declFindings .struct (StructDecl.From.toHeadFrom isFrom).attributes none_from
  | enum decl =>
    exact from_declFindings .enum (EnumDecl.From.toHeadFrom isFrom).attributes none_from
  | const decl =>
    exact from_declFindings .constant (ConstDecl.From.toHeadFrom isFrom).attributes none_from
  | static decl =>
    exact from_declFindings .static (StaticDecl.From.toHeadFrom isFrom).attributes none_from
  | typeAlias decl =>
    exact from_declFindings .typeAlias (AliasDecl.From.toHeadFrom isFrom).attributes none_from
  | stray stmt => exact from_stmtFindings stmt isFrom

end UnitCheck.Attributes
