import UnitCheck.Proofs.Flow.LoopBlocks
import UnitCheck.Proofs.Lint.Placement
import UnitCheck.Proofs.Lint.Isolation

/-!
# The last pass and the flow graphs agree

The last pass and the building of a flow graph walk a body on their own. Both are held
against the census of the body: the pass says of a jump that no loop is around it where the
census has none, and calls only such statements dead that the census does not heed
(`Accounts`); a flow graph holds only statements that the census lists as reached
(`Flow.Accounted`). Statements of a decoded unit start at different places, so what is said
about one is said about no other.
-/

namespace UnitCheck

open UnitCheck.Flow

namespace Finding

/-- The place of a statement that repeats the end of its list or that control cannot reach. -/
def dead? : Finding -> Option Span
  | .duplicateTerminator span _ | .unreachable span _ => some span
  | _ => none

/-- Whether the finding is about a jump without a loop around it. -/
def isLooseJump : Finding -> Bool
  | .breakOutsideLoop _ | .continueOutsideLoop _ => true
  | _ => false

/-- Whether the finding says where control goes. -/
def isAboutFlow (finding : Finding) : Bool := finding.dead?.isSome || finding.isLooseJump

/-- The codes that a user sees of such findings. -/
theorem isSome_dead?_iff (finding : Finding) :
    finding.dead?.isSome = true ↔ finding.code ∈ ["C0001", "C0002", "C0003", "C0004"] := by
  cases finding with
  | missingInitializer span what =>
    cases what <;> simp [code, dead?, diagnostic, missingInitializerDiagnostic, error]
  | fieldAccess span problem =>
    obtain ⟨reason, segment, type⟩ := problem
    cases reason <;> simp [code, dead?, diagnostic, fieldAccessDiagnostic, error]
  | duplicateTerminator span what =>
    cases what <;> simp [code, dead?, diagnostic, error, Terminator.code]
  | _ => simp [code, dead?, diagnostic, error, bug]

theorem dead?_of_isLooseJump {finding : Finding} (isLoose : finding.isLooseJump = true) :
    finding.dead? = none := by
  cases finding with
  | breakOutsideLoop | continueOutsideLoop => rfl
  | _ => cases isLoose

end Finding

/-- The body of a function or an entrypoint, with its place. -/
def Item.ownBody? : Item -> Option Body
  | .function decl => decl.body
  | .entry decl => some decl.body
  | _ => none

namespace Lint

/-- What is said about a jump without a loop around it. -/
def looseJump? : Stmt -> Option Finding
  | .brk span => some (.breakOutsideLoop span)
  | .cont span => some (.continueOutsideLoop span)
  | _ => none

/-- The findings say what the census of some statements calls for: of each heeded jump
without a loop that it is one, and of dead statements only what is not heeded, with all their
parts. -/
structure Accounts (findings : List Finding) (entries : List (Stmt × Standing)) : Prop where
  loose : ∀ finding : Finding, finding.isLooseJump = true → (finding ∈ findings ↔
    ∃ stmt here, (stmt, here) ∈ entries ∧ here.heeded = true ∧ here.loop = none ∧
      looseJump? stmt = some finding)
  dead : ∀ finding span, finding ∈ findings → finding.dead? = some span →
    ∃ stmt : Stmt, stmt.span = span ∧ ∀ part ∈ stmt.parts,
      ∃ here, (part, here) ∈ entries ∧ here.heeded = false

variable {view : View} {findings more : List Finding} {entries others : List (Stmt × Standing)}
  {here : Standing} {stmt : Stmt}

namespace Accounts

/-- Findings about statements one behind the other. -/
theorem append (first : Accounts findings entries) (second : Accounts more others) :
    Accounts (findings ++ more) (entries ++ others) where
  loose finding isLoose := by
    simp only [List.mem_append, first.loose finding isLoose, second.loose finding isLoose,
      or_and_right, exists_or]
  dead finding span isFinding isDead := by
    rcases List.mem_append.mp isFinding with isFirst | isSecond
    · obtain ⟨stmt, same, parts⟩ := first.dead finding span isFirst isDead
      refine ⟨stmt, same, fun part isPart => ?_⟩
      obtain ⟨here, isEntry, unheeded⟩ := parts part isPart
      exact ⟨here, List.mem_append_left _ isEntry, unheeded⟩
    · obtain ⟨stmt, same, parts⟩ := second.dead finding span isSecond isDead
      refine ⟨stmt, same, fun part isPart => ?_⟩
      obtain ⟨here, isEntry, unheeded⟩ := parts part isPart
      exact ⟨here, List.mem_append_right _ isEntry, unheeded⟩

/-- Findings about other things than control. -/
theorem aside (ordinary : ∀ finding ∈ findings, finding.isAboutFlow = false) :
    Accounts findings [] where
  loose finding isLoose := by
    have absent : finding ∉ findings := by
      intro isFinding
      have quiet := ordinary finding isFinding
      rw [Finding.isAboutFlow, isLoose, Bool.or_true] at quiet
      cases quiet
    simp [absent]
  dead finding span isFinding isDead := by
    have quiet := ordinary finding isFinding
    rw [Finding.isAboutFlow, isDead] at quiet
    cases quiet

/-- Findings about other things in front of those about some statements. -/
theorem behind (ordinary : ∀ finding ∈ more, finding.isAboutFlow = false)
    (inner : Accounts findings entries) : Accounts (more ++ findings) entries :=
  (aside ordinary).append inner

/-- Findings about other things behind those about some statements. -/
theorem ahead (inner : Accounts findings entries)
    (ordinary : ∀ finding ∈ more, finding.isAboutFlow = false) :
    Accounts (findings ++ more) entries := by
  have accounts := inner.append (aside ordinary)
  rwa [List.append_nil] at accounts

/-- A statement that is no jump, with those inside it, which come behind it in the census. -/
theorem around (noJump : looseJump? stmt = none) (inner : Accounts findings entries) :
    Accounts findings ((stmt, here) :: entries) where
  loose finding isLoose := by
    rw [inner.loose finding isLoose]
    refine exists_congr fun other => exists_congr fun there => ?_
    rw [List.mem_cons, or_and_right, or_iff_right]
    rintro ⟨same, _, _, isJump⟩
    cases same
    rw [noJump] at isJump
    cases isJump
  dead finding span isFinding isDead := by
    obtain ⟨other, same, parts⟩ := inner.dead finding span isFinding isDead
    refine ⟨other, same, fun part isPart => ?_⟩
    obtain ⟨there, isEntry, unheeded⟩ := parts part isPart
    exact ⟨there, List.mem_cons_of_mem _ isEntry, unheeded⟩

/-- A statement that is no jump and holds no other, about which other things are said. -/
theorem alone (noJump : looseJump? stmt = none)
    (ordinary : ∀ finding ∈ findings, finding.isAboutFlow = false) :
    Accounts findings [(stmt, here)] :=
  (aside ordinary).around noJump

/-- Several items with their statements. -/
theorem flatMap {α : Type} {items : List α} {found : α -> List Finding}
    {listed : α -> List (Stmt × Standing)}
    (each : ∀ item ∈ items, Accounts (found item) (listed item)) :
    Accounts (items.flatMap found) (items.flatMap listed) := by
  induction items with
  | nil => exact .aside (List.forall_mem_nil _)
  | cons item rest inductionHypothesis =>
    simp only [List.flatMap_cons]
    exact (each item List.mem_cons_self).append
      (inductionHypothesis fun other isOther => each other (List.mem_cons_of_mem _ isOther))

end Accounts

/-! ### Findings about other things -/

theorem ordinary_requireBody (site : Site) (span : Span) (instruction : String) :
    ∀ finding ∈ requireBody site span instruction, finding.isAboutFlow = false := by
  unfold requireBody
  split
  · exact List.forall_mem_nil _
  · exact List.forall_mem_singleton.mpr rfl

theorem ordinary_addressFindings (span : Span) (operand : Expr) :
    ∀ finding ∈ addressFindings view span operand, finding.isAboutFlow = false := by
  unfold addressFindings
  split
  · split
    · exact List.forall_mem_singleton.mpr rfl
    · exact List.forall_mem_nil _
  · exact List.forall_mem_nil _

mutual

/-- Nothing is said about control where an expression is looked at. -/
theorem ordinary_exprFindings (site : Site) : (expr : Expr) ->
    ∀ finding ∈ exprFindings view site expr, finding.isAboutFlow = false
  | .addressOf operand span => by
    unfold exprFindings
    split
    · exact List.forall_mem_append.mpr
        ⟨ordinary_addressFindings span operand, ordinary_exprFindings site operand⟩
    · exact ordinary_requireBody site span _
  | .load _ operand span => by
    unfold exprFindings
    split
    · exact ordinary_exprFindings site operand
    · exact ordinary_requireBody site span _
  | .alloc _ span => by
    unfold exprFindings
    exact ordinary_requireBody site span _
  | .binary _ left right _ | .index left right _ => by
    unfold exprFindings
    exact List.forall_mem_append.mpr
      ⟨ordinary_exprFindings site left, ordinary_exprFindings site right⟩
  | .unary _ operand _ | .field operand _ _ | .cast _ operand _ => by
    unfold exprFindings
    exact ordinary_exprFindings site operand
  | .call _ args _ | .array _ args _ => by
    unfold exprFindings
    exact ordinary_exprsFindings site args
  | .callValue function args _ => by
    unfold exprFindings
    exact List.forall_mem_append.mpr
      ⟨ordinary_exprFindings site function, ordinary_exprsFindings site args⟩
  | .literal _ | .name _ | .bad _ => by
    unfold exprFindings
    exact List.forall_mem_nil _

theorem ordinary_exprsFindings (site : Site) : (exprs : List Expr) ->
    ∀ finding ∈ exprsFindings view site exprs, finding.isAboutFlow = false
  | [] => by
    unfold exprsFindings
    exact List.forall_mem_nil _
  | expr :: rest => by
    unfold exprsFindings
    exact List.forall_mem_append.mpr
      ⟨ordinary_exprFindings site expr, ordinary_exprsFindings site rest⟩

end

theorem ordinary_exprFindings? (site : Site) (expr : Option Expr) :
    ∀ finding ∈ exprFindings? view site expr, finding.isAboutFlow = false := by
  cases expr with
  | none => exact List.forall_mem_nil _
  | some expr => exact ordinary_exprFindings site expr

/-! ### Findings about statements -/

/-- A jump is loose where no loop is around it. -/
theorem accounts_jump {finding : Finding} (isLoose : looseJump? stmt = some finding)
    (heeded : here.heeded = true) :
    Accounts (if here.site.inLoop then [] else [finding]) [(stmt, here)] where
  loose other isJump := by
    have inLoop : here.site.inLoop = here.loop.isSome := rfl
    rw [inLoop]
    constructor
    · intro isOther
      split at isOther
      · cases isOther
      · rename_i noLoop
        rw [List.mem_singleton.mp isOther]
        exact ⟨stmt, here, List.mem_singleton_self _, heeded, by simpa using noLoop, isLoose⟩
    · rintro ⟨_, _, isEntry, _, noLoop, isOther⟩
      cases List.mem_singleton.mp isEntry
      rw [isLoose, Option.some.injEq] at isOther
      simp [noLoop, isOther]
  dead other span isOther isDead := by
    split at isOther
    · cases isOther
    · rw [List.mem_singleton.mp isOther] at isDead
      cases stmt with
      | brk | cont =>
        cases isLoose
        cases isDead
      | _ => cases isLoose

/-- What is said behind the end of a list is said of its later statements alone. -/
theorem accounts_dead (strict : Bool) (closer : Terminator) (body : List Stmt)
    (ended : here.heeded = false) :
    Accounts (deadFindings strict closer body) (censusAll here body) := by
  have each : ∀ finding ∈ deadFindings strict closer body,
      ∃ stmt ∈ body, finding.dead? = some stmt.span := by
    intro finding isFinding
    rw [deadFindings_eq, List.mem_mapIdx] at isFinding
    obtain ⟨index, inside, isFinding⟩ := isFinding
    refine ⟨body[index], List.getElem_mem inside, ?_⟩
    rw [← isFinding]
    split <;> rfl
  refine ⟨?_, ?_⟩
  · intro finding isLoose
    refine ⟨fun isFinding => ?_, ?_⟩
    · obtain ⟨stmt, _, isDead⟩ := each finding isFinding
      rw [Finding.dead?_of_isLooseJump isLoose] at isDead
      cases isDead
    · rintro ⟨stmt, other, isEntry, heeded, _⟩
      rw [not_heeded body ended _ isEntry] at heeded
      cases heeded
  · intro finding span isFinding isDead
    obtain ⟨stmt, isStmt, isPlace⟩ := each finding isFinding
    refine ⟨stmt, Option.some.inj (isPlace.symm.trans isDead), fun part isPart => ?_⟩
    have isListed : part ∈ (censusAll here body).map Prod.fst := by
      rw [map_fst_censusAll, Stmt.partsAll_eq]
      exact List.mem_flatMap.mpr ⟨stmt, isStmt, isPart⟩
    obtain ⟨⟨_, other⟩, isEntry, rfl⟩ := List.mem_map.mp isListed
    exact ⟨other, isEntry, not_heeded body ended _ isEntry⟩

mutual

/-- What is said about a heeded statement is what its census calls for. -/
theorem accounts_stmt (view : View) : (stmt : Stmt) -> (here : Standing) -> here.heeded = true ->
    Accounts (stmtFindings view here.site stmt) (census here stmt)
  | .ret value span, here, _ => by
    unfold stmtFindings census
    refine .behind (ordinary_exprFindings? _ value) (.alone rfl ?_)
    split
    · exact List.forall_mem_nil _
    · exact List.forall_mem_singleton.mpr rfl
  | .brk span, here, heeded | .cont span, here, heeded => by
    unfold stmtFindings census
    exact accounts_jump rfl heeded
  | .block body span, here, heeded => by
    unfold stmtFindings census
    exact .around rfl (accounts_stmts view body here heeded)
  | .cond test body bodySpan otherwise span, here, heeded => by
    unfold stmtFindings census
    rw [List.append_assoc]
    exact .behind (ordinary_exprFindings _ test) (.around rfl
      ((accounts_stmts view body here heeded).append (accounts_stmt? view otherwise here heeded)))
  | .whileLoop test body bodySpan span, here, heeded => by
    unfold stmtFindings census
    exact .behind (ordinary_exprFindings _ test) (.around rfl
      (accounts_stmts view body (here.inside _) heeded))
  | .loop body bodySpan span, here, heeded => by
    unfold stmtFindings census
    exact .around rfl (accounts_stmts view body (here.inside _) heeded)
  | .forLoop first test after body bodySpan span, here, heeded => by
    unfold stmtFindings census
    exact .around rfl ((((accounts_stmt? view first here.clause heeded).ahead
      (ordinary_exprFindings? _ test)).append
        (accounts_stmt? view after (here.inside _).clause heeded)).append
        (accounts_stmts view body (here.inside _) heeded))
  | .expr value, here, _ => by
    unfold stmtFindings census
    exact .alone rfl (ordinary_exprFindings _ value)
  | .letIn binding, here, _ => by
    unfold stmtFindings census
    exact .alone rfl (ordinary_exprFindings? _ binding.value)
  | .const decl, here, _ => by
    unfold stmtFindings census
    exact .alone rfl (ordinary_exprFindings? _ decl.value)
  | .assign target value _, here, _ => by
    unfold stmtFindings census
    exact .behind (ordinary_exprFindings _ target) (.alone rfl (ordinary_exprFindings _ value))
  | .instr binding, here, _ => by
    unfold stmtFindings census
    exact .behind (ordinary_requireBody _ _ _) (.alone rfl (ordinary_exprFindings? _ binding.value))
  | .write target value span, here, _ => by
    unfold stmtFindings census
    rw [List.append_assoc]
    exact .behind (ordinary_requireBody _ _ _)
      (.behind (ordinary_exprFindings _ target) (.alone rfl (ordinary_exprFindings _ value)))
  | .struct _, here, _ | .bad _, here, _ => by
    unfold stmtFindings census
    exact .alone rfl (List.forall_mem_nil _)

theorem accounts_stmt? (view : View) : (stmt : Option Stmt) -> (here : Standing) ->
    here.heeded = true -> Accounts (stmtFindings? view here.site stmt) (census? here stmt)
  | none, _, _ => .aside (List.forall_mem_nil _)
  | some stmt, here, heeded => accounts_stmt view stmt here heeded

/-- What is said about heeded statements is what their census calls for. -/
theorem accounts_stmts (view : View) : (body : List Stmt) -> (here : Standing) ->
    here.heeded = true -> Accounts (stmtsFindings view here.site body) (censusAll here body)
  | [], _, _ => .aside (List.forall_mem_nil _)
  | stmt :: rest, here, heeded => by
    unfold stmtsFindings censusAll
    refine (accounts_stmt view stmt here heeded).append ?_
    rw [closes?_eq]
    cases ends : endsList here.site stmt with
    | false =>
      have still : (here.behind stmt).heeded = true := by
        simp [Standing.behind, heeded, ends]
      exact accounts_stmts view rest (here.behind stmt) still
    | true =>
      have ended : (here.behind stmt).heeded = false := by
        simp [Standing.behind, ends]
      obtain ⟨kind, isKind⟩ := terminator?_of_endsList ends
      simp only [if_true, isKind]
      exact accounts_dead view.strict kind rest ended

end

/-! ### Whole units -/

/-- How stray statements stand in a unit: in front of them all other code completes. -/
def astray : Standing := ⟨false, none, true, true⟩

/-- The census of all statements of a unit: those of its bodies, and the stray ones as one
list. -/
def unitCensus (items : List Item) : List (Stmt × Standing) :=
  items.flatMap (fun item => censusAll .body item.body) ++ censusAll astray (strays items)

theorem accounts_item (session : Session) (item : Item) :
    Accounts (itemFindings session view item) (censusAll .body item.body) := by
  cases item with
  | function decl =>
    simp only [itemFindings, Item.body]
    cases decl.body with
    | none => exact .aside (List.forall_mem_nil _)
    | some body =>
      have missing : ∀ finding ∈ (missingReturn? session decl body).toList,
          finding.isAboutFlow = false := by
        intro finding isMissing
        unfold missingReturn? at isMissing
        grind [Finding.isAboutFlow, Finding.dead?, Finding.isLooseJump]
      exact (accounts_stmts view body.stmts .body rfl).ahead missing
  | entry decl => exact accounts_stmts view decl.body.stmts .body rfl
  | const decl => exact .aside (ordinary_exprFindings? _ decl.value)
  | static decl => exact .aside (ordinary_exprFindings? _ decl.value)
  | enum decl =>
    refine .aside (List.forall_mem_flatMap.mpr fun variant _ => ?_)
    exact ordinary_exprFindings? _ variant.value
  | asm | struct | typeAlias | stray => exact .aside (List.forall_mem_nil _)

/-- What the last pass says is what the census of the unit calls for. -/
theorem accounts_findings (session : Session) :
    Accounts (Lint.findings session) (unitCensus session.items) :=
  (Accounts.flatMap fun item _ => accounts_item session item).append
    (accounts_stmts (viewOf session) (strays session.items) astray rfl)

/-- A census lists statements with the places where they start. -/
theorem map_node_censusAll (here : Standing) (body : List Stmt) :
    (censusAll here body).map (·.1.span.node) = Stmt.startsAll body := by
  rw [Stmt.startsAll, ← map_fst_censusAll body here, List.map_map]
  rfl

/-- The census of a unit lists each statement of its items once. -/
theorem unitCensus_perm (items : List Item) :
    ((unitCensus items).map (·.1.span.node)).Perm
      (items.flatMap fun item => Stmt.startsAll item.stmts) := by
  simp only [unitCensus, List.map_append, List.map_flatMap, map_node_censusAll]
  induction items with
  | nil => exact .refl _
  | cons item rest inductionHypothesis =>
    cases item with
    | stray stmt =>
      have unstray : strays (.stray stmt :: rest) = stmt :: strays rest := rfl
      simp only [List.flatMap_cons, unstray, Stmt.startsAll_cons, Item.body, Item.stmts,
        Stmt.startsAll_nil, List.nil_append, List.append_nil]
      refine .trans ?_ (inductionHypothesis.append_left _)
      rw [← List.append_assoc, ← List.append_assoc]
      exact List.perm_append_comm.append_right _
    | function | asm | entry | enum | const | static | struct | typeAlias =>
      simp only [List.flatMap_cons, List.append_assoc]
      exact inductionHypothesis.append_left _

/-- In a decoded unit a statement stands in one way only. -/
theorem eq_of_unitCensus {file text : String} {unit : Module}
    (read : Module.decode file text = .ok unit) {one other : Stmt × Standing}
    (isOne : one ∈ unitCensus unit.items) (isOther : other ∈ unitCensus unit.items)
    (same : one.1.span = other.1.span) : one = other := by
  have distinct := (unitCensus_perm unit.items).nodup_iff.mpr (Module.nodup_starts read)
  exact List.inj_on_of_nodup_map distinct isOne isOther (congrArg Span.node same)

/-! ### Agreement -/

variable {file text : String} {unit : Module} {session : Session} {item : Item} {body : Body}

/-- The census of a body is part of that of its unit. -/
theorem sublist_unitCensus (isItem : item ∈ unit.items) (hasBody : item.ownBody? = some body) :
    List.Sublist (censusAll .body body.stmts) (unitCensus unit.items) := by
  have same : item.body = body.stmts := by
    cases item with
    | function decl =>
      have isBody : decl.body = some body := hasBody
      simp only [Item.body, isBody]
    | entry decl =>
      cases hasBody
      rfl
    | _ => cases hasBody
  rw [← same]
  refine List.Sublist.trans ?_ (List.sublist_append_left _ _)
  obtain ⟨before, after, split⟩ := List.append_of_mem isItem
  rw [split, List.flatMap_append, List.flatMap_cons]
  exact (List.sublist_append_left _ _).trans (List.sublist_append_right _ _)

/-- What the last pass reports is what the census of the unit calls for. -/
theorem accounts_report (items : session.items = unit.items) :
    Accounts (Pass.lint.report session).all (unitCensus unit.items) := by
  rw [report_lint, ← items]
  exact accounts_findings session

/-- Nothing that the last pass calls dead is in a block of a flow graph, nor is anything
inside it. -/
theorem not_mem_block_of_dead (read : Module.decode file text = .ok unit)
    (items : session.items = unit.items) (isItem : item ∈ unit.items)
    (hasBody : item.ownBody? = some body) (place : Span) {stmt part : Stmt} {finding : Finding}
    (isStmt : stmt ∈ Stmt.partsAll body.stmts)
    (isFinding : finding ∈ (Pass.lint.report session).all)
    (isDead : finding.dead? = some stmt.span) (isPart : part ∈ stmt.parts) :
    ∀ block ∈ (Flow.graph (some body) place).blocks, part ∉ block.stmts := by
  intro block isBlock inBlock
  have inUnit := (sublist_unitCensus isItem hasBody).subset
  obtain ⟨here, isEntry, reached⟩ :=
    (accounted_graph body place block isBlock).stmts part inBlock
  have heeded := heeded_of_reached body.stmts _ isEntry reached
  obtain ⟨dead, isPlace, parts⟩ :=
    (accounts_report items).dead finding stmt.span isFinding isDead
  -- the dead statement is the one that stands at the place of the finding
  have same : dead = stmt := by
    obtain ⟨_, isDeadEntry, _⟩ := parts dead dead.self_mem_parts
    rw [← map_fst_censusAll body.stmts .body] at isStmt
    obtain ⟨⟨_, _⟩, isStmtEntry, rfl⟩ := List.mem_map.mp isStmt
    exact congrArg Prod.fst (eq_of_unitCensus read isDeadEntry (inUnit isStmtEntry) isPlace)
  subst same
  obtain ⟨there, isDeadEntry, unheeded⟩ := parts part isPart
  cases eq_of_unitCensus read isDeadEntry (inUnit isEntry) rfl
  rw [heeded] at unheeded
  cases unheeded

/-- The last pass says of a heeded jump that no loop is around it exactly where there is
none. -/
theorem loose_iff (read : Module.decode file text = .ok unit)
    (items : session.items = unit.items) {stmt : Stmt} {here : Standing} {ending : Ending}
    (isEntry : (stmt, here) ∈ unitCensus unit.items) (heeded : here.heeded = true)
    (isJump : jumpEnding? stmt = some ending) :
    .breakOutsideLoop stmt.span ∈ (Pass.lint.report session).all ∨
      .continueOutsideLoop stmt.span ∈ (Pass.lint.report session).all ↔ here.loop = none := by
  have accounts := accounts_report items
  have noLoop {finding : Finding} (isLoose : finding.isLooseJump = true)
      (place : ∀ other, looseJump? other = some finding → other.span = stmt.span)
      (isFinding : finding ∈ (Pass.lint.report session).all) : here.loop = none := by
    obtain ⟨other, there, isOther, _, noLoop, isJump⟩ :=
      (accounts.loose finding isLoose).mp isFinding
    cases eq_of_unitCensus read isOther isEntry (place other isJump)
    exact noLoop
  refine ⟨?_, fun none => ?_⟩
  · rintro (isBreak | isContinue)
    · refine noLoop rfl (fun other isJump => ?_) isBreak
      cases other <;> cases isJump
      rfl
    · refine noLoop rfl (fun other isJump => ?_) isContinue
      cases other <;> cases isJump
      rfl
  · cases stmt with
    | brk => exact .inl ((accounts.loose _ rfl).mpr ⟨_, here, isEntry, heeded, none, rfl⟩)
    | cont => exact .inr ((accounts.loose _ rfl).mpr ⟨_, here, isEntry, heeded, none, rfl⟩)
    | _ => cases isJump

/-- What is reported about a body agrees with its flow graph. -/
structure Agrees (reported : List Finding) (body : Body) (graph : Graph) : Prop where
  /-- No statement that is called a repeated end or out of reach is in a block, nor is
  anything inside it. -/
  dead : ∀ stmt ∈ Stmt.partsAll body.stmts, ∀ finding ∈ reported,
    finding.dead? = some stmt.span → ∀ part ∈ stmt.parts, ∀ block ∈ graph.blocks,
      part ∉ block.stmts
  /-- A block that ends with a break or a continue leads nowhere exactly if the jump is
  reported to be without a loop. Otherwise it leads only behind the innermost loop around the
  jump or to the header of that loop, and these two are the only blocks besides the entry that
  belong to the loop as a whole. -/
  jumps : ∀ block ∈ graph.blocks, block.ending = .brk ∨ block.ending = .cont →
    ∃ stmt here, block.stmts.getLast? = some stmt ∧ jumpEnding? stmt = some block.ending ∧
      (stmt, here) ∈ censusAll .body body.stmts ∧
      (graph.successors block.id = [] ↔
        .breakOutsideLoop stmt.span ∈ reported ∨ .continueOutsideLoop stmt.span ∈ reported) ∧
      (graph.successors block.id ≠ [] → ∃ loop targets, here.loop = some loop ∧
        graph.LoopAt loop targets ∧
        (∀ other ∈ graph.blocks, other.id ≠ Graph.entry → other.place = some loop.span →
          other.branch = none → other.id = targets.header ∨ other.id = targets.behind) ∧
        graph.successors block.id =
          [if block.ending = .brk then targets.behind else targets.header])

/-- What the last pass reports about the bodies of a decoded unit agrees with their flow
graphs. -/
theorem report_agrees_with_graph (read : Module.decode file text = .ok unit)
    (items : session.items = unit.items) (isItem : item ∈ unit.items)
    (hasBody : item.ownBody? = some body) (place : Span) :
    Agrees (Pass.lint.report session).all body (Flow.graph (some body) place) := by
  refine ⟨fun stmt isStmt finding isFinding isDead part isPart =>
    not_mem_block_of_dead read items isItem hasBody place isStmt isFinding isDead isPart, ?_⟩
  intro block isBlock ends
  have jumps : block.ending.jumps = true := by
    rcases ends with ending | ending <;> rw [ending] <;> rfl
  obtain ⟨stmt, here, isLast, isJump, isEntry, reached, leads⟩ :=
    (accounted_graph body place block isBlock).jump jumps
  have heeded := heeded_of_reached body.stmts _ isEntry reached
  have inUnit := (sublist_unitCensus isItem hasBody).subset isEntry
  have distinct : (Stmt.startsAll body.stmts).Nodup := by
    rw [← map_node_censusAll .body]
    exact ((unitCensus_perm unit.items).nodup_iff.mpr (Module.nodup_starts read)).sublist
      ((sublist_unitCensus isItem hasBody).map _)
  have loose := loose_iff read items inUnit heeded isJump
  refine ⟨stmt, here, isLast, isJump, isEntry, ?_, ?_⟩
  · rw [loose]
    cases loop : here.loop with
    | none => simpa [Graph.Leads, loop] using leads
    | some loop =>
      rw [loop] at leads
      obtain ⟨targets, _, goal⟩ := leads
      simp [goal]
  · intro leaves
    cases around : here.loop with
    | none =>
      rw [around] at leads
      exact absurd leads leaves
    | some loop =>
      rw [around] at leads
      obtain ⟨targets, isLoop, goal⟩ := leads
      exact ⟨loop, targets, rfl, isLoop, isLoop.only distinct, goal⟩

/-- A loop that is left at once, and a continue behind it. -/
def leftLoop : Body :=
  ⟨[.loop [.brk (.ofLine 34 41), .brk (.ofLine 42 49)] (.ofLine 27 50) (.ofLine 21 51),
    .cont (.ofLine 52 62)], .ofLine 14 63⟩

/-- A unit with a function of that body. -/
def leftLoopUnit : Module :=
  ⟨"unit", [.function ⟨[], some ⟨"f", .ofLine 4 5⟩, [], some (.named "void" (.ofLine 9 13)),
    some leftLoop, .ofLine 0 64⟩], some (.ofLine 0 64)⟩

/-- The pass and the graph agree about the unit: nothing repeats the break that is in a block,
and the continue leads nowhere. -/
theorem report_agrees_with_graph_leftLoop :
    Module.decode "unit" "(fn f () void (block (loop (block (break) (break))) (continue)))" =
        .ok leftLoopUnit ∧
      (Session.ahead (some leftLoopUnit) .standard .lint).items = leftLoopUnit.items ∧
      Agrees (Pass.lint.report (.ahead (some leftLoopUnit) .standard .lint)).all leftLoop
        (Flow.graph (some leftLoop) (.ofLine 0 64)) := by
  have read : Module.decode "unit"
      "(fn f () void (block (loop (block (break) (break))) (continue)))" = .ok leftLoopUnit :=
    Module.decode_chars (by cbv)
  have items := items_ahead (some leftLoopUnit) .standard .lint
  exact ⟨read, items, report_agrees_with_graph read items List.mem_cons_self rfl (.ofLine 0 64)⟩

end Lint
end UnitCheck
