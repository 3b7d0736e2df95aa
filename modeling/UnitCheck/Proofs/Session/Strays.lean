import UnitCheck.Proofs.Typing.Reach
import UnitCheck.Proofs.Typing.Soundness

/-!
# Statements outside of all declarations

A block that stands where a declaration should be is taken in: its names are resolved and
its control flow is judged, and nothing is reported. Typing passes it by. So code may be
generated from a unit in which no expression of such a block has a type. Any other
statement in the place of a declaration is reported.

A finding is a bug when it stands for a broken assumption of the checks themselves. A
binding outside of all declarations breaks one: it is reported as no declaration, and yet
the second pass goes on to bind it where no frame is open.
-/

namespace UnitCheck

/-- The statement is a block. -/
def Stmt.IsBlock (stmt : Stmt) : Prop := ∃ body span, stmt = .block body span

/-- All of the items that are statements are blocks. -/
def StraysAreBlocks (items : List Item) : Prop := ∀ stmt, .stray stmt ∈ items → stmt.IsBlock

namespace Declare

theorem ensures_stray_collectItem (entry : Option Span) (item : Item) :
    Ensures (fun _ => True) (collectItem entry item) fun _ _ => StraysAreBlocks [item] := by
  have grows := obeys_collectItem mayDeclare_free.mayCollect entry item
  by_cases blocks : StraysAreBlocks [item]
  · exact (Ensures.ofObeys grows).mono (fun _ holds => holds) fun _ _ _ => blocks
  · -- anything else in the place of a declaration is reported
    have reported : ∃ finding : Finding, finding.isFatal = true ∧ collectItem entry item = (do
        Check.report finding
        return (entry, none)) := by
      cases item with
      | stray stmt =>
        cases stmt with
        | block body span =>
          refine absurd (fun stmt isItem => ?_) blocks
          cases List.mem_singleton.mp isItem
          exact ⟨body, span, rfl⟩
        | _ => exact ⟨_, rfl, rfl⟩
      | _ =>
        refine absurd (fun stmt isItem => ?_) blocks
        cases List.mem_singleton.mp isItem
    obtain ⟨finding, fatal, same⟩ := reported
    rw [same]
    exact .refused (.report fatal) fun _ => .pure _

theorem ensures_strays_collect (items : List Item) (entry : Option Span) :
    Ensures (fun _ => True) (collect entry items) fun _ _ => StraysAreBlocks items := by
  induction items generalizing entry with
  | nil => exact .stay fun _ _ _ impossible => by cases impossible
  | cons item rest inductionHypothesis =>
    unfold collect
    refine (ensures_stray_collectItem entry item).bind fun outcome => ?_
    have stays : Lasting fun _ => StraysAreBlocks [item] := fun _ _ holds => holds
    refine (((inductionHypothesis outcome.1).keep stays).mono (fun _ holds => ⟨trivial, holds⟩)
      fun _ _ holds => holds).bind fun _ => .stay fun _ holds stmt isItem => ?_
    obtain ⟨ofRest, ofItem⟩ := holds
    obtain isFirst | isLater := List.mem_cons.mp isItem
    · exact ofItem stmt (List.mem_singleton.mpr isFirst)
    · exact ofRest stmt isLater

/-- Behind a quiet first pass every statement outside of all declarations is a block. -/
theorem strays_after_walk {session : Session} (quiet : (session.after walk).Quiet) :
    StraysAreBlocks session.items := by
  have ensures (items : List Item) :
      Ensures (fun _ => True) (walkOver items) fun _ _ => StraysAreBlocks items := by
    refine (Ensures.ofObeys (obeys_declareIntrinsics mayDeclare_free.mayCollect 0 intrinsics)).bind fun _ => ?_
    have stays : Lasting fun _ => StraysAreBlocks items := fun _ _ holds => holds
    refine ((ensures_strays_collect items none).mono (fun _ holds => holds)
      fun _ _ holds => holds).bind fun pending => ?_
    exact ((ensures_resolveSignatures pending).keep stays).mono (fun _ holds => ⟨trivial, holds⟩)
      fun _ _ holds => holds.2
  rw [after_walk, walkOver_bare] at quiet
  exact (ensures session.items).ensures session trivial quiet

end Declare

/-- Of a unit that code may be generated from, every statement outside of all declarations is
a block. -/
theorem strays_of_canGenerate {unit : Module} {options : Options}
    (accepted : (Session.check (some unit) options).canGenerate = true) :
    StraysAreBlocks unit.items := by
  have noErrors : (Session.check (some unit) options).bag.hasErrors = false := by
    unfold Session.canGenerate at accepted
    simp only [Bool.and_eq_true, Bool.not_eq_true'] at accepted
    exact accepted.1
  have quiet := (Session.quiet_iff _).mp noErrors
  obtain ⟨declare, scope, typeCheck, first, second, third, findings, passes, progress, last⟩ :=
    check_typed (some unit) options
  rw [last] at quiet
  have quietTyped : (typeCheck.after Typing.walk).Quiet := quiet.of_prefix (List.prefix_append _ _)
  have quietScope := third.quiet (quiet_before_walk .typeCheck quietTyped)
  have quietDeclare := second.quiet (quiet_before_walk .scope quietScope)
  have blocks := Declare.strays_after_walk quietDeclare
  rw [first.items] at blocks
  exact blocks

namespace Typing

/-- No expression of a statement outside of all declarations has a type, and code is only
generated when such a statement is a block. -/
theorem stray_untyped {file text : String} {unit : Module}
    (read : Module.decode file text = .ok unit) (options : Options) {stmt : Stmt}
    (isItem : .stray stmt ∈ unit.items) :
    (∀ part ∈ stmt.parts, ∀ expr ∈ part.ownExprs, ∀ sub ∈ expr.parts,
        ∀ type, ¬Recorded (Session.check (some unit) options) sub.node type) ∧
      ((Session.check (some unit) options).canGenerate = true → stmt.IsBlock) := by
  refine ⟨fun part isPart expr isOwn sub isSub type recorded => ?_,
    fun accepted => strays_of_canGenerate accepted stmt isItem⟩
  obtain ⟨base, ready, findings, passes, progress, last⟩ := check_ready read options
  have isSite : sub.node ∈ Stmt.sitesAll (Item.stray stmt).stmts := by
    have inStmt := Stmt.sites_subset_of_ownExpr isPart isOwn (Expr.node_mem_sites_of_part isSub)
    simpa [Item.stmts] using inStmt
  have isInner : sub.node ∈ (Item.stray stmt).inner := by
    simp only [Item.inner, List.mem_append, isSite, or_true, true_or]
  have visited := (visited_typeBodies (spread_of_decode read) ready.housed ready.checked).1
  have untouched := (ready.untouched _ isItem _ isSite).expr
  -- typing visits the statement as an item without a body
  have kept : ((base.after (typeBodies unit.items)).entry sub.node).expr = none := by
    rw [(visited.own _ isItem _ isInner).1]
    exact untouched
  rw [last] at recorded
  have none : (base.after (typeBodies unit.items)).facts.exprs.find? sub.node = none := kept
  cases none.symm.trans recorded

/-- The literal of a block. -/
def strayLiteral : Expr := .literal ⟨.integer, "1", .ofLine 7 8⟩

/-- A block with the literal. -/
def strayBlock : Stmt := .block [.expr strayLiteral] (.ofLine 0 9)

/-- A unit that consists of the block. -/
def strayBlockUnit : Module := ⟨"unit", [.stray strayBlock], some (.ofLine 0 9)⟩

/-- The literal has no type, and the statement that holds it is a block. -/
theorem stray_untyped_block :
    Module.decode "unit" "(block 1)" = .ok strayBlockUnit ∧
      (∀ type, ¬Recorded (Session.check (some strayBlockUnit) .standard) strayLiteral.node type) ∧
      strayBlock.IsBlock := by
  have read : Module.decode "unit" "(block 1)" = .ok strayBlockUnit := Module.decode_chars (by cbv)
  have isPart : Stmt.expr strayLiteral ∈ strayBlock.parts := .tail _ (.head _)
  have isOwn : strayLiteral ∈ (Stmt.expr strayLiteral).ownExprs := .head _
  have accepted : (Session.check (some strayBlockUnit) .standard).canGenerate = true := by
    decide +kernel
  obtain ⟨untyped, isBlock⟩ := stray_untyped read .standard List.mem_cons_self
  exact ⟨read, untyped _ isPart _ isOwn _ strayLiteral.self_mem_parts, isBlock accepted⟩

/-- A block whose local cannot have its value. -/
def strayLocal : Stmt :=
  .block [.letIn ⟨⟨"a", .ofLine 12 13⟩, some (.named "s32" (.ofLine 14 17)),
    some (.literal ⟨.boolean, "true", .ofLine 18 22⟩), false, .ofLine 7 23⟩] (.ofLine 0 24)

/-- Code may be generated from units in which an expression has no type: a literal in a block
outside of all declarations, and there even a value that its local cannot have. -/
theorem untyped_unreported :
    (Module.decode "unit" "(block 1)" = .ok strayBlockUnit ∧
      (Session.check (some strayBlockUnit) .standard).canGenerate = true ∧
      (Session.check (some strayBlockUnit) .standard).facts.exprs.find? strayLiteral.node = none) ∧
    ∃ unit, Module.decode "unit" "(block (let a s32 true))" = .ok unit ∧
      unit.items = [.stray strayLocal] ∧
      (Session.check (some unit) .standard).canGenerate = true ∧
      (Session.check (some unit) .standard).facts.exprs.find? 18 = none := by
  have untyped (unit : Module) (node : NodeId)
      (isNone : ((Session.check (some unit) .standard).facts.exprs.find? node).isNone = true) :
      (Session.check (some unit) .standard).facts.exprs.find? node = none :=
    Option.isNone_iff_eq_none.mp isNone
  exact ⟨⟨Module.decode_chars (by cbv), by decide +kernel, untyped _ _ (by decide +kernel)⟩,
    ⟨"unit", [.stray strayLocal], some (.ofLine 0 24)⟩, Module.decode_chars (by cbv), rfl,
    by decide +kernel, untyped _ _ (by decide +kernel)⟩

end Typing

/-! ### Bindings outside of all declarations -/

namespace Resolve

/-- Where no frame is open, a local is reported and not bound. -/
theorem findings_declareLocal {session : Session} (frames : session.table.frames = [])
    (node : NodeId) (name : Ident) (symbol : Symbol) (known : SymbolType) :
    (session.after (declareLocal node name symbol known)).findings =
      session.findings ++ [.localOutsideScope name] := by
  have refused : session.table.declareLocal symbol = .error .noScope := by
    unfold Table.declareLocal
    rw [frames]
  have bound : (bindLocal node symbol known).run session = (some .noScope, session) := by
    unfold bindLocal
    rw [StateT.run_bind, StateT.run_get, pure_bind]
    simp only [refused]
    rfl
  unfold Session.after declareLocal
  rw [StateT.run_bind, bound]
  rfl

/-- Outside of all blocks a binding is reported. -/
theorem localOutsideScope_of_binding {session : Session} (locals : session.table.locals = [])
    (frames : session.table.frames = []) (kind : SymbolKind) (binding : BindingDecl) :
    .localOutsideScope binding.name ∈ session.finds (resolveBinding kind binding) := by
  have table : session.table = Lexical.Scope.table ⟨session.table.globals, []⟩ := by
    cases shown : session.table
    simp_all [Lexical.Scope.table, Lexical.starts]
  -- Neither the value nor the written type opens a block.
  have ahead : Lexical.Meets (fun _ => True) ⟨session.table.globals, []⟩ _
      ⟨session.table.globals, []⟩ (do
        resolveExpr? binding.value
        Check.typeOf? binding.type) :=
    (Lexical.meets_resolveExpr? _).bind fun _ => Lexical.meets_typeOf? _
  obtain ⟨tableAhead, -, found, isFound, -, -⟩ := ahead session table
  have outcome : session.after (resolveBinding kind binding) =
      (fun middle : Option Ty × Session => middle.2.after (declareLocal binding.span.node
        binding.name { Symbol.plain (.node binding.span.node) binding.name.name kind
          (some binding.name.span) with isMutable := binding.isMutable } (.ofType middle.1)))
        ((do
          resolveExpr? binding.value
          Check.typeOf? binding.type : Check (Option Ty)).run session) := rfl
  have framesAhead : ((do
      resolveExpr? binding.value
      Check.typeOf? binding.type : Check (Option Ty)).run session).2.table.frames = [] := by
    rw [tableAhead]
    rfl
  have added : (session.after (resolveBinding kind binding)).findings =
      session.findings ++ (found ++ [.localOutsideScope binding.name]) := by
    rw [outcome]
    simp only
    rw [findings_declareLocal framesAhead, isFound, List.append_assoc]
  rw [Session.finds_eq added]
  exact List.mem_append_right _ List.mem_cons_self

end Resolve

/-- A binding outside of all declarations makes every check of its unit report a bug. -/
theorem localOutsideScope_of_stray {file text : String} {unit : Module}
    (read : Module.decode file text = .ok unit) {stmt : Stmt} {binding : BindingDecl}
    (isItem : .stray stmt ∈ unit.items) (binds : stmt = .letIn binding ∨ stmt = .instr binding)
    (options : Options) :
    .localOutsideScope binding.name ∈ (Session.check (some unit) options).findings := by
  obtain ⟨start, scope, typeCheck, attributes, lint, last, -⟩ := check_walks (some unit) options
  have housed := (Declare.housed_walk (Module.nodup_sites read) start).showsAs scope.showsAs
  have isUnit : (Session.ahead (some unit) options .scope).items = unit.items := by
    rw [scope.items, items_after_walk, start.items]
    rfl
  have visited := Resolve.visited_walk (spread_of_decode read) housed isUnit
  have found : .localOutsideScope binding.name ∈
      (Session.ahead (some unit) options .scope).finds (Resolve.resolveItem (.stray stmt)) := by
    obtain rfl | rfl := binds
    · exact Resolve.localOutsideScope_of_binding housed.locals housed.frames .localVar binding
    · exact Resolve.localOutsideScope_of_binding housed.locals housed.frames .lowLevel binding
  have resolved : .localOutsideScope binding.name ∈
      ((Session.ahead (some unit) options .scope).after Pass.scope.walk).findings := by
    rw [Pass.walk_scope, visited.findings]
    exact List.mem_append_right _ (List.mem_flatMap.mpr ⟨_, isItem, found⟩)
  rw [last.findings]
  refine (findings_after_walk .lint _).subset ?_
  rw [lint.findings]
  refine (findings_after_walk .attributes _).subset ?_
  rw [attributes.findings]
  refine (findings_after_walk .typeCheck _).subset ?_
  rw [typeCheck.findings]
  exact resolved

/-- A unit that consists of a binding. -/
def strayUnit : Module :=
  ⟨"unit", [.stray (.letIn ⟨⟨"a", .ofLine 5 6⟩, some (.named "u16" (.ofLine 7 10)),
    some (.literal ⟨.integer, "1", .ofLine 11 12⟩), false, .ofLine 0 13⟩)], some (.ofLine 0 13)⟩

/-- A check of a text that can be decoded reports a bug. -/
theorem bug_on_stray_binding :
    Module.decode "unit" "(let a u16 1)" = .ok strayUnit ∧
      ∃ finding ∈ (Session.check (some strayUnit) .standard).findings, finding.severity = .bug := by
  have read : Module.decode "unit" "(let a u16 1)" = .ok strayUnit :=
    Module.decode_chars (by cbv)
  have found := localOutsideScope_of_stray read List.mem_cons_self (.inl rfl) .standard
  exact ⟨read, _, found, rfl⟩

end UnitCheck
