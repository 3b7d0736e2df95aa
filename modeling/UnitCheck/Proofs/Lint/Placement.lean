import UnitCheck.Proofs.Session.Isolation
import UnitCheck.Tree.Decode

/-!
# Pieces that stand in their place

The last pass walks a unit with a summary of what is around it, skips the operands of
misplaced instructions and does not enter what no control reaches. `Stands` says without
that walk which statements and expressions a unit holds and what encloses them. Where
unreachable code is an error, a pass without errors has overlooked nothing: every piece
stands where it may.
-/

namespace UnitCheck

/-- What may stand around a piece of a unit. -/
inductive Enclosure where
  /-- The body of a function or an entrypoint. -/
  | body
  | loopBody
  /-- The clause of a loop that runs behind each of its rounds. -/
  | afterClause
  /-- The initializer of a constant, global or not. -/
  | constant
deriving DecidableEq

/-- A piece of a unit: a list of statements, one statement, or an expression. -/
inductive Piece where
  | stmts (list : List Stmt)
  | stmt (stmt : Stmt)
  | expr (expr : Expr)

/-- The items hold a piece, and these are around it, the innermost first. -/
inductive Stands (items : List Item) : List Enclosure → Piece → Prop where
  | function {decl : FunctionDecl} {body : Body} (isItem : .function decl ∈ items)
      (hasBody : decl.body = some body) : Stands items [.body] (.stmts body.stmts)
  | entry {decl : EntryDecl} (isItem : .entry decl ∈ items) :
      Stands items [.body] (.stmts decl.body.stmts)
  /-- The statements outside of all declarations make one list. -/
  | strays : Stands items [] (.stmts (Lint.strays items))
  | const {decl : ConstDecl} {value : Expr} (isItem : .const decl ∈ items)
      (hasValue : decl.value = some value) : Stands items [.constant] (.expr value)
  | static {decl : StaticDecl} {value : Expr} (isItem : .static decl ∈ items)
      (hasValue : decl.value = some value) : Stands items [] (.expr value)
  | variant {decl : EnumDecl} {variant : VariantDecl} {value : Expr}
      (isItem : .enum decl ∈ items) (isVariant : variant ∈ decl.variants)
      (hasValue : variant.value = some value) : Stands items [] (.expr value)
  | member {around : List Enclosure} {list : List Stmt} {stmt : Stmt}
      (outer : Stands items around (.stmts list)) (isMember : stmt ∈ list) :
      Stands items around (.stmt stmt)
  | block {around : List Enclosure} {body : List Stmt} {span : Span}
      (outer : Stands items around (.stmt (.block body span))) :
      Stands items around (.stmts body)
  | branch {around : List Enclosure} {test : Expr} {body : List Stmt} {bodySpan : Span}
      {otherwise : Option Stmt} {span : Span}
      (outer : Stands items around (.stmt (.cond test body bodySpan otherwise span))) :
      Stands items around (.stmts body)
  | otherwise {around : List Enclosure} {test : Expr} {body : List Stmt} {bodySpan : Span}
      {stmt : Stmt} {span : Span}
      (outer : Stands items around (.stmt (.cond test body bodySpan (some stmt) span))) :
      Stands items around (.stmt stmt)
  | whileBody {around : List Enclosure} {test : Expr} {body : List Stmt} {bodySpan span : Span}
      (outer : Stands items around (.stmt (.whileLoop test body bodySpan span))) :
      Stands items (.loopBody :: around) (.stmts body)
  | loopBody {around : List Enclosure} {body : List Stmt} {bodySpan span : Span}
      (outer : Stands items around (.stmt (.loop body bodySpan span))) :
      Stands items (.loopBody :: around) (.stmts body)
  | forBody {around : List Enclosure} {first : Option Stmt} {test : Option Expr}
      {after : Option Stmt} {body : List Stmt} {bodySpan span : Span}
      (outer : Stands items around (.stmt (.forLoop first test after body bodySpan span))) :
      Stands items (.loopBody :: around) (.stmts body)
  /-- The first clause of a loop runs once, in front of the loop. -/
  | firstClause {around : List Enclosure} {stmt : Stmt} {test : Option Expr}
      {after : Option Stmt} {body : List Stmt} {bodySpan span : Span}
      (outer : Stands items around (.stmt (.forLoop (some stmt) test after body bodySpan span))) :
      Stands items around (.stmt stmt)
  | afterClause {around : List Enclosure} {first : Option Stmt} {test : Option Expr}
      {stmt : Stmt} {body : List Stmt} {bodySpan span : Span}
      (outer : Stands items around (.stmt (.forLoop first test (some stmt) body bodySpan span))) :
      Stands items (.afterClause :: around) (.stmt stmt)
  | localConst {around : List Enclosure} {decl : ConstDecl} {value : Expr}
      (outer : Stands items around (.stmt (.const decl))) (hasValue : decl.value = some value) :
      Stands items (.constant :: around) (.expr value)
  | own {around : List Enclosure} {stmt : Stmt} {expr : Expr}
      (outer : Stands items around (.stmt stmt)) (isOwn : expr ∈ stmt.ownExprs)
      (notConst : ∀ decl, stmt ≠ .const decl) : Stands items around (.expr expr)
  | part {around : List Enclosure} {expr part : Expr}
      (outer : Stands items around (.expr expr)) (isPart : part ∈ expr.parts) :
      Stands items around (.expr part)

/-- Statements that work on raw memory. -/
def Stmt.isLowLevel : Stmt -> Bool
  | .instr _ | .write _ _ _ => true
  | _ => false

namespace Lint

/-- Every piece of the items stands where it may. -/
structure WellPlaced (items : List Item) : Prop where
  jumps : ∀ around stmt, Stands items around (.stmt stmt) →
    terminator? stmt = some .brk ∨ terminator? stmt = some .cont →
      .loopBody ∈ around ∨ .afterClause ∈ around
  returns : ∀ around stmt, Stands items around (.stmt stmt) →
    terminator? stmt = some .ret → .body ∈ around
  stmts : ∀ around stmt, Stands items around (.stmt stmt) → stmt.isLowLevel = true →
    .body ∈ around ∧ .constant ∉ around
  exprs : ∀ around expr, Stands items around (.expr expr) → expr.isLowLevel = true →
    .body ∈ around ∧ .constant ∉ around
  endings : ∀ around before stmt after, Stands items around (.stmts (before ++ stmt :: after)) →
    (terminator? stmt).isSome = true → after = []

/-! ### Lists of findings without an error -/

/-- None of the findings is an error. -/
def Harmless (findings : List Finding) : Prop := ∀ finding ∈ findings, finding.severity ≠ .error

theorem harmless_append {first second : List Finding} :
    Harmless (first ++ second) ↔ Harmless first ∧ Harmless second :=
  List.forall_mem_append

theorem not_harmless_cons {finding : Finding} {rest : List Finding}
    (isError : finding.severity = .error) : ¬Harmless (finding :: rest) :=
  fun harmless => harmless finding List.mem_cons_self isError

variable {view : View} {site : Site}

/-- Where nothing is said about an optional expression, nothing is said about the expression. -/
theorem harmless_some {value : Option Expr} {expr : Expr} (hasValue : value = some expr)
    (harmless : Harmless (exprFindings? view site value)) :
    Harmless (exprFindings view site expr) := by
  rw [hasValue] at harmless
  exact harmless

/-! ### Expressions -/

/-- A low-level instruction is only harmless in a body. -/
theorem inBody_of_requireBody {span : Span} {instruction : String}
    (harmless : Harmless (requireBody site span instruction)) : site.inBody = true := by
  unfold requireBody at harmless
  split at harmless
  · assumption
  · exact (not_harmless_cons rfl harmless).elim

/-- A harmless low-level instruction stands in a body. -/
theorem inBody_of_isLowLevel {expr : Expr} (harmless : Harmless (exprFindings view site expr))
    (lowLevel : expr.isLowLevel = true) : site.inBody = true := by
  cases expr with
  | addressOf operand span =>
    by_contra outside
    simp only [exprFindings, if_neg outside] at harmless
    exact outside (inBody_of_requireBody harmless)
  | load type operand span =>
    by_contra outside
    simp only [exprFindings, if_neg outside] at harmless
    exact outside (inBody_of_requireBody harmless)
  | alloc type span => exact inBody_of_requireBody harmless
  | _ => cases lowLevel

mutual

/-- What a harmless expression holds is harmless: the operands that are not looked at are
those of misplaced instructions. -/
theorem harmless_parts : (expr : Expr) -> Harmless (exprFindings view site expr) ->
    ∀ part ∈ expr.parts, Harmless (exprFindings view site part)
  | .addressOf operand span, harmless => by
    have inBody := inBody_of_isLowLevel harmless rfl
    have inside := harmless
    simp only [exprFindings, if_pos inBody, harmless_append] at inside
    simp only [Expr.parts, List.forall_mem_cons]
    exact ⟨harmless, harmless_parts operand inside.2⟩
  | .load type operand span, harmless => by
    have inBody := inBody_of_isLowLevel harmless rfl
    have inside := harmless
    simp only [exprFindings, if_pos inBody] at inside
    simp only [Expr.parts, List.forall_mem_cons]
    exact ⟨harmless, harmless_parts operand inside⟩
  | .binary op left right span, harmless => by
    have inside := harmless
    simp only [exprFindings, harmless_append] at inside
    simp only [Expr.parts, List.forall_mem_cons, List.forall_mem_append]
    exact ⟨harmless, harmless_parts left inside.1, harmless_parts right inside.2⟩
  | .index base position span, harmless => by
    have inside := harmless
    simp only [exprFindings, harmless_append] at inside
    simp only [Expr.parts, List.forall_mem_cons, List.forall_mem_append]
    exact ⟨harmless, harmless_parts base inside.1, harmless_parts position inside.2⟩
  | .callValue function args span, harmless => by
    have inside := harmless
    simp only [exprFindings, harmless_append] at inside
    simp only [Expr.parts, List.forall_mem_cons, List.forall_mem_append]
    exact ⟨harmless, harmless_parts function inside.1, harmless_partsAll args inside.2⟩
  | .unary op operand span, harmless => by
    simp only [Expr.parts, List.forall_mem_cons]
    exact ⟨harmless, harmless_parts operand harmless⟩
  | .field base path span, harmless => by
    simp only [Expr.parts, List.forall_mem_cons]
    exact ⟨harmless, harmless_parts base harmless⟩
  | .cast type operand span, harmless => by
    simp only [Expr.parts, List.forall_mem_cons]
    exact ⟨harmless, harmless_parts operand harmless⟩
  | .call callee args span, harmless => by
    simp only [Expr.parts, List.forall_mem_cons]
    exact ⟨harmless, harmless_partsAll args harmless⟩
  | .array element items span, harmless => by
    simp only [Expr.parts, List.forall_mem_cons]
    exact ⟨harmless, harmless_partsAll items harmless⟩
  | .literal _, harmless | .name _, harmless | .alloc _ _, harmless | .bad _, harmless => by
    simp only [Expr.parts, List.forall_mem_singleton]
    exact harmless

theorem harmless_partsAll : (exprs : List Expr) -> Harmless (exprsFindings view site exprs) ->
    ∀ part ∈ Expr.partsAll exprs, Harmless (exprFindings view site part)
  | [], _ => List.forall_mem_nil _
  | expr :: rest, harmless => by
    simp only [exprsFindings, harmless_append] at harmless
    simp only [Expr.partsAll, List.forall_mem_append]
    exact ⟨harmless_parts expr harmless.1, harmless_partsAll rest harmless.2⟩

end

/-! ### Statements -/

/-- A harmless statement that ends its list closes it. -/
theorem closes?_of_harmless {stmt : Stmt} (harmless : Harmless (stmtFindings view site stmt)) :
    closes? site stmt = terminator? stmt := by
  cases stmt with
  | ret value span =>
    by_cases inBody : site.inBody = true
    · simp [closes?, terminator?, inBody]
    · simp only [stmtFindings, if_neg inBody, harmless_append] at harmless
      exact (not_harmless_cons rfl harmless.2).elim
  | brk span =>
    by_cases inLoop : site.inLoop = true
    · simp [closes?, terminator?, inLoop]
    · simp only [stmtFindings, if_neg inLoop] at harmless
      exact (not_harmless_cons rfl harmless).elim
  | cont span =>
    by_cases inLoop : site.inLoop = true
    · simp [closes?, terminator?, inLoop]
    · simp only [stmtFindings, if_neg inLoop] at harmless
      exact (not_harmless_cons rfl harmless).elim
  | _ => rfl

theorem inLoop_of_closes? {stmt : Stmt}
    (closes : closes? site stmt = some .brk ∨ closes? site stmt = some .cont) :
    site.inLoop = true := by
  unfold closes? at closes
  rcases closes with closes | closes <;> split at closes <;> simp_all

theorem inBody_of_closes? {stmt : Stmt} (closes : closes? site stmt = some .ret) :
    site.inBody = true := by
  unfold closes? at closes
  split at closes <;> simp_all

/-- Where unreachable code is an error, nothing can follow what closes a list. -/
theorem eq_nil_of_deadFindings {closer : Terminator} {rest : List Stmt}
    (harmless : Harmless (deadFindings true closer rest)) : rest = [] := by
  cases rest with
  | nil => rfl
  | cons stmt rest =>
    unfold deadFindings at harmless
    split at harmless <;> exact (not_harmless_cons rfl harmless).elim

section Strict

variable (strict : view.strict = true)

include strict

/-- Nothing follows the end of a harmless list. -/
theorem eq_nil_of_terminator? {before after : List Stmt} {stmt : Stmt}
    (harmless : Harmless (stmtsFindings view site (before ++ stmt :: after)))
    (ends : (terminator? stmt).isSome = true) : after = [] := by
  induction before with
  | nil =>
    simp only [List.nil_append, stmtsFindings, harmless_append] at harmless
    obtain ⟨harmless, behind⟩ := harmless
    obtain ⟨closer, closes⟩ := Option.isSome_iff_exists.mp ends
    rw [closes?_of_harmless harmless, closes, strict] at behind
    exact eq_nil_of_deadFindings behind
  | cons first before inductionHypothesis =>
    simp only [List.cons_append, stmtsFindings, harmless_append] at harmless
    cases closes : closes? site first with
    | none =>
      rw [closes] at harmless
      exact inductionHypothesis harmless.2
    | some closer =>
      rw [closes, strict] at harmless
      simpa using eq_nil_of_deadFindings harmless.2

/-- Every statement of a harmless list is looked at and harmless. -/
theorem harmless_of_mem {list : List Stmt} (harmless : Harmless (stmtsFindings view site list))
    {stmt : Stmt} (isMember : stmt ∈ list) : Harmless (stmtFindings view site stmt) := by
  induction list with
  | nil => cases isMember
  | cons first rest inductionHypothesis =>
    simp only [stmtsFindings, harmless_append] at harmless
    obtain ⟨ofFirst, behind⟩ := harmless
    rcases List.mem_cons.mp isMember with isFirst | isLater
    · rw [isFirst]
      exact ofFirst
    · cases closes : closes? site first with
      | none =>
        rw [closes] at behind
        exact inductionHypothesis behind isLater
      | some closer =>
        rw [closes, strict] at behind
        rw [eq_nil_of_deadFindings behind] at isLater
        cases isLater

end Strict

/-- What a harmless statement other than a constant holds is harmless. -/
theorem harmless_ownExprs {stmt : Stmt} (harmless : Harmless (stmtFindings view site stmt))
    (notConst : ∀ decl, stmt ≠ .const decl) :
    ∀ expr ∈ stmt.ownExprs, Harmless (exprFindings view site expr) := by
  have optional {value : Option Expr} (harmless : Harmless (exprFindings? view site value)) :
      ∀ expr ∈ value.toList, Harmless (exprFindings view site expr) :=
    fun expr isValue => harmless_some (Option.mem_toList.mp isValue) harmless
  have nothing : ∀ expr ∈ ([] : List Expr), Harmless (exprFindings view site expr) :=
    List.forall_mem_nil _
  cases stmt with
  | expr value => exact List.forall_mem_singleton.mpr harmless
  | letIn binding => exact optional harmless
  | instr binding =>
    simp only [stmtFindings, harmless_append] at harmless
    exact optional harmless.2
  | const decl => exact absurd rfl (notConst decl)
  | assign target value span =>
    simp only [stmtFindings, harmless_append] at harmless
    exact List.forall_mem_cons.mpr ⟨harmless.1, List.forall_mem_singleton.mpr harmless.2⟩
  | write target value span =>
    simp only [stmtFindings, harmless_append] at harmless
    exact List.forall_mem_cons.mpr ⟨harmless.1.2, List.forall_mem_singleton.mpr harmless.2⟩
  | cond test body bodySpan otherwise span =>
    simp only [stmtFindings, harmless_append] at harmless
    exact List.forall_mem_singleton.mpr harmless.1.1
  | whileLoop test body bodySpan span =>
    simp only [stmtFindings, harmless_append] at harmless
    exact List.forall_mem_singleton.mpr harmless.1
  | forLoop first test after body bodySpan span =>
    simp only [stmtFindings, harmless_append] at harmless
    exact optional harmless.1.1.2
  | ret value span =>
    simp only [stmtFindings, harmless_append] at harmless
    exact optional harmless.1
  | block | struct | loop | brk | cont | bad => exact nothing

/-! ### The walk and the enclosures -/

/-- What the walk remembers of the enclosures. Inside a constant it forgets the others. -/
def Site.within (around : List Enclosure) : Site :=
  if .constant ∈ around then .outside
  else ⟨.body ∈ around, .loopBody ∈ around ∨ .afterClause ∈ around⟩

theorem inBody_within {around : List Enclosure} (inBody : (Site.within around).inBody = true) :
    .body ∈ around ∧ .constant ∉ around := by
  unfold Site.within at inBody
  split at inBody
  · cases inBody
  · rename_i notConstant
    exact ⟨of_decide_eq_true inBody, notConstant⟩

theorem inLoop_within {around : List Enclosure} (inLoop : (Site.within around).inLoop = true) :
    .loopBody ∈ around ∨ .afterClause ∈ around := by
  unfold Site.within at inLoop
  split at inLoop
  · cases inLoop
  · exact of_decide_eq_true inLoop

theorem within_constant (around : List Enclosure) :
    Site.within (.constant :: around) = .outside :=
  if_pos List.mem_cons_self

/-- A loop around a statement is remembered. -/
theorem within_loop {around : List Enclosure} {enclosure : Enclosure}
    (isLoop : enclosure = .loopBody ∨ enclosure = .afterClause) (notConstant : .constant ∉ around) :
    Site.within (enclosure :: around) = (Site.within around).loop := by
  have stays : Enclosure.constant ∉ enclosure :: around := by
    rcases isLoop with rfl | rfl <;> simpa using notConstant
  unfold Site.within
  rw [if_neg stays, if_neg notConstant]
  rcases isLoop with rfl | rfl <;> simp [Site.loop]

/-- What is known of a piece that an error-free pass has walked over: it was looked at where
it stands, and no error was found in it. -/
def Passed (view : View) (around : List Enclosure) : Piece → Prop
  | .stmts list => .constant ∉ around ∧ Harmless (stmtsFindings view (.within around) list)
  | .stmt stmt => .constant ∉ around ∧ Harmless (stmtFindings view (.within around) stmt)
  | .expr expr => Harmless (exprFindings view (.within around) expr)

/-- A pass that finds no error has looked at every piece where it stands. -/
theorem passed_of_stands {session : Session} (strict : session.options.strict = true)
    (harmless : Harmless (findings session)) {around : List Enclosure} {piece : Piece}
    (stands : Stands session.items around piece) : Passed (viewOf session) around piece := by
  rw [findings_eq, harmless_append] at harmless
  have ofItem {item : Item} (isItem : item ∈ session.items) :
      Harmless (itemFindings session (viewOf session) item) :=
    fun finding isFinding => harmless.1 finding (List.mem_flatMap.mpr ⟨item, isItem, isFinding⟩)
  induction stands with
  | function isItem hasBody =>
    have inside := ofItem isItem
    simp only [itemFindings, hasBody, harmless_append] at inside
    exact ⟨by decide, inside.1⟩
  | entry isItem => exact ⟨by decide, ofItem isItem⟩
  | strays => exact ⟨by decide, harmless.2⟩
  | const isItem hasValue => exact harmless_some hasValue (ofItem isItem)
  | static isItem hasValue => exact harmless_some hasValue (ofItem isItem)
  | @variant decl variant value isItem isVariant hasValue =>
    refine harmless_some hasValue fun finding isFinding => ofItem isItem finding ?_
    exact List.mem_flatMap.mpr ⟨variant, isVariant, isFinding⟩
  | member _ isMember passed => exact ⟨passed.1, harmless_of_mem strict passed.2 isMember⟩
  | block _ passed => exact passed
  | branch _ passed =>
    obtain ⟨notConstant, inside⟩ := passed
    simp only [stmtFindings, harmless_append] at inside
    exact ⟨notConstant, inside.1.2⟩
  | otherwise _ passed =>
    obtain ⟨notConstant, inside⟩ := passed
    simp only [stmtFindings, harmless_append] at inside
    exact ⟨notConstant, inside.2⟩
  | whileBody _ passed =>
    obtain ⟨notConstant, inside⟩ := passed
    simp only [stmtFindings, harmless_append] at inside
    rw [← within_loop (.inl rfl) notConstant] at inside
    exact ⟨by simpa using notConstant, inside.2⟩
  | loopBody _ passed =>
    obtain ⟨notConstant, inside⟩ := passed
    simp only [stmtFindings] at inside
    rw [← within_loop (.inl rfl) notConstant] at inside
    exact ⟨by simpa using notConstant, inside⟩
  | forBody _ passed =>
    obtain ⟨notConstant, inside⟩ := passed
    simp only [stmtFindings, harmless_append] at inside
    rw [← within_loop (.inl rfl) notConstant] at inside
    exact ⟨by simpa using notConstant, inside.2⟩
  | firstClause _ passed =>
    obtain ⟨notConstant, inside⟩ := passed
    simp only [stmtFindings, harmless_append] at inside
    exact ⟨notConstant, inside.1.1.1⟩
  | afterClause _ passed =>
    obtain ⟨notConstant, inside⟩ := passed
    simp only [stmtFindings, harmless_append] at inside
    rw [← within_loop (.inr rfl) notConstant] at inside
    exact ⟨by simpa using notConstant, inside.1.2⟩
  | localConst _ hasValue passed =>
    have inside := harmless_some hasValue passed.2
    rw [← within_constant] at inside
    exact inside
  | own _ isOwn notConst passed => exact harmless_ownExprs passed.2 notConst _ isOwn
  | part _ isPart passed => exact harmless_parts _ passed _ isPart

/-- The pieces of items over which a pass finds no error stand where they may. -/
theorem wellPlaced_of_harmless {session : Session} (strict : session.options.strict = true)
    (harmless : Harmless (findings session)) : WellPlaced session.items where
  jumps around stmt stands jumps := by
    have passed := passed_of_stands strict harmless stands
    rw [← closes?_of_harmless passed.2] at jumps
    exact inLoop_within (inLoop_of_closes? jumps)
  returns around stmt stands returns := by
    have passed := passed_of_stands strict harmless stands
    rw [← closes?_of_harmless passed.2] at returns
    exact (inBody_within (inBody_of_closes? returns)).1
  stmts around stmt stands lowLevel := by
    have passed := passed_of_stands strict harmless stands
    cases stmt with
    | instr binding =>
      have inside := passed.2
      simp only [stmtFindings, harmless_append] at inside
      exact inBody_within (inBody_of_requireBody inside.1)
    | write target value span =>
      have inside := passed.2
      simp only [stmtFindings, harmless_append] at inside
      exact inBody_within (inBody_of_requireBody inside.1.1)
    | _ => cases lowLevel
  exprs around expr stands lowLevel := by
    have passed : Harmless _ := passed_of_stands strict harmless stands
    exact inBody_within (inBody_of_isLowLevel passed lowLevel)
  endings around before stmt after stands ends := by
    have passed := passed_of_stands strict harmless stands
    exact eq_nil_of_terminator? strict passed.2 ends

/-! ### Checks -/

/-- What the last pass of a check reports is what is to be said about control flow. -/
theorem report_lint (session : Session) : (Pass.lint.report session).all = findings session := by
  have found := Pass.findings_report .lint session
  rw [after_lint] at found
  exact (List.append_cancel_left found).symm

/-- Where unreachable code is an error and the last pass of a check reports none, jumps stand
in loops, returns and low-level instructions in bodies, none of the latter in the initializer
of a constant, and nothing follows the end of a list of statements. -/
theorem wellPlaced_of_strict {unit : Module} {options : Options} (strict : options.strict = true)
    (harmless : Harmless (Pass.lint.report (.ahead (some unit) options .lint)).all) :
    WellPlaced unit.items := by
  have same := options_ahead (some unit) options .lint
  have items := items_ahead (some unit) options .lint
  rw [report_lint] at harmless
  rw [← same] at strict
  have placed := wellPlaced_of_harmless strict harmless
  rw [items] at placed
  exact placed

/-- A loop that writes to memory and is left at once. -/
def writingLoop : Stmt :=
  .loop [.write (.literal ⟨.null, "null", .ofLine 41 45⟩) (.literal ⟨.integer, "1", .ofLine 46 47⟩)
      (.ofLine 34 48), .brk (.ofLine 49 56)] (.ofLine 27 57) (.ofLine 21 58)

/-- A unit with a function that runs the loop. -/
def writingUnit : Module :=
  ⟨"unit", [.function ⟨[], some ⟨"f", .ofLine 4 5⟩, [], some (.named "void" (.ofLine 9 13)),
    some ⟨[writingLoop], .ofLine 14 59⟩, .ofLine 0 60⟩], some (.ofLine 0 60)⟩

/-- The last pass finds no error in the unit, and all of its pieces stand where they may. -/
theorem wellPlaced_of_strict_loop :
    Module.decode "unit" "(fn f () void (block (loop (block (write null 1) (break)))))" =
        .ok writingUnit ∧
      Options.standard.strict = true ∧
      Harmless (Pass.lint.report (.ahead (some writingUnit) .standard .lint)).all ∧
      WellPlaced writingUnit.items := by
  have read : Module.decode "unit"
      "(fn f () void (block (loop (block (write null 1) (break)))))" = .ok writingUnit :=
    Module.decode_chars (by cbv)
  have harmless : Harmless (Pass.lint.report (.ahead (some writingUnit) .standard .lint)).all := by
    unfold Harmless
    decide +kernel
  exact ⟨read, rfl, harmless, wellPlaced_of_strict rfl harmless⟩

end Lint
end UnitCheck
