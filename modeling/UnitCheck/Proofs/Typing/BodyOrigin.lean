import UnitCheck.Proofs.Typing.Origin

/-!
# What typing bodies and globals finds comes from the unit

Declared symbols get the types of their values or those that are written for them. Typing a
unit of which everything comes from an origin finds nothing from elsewhere.
-/

namespace UnitCheck.Typing

variable {origin : Origin} {demand : Demand}

/-! ### Statements -/

theorem sourced_setDeclType (node : NodeId) {type : Ty} (typeFrom : type.From origin) :
    (sourced origin).Obeys (setDeclType node type) := by
  refine .readAt fun session holds => ?_
  cases session.facts.decls.find? node with
  | none => exact .refl
  | some symbol => exact .single (show MaySource origin (.settles symbol.id type) from typeFrom)

theorem gives_declaredType (name : Option Ident) : (form : Option TypeForm) ->
    (∀ written ∈ form, written.From origin) ->
    (sourced origin).Gives (declaredType name form) fun type => ∀ found ∈ type, found.From origin
  | none, _ => .pure none_from
  | some form, isFrom => by
    have formFrom := isFrom form rfl
    refine (Check.gives_recordedType form formFrom).bind fun _ typeFrom => ?_
    split
    · exact (Regime.Gives.ofObeys (Check.obeys_report_place (TypeForm.span_from formFrom) rfl)).bind
        fun _ _ => .pure (some_from trivial)
    · exact .pure (some_from typeFrom)

section Statements

variable (givesDemand : DemandFrom origin demand)
include givesDemand

theorem gives_valueType (name : Option Ident) {declared : Option Ty}
    (declaredFrom : ∀ type ∈ declared, type.From origin) : (value : Option Expr) ->
    (∀ expr ∈ value, expr.From origin) ->
    (sourced origin).Gives (valueType demand name declared value) (Ty.From origin)
  | none, _ => by
    cases declared with
    | some type => exact .pure (declaredFrom type rfl)
    | none => exact gives_unknown
  | some value, isFrom => by
    have isPlace := Expr.span_from (isFrom value rfl)
    refine (gives_checkExpr givesDemand value (isFrom value rfl) declared declaredFrom).bind
      fun found foundFrom => ?_
    cases declared with
    | some type =>
      exact (Regime.Gives.ofObeys (sourced_tell (from_mismatch isPlace found type))).bind fun _ _ =>
        .pure (declaredFrom type rfl)
    | none =>
      simp only
      split
      · exact (Regime.Gives.ofObeys (Check.obeys_report_place isPlace rfl)).bind fun _ _ =>
          gives_unknown
      · exact .pure foundFrom

theorem gives_checkBinding (node : NodeId) (name : Option Ident) {form : Option TypeForm}
    (formFrom : ∀ written ∈ form, written.From origin) {value : Option Expr}
    (valueFrom : ∀ expr ∈ value, expr.From origin) :
    (sourced origin).Gives (checkBinding demand node name form value) (Ty.From origin) :=
  (gives_declaredType name form formFrom).bind fun _ declaredFrom =>
    (gives_valueType givesDemand name declaredFrom value valueFrom).bind fun _ typeFrom =>
    (Regime.Gives.ofObeys (sourced_setDeclType node typeFrom)).bind fun _ _ => .pure typeFrom

theorem sourced_checkLocal {binding : BindingDecl} (isFrom : binding.From origin) :
    (sourced origin).Obeys (checkLocal demand binding) := by
  unfold checkLocal
  split
  · exact .bind (Check.obeys_report_place isFrom.span rfl) fun _ => sourced_setDeclType _ trivial
  · exact .bind (gives_checkBinding givesDemand _ _ isFrom.type isFrom.value).obeys fun _ => .pure _

theorem gives_checkConst {decl : ConstDecl} (isFrom : decl.From origin) :
    (sourced origin).Gives (checkConst demand decl) (Ty.From origin) := by
  unfold checkConst
  split
  · exact gives_checkBinding givesDemand _ _ isFrom.type isFrom.value
  · have settled (type : Ty) (typeFrom : type.From origin) : (sourced origin).Gives (do
        setDeclType decl.span.node type
        return type) (Ty.From origin) :=
      (Regime.Gives.ofObeys (sourced_setDeclType _ typeFrom)).bind fun _ _ => .pure typeFrom
    refine (Regime.Gives.ofObeys (Check.obeys_report_place isFrom.span rfl)).bind fun _ _ => ?_
    split
    · exact (Check.gives_recordedType _ (isFrom.type _ ‹_›)).bind settled
    · exact settled _ trivial

theorem gives_checkStatic {decl : StaticDecl} (isFrom : decl.From origin) :
    (sourced origin).Gives (checkStatic demand decl) (Ty.From origin) := by
  unfold checkStatic
  split
  · have unknownFrom : Ty.From origin .unknown := trivial
    exact (Regime.Gives.ofObeys (Check.obeys_report_place isFrom.span rfl)).bind fun _ _ =>
      (Regime.Gives.ofObeys (sourced_setDeclType _ unknownFrom)).bind fun _ _ => gives_unknown
  · exact gives_checkBinding givesDemand _ _ isFrom.type isFrom.value

theorem sourced_checkCondition {test : Expr} (isFrom : test.From origin) :
    (sourced origin).Obeys (checkCondition demand test) := by
  refine .bind (gives_checkExpr givesDemand test isFrom (some .bool) (some_from trivial)).obeys
    fun type => ?_
  split
  · exact Check.obeys_report_place (Expr.span_from isFrom) rfl
  · exact .pure _

theorem sourced_checkReturn {result : Ty} (resultFrom : result.From origin) {value : Option Expr}
    (valueFrom : ∀ expr ∈ value, expr.From origin) {span : Span} (isPlace : origin.span span) :
    (sourced origin).Obeys (checkReturn demand result value span) := by
  unfold checkReturn
  cases value with
  | none =>
    simp only
    split
    · exact Check.obeys_report_place isPlace rfl
    · exact .pure _
  | some value =>
    have isFrom := valueFrom value rfl
    simp only
    split
    · exact .bind (gives_checkExpr givesDemand value isFrom _ none_from).obeys fun _ =>
        Check.obeys_report_place (Expr.span_from isFrom) rfl
    · refine .bind (gives_checkExpr givesDemand value isFrom _ (some_from resultFrom)).obeys
        fun found => ?_
      split
      · exact Check.obeys_report_place (Expr.span_from isFrom) rfl
      · exact .pure _

omit givesDemand in
/-- The symbol that a target leads to is one that its name refers to. -/
theorem from_assignRoot {session : Session} (holds : Sourced origin session) : (target : Expr) ->
    ∀ symbol ∈ (assignRoot session.facts target).1, symbol.From origin
  | .name _ => fun _ isRoot => holds.ref isRoot
  | .field base _ _ | .index base _ _ => from_assignRoot holds base
  | .literal _ | .binary _ _ _ _ | .unary _ _ _ | .call _ _ _ | .callValue _ _ _ | .cast _ _ _
  | .array _ _ _ | .addressOf _ _ | .load _ _ _ | .alloc _ _ | .bad _ => none_from

omit givesDemand in
theorem from_rootProblem {span : Span} (isPlace : origin.span span) {root : Option Symbol}
    (rootFrom : ∀ symbol ∈ root, symbol.From origin) (through : Bool) :
    ∀ finding ∈ assignProblem? span (rootMutability root through), finding.From origin := by
  cases root with
  | none => exact none_from
  | some symbol =>
    have symbolFrom := rootFrom symbol rfl
    unfold rootMutability
    simp only
    split_ifs
    · exact some_from (Finding.from_symbol isPlace symbolFrom rfl)
    · exact none_from
    · exact some_from (Finding.from_symbol isPlace symbolFrom rfl)
    · exact none_from

omit givesDemand in
/-- What is said about an assignment is about the target and the symbol it leads to. -/
theorem from_assignProblem {session : Session} (holds : Sourced origin session) {target : Expr}
    (isFrom : target.From origin) (type : Ty) :
    ∀ finding ∈ assignProblem? target.span (mutability session.facts target type),
      finding.From origin := by
  have isPlace := Expr.span_from isFrom
  unfold mutability
  split
  · exact some_from (Finding.from_place isPlace rfl)
  · split
    · exact some_from (Finding.from_place isPlace rfl)
    · exact from_rootProblem isPlace (from_assignRoot holds target) _

theorem sourced_checkAssign {target value : Expr} (targetFrom : target.From origin)
    (valueFrom : value.From origin) : (sourced origin).Obeys (checkAssign demand target value) :=
  Regime.Gives.obeys <| (gives_checkExpr givesDemand target targetFrom _ none_from).bind
    fun type typeFrom => .bind (gives_checkExpr givesDemand value valueFrom _ (some_from typeFrom))
    fun _ _ => .ofObeys <| .readAt fun session holds => by
      have problemFrom := from_assignProblem holds targetFrom type
      split
      · exact Check.obeys_report (problemFrom _ ‹_›) session holds
      · exact sourced_tell (from_mismatch (Expr.span_from valueFrom) _ _) session holds

theorem sourced_checkWrite {target value : Expr} (targetFrom : target.From origin)
    (valueFrom : value.From origin) : (sourced origin).Obeys (checkWrite demand target value) := by
  refine Regime.Gives.obeys ((gives_checkExpr givesDemand target targetFrom _ none_from).bind
    fun type typeFrom => .ofObeys ?_)
  split
  · rename_i element isPointer
    have unwrapped := from_unwrap type typeFrom
    rw [isPointer] at unwrapped
    exact .bind (gives_checkExpr givesDemand value valueFrom (some element)
      (some_from unwrapped)).obeys fun _ => sourced_tell (from_mismatch (Expr.span_from valueFrom) _ _)
  · refine .bind (gives_checkExpr givesDemand value valueFrom _ none_from).obeys fun _ => ?_
    split
    · exact Check.obeys_report_place (Expr.span_from targetFrom) rfl
    · exact .pure _

end Statements

mutual

theorem sourced_checkStmt (givesDemand : DemandFrom origin demand) {result : Ty}
    (resultFrom : result.From origin) : (stmt : Stmt) -> stmt.From origin ->
    (sourced origin).Obeys (checkStmt demand result stmt)
  | .block body _, isFrom => by
    unfold checkStmt
    exact sourced_checkStmts givesDemand resultFrom body isFrom.2
  | .expr value, isFrom => by
    unfold checkStmt
    exact .bind (gives_checkExpr givesDemand value isFrom _ none_from).obeys fun _ => .pure _
  | .letIn binding, isFrom => by
    unfold checkStmt
    exact sourced_checkLocal givesDemand isFrom
  | .instr binding, isFrom => by
    unfold checkStmt
    exact .bind (gives_checkBinding givesDemand _ _ (BindingDecl.From.type isFrom)
      (BindingDecl.From.value isFrom)).obeys fun _ => .pure _
  | .const decl, isFrom => by
    unfold checkStmt
    exact .bind (gives_checkConst givesDemand isFrom).obeys fun _ => .pure _
  | .assign target value _, isFrom => by
    unfold checkStmt
    exact sourced_checkAssign givesDemand isFrom.2.1 isFrom.2.2
  | .write target value _, isFrom => by
    unfold checkStmt
    exact sourced_checkWrite givesDemand isFrom.2.1 isFrom.2.2
  | .cond test body _ otherwise _, isFrom => by
    obtain ⟨-, -, testFrom, bodyFrom, otherwiseFrom⟩ := isFrom
    unfold checkStmt
    exact .bind (sourced_checkCondition givesDemand testFrom) fun _ =>
      .bind (sourced_checkStmts givesDemand resultFrom body bodyFrom) fun _ =>
      sourced_checkStmt? givesDemand resultFrom otherwise otherwiseFrom
  | .whileLoop test body _ _, isFrom => by
    obtain ⟨-, -, testFrom, bodyFrom⟩ := isFrom
    unfold checkStmt
    exact .bind (sourced_checkCondition givesDemand testFrom) fun _ =>
      sourced_checkStmts givesDemand resultFrom body bodyFrom
  | .loop body _ _, isFrom => by
    unfold checkStmt
    exact sourced_checkStmts givesDemand resultFrom body isFrom.2.2
  | .forLoop first test after body _ _, isFrom => by
    obtain ⟨-, -, firstFrom, testFrom, afterFrom, bodyFrom⟩ := isFrom
    have rest : (sourced origin).Obeys (do
        checkStmt? demand result after
        checkStmts demand result body) :=
      .bind (sourced_checkStmt? givesDemand resultFrom after afterFrom) fun _ =>
        sourced_checkStmts givesDemand resultFrom body bodyFrom
    unfold checkStmt
    refine .bind (sourced_checkStmt? givesDemand resultFrom first firstFrom) fun _ => ?_
    cases test with
    | none => exact rest
    | some test => exact .bind (sourced_checkCondition givesDemand (testFrom test rfl)) fun _ => rest
  | .ret value _, isFrom => by
    unfold checkStmt
    exact sourced_checkReturn givesDemand resultFrom isFrom.2 isFrom.1
  | .struct _, _ | .brk _, _ | .cont _, _ | .bad _, _ => by
    unfold checkStmt
    exact .pure _

theorem sourced_checkStmt? (givesDemand : DemandFrom origin demand) {result : Ty}
    (resultFrom : result.From origin) : (stmt : Option Stmt) -> Stmt.From? origin stmt ->
    (sourced origin).Obeys (checkStmt? demand result stmt)
  | none, _ => by
    unfold checkStmt?
    exact .pure _
  | some stmt, isFrom => by
    unfold checkStmt?
    exact sourced_checkStmt givesDemand resultFrom stmt isFrom

theorem sourced_checkStmts (givesDemand : DemandFrom origin demand) {result : Ty}
    (resultFrom : result.From origin) : (body : List Stmt) -> Stmt.AllFrom origin body ->
    (sourced origin).Obeys (checkStmts demand result body)
  | [], _ => by
    unfold checkStmts
    exact .pure _
  | stmt :: rest, isFrom => by
    unfold checkStmts
    exact .bind (sourced_checkStmt givesDemand resultFrom stmt isFrom.1) fun _ =>
      sourced_checkStmts givesDemand resultFrom rest isFrom.2

end

/-! ### Globals and items -/

/-- The parts of a global stand at places. -/
def Global.From (origin : Origin) : Global -> Prop
  | .const decl => decl.From origin
  | .static decl => decl.From origin

theorem Global.span_from {global : Global} (isFrom : global.From origin) :
    origin.span global.span := by
  cases global with
  | const decl => exact (ConstDecl.From.toHeadFrom isFrom).span
  | static decl => exact (StaticDecl.From.toHeadFrom isFrom).span

theorem Global.from_items {items : List Item} (itemsFrom : ∀ item ∈ items, item.From origin) :
    ∀ global ∈ globals items, global.From origin := by
  intro global isGlobal
  obtain ⟨item, isItem, declares⟩ := List.mem_filterMap.mp isGlobal
  have itemFrom := itemsFrom item isItem
  cases item with
  | const | static =>
    cases declares
    exact itemFrom
  | _ => cases declares

theorem gives_checkedGlobal (givesDemand : DemandFrom origin demand) :
    (global : Global) -> global.From origin ->
    (sourced origin).Gives (global.check demand) (Ty.From origin)
  | .const _, isFrom => gives_checkConst givesDemand isFrom
  | .static _, isFrom => gives_checkStatic givesDemand isFrom

theorem gives_declType (node : NodeId) :
    (sourced origin).Gives (declType node) (Ty.From origin) := by
  refine .read fun session holds => ?_
  split
  · rename_i symbol _
    refine Regime.Gives.pure ?_ session holds
    cases known : (session.knownOf symbol.id).type with
    | none => trivial
    | some type => exact (holds.knownOf symbol.id).type type known
  · exact gives_unknown session holds

section Globals

variable {all : List Global} (allFrom : ∀ global ∈ all, global.From origin)
include allFrom

/-- Globals are typed when they are read, however long the chain of reads. -/
theorem gives_checkGlobal (fuel : Nat) (path : List NodeId) {global : Global}
    (isGlobal : global ∈ all) :
    (sourced origin).Gives (checkGlobal all fuel path global) (Ty.From origin) := by
  have isFrom := allFrom global isGlobal
  have unknownFrom : Ty.From origin .unknown := trivial
  induction fuel generalizing path global with
  | zero => exact gives_unknown
  | succ fuel inductionHypothesis =>
    unfold checkGlobal
    refine .read fun session holds => ?_
    split
    · exact gives_declType _ session holds
    · split
      · exact Regime.Gives.bind (.ofObeys (Check.obeys_report_place (Global.span_from isFrom) rfl))
          (fun _ _ => (Regime.Gives.ofObeys (sourced_setDeclType _ unknownFrom)).bind
            fun _ _ => gives_unknown) session holds
      · have marked : (sourced origin).permits (.checked global.node) := trivial
        refine Regime.Gives.bind (gives_checkedGlobal (fun symbol => ?_) global isFrom)
          (fun _ typeFrom => .bind (.ofObeys fun _ _ => .single marked)
            fun _ _ => .pure typeFrom) session holds
        split
        · have isOther := List.mem_of_find?_eq_some ‹_›
          exact inductionHypothesis _ isOther (allFrom _ isOther)
        · exact gives_unknown

theorem demandFrom_globals : DemandFrom origin (demandGlobal all) := by
  intro symbol
  unfold demandGlobal
  split
  · exact gives_checkGlobal allFrom _ _ (List.mem_of_find?_eq_some ‹_›)
  · exact gives_unknown

end Globals

theorem sourced_checkVariants (givesDemand : DemandFrom origin demand) {base : Ty}
    (baseFrom : base.From origin) (variants : List VariantDecl)
    (variantsFrom : ∀ variant ∈ variants, variant.From origin) :
    (sourced origin).Obeys (checkVariants demand base variants) := by
  induction variants with
  | nil => exact .pure _
  | cons variant rest inductionHypothesis =>
    obtain ⟨variantFrom, restFrom⟩ := List.forall_mem_cons.mp variantsFrom
    unfold checkVariants
    cases written : variant.value with
    | none => exact inductionHypothesis restFrom
    | some value =>
      have valueFrom := variantFrom.value value written
      exact .bind (gives_checkExpr givesDemand value valueFrom _ (some_from baseFrom)).obeys
        fun _ => .bind (sourced_tell (from_mismatch (Expr.span_from valueFrom) _ _)) fun _ =>
        inductionHypothesis restFrom

theorem gives_enumValueType (decl : EnumDecl) :
    (sourced origin).Gives (enumValueType decl) (Ty.From origin) := by
  have standard : Ty.From origin (.prim .s32) := trivial
  refine .read fun session holds => ?_
  split
  · exact Regime.Gives.pure standard session holds
  · split
    · refine Regime.Gives.pure ?_ session holds
      split
      · exact holds.enums _ (mem_of_lookup ‹_›)
      · exact standard
    · exact Regime.Gives.pure standard session holds

theorem gives_resultType (node : NodeId) :
    (sourced origin).Gives (resultType node) (Ty.From origin) := by
  have void : Ty.From origin .void := trivial
  refine .read fun session holds => ?_
  split
  · exact Regime.Gives.pure void session holds
  · rename_i symbol _
    split
    · have functionFrom := (holds.knownOf symbol.id).type _ ‹_›
      exact Regime.Gives.pure functionFrom.2 session holds
    · exact Regime.Gives.pure void session holds

variable {items : List Item} (itemsFrom : ∀ item ∈ items, item.From origin)
include itemsFrom

theorem sourced_checkGlobalItem {item : Item} (isItem : item ∈ items) :
    (sourced origin).Obeys (checkGlobalItem (globals items) item) := by
  have globalsFrom := Global.from_items itemsFrom
  have isGlobal : ∀ global ∈ global? item, global ∈ globals items :=
    fun global declares => List.mem_filterMap.mpr ⟨item, isItem, declares⟩
  cases item with
  | const decl =>
    exact .bind (gives_checkGlobal globalsFrom _ _ (isGlobal _ rfl)).obeys fun _ => .pure _
  | static decl =>
    exact .bind (gives_checkGlobal globalsFrom _ _ (isGlobal _ rfl)).obeys fun _ => .pure _
  | enum decl =>
    exact Regime.Gives.obeys ((gives_enumValueType decl).bind fun _ baseFrom => .ofObeys
      (sourced_checkVariants (demandFrom_globals globalsFrom) baseFrom decl.variants
        (EnumDecl.From.variants (itemsFrom _ isItem))))
  | _ => exact .pure _

theorem sourced_checkBodyItem {item : Item} (isItem : item ∈ items) :
    (sourced origin).Obeys (checkBodyItem (globals items) item) := by
  have givesDemand := demandFrom_globals (Global.from_items itemsFrom)
  have isFrom := itemsFrom item isItem
  cases item with
  | function decl =>
    have bodyFrom := FunctionDecl.From.body isFrom
    simp only [checkBodyItem]
    cases written : decl.body with
    | none => exact .pure _
    | some body =>
      exact Regime.Gives.obeys ((gives_resultType _).bind fun _ resultFrom => .ofObeys
        (sourced_checkStmts givesDemand resultFrom body.stmts (bodyFrom body written).stmts))
  | entry decl =>
    have resultFrom : Ty.From origin .void := trivial
    exact sourced_checkStmts givesDemand resultFrom _ (EntryDecl.From.body isFrom).stmts
  | _ => exact .pure _

omit itemsFrom in
/-- What the third pass finds comes from the unit. -/
theorem sourced_walk {session : Session} (holds : Sourced origin session) :
    Sourced origin (walk.run session).2 := by
  have obeys : (sourced origin).Obeys (do
      session.items.forM (checkGlobalItem (globals session.items))
      session.items.forM (checkBodyItem (globals session.items))) :=
    .bind (.forM _ fun _ isItem => sourced_checkGlobalItem holds.items isItem) fun _ =>
      .forM _ fun _ isItem => sourced_checkBodyItem holds.items isItem
  have started : Sourced origin { session with checked := [] } :=
    ⟨holds.items, holds.globals, holds.locals, holds.refs, holds.decls, holds.forms, holds.exprs,
      holds.known, holds.structs, holds.enums, holds.findings⟩
  exact Trace.holds (obeys _ started) started

end UnitCheck.Typing
