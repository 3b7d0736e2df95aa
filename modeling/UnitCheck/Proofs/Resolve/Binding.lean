import Mathlib.Algebra.Module.Submodule.Lattice
import Mathlib.Data.List.Perm.Subperm
import Mathlib.Data.List.Permutation
import UnitCheck.Proofs.Resolve.Lexical

/-!
# Names are bound as lexical scoping says

The second pass keeps one table in which it opens and closes frames. `Meets` says of
a walk that its table is at any time the one of the scope it stands in, and that it
records what the names on its way mean there. `resolved_as_scoped` puts the walks of
all items together: every name of a unit is bound to what its own scope says.
-/

namespace UnitCheck.Lexical

/-! ### The table of a scope -/

/-- Where the frames start in an arena that holds them one behind the other. -/
def starts : List (List Symbol) -> List Nat
  | [] => []
  | _ :: outer => outer.flatten.length :: starts outer

namespace Scope

/-- The table that shows a scope. -/
def table (scope : Scope) : Table :=
  ⟨scope.globals, scope.frames.flatten, starts scope.frames⟩

variable (scope : Scope)

theorem table_enter : scope.enter.table = scope.table.beginScope := rfl

theorem endScope_table (isOpen : scope.frames ≠ []) :
    scope.table.endScope = .ok scope.leave.table := by
  obtain ⟨globals, frames⟩ := scope
  cases frames with
  | nil => exact absurd rfl isOpen
  | cons frame outer => simp [Table.endScope, table, leave, starts]

/-- A local is refused exactly where the scope keeps what it has. -/
theorem declareLocal_table (symbol : Symbol) :
    (∃ error, scope.table.declareLocal symbol = .error error ∧ scope.declare symbol = scope) ∨
      scope.table.declareLocal symbol = .ok (scope.declare symbol).table := by
  obtain ⟨globals, frames⟩ := scope
  cases frames with
  | nil => exact .inl ⟨_, rfl, rfl⟩
  | cons frame outer =>
    have since : (Scope.table ⟨globals, frame :: outer⟩).localsSince outer.flatten.length =
        frame := by
      simp [Table.localsSince, table]
    simp only [Table.declareLocal, table, starts] at since ⊢
    rw [since]
    simp only [declare]
    cases taken : frame.find? (·.name = symbol.name) with
    | some previous =>
      have isTaken : frame.any (·.name = symbol.name) = true := by
        rw [List.any_eq_true]
        exact ⟨previous, List.mem_of_find?_eq_some taken, by simpa using List.find?_some taken⟩
      exact .inl ⟨_, rfl, by rw [if_pos isTaken]⟩
    | none =>
      have isFree : ¬frame.any (·.name = symbol.name) = true := by
        rw [List.any_eq_true]
        rintro ⟨other, isOther, same⟩
        exact List.find?_eq_none.mp taken other isOther same
      rw [if_neg isFree]
      exact .inr rfl

@[simp] theorem resolve?_table (name : String) : scope.table.resolve? name = scope.value? name := by
  simp only [Table.resolve?, Table.local?, table, value?, List.find?_flatten]
  rfl

@[simp] theorem resolveType?_table (name : String) :
    scope.table.resolveType? name = scope.type? name := by
  simp only [Table.resolveType?, table, type?, List.find?_flatten]
  rfl

@[simp] theorem resolveFunction?_table (name : String) :
    scope.table.resolveFunction? name = scope.global? .function name := rfl

@[simp] theorem frames_enter : scope.enter.frames = [] :: scope.frames := rfl

/-- Declarations change the innermost frame only. -/
theorem declare_tail (symbol : Symbol) :
    (scope.declare symbol).globals = scope.globals ∧
      (scope.declare symbol).frames.tail = scope.frames.tail ∧
      ((scope.declare symbol).frames = [] ↔ scope.frames = []) := by
  obtain ⟨globals, frames⟩ := scope
  cases frames with
  | nil => exact ⟨rfl, rfl, Iff.rfl⟩
  | cons frame outer =>
    simp only [declare]
    split <;> simp

theorem declareAll_tail (symbols : List Symbol) :
    (scope.declareAll symbols).globals = scope.globals ∧
      (scope.declareAll symbols).frames.tail = scope.frames.tail ∧
      ((scope.declareAll symbols).frames = [] ↔ scope.frames = []) := by
  induction symbols generalizing scope with
  | nil => exact ⟨rfl, rfl, Iff.rfl⟩
  | cons symbol rest inductionHypothesis =>
    obtain ⟨globals, frames, isOpen⟩ := scope.declare_tail symbol
    obtain ⟨laterGlobals, laterFrames, laterOpen⟩ := inductionHypothesis (scope.declare symbol)
    exact ⟨laterGlobals.trans globals, laterFrames.trans frames, laterOpen.trans isOpen⟩

/-- Outside of blocks nothing is declared. -/
theorem declareAll_outside (symbols : List Symbol) (outside : scope.frames = []) :
    scope.declareAll symbols = scope := by
  have declares (symbol : Symbol) : scope.declare symbol = scope := by
    rw [declare, outside]
  induction symbols with
  | nil => rfl
  | cons symbol rest inductionHypothesis =>
    rw [declareAll, List.foldl_cons, declares]
    exact inductionHypothesis

theorem declareAll_append (first second : List Symbol) :
    scope.declareAll (first ++ second) = (scope.declareAll first).declareAll second :=
  List.foldl_append

theorem declareAll_filterMap_cons (stmt : Stmt) (rest : List Stmt) :
    scope.declareAll ((stmt :: rest).filterMap declaredBy) =
      (scope.behind stmt).declareAll (rest.filterMap declaredBy) := by
  have split : (stmt :: rest).filterMap declaredBy =
      (declaredBy stmt).toList ++ rest.filterMap declaredBy := by
    rw [List.filterMap_cons]
    cases declaredBy stmt <;> rfl
  rw [split, declareAll_append]
  rfl

/-- Behind a block the scope is that in front of it, whatever the block declares. -/
theorem leave_declareAll_enter (symbols : List Symbol) :
    (scope.enter.declareAll symbols).leave = scope := by
  obtain ⟨globals, frames, _⟩ := scope.enter.declareAll_tail symbols
  unfold leave
  rw [globals, frames]
  rfl

end Scope

/-! ### What a walk leaves behind -/

/-- The entries of a log at a node, the latest first. -/
def entries {α : Type} (node : NodeId) (log : FactLog α) : FactLog α :=
  log.filter (·.1 = node)

/-- Behind a walk that has met some uses and stands in a scope again. What is recorded at
hidden nodes is left open. -/
structure Met (hidden : NodeId -> Prop) (uses : List Use) (scope : Scope)
    (before after : Session) : Prop where
  table : after.table = scope.table
  refs : ∀ node, ¬hidden node → entries node after.facts.refs =
    (entries node (uses.filterMap Use.reference)).reverse ++ entries node before.facts.refs
  findings : ∃ found, after.findings = before.findings ++ found ∧
    (∀ finding ∈ found, finding.code ≠ "B0003") ∧
    found.filter (·.code = "R0001") = uses.filterMap Use.complaint

/-- The walk leads from one scope to another and meets some uses on the way. -/
def Meets {α : Type} (hidden : NodeId -> Prop) (scope : Scope) (uses : List Use) (last : Scope)
    (walk : Check α) : Prop :=
  ∀ session : Session, session.table = scope.table → Met hidden uses last session (walk.run session).2

variable {hidden : NodeId -> Prop} {scope middle last : Scope} {uses others : List Use} {α β : Type}

namespace Meets

theorem bind {walk : Check α} {next : α -> Check β} (first : Meets hidden scope uses middle walk)
    (second : ∀ value, Meets hidden middle others last (next value)) :
    Meets hidden scope (uses ++ others) last (walk >>= next) := by
  intro session shows
  obtain ⟨table, refs, found, isFound, balanced, complaints⟩ := first session shows
  obtain ⟨lastTable, lastRefs, more, isMore, moreBalanced, moreComplaints⟩ :=
    second (walk.run session).1 _ table
  refine ⟨lastTable, fun node isShown => ?_, found ++ more, ?_, ?_, ?_⟩
  · refine (lastRefs node isShown).trans ?_
    rw [refs node isShown]
    simp [entries]
  · refine isMore.trans ?_
    rw [isFound, List.append_assoc]
  · exact List.forall_mem_append.mpr ⟨balanced, moreBalanced⟩
  · rw [List.filter_append, complaints, moreComplaints, List.filterMap_append]

/-- `Meets.bind` where the first walk meets nothing. -/
theorem behind {walk : Check α} {next : α -> Check β} (first : Meets hidden scope [] middle walk)
    (second : ∀ value, Meets hidden middle others last (next value)) :
    Meets hidden scope others last (walk >>= next) :=
  first.bind second

/-- `Meets.bind` where the second walk meets nothing. -/
theorem ahead {walk : Check α} {next : α -> Check β} (first : Meets hidden scope uses middle walk)
    (second : ∀ value, Meets hidden middle [] last (next value)) :
    Meets hidden scope uses last (walk >>= next) := by
  simpa using first.bind second

/-- A walk that looks at the session first. -/
theorem read {next : Session -> Check α}
    (meets : ∀ session : Session, session.table = scope.table →
      Met hidden uses last session ((next session).run session).2) :
    Meets hidden scope uses last (get >>= next) :=
  meets

/-- A walk that changes neither names nor findings. -/
theorem silent {walk : Check α}
    (kept : ∀ session, (walk.run session).2.table = session.table ∧
      (walk.run session).2.facts.refs = session.facts.refs ∧
      (walk.run session).2.findings = session.findings) : Meets hidden scope [] scope walk := by
  intro session shows
  obtain ⟨table, refs, findings⟩ := kept session
  refine ⟨table.trans shows, fun node _ => ?_, [], ?_, List.forall_mem_nil _, rfl⟩
  · rw [refs]
    rfl
  · rw [findings, List.append_nil]

theorem pure (value : α) : Meets hidden scope [] scope (pure value : Check α) :=
  silent fun _ => ⟨rfl, rfl, rfl⟩

end Meets

/-- Findings about other things. -/
theorem meets_report {finding : Finding} (code : String) (isCode : finding.code = code)
    (other : code ≠ "B0003" ∧ code ≠ "R0001") :
    Meets hidden scope [] scope (Check.report finding) := by
  intro session shows
  refine ⟨shows, fun _ _ => rfl, [finding], rfl, List.forall_mem_singleton.mpr (isCode ▸ other.1), ?_⟩
  simp [isCode, other.2]

/-- At nodes where no use stands nothing is recorded. -/
theorem entries_references_eq_nil {node : NodeId} (absent : node ∉ uses.map Use.node) :
    entries node (uses.filterMap Use.reference) = [] := by
  refine List.filter_eq_nil_iff.mpr fun entry isEntry => ?_
  obtain ⟨use, isUse, records⟩ := List.mem_filterMap.mp isEntry
  obtain ⟨symbol, _, rfl⟩ := Option.map_eq_some_iff.mp records
  rw [decide_eq_true_eq]
  exact fun here => absent (List.mem_map.mpr ⟨use, isUse, here⟩)

/-! ### Names -/

/-- What is recorded for a name that means something. -/
theorem met_recordRef (use : Use) {symbol : Symbol} (means : use.meaning = some symbol)
    {session : Session} (shows : session.table = scope.table) :
    Met hidden [use] scope session ((Check.recordRef use.node symbol).run session).2 := by
  refine ⟨shows, fun node _ => ?_, [], (List.append_nil _).symm, List.forall_mem_nil _, ?_⟩
  · have recorded : [use].filterMap Use.reference = [(use.node, symbol)] := by
      simp [Use.reference, means]
    rw [recorded]
    change entries node ((use.node, symbol) :: session.facts.refs) = _
    by_cases here : use.node = node <;> simp [entries, here]
  · simp [Use.complaint, means]

/-- What is said about a value or callee that means nothing. -/
theorem met_undeclared {use : Use} (role : use.role ≠ .type) (means : use.meaning = none)
    {session : Session} (shows : session.table = scope.table) :
    Met hidden [use] scope session ((Check.report (.undeclared use.name)).run session).2 := by
  refine ⟨shows, fun _ _ => ?_, [.undeclared use.name], rfl, ?_, ?_⟩
  · simp [Use.reference, means, entries]
    rfl
  · exact List.forall_mem_singleton.mpr (by simp [Finding.code, Finding.diagnostic, Finding.error])
  · simp [Use.complaint, means, role]
    rfl

theorem meets_resolveName {use : Use} (role : use.role ≠ .type)
    (means : use.meaning = scope.value? use.name.name) :
    Meets hidden scope [use] scope (Resolve.resolveName use.name) := by
  refine .read fun session shows => ?_
  rw [shows, Scope.resolve?_table, ← means]
  cases isMeaning : use.meaning with
  | some symbol => exact met_recordRef use isMeaning shows
  | none => exact met_undeclared role isMeaning shows

theorem meets_resolveValue (name : Ident) :
    Meets hidden scope [⟨scope, .value, name⟩] scope (Resolve.resolveValue name) := by
  have meets : Meets hidden scope [⟨scope, .value, name⟩] scope (Resolve.resolveName name) :=
    meets_resolveName nofun rfl
  refine meets.ahead fun found => ?_
  cases found with
  | none => exact .pure _
  | some symbol =>
    simp only
    split
    · exact meets_report "R0005" rfl (by decide)
    · exact .pure _

theorem meets_resolveCallee (name : Ident) :
    Meets hidden scope [⟨scope, .callee, name⟩] scope (Resolve.resolveCallee name) := by
  refine .read fun session shows => ?_
  simp only [shows, Scope.resolveFunction?_table, Scope.resolveType?_table]
  have means : (Use.mk scope .callee name).meaning =
      ((scope.global? .function name.name <|> scope.type? name.name) <|>
        scope.value? name.name) := by
    simp only [Use.meaning, Scope.callee?]
    cases scope.global? .function name.name <;> rfl
  cases found : (scope.global? .function name.name <|> scope.type? name.name) with
  | some symbol =>
    rw [found] at means
    exact met_recordRef _ means shows
  | none =>
    rw [found] at means
    have meets : Meets hidden scope [⟨scope, .callee, name⟩] scope (Resolve.resolveName name) :=
      meets_resolveName (fun impossible => by cases impossible) means
    exact (meets.ahead fun _ => .pure ()) session shows

/-! ### Written types -/

theorem meets_namedType (name : String) (span : Span) :
    Meets hidden scope (formUses scope (.named name span)) scope (Check.namedType name span) := by
  unfold Check.namedType formUses
  simp only [TypeForm.mentions]
  cases builtin : Prim.ofName? name with
  | some prim => simpa [builtin] using Meets.pure _
  | none =>
    simp only [List.filter_singleton, builtin, Option.isNone_none, cond_true, List.map_singleton]
    refine .read fun session shows => ?_
    rw [shows, Scope.resolveType?_table]
    cases means : scope.type? name with
    | some symbol =>
      exact met_recordRef ⟨scope, .type, ⟨name, span⟩⟩ means shows
    | none =>
      refine ⟨shows, fun _ _ => ?_, [], (List.append_nil _).symm, List.forall_mem_nil _, ?_⟩
      · simp [Use.reference, Use.meaning, means, entries]
        rfl
      · simp [Use.complaint]

/-- Recording the meaning of a written type. -/
theorem meets_recordForm (place : NodeId) (type : Ty) :
    Meets hidden scope [] scope (Check.recordForm place type) :=
  .silent fun _ => ⟨rfl, rfl, rfl⟩

mutual

theorem meets_resolveForm : (form : TypeForm) ->
    Meets hidden scope (formUses scope form) scope (Check.resolveForm form)
  | .named name span => by
    unfold Check.resolveForm
    exact (meets_namedType name span).ahead fun _ => (meets_recordForm _ _).behind fun _ => .pure _
  | .opaquePointer _ | .address _ => by
    unfold Check.resolveForm
    exact (meets_recordForm _ _).behind fun _ => .pure _
  | .pointer inner _ | .array inner _ | .fixedArray inner _ _ | .const inner _
  | .mutable inner _ => by
    unfold Check.resolveForm
    exact (meets_resolveForm inner).ahead fun _ => (meets_recordForm _ _).behind fun _ => .pure _
  | .function params result _ _ => by
    have uses (variadic : Bool) (span : Span) :
        formUses scope (.function params result variadic span) =
          formsUses scope params ++ formUses scope result := by
      have flat : (TypeForm.mentionsAll params) = params.flatMap TypeForm.mentions := by
        induction params with
        | nil => rfl
        | cons form rest inductionHypothesis =>
          rw [TypeForm.mentionsAll, inductionHypothesis, List.flatMap_cons]
      simp only [formUses, TypeForm.mentions, flat, List.filter_append, List.map_append,
        List.filter_flatMap, List.map_flatMap]
      rfl
    rw [uses]
    unfold Check.resolveForm
    exact (meets_resolveForms params).bind fun _ => (meets_resolveForm result).ahead fun _ =>
      (meets_recordForm _ _).behind fun _ => .pure _

theorem meets_resolveForms : (forms : List TypeForm) ->
    Meets hidden scope (formsUses scope forms) scope (Check.resolveForms forms)
  | [] => by
    unfold Check.resolveForms
    exact .pure _
  | form :: rest => by
    unfold Check.resolveForms
    exact (meets_resolveForm form).bind fun _ => (meets_resolveForms rest).ahead fun _ => .pure _

end

theorem meets_unknownTypes (names : List Ident) :
    Meets hidden scope [] scope (names.forM fun name => Check.report (.unknownType name)) := by
  induction names with
  | nil => exact .pure _
  | cons name rest inductionHypothesis =>
    exact (meets_report "R0004" rfl (by decide)).behind fun _ => inductionHypothesis

theorem meets_typeOf (form : TypeForm) :
    Meets hidden scope (formUses scope form) scope (Check.typeOf form) :=
  (meets_resolveForm form).ahead fun _ => (meets_unknownTypes _).behind fun _ => .pure _

theorem meets_typeOf? : (form : Option TypeForm) ->
    Meets hidden scope (formsUses scope form.toList) scope (Check.typeOf? form)
  | none => .pure _
  | some form => by
    have uses : formsUses scope (some form).toList = formUses scope form := by simp [formsUses]
    rw [uses]
    exact (meets_typeOf form).ahead fun _ => .pure _

theorem meets_resolveType (form : TypeForm) :
    Meets hidden scope (formUses scope form) scope (Resolve.resolveType form) :=
  (meets_typeOf form).ahead fun _ => .pure _

/-! ### Expressions -/

/-- The name of an enumeration in front of a variant is used as a value. -/
theorem meets_enumOrValue (name : Ident) :
    Meets hidden scope [⟨scope, .value, name⟩] scope (do
      match <- Resolve.enumNamed? name with
      | some symbol => Check.recordRef name.span.node symbol
      | none => Resolve.resolveValue name) := by
  intro session shows
  have outcome : (Resolve.enumNamed? name).run session =
      (match scope.value? name.name with
        | some symbol => if symbol.kind = .enum then some symbol else none
        | none => none, session) := by
    unfold Resolve.enumNamed?
    rw [StateT.run_bind]
    simp only [StateT.run_get, pure_bind, shows, Scope.resolve?_table]
    cases scope.value? name.name <;> rfl
  rw [StateT.run_bind, outcome]
  cases means : scope.value? name.name with
  | none => exact meets_resolveValue name session shows
  | some symbol =>
    simp only
    split
    · exact met_recordRef ⟨scope, .value, name⟩ means shows
    · exact meets_resolveValue name session shows

mutual

theorem meets_resolveExpr : (expr : Expr) ->
    Meets hidden scope (exprUses scope expr) scope (Resolve.resolveExpr expr)
  | .literal _ | .bad _ => by
    unfold Resolve.resolveExpr
    exact .pure _
  | .name name => by
    unfold Resolve.resolveExpr
    exact meets_resolveValue name
  | .binary _ left right _ | .index left right _ => by
    unfold Resolve.resolveExpr exprUses
    exact (meets_resolveExpr left).bind fun _ => meets_resolveExpr right
  | .unary _ operand _ | .addressOf operand _ => by
    unfold Resolve.resolveExpr exprUses
    exact meets_resolveExpr operand
  | .call callee args _ => by
    unfold Resolve.resolveExpr exprUses
    exact (meets_resolveCallee callee).bind fun _ => meets_resolveExprs args
  | .callValue function args _ => by
    unfold Resolve.resolveExpr exprUses
    exact (meets_resolveExpr function).bind fun _ => meets_resolveExprs args
  | .field base path span => by
    unfold Resolve.resolveExpr exprUses
    split
    · rename_i name
      rw [exprUses]
      exact meets_enumOrValue name
    · exact meets_resolveExpr base
  | .cast type operand _ => by
    unfold Resolve.resolveExpr exprUses
    exact (meets_resolveExpr operand).bind fun _ => meets_resolveType type
  | .array element items _ => by
    unfold Resolve.resolveExpr exprUses
    cases element with
    | none => exact meets_resolveExprs items
    | some type =>
      have uses : formsUses scope (some type).toList = formUses scope type := by simp [formsUses]
      rw [uses]
      exact (meets_resolveType type).bind fun _ => meets_resolveExprs items
  | .load type operand _ => by
    unfold Resolve.resolveExpr exprUses
    exact (meets_resolveType type).bind fun _ => meets_resolveExpr operand
  | .alloc type _ => by
    unfold Resolve.resolveExpr exprUses
    exact meets_resolveType type

theorem meets_resolveExprs : (exprs : List Expr) ->
    Meets hidden scope (exprsUses scope exprs) scope (Resolve.resolveExprs exprs)
  | [] => by
    unfold Resolve.resolveExprs
    exact .pure _
  | expr :: rest => by
    unfold Resolve.resolveExprs exprsUses
    exact (meets_resolveExpr expr).bind fun _ => meets_resolveExprs rest

end

theorem meets_resolveExpr? : (expr : Option Expr) ->
    Meets hidden scope (exprsUses scope expr.toList) scope (Resolve.resolveExpr? expr)
  | none => .pure _
  | some expr => by
    have uses : exprsUses scope (some expr).toList = exprUses scope expr := by simp [exprsUses]
    rw [uses]
    exact meets_resolveExpr expr

/-! ### Declarations -/

theorem meets_bindLocal (place : NodeId) (symbol : Symbol) (known : SymbolType) :
    Meets hidden scope [] (scope.declare symbol) (Resolve.bindLocal place symbol known) := by
  refine .read fun session shows => ?_
  rw [shows]
  rcases scope.declareLocal_table symbol with ⟨error, refused, same⟩ | accepted
  · rw [refused, same]
    exact Meets.pure _ session shows
  · rw [accepted]
    exact ⟨rfl, fun _ _ => rfl, [], (List.append_nil _).symm, List.forall_mem_nil _, rfl⟩

theorem meets_declareLocal (place : NodeId) (name : Ident) (symbol : Symbol) (known : SymbolType) :
    Meets hidden scope [] (scope.declare symbol) (Resolve.declareLocal place name symbol known) := by
  refine (meets_bindLocal place symbol known).behind fun outcome => ?_
  split
  · exact .pure _
  · exact meets_report "R0003" rfl (by decide)
  · exact meets_report "B0001" rfl (by decide)

theorem meets_beginScope : Meets hidden scope [] scope.enter Resolve.beginScope := by
  refine .read fun session shows => ?_
  rw [shows, ← Scope.table_enter]
  exact ⟨rfl, fun _ _ => rfl, [], (List.append_nil _).symm, List.forall_mem_nil _, rfl⟩

/-- A frame is open where the scope is inside a block, so that closing it succeeds. -/
theorem meets_endScope (isOpen : scope.frames ≠ []) (span : Span) :
    Meets hidden scope [] scope.leave (Resolve.endScope span) := by
  refine .read fun session shows => ?_
  rw [shows, scope.endScope_table isOpen]
  exact ⟨rfl, fun _ _ => rfl, [], (List.append_nil _).symm, List.forall_mem_nil _, rfl⟩

/-- A block ends in the scope that it has started from, whatever it has declared. -/
theorem meets_closing (scope : Scope) (symbols : List Symbol) (span : Span) :
    Meets hidden (scope.enter.declareAll symbols) [] scope (Resolve.endScope span) := by
  have isOpen : (scope.enter.declareAll symbols).frames ≠ [] := by
    rw [ne_eq, (scope.enter.declareAll_tail symbols).2.2]
    exact List.cons_ne_nil _ _
  have closes : Meets hidden (scope.enter.declareAll symbols) []
      (scope.enter.declareAll symbols).leave (Resolve.endScope span) := meets_endScope isOpen span
  rwa [Scope.leave_declareAll_enter] at closes

theorem meets_resolveBinding (kind : SymbolKind) (binding : BindingDecl) :
    Meets hidden scope (exprsUses scope binding.value.toList ++ formsUses scope binding.type.toList)
      (scope.declare (bindingSymbol kind binding)) (Resolve.resolveBinding kind binding) :=
  (meets_resolveExpr? _).bind fun _ => (meets_typeOf? _).ahead fun _ => meets_declareLocal _ _ _ _

theorem meets_resolveConst (decl : ConstDecl) :
    Meets hidden scope (stmtUses scope (.const decl)) (scope.behind (.const decl))
      (Resolve.resolveConst decl) := by
  rw [stmtUses]
  refine (meets_resolveExpr? _).bind fun _ => (meets_typeOf? _).ahead fun _ => ?_
  simp only [Scope.behind, declaredBy]
  cases decl.name with
  | none => exact .pure _
  | some name => exact meets_declareLocal _ _ _ _

theorem meets_localFields (fields : List FieldDecl) (index : Nat) :
    Meets hidden scope (formsUses scope (fields.map (·.type))) scope
      (Resolve.localFields index fields) := by
  induction fields generalizing index with
  | nil => exact .pure _
  | cons field rest inductionHypothesis =>
    exact (meets_typeOf field.type).bind fun _ => (inductionHypothesis _).ahead fun _ => .pure _

theorem meets_resolveStruct (decl : StructDecl) :
    Meets hidden scope (stmtUses scope (.struct decl)) (scope.behind (.struct decl))
      (Resolve.resolveStruct decl) := by
  rw [stmtUses]
  unfold Resolve.resolveStruct
  simp only [Scope.behind, declaredBy]
  cases decl.name with
  | none => exact .pure _
  | some name =>
    exact (meets_declareLocal _ _ _ _).behind fun _ => (meets_localFields _ _).ahead fun _ =>
      .silent fun _ => ⟨rfl, rfl, rfl⟩

/-! ### Statements -/

mutual

theorem meets_resolveStmt : (stmt : Stmt) -> (scope : Scope) ->
    Meets hidden scope (stmtUses scope stmt) (scope.behind stmt) (Resolve.resolveStmt stmt)
  | .block body span, scope => by
    unfold Resolve.resolveStmt stmtUses
    exact meets_beginScope.behind fun _ => (meets_resolveStmts body _).ahead fun _ =>
      meets_closing scope _ span
  | .expr value, scope => by
    unfold Resolve.resolveStmt stmtUses
    exact meets_resolveExpr value
  | .letIn binding, scope | .instr binding, scope => by
    unfold Resolve.resolveStmt stmtUses
    exact meets_resolveBinding _ binding
  | .const decl, scope => by
    unfold Resolve.resolveStmt
    exact meets_resolveConst decl
  | .struct decl, scope => by
    unfold Resolve.resolveStmt
    exact meets_resolveStruct decl
  | .assign target value _, scope | .write target value _, scope => by
    unfold Resolve.resolveStmt stmtUses
    exact (meets_resolveExpr target).bind fun _ => meets_resolveExpr value
  | .cond test body bodySpan otherwise _, scope => by
    unfold Resolve.resolveStmt stmtUses
    rw [List.append_assoc]
    exact (meets_resolveExpr test).bind fun _ => meets_beginScope.behind fun _ =>
      (meets_resolveStmts body _).bind fun _ => (meets_closing scope _ bodySpan).behind fun _ =>
      (meets_resolveStmt? otherwise scope)
  | .whileLoop test body bodySpan _, scope => by
    unfold Resolve.resolveStmt stmtUses
    exact (meets_resolveExpr test).bind fun _ => meets_beginScope.behind fun _ =>
      (meets_resolveStmts body _).ahead fun _ => meets_closing scope _ bodySpan
  | .loop body bodySpan _, scope => by
    unfold Resolve.resolveStmt stmtUses
    exact meets_beginScope.behind fun _ => (meets_resolveStmts body _).ahead fun _ =>
      meets_closing scope _ bodySpan
  | .forLoop first test after body bodySpan span, scope => by
    have closes : Meets hidden ((scope.enter.behind? first).behind? after) [] scope
        (Resolve.endScope span) := by
      unfold Scope.behind?
      rw [← Scope.declareAll_append]
      exact meets_closing scope _ span
    unfold Resolve.resolveStmt stmtUses
    simp only [List.append_assoc]
    exact meets_beginScope.behind fun _ => (meets_resolveStmt? first _).bind fun _ =>
      (meets_resolveExpr? test).bind fun _ => (meets_resolveStmt? after _).bind fun _ =>
      meets_beginScope.behind fun _ => (meets_resolveStmts body _).ahead fun _ =>
      (meets_closing _ _ bodySpan).behind fun _ => closes
  | .ret value _, scope => by
    unfold Resolve.resolveStmt stmtUses
    exact meets_resolveExpr? value
  | .brk _, scope | .cont _, scope | .bad _, scope => by
    unfold Resolve.resolveStmt stmtUses
    exact .pure _

theorem meets_resolveStmt? : (stmt : Option Stmt) -> (scope : Scope) ->
    Meets hidden scope (stmtUses? scope stmt) (scope.behind? stmt) (Resolve.resolveStmt? stmt)
  | none, scope => by
    unfold Resolve.resolveStmt? stmtUses?
    exact .pure _
  | some stmt, scope => by
    unfold Resolve.resolveStmt? stmtUses?
    exact meets_resolveStmt stmt scope

theorem meets_resolveStmts : (body : List Stmt) -> (scope : Scope) ->
    Meets hidden scope (bodyUses scope body) (scope.declareAll (body.filterMap declaredBy))
      (Resolve.resolveStmts body)
  | [], scope => by
    unfold Resolve.resolveStmts bodyUses
    exact .pure _
  | stmt :: rest, scope => by
    unfold Resolve.resolveStmts bodyUses
    rw [Scope.declareAll_filterMap_cons]
    exact (meets_resolveStmt stmt scope).bind fun _ => meets_resolveStmts rest _

end

/-! ### Items -/

/-- A written type with hidden nodes. -/
theorem meets_typeOf_hidden {form : TypeForm} (isHidden : ∀ node ∈ form.nodes, hidden node) :
    Meets hidden scope [] scope (Check.typeOf form) := by
  intro session shows
  obtain ⟨table, refs, found, isFound, balanced, complaints⟩ := meets_typeOf form session shows
  refine ⟨table, fun node isShown => ?_, found, isFound, balanced, ?_⟩
  · rw [refs node isShown, entries_references_eq_nil]
    · rfl
    · intro isUse
      have counted := count_formUses scope node form
      have isThere : 0 < ((formUses scope form).map Use.node).count node :=
        List.count_pos_iff.mpr isUse
      exact isShown (isHidden node (List.count_pos_iff.mp (Nat.lt_of_lt_of_le isThere counted)))
  · rw [complaints]
    refine List.filterMap_eq_nil_iff.mpr fun use isUse => ?_
    obtain ⟨name, _, rfl⟩ := List.mem_map.mp isUse
    simp [Use.complaint]

theorem meets_declareParam (param : Param) (type : Ty) :
    Meets hidden scope [] (scope.declare (paramSymbol param))
      (Resolve.declareParam param type) := by
  refine (meets_bindLocal _ _ _).behind fun outcome => ?_
  split
  · exact .pure _
  · exact meets_report "R0006" rfl (by decide)
  · exact meets_report "B0001" rfl (by decide)

/-- The parameters of a function are declared in turn. Their types belong to the
signature. -/
theorem meets_resolveParams (params : List Param)
    (areHidden : ∀ param ∈ params, ∀ node ∈ param.type.nodes, hidden node) (types : List Ty)
    (scope : Scope) :
    Meets hidden scope [] (scope.declareAll (params.map paramSymbol))
      (Resolve.resolveParams types params) := by
  induction params generalizing types scope with
  | nil => exact .pure _
  | cons param rest inductionHypothesis =>
    obtain ⟨isHidden, restHidden⟩ := List.forall_mem_cons.mp areHidden
    have later := inductionHypothesis restHidden types.tail (scope.declare (paramSymbol param))
    rw [Resolve.resolveParams_cons]
    have typed : Meets hidden scope [] scope
        (types.head?.elim (Check.typeOf param.type) pure) := by
      cases types with
      | cons type others => exact .pure _
      | nil => exact meets_typeOf_hidden isHidden
    exact typed.behind fun type => (meets_declareParam param type).behind fun _ => later

theorem meets_resolveFunction (span : Span) (params : List Param) (body : Option Body)
    (areHidden : ∀ param ∈ params, ∀ node ∈ param.type.nodes, hidden node) (scope : Scope) :
    Meets hidden scope
      (bodyUses (scope.enter.declareAll (params.map paramSymbol)) (body.elim [] Body.stmts)) scope
      (Resolve.resolveFunction span params body) := by
  rw [Resolve.resolveFunction_eq]
  refine .read fun session shows => ?_
  refine Meets.behind meets_beginScope (fun _ => ?_) session shows
  refine (meets_resolveParams params areHidden _ _).behind fun _ =>
    (meets_resolveStmts (body.elim [] Body.stmts) _).ahead fun _ => ?_
  rw [← Scope.declareAll_append]
  exact meets_closing scope _ span

theorem meets_variants (variants : List VariantDecl) :
    Meets hidden scope (exprsUses scope (variants.filterMap (·.value))) scope
      (variants.forM fun variant => Resolve.resolveExpr? variant.value) := by
  induction variants with
  | nil => exact .pure _
  | cons variant rest inductionHypothesis =>
    have uses : exprsUses scope ((variant :: rest).filterMap (·.value)) =
        exprsUses scope variant.value.toList ++
          exprsUses scope (rest.filterMap (·.value)) := by
      rw [List.filterMap_cons]
      cases variant.value <;> simp [exprsUses]
    rw [uses]
    exact (meets_resolveExpr? variant.value).bind fun _ => inductionHypothesis

/-- An item is walked from outside of all blocks and ends there. -/
theorem meets_resolveItem (globals : List Symbol) (item : Item)
    (isHidden : ∀ node ∈ signatureNodes [item], hidden node) :
    Meets hidden ⟨globals, []⟩ (itemUses globals item) ⟨globals, []⟩ (Resolve.resolveItem item) := by
  have areHidden (params : List Param) (isForm : ∀ param ∈ params, param.type ∈ item.forms) :
      ∀ param ∈ params, ∀ node ∈ param.type.nodes, hidden node := by
    intro param isParam node isNode
    refine isHidden node (List.mem_flatMap.mpr ⟨item, List.mem_cons_self, ?_⟩)
    exact List.mem_flatMap.mpr ⟨param.type, isForm param isParam, isNode⟩
  cases item with
  | function decl =>
    have meets := meets_resolveFunction decl.span decl.params decl.body (areHidden _ ?_)
      ⟨globals, []⟩
    · rw [itemUses]
      simp only [Resolve.resolveItem]
      cases written : decl.body with
      | none => simpa [written, bodyUses] using meets
      | some body =>
        rw [written] at meets
        exact meets
    · intro param isParam
      exact List.mem_append_left _ (List.mem_map.mpr ⟨param, isParam, rfl⟩)
  | asm decl =>
    refine meets_resolveFunction decl.span decl.params none (areHidden _ ?_) ⟨globals, []⟩
    intro param isParam
    exact List.mem_append_left _ (List.mem_map.mpr ⟨param, isParam, rfl⟩)
  | entry decl =>
    have meets : Meets hidden ⟨globals, []⟩ _ _ _ :=
      meets_resolveStmt (.block decl.body.stmts decl.body.span) ⟨globals, []⟩
    rw [stmtUses] at meets
    exact meets
  | const decl => exact meets_resolveExpr? _
  | static decl => exact meets_resolveExpr? _
  | enum decl => exact meets_variants _
  | struct _ => exact .pure _
  | typeAlias _ => exact .pure _
  | stray stmt =>
    have meets : Meets hidden ⟨globals, []⟩ _ _ _ := meets_resolveStmt stmt ⟨globals, []⟩
    rw [Scope.behind, Scope.declareAll_outside _ _ rfl] at meets
    exact meets

/-! ### Units -/

theorem meets_items (globals : List Symbol) (items : List Item)
    (areHidden : ∀ node ∈ signatureNodes items, hidden node) :
    Meets hidden ⟨globals, []⟩ (items.flatMap (itemUses globals)) ⟨globals, []⟩
      (items.forM Resolve.resolveItem) := by
  induction items with
  | nil => exact .pure _
  | cons item rest inductionHypothesis =>
    have split : signatureNodes (item :: rest) = signatureNodes [item] ++ signatureNodes rest := by
      simp [signatureNodes]
    rw [split, List.forall_mem_append] at areHidden
    exact (meets_resolveItem globals item areHidden.1).bind fun _ =>
      inductionHypothesis areHidden.2

/-- The second pass goes through the uses of a unit and leaves no frame open. -/
theorem met_walk {session : Session} {globals : List Symbol}
    (shows : session.table = Scope.table ⟨globals, []⟩) :
    Met (· ∈ signatureNodes session.items) (session.items.flatMap (itemUses globals)) ⟨globals, []⟩
      session (session.after Resolve.walk) := by
  have meets : Meets (· ∈ signatureNodes session.items) ⟨globals, []⟩
      (session.items.flatMap (itemUses globals)) ⟨globals, []⟩ (do
        session.items.forM Resolve.resolveItem
        let depth := (<- get).table.depth
        if depth ≠ 0 then Check.report (.scopesLeftOpen depth)) := by
    refine (meets_items globals session.items fun _ => id).ahead fun _ =>
      .read fun last isLast => ?_
    rw [isLast]
    exact Meets.pure () last isLast
  exact meets session shows

/-- A session that is outside of all blocks and knows references in signatures only. -/
structure Outside (items : List Item) (session : Session) : Prop where
  unit : session.items = items
  table : session.table = Scope.table ⟨session.table.globals, []⟩
  refs : ∀ node, node ∉ signatureNodes items → entries node session.facts.refs = []

theorem Outside.alike {items : List Item} {before after : Session}
    (outside : Outside items before) (alike : before.Alike after) : Outside items after :=
  alike.carries outside fun _ _ holds => ⟨holds.unit, holds.table, holds.refs⟩

/-- Declaring stays outside of blocks and records references in signatures only. -/
def declaring (items : List Item) : Regime where
  holds := Outside items
  permits
    | .locals _ _ => False
    | .refers node _ => node ∈ signatureNodes items
    | _ => True
  stable act session permitted outside := by
    obtain ⟨sameItems, table, refs⟩ := outside
    cases act with
    | locals arena frames => cases permitted
    | refers place symbol =>
      refine ⟨sameItems, table, fun node isOutside => ?_⟩
      change entries node ((place, symbol) :: session.facts.refs) = []
      rw [entries, List.filter_cons_of_neg]
      · exact refs node isOutside
      · rw [decide_eq_true_eq]
        rintro rfl
        exact isOutside permitted
    | global symbol =>
      refine ⟨sameItems, ?_, refs⟩
      change Table.mk _ _ _ = _
      rw [table]
      rfl
    | _ => exact ⟨sameItems, table, refs⟩

theorem outside_after_declare {session : Session} {items : List Item}
    (outside : Outside items session) : Outside items (session.after Declare.walk) := by
  have may : Declare.MayDeclare (declaring items) (· ∈ signatureNodes items) :=
    ⟨⟨fun _ => trivial, fun _ _ _ => trivial, fun _ _ isNode => isNode⟩, fun _ => trivial,
      fun _ _ _ => trivial, fun _ _ => trivial, fun _ _ => trivial, fun _ => trivial,
      fun _ _ => trivial, fun _ _ => trivial⟩
  refine (Declare.obeys_walk may (fun other holds item isItem node isNode => ?_) session
    outside).holds outside
  rw [holds.unit] at isItem
  exact List.mem_flatMap.mpr ⟨item, isItem, isNode⟩

/-- The latest entry at a node is the first of the entries at the node. -/
theorem find?_entries (node : NodeId) (log : FactLog α) :
    (entries node log).find? node = log.find? node := by
  unfold FactLog.find? entries
  induction log with
  | nil => rfl
  | cons entry rest inductionHypothesis =>
    obtain ⟨place, fact⟩ := entry
    by_cases here : place = node
    · subst here
      rw [List.filter_cons_of_pos (by simp), List.lookup_cons_self, List.lookup_cons_self]
    · have other : (node == place) = false := beq_false_of_ne (Ne.symm here)
      rw [List.filter_cons_of_neg (by simpa using here), inductionHypothesis, List.lookup_cons,
        other]

/-- Where no two uses stand at one node, each has its own entry only. -/
theorem entries_references {uses : List Use} (distinct : (uses.map Use.node).Nodup) {use : Use}
    (isUse : use ∈ uses) :
    entries use.node (uses.filterMap Use.reference) = use.reference.toList := by
  induction uses with
  | nil => cases isUse
  | cons first rest inductionHypothesis =>
    obtain ⟨isNew, others⟩ := List.nodup_cons.mp distinct
    have split : (first :: rest).filterMap Use.reference =
        [first].filterMap Use.reference ++ rest.filterMap Use.reference := by
      rw [← List.filterMap_append]
      rfl
    rw [split, entries, List.filter_append, ← entries, ← entries]
    rcases List.mem_cons.mp isUse with rfl | isLater
    · rw [entries_references_eq_nil isNew, List.append_nil, entries]
      cases records : use.reference with
      | none => simp [records]
      | some entry =>
        obtain ⟨symbol, _, rfl⟩ := Option.map_eq_some_iff.mp records
        simp [records]
    · have absent : use.node ∉ [first].map Use.node := by
        rw [List.map_singleton, List.mem_singleton]
        exact fun same => isNew (List.mem_map.mpr ⟨use, isLater, same⟩)
      rw [entries_references_eq_nil absent, List.nil_append]
      exact inductionHypothesis others isLater

/-- Resolving the names of a decoded unit behind declaring leaves no frame and no local
behind and never closes a frame that is not open. Every name in a body or a value is bound
to what it means in its scope. The names of values and callees that mean nothing are the
ones reported as undeclared, in turn. -/
theorem resolved_as_scoped {file text : String} {unit : Module}
    (read : Module.decode file text = .ok unit) (options : Options) :
    let declared := (Session.start (some unit) options).after Pass.declare.run
    let resolved := declared.after Pass.scope.run
    let uses := unitUses declared.table.globals unit
    resolved.table.frames = [] ∧ resolved.table.locals = [] ∧
      (∀ use ∈ uses, resolved.facts.refs.find? use.node = use.meaning) ∧
      ∃ found, resolved.findings = declared.findings ++ found ∧
        (∀ finding ∈ found, finding.code ≠ "B0003") ∧
        found.filter (·.code = "R0001") = uses.filterMap Use.complaint := by
  intro declared resolved uses
  obtain ⟨alikeDeclared, passes⟩ : ((Session.start (some unit) options).after
      Pass.declare.walk).Alike declared ∧ declared.passes = ⟨[.declare]⟩ := run_pass rfl rfl
  obtain ⟨alikeResolved, _⟩ : (declared.after Pass.scope.walk).Alike resolved ∧
      resolved.passes = ⟨.scope :: declared.passes.done⟩ :=
    run_pass (by rw [passes]; rfl) (by rw [passes]; rfl)
  have start : Outside unit.items (Session.start (some unit) options) := ⟨rfl, rfl, fun _ _ => rfl⟩
  obtain ⟨items, table, noRefs⟩ := outside_after_declare start
  rw [← Pass.walk_declare, ← alikeDeclared.items] at items
  rw [← Pass.walk_declare, ← alikeDeclared.table] at table
  obtain ⟨lastTable, refs, found, isFound, balanced, complaints⟩ := met_walk table
  rw [← Pass.walk_scope, ← alikeResolved.table] at lastTable
  rw [← Pass.walk_scope, ← alikeResolved.findings] at isFound
  rw [items] at complaints
  refine ⟨by rw [lastTable]; rfl, by rw [lastTable]; rfl, fun use isUse => ?_, found, isFound,
    balanced, complaints⟩
  obtain ⟨distinct, elsewhere⟩ := nodup_unitUses read declared.table.globals
  have isShown := elsewhere use isUse
  have nothing : entries use.node declared.facts.refs = [] := by
    rw [alikeDeclared.facts]
    exact noRefs _ isShown
  have recorded : entries use.node resolved.facts.refs = use.reference.toList := by
    rw [← items] at isShown
    rw [alikeResolved.facts, Pass.walk_scope, refs _ isShown, nothing, List.append_nil, items,
      ← unitUses, entries_references distinct isUse]
    cases use.reference <;> rfl
  rw [← find?_entries, recorded, Use.reference]
  cases use.meaning with
  | none => rfl
  | some symbol => exact List.lookup_cons_self

/-- A parameter. -/
def outerParam : Param :=
  ⟨⟨"a", .ofLine 8 9⟩, .named "s32" (.ofLine 10 13), false, .ofLine 7 14⟩

/-- A local of the same name, which starts with the value of the parameter. -/
def innerLet : BindingDecl :=
  ⟨⟨"a", .ofLine 40 41⟩, some (.named "s32" (.ofLine 42 45)), some (.name ⟨"a", .ofLine 46 47⟩),
    false, .ofLine 35 48⟩

/-- A unit in which a local hides a parameter. -/
def hidingUnit : Module :=
  ⟨"unit", [.function ⟨[], some ⟨"f", .ofLine 4 5⟩, [outerParam],
    some (.named "void" (.ofLine 16 20)),
    some ⟨[.block [.letIn innerLet, .expr (.name ⟨"a", .ofLine 49 50⟩)] (.ofLine 28 51)],
      .ofLine 21 52⟩, .ofLine 0 53⟩], some (.ofLine 0 53)⟩

/-- The value of a local means the parameter that the local hides, and behind the local its
name means the local. -/
theorem resolved_as_scoped_hiding :
    Module.decode "unit" "(fn f ((a s32)) void (block (block (let a s32 a) a)))" =
        .ok hidingUnit ∧
      let resolved := ((Session.start (some hidingUnit) .standard).after Pass.declare.run).after
        Pass.scope.run
      resolved.table.frames = [] ∧ resolved.table.locals = [] ∧
        resolved.facts.refs.find? 46 = some (paramSymbol outerParam) ∧
        resolved.facts.refs.find? 49 = some (bindingSymbol .localVar innerLet) := by
  have read : Module.decode "unit" "(fn f ((a s32)) void (block (block (let a s32 a) a)))" =
      .ok hidingUnit := Module.decode_chars (by cbv)
  obtain ⟨frames, locals, bound, _⟩ := resolved_as_scoped read .standard
  generalize ((Session.start (some hidingUnit) .standard).after Pass.declare.run).table.globals =
    globals at bound
  have uses : unitUses globals hidingUnit =
      [⟨⟨globals, [[], [paramSymbol outerParam]]⟩, .value, ⟨"a", .ofLine 46 47⟩⟩,
        ⟨⟨globals, [[bindingSymbol .localVar innerLet], [paramSymbol outerParam]]⟩, .value,
          ⟨"a", .ofLine 49 50⟩⟩] := by rfl
  rw [uses] at bound
  exact ⟨read, frames, locals, bound _ List.mem_cons_self,
    bound _ (List.mem_cons_of_mem _ List.mem_cons_self)⟩

end UnitCheck.Lexical
