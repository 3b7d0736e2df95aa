import UnitCheck.Proofs.Declare.Frame
import UnitCheck.Proofs.Session.Lockstep

/-!
# Declaring looks at signatures

What declaring does depends on the headers and signatures of the items and on nothing
inside their bodies. From sessions that agree, declaring the same items stays in step,
and the types it finds mention the items of the unit only.
-/

namespace UnitCheck

section Declaring

variable {outlook : Outlook} {one other : Session}

/-- Sessions still agree when both declare a global. -/
theorem Agree.global (agree : Agree outlook one other) (symbol : Symbol) :
    Agree outlook (Act.apply one (.global symbol)) (Act.apply other (.global symbol)) := by
  refine ⟨agree.file, agree.options, fun space name called => ?_, agree.locals, agree.frames,
    agree.known, agree.entries⟩
  have same := agree.globals space name called
  unfold Table.global? at same ⊢
  simp only [Act.apply, List.find?_append, same]

theorem Enclosed.global (enclosed : Enclosed outlook one) {symbol : Symbol}
    (proper : outlook.Proper symbol) : Enclosed outlook (Act.apply one (.global symbol)) := by
  refine ⟨fun other isGlobal => ?_, enclosed.locals, enclosed.known, enclosed.entries⟩
  obtain isGlobal | isNew := List.mem_append.mp isGlobal
  · exact enclosed.globals other isGlobal
  · cases List.mem_singleton.mp isNew
    exact proper

/-- Sessions still agree when both learn about a builtin symbol. -/
theorem Agree.builtin (agree : Agree outlook one other) (number : Nat) (known : SymbolType) :
    Agree outlook (Act.apply one (.knows (.builtin number) known))
      (Act.apply other (.knows (.builtin number) known)) := by
  refine ⟨agree.file, agree.options, agree.globals, agree.locals, agree.frames,
    fun id steady => ?_, agree.entries⟩
  rw [Act.knownOf_apply, Act.knownOf_apply, agree.known id steady]

theorem Enclosed.builtin (enclosed : Enclosed outlook one) (number : Nat) {known : SymbolType}
    (within : known.Within outlook.visible) :
    Enclosed outlook (Act.apply one (.knows (.builtin number) known)) := by
  refine ⟨enclosed.globals, enclosed.locals, fun id met => ?_, enclosed.entries⟩
  rw [Act.knownOf_apply]
  split
  · exact within
  · exact enclosed.known id met

end Declaring

namespace Declare

variable {outlook : Outlook} {pairing : Pairing outlook}

/-- The pairing is kept when globals are declared on both sides. -/
structure MayDeclareAlike (pairing : Pairing outlook) : Prop where
  global : ∀ {one other} symbol, pairing.alike one other → outlook.Proper symbol →
    pairing.alike (Act.apply one (.global symbol)) (Act.apply other (.global symbol))
  builtin : ∀ {one other} number known, pairing.alike one other → known.Within outlook.visible →
    pairing.alike (Act.apply one (.knows (.builtin number) known))
      (Act.apply other (.knows (.builtin number) known))

/-- The declaration of an item may be met and its signature may be written to. -/
structure Owned (outlook : Outlook) (item : Item) : Prop where
  visible : outlook.visible item.span.node
  owns : outlook.owns item.span.node
  forms : Lie outlook.owns item.forms
  called : ∀ header ∈ header? item, ∀ name ∈ header.name, outlook.calls name.name

/-- A pending global that the outlook owns. -/
structure OwnedPending (outlook : Outlook) (pending : Pending) : Prop
    extends Owned outlook pending.item where
  own : pending.symbol.id = .node pending.item.span.node

/-- A symbol of an owned item may be met. -/
theorem Owned.proper {item : Item} (owned : Owned outlook item) {symbol : Symbol}
    (own : symbol.id = .node item.span.node) : outlook.Proper symbol := by
  refine ⟨?_, fun _ => ?_⟩
  · rw [own]
    exact owned.visible
  · rw [own]
    exact outlook.steady_of_owns _ owned.owns

/-! ### Collecting globals -/

/-- Declaring a global puts it into both tables or into none. -/
theorem inStepAt_declareGlobal (may : MayDeclareAlike pairing) {one other : Session}
    (alike : pairing.alike one other) {symbol : Symbol} (proper : outlook.Proper symbol)
    (called : outlook.calls symbol.name) :
    (∃ error, one.table.declareGlobal symbol = .error error ∧
      other.table.declareGlobal symbol = .error error) ∨
    ∃ first second, one.table.declareGlobal symbol = .ok first ∧
      other.table.declareGlobal symbol = .ok second ∧
      pairing.InStepAt one other (Check.setTable first) (Check.setTable second) fun _ => True := by
  unfold Table.declareGlobal
  rw [(pairing.agree alike).globals _ _ fun _ => called]
  cases other.table.global? symbol.kind.space symbol.name with
  | some previous => exact .inl ⟨_, rfl, rfl⟩
  | none => exact .inr ⟨_, _, rfl, rfl, rfl, trivial, may.global symbol alike proper⟩

theorem within_intrinsic {intrinsic : Intrinsic} (isIntrinsic : intrinsic ∈ intrinsics) :
    intrinsic.known.Within outlook.visible := by
  unfold intrinsics at isIntrinsic
  simp only [List.mem_cons, List.not_mem_nil, or_false] at isIntrinsic
  obtain rfl | rfl | rfl | rfl := isIntrinsic <;>
    exact ⟨by simp [Intrinsic.known], by simp [Intrinsic.known]⟩

theorem steps_declareIntrinsic (may : MayDeclareAlike pairing) {intrinsic : Intrinsic}
    (isIntrinsic : intrinsic ∈ intrinsics) (called : outlook.calls intrinsic.name) (number : Nat) :
    pairing.Steps (intrinsic.declare number) fun _ => True := by
  refine .read fun one other alike => ?_
  have proper : outlook.Proper (intrinsic.symbol number) :=
    ⟨trivial, fun isType => by cases isType⟩
  obtain ⟨error, refused, otherRefused⟩ | ⟨first, second, placed, otherPlaced, inStep⟩ :=
    inStepAt_declareGlobal may alike proper called
  · simp only [refused, otherRefused]
    exact Pairing.steps_report _ one other alike
  · simp only [placed, otherPlaced]
    exact ⟨rfl, trivial, may.builtin number _ inStep.2.2 (within_intrinsic isIntrinsic)⟩

theorem steps_declareIntrinsics (may : MayDeclareAlike pairing) (number : Nat)
    (all : List Intrinsic) (known : ∀ intrinsic ∈ all, intrinsic ∈ intrinsics)
    (called : ∀ intrinsic ∈ all, outlook.calls intrinsic.name) :
    pairing.Steps (declareIntrinsics number all) fun _ => True := by
  induction all generalizing number with
  | nil => exact .pure trivial
  | cons intrinsic rest inductionHypothesis =>
    obtain ⟨isIntrinsic, others⟩ := List.forall_mem_cons.mp known
    obtain ⟨isCalled, othersCalled⟩ := List.forall_mem_cons.mp called
    exact .bind (steps_declareIntrinsic may isIntrinsic isCalled number) fun _ _ =>
      inductionHypothesis _ others othersCalled

theorem steps_introduce {item : Item} (owned : Owned outlook item) {symbol : Symbol}
    (own : symbol.id = .node item.span.node) :
    pairing.Steps (introduce item symbol) fun _ => True := by
  have known (type : Option Ty) (holds : ∀ found ∈ type, outlook.Holds found) :
      pairing.Steps (Check.setKnown symbol.id (.ofType type)) fun _ => True :=
    Pairing.steps_setKnown owned.owns own ⟨holds, List.forall_mem_nil _⟩
  unfold introduce
  simp only
  split
  · refine .bind (Pairing.steps_act (.struct item.span.node .empty) (fun _ => rfl)
      ⟨owned.owns, List.forall_mem_nil _⟩) fun _ _ => known _ ?_
    rintro _ ⟨⟩
    exact owned.visible
  · refine .bind (Pairing.steps_act (.enum item.span.node ⟨.prim .s32, []⟩) (fun _ => rfl)
      ⟨owned.owns, trivial⟩) fun _ _ => known _ ?_
    rintro _ ⟨⟩
    exact owned.visible
  · exact known none fun _ impossible => by cases impossible

theorem steps_declareGlobal (may : MayDeclareAlike pairing) {item : Item}
    (owned : Owned outlook item) {header : Header} (isHeader : header? item = some header) :
    pairing.Steps (declareGlobal item header)
      fun found => ∀ pending ∈ found, OwnedPending outlook pending := by
  have nothing : ∀ pending ∈ (none : Option Pending), OwnedPending outlook pending :=
    fun _ impossible => by cases impossible
  unfold declareGlobal
  cases isNamed : header.name with
  | none => exact .bind (Pairing.steps_report _) fun _ _ => .pure nothing
  | some name =>
    have own := id_symbolOf item header name
    have proper := owned.proper own
    have called : outlook.calls (symbolOf item header name).name := by
      rw [name_symbolOf]
      exact owned.called header isHeader name isNamed
    simp only
    split
    · exact .bind (Pairing.steps_report _) fun _ _ => .pure nothing
    · refine .read fun one other alike => ?_
      obtain ⟨error, refused, otherRefused⟩ | ⟨first, second, placed, otherPlaced, inStep⟩ :=
        inStepAt_declareGlobal may alike proper called
      · rw [refused, otherRefused]
        cases error with
        | duplicate _ previous =>
          exact (Pairing.InStep.bind (Pairing.steps_report _) fun _ _ => .pure nothing)
            one other alike
        | underflow => exact Pairing.InStep.pure nothing one other alike
        | noScope => exact Pairing.InStep.pure nothing one other alike
      · rw [placed, otherPlaced]
        have rest : pairing.Steps (do
            introduce item (symbolOf item header name)
            Check.say .green ("declared " ++ (symbolOf item header name).kind.text ++ " " ++
              (symbolOf item header name).name ++ "\n")
            Check.recordDecl item.span.node (symbolOf item header name)
            return some ⟨symbolOf item header name, item⟩ : Check (Option Pending))
            fun found => ∀ pending ∈ found, OwnedPending outlook pending := by
          refine .bind (steps_introduce owned own) fun _ _ => .bind (Pairing.steps_say _ _)
            fun _ _ => .bind (Pairing.steps_recordDecl owned.owns proper own) fun _ _ => .pure ?_
          rintro _ ⟨⟩
          exact ⟨owned, own⟩
        exact rest _ _ inStep.2.2

theorem steps_sayNested (span : Span) : pairing.Steps (sayNested span) fun _ => True := by
  refine .read fun one other alike => ?_
  simp only
  rw [(pairing.agree alike).file]
  exact Pairing.steps_say _ _ one other alike

mutual

theorem steps_skipNested : (stmt : Stmt) -> pairing.Steps (skipNested stmt) fun _ => True
  | .block body _ => by
    unfold skipNested
    exact steps_skipNestedAll body
  | .const decl => by
    unfold skipNested
    exact steps_sayNested decl.span
  | .struct decl => by
    unfold skipNested
    exact steps_sayNested decl.span
  | .expr _ | .letIn _ | .instr _ | .assign _ _ _ | .write _ _ _ | .cond _ _ _ _ _
  | .whileLoop _ _ _ _ | .loop _ _ _ | .forLoop _ _ _ _ _ _ | .ret _ _ | .brk _ | .cont _
  | .bad _ => by
    simp only [skipNested]
    exact .pure trivial

theorem steps_skipNestedAll :
    (body : List Stmt) -> pairing.Steps (skipNestedAll body) fun _ => True
  | [] => by
    unfold skipNestedAll
    exact .pure trivial
  | stmt :: rest => by
    unfold skipNestedAll
    exact .bind (steps_skipNested stmt) fun _ _ => steps_skipNestedAll rest

end

theorem steps_collectItem (may : MayDeclareAlike pairing) (entry : Option Span) {item : Item}
    (owned : item.ownNode ≠ [] → Owned outlook item) :
    pairing.Steps (collectItem entry item)
      fun found => ∀ pending ∈ found.2, OwnedPending outlook pending := by
  have nothing : ∀ pending ∈ (none : Option Pending), OwnedPending outlook pending :=
    fun _ impossible => by cases impossible
  unfold collectItem
  split
  · split
    · exact .bind (Pairing.steps_report _) fun _ _ => .pure nothing
    · exact .pure nothing
  · exact .bind (steps_skipNestedAll _) fun _ _ => .pure nothing
  · exact .bind (Pairing.steps_report _) fun _ _ => .pure nothing
  · exact .bind (Pairing.steps_report _) fun _ _ => .pure nothing
  · rename_i notEntry _ _ notStray
    have declares : item.ownNode ≠ [] := by
      cases item with
      | stray stmt => exact (notStray stmt rfl).elim
      | _ => exact List.cons_ne_nil _ _
    split
    · rename_i isHeader
      exact .bind (steps_declareGlobal may (owned declares) isHeader) fun _ holds => .pure holds
    · exact .pure nothing

theorem steps_collect (may : MayDeclareAlike pairing) (items : List Item)
    (owned : ∀ item ∈ items, item.ownNode ≠ [] → Owned outlook item) (entry : Option Span) :
    pairing.Steps (collect entry items)
      fun found => ∀ pending ∈ found, OwnedPending outlook pending := by
  induction items generalizing entry with
  | nil => exact .pure (List.forall_mem_nil _)
  | cons item rest inductionHypothesis =>
    obtain ⟨itemOwned, restOwned⟩ := List.forall_mem_cons.mp owned
    refine .bind (steps_collectItem may entry itemOwned) fun found holds =>
      .bind (inductionHypothesis restOwned _) fun others othersHold => .pure ?_
    refine List.forall_mem_append.mpr ⟨fun pending isPending => ?_, othersHold⟩
    exact holds pending (Option.mem_toList.mp isPending)

/-! ### Resolving signatures -/

/-- An alias that the outlook owns. -/
structure OwnedAlias (outlook : Outlook) (entry : DeclaredAlias) : Prop where
  owns : ∃ node, outlook.owns node ∧ entry.symbol.id = .node node
  target : Lie outlook.owns entry.decl.target.toList

theorem steps_setAliasType {entry : DeclaredAlias} (owned : OwnedAlias outlook entry) {type : Ty}
    (holds : outlook.Holds type) :
    pairing.Steps (Check.setType entry.symbol.id type) fun _ => True := by
  obtain ⟨node, owns, own⟩ := owned.owns
  exact Pairing.steps_setType owns own holds

theorem steps_settle {entry : DeclaredAlias} (owned : OwnedAlias outlook entry) :
    pairing.Steps entry.settle fun _ => True := by
  refine .read fun one other alike => ?_
  obtain ⟨node, owns, own⟩ := owned.owns
  rw [(pairing.agree alike).known _ (own ▸ outlook.steady_of_owns node owns)]
  split
  · exact Pairing.InStep.pure trivial one other alike
  · split
    · rename_i target written
      have targetOwned := owned.target
      simp only [written, Option.toList_some, lie_cons] at targetOwned
      exact (Pairing.InStep.bind (Pairing.steps_typeOf _ targetOwned.1) fun _ holds =>
        steps_setAliasType owned holds) one other alike
    · exact (Pairing.InStep.bind (Pairing.steps_report _) fun _ _ =>
        steps_setAliasType owned (show outlook.Holds .unknown from trivial)) one other alike

theorem steps_aliasNamed? (all : List DeclaredAlias) (name : String) :
    pairing.Steps (aliasNamed? all name) fun found => ∀ entry ∈ found, entry ∈ all := by
  refine .read fun one other alike => ?_
  rw [(pairing.agree alike).resolveType?]
  cases other.table.resolveType? name with
  | none =>
    exact Pairing.InStep.pure (fun _ impossible => by cases impossible) one other alike
  | some symbol =>
    exact Pairing.InStep.pure (fun _ found => List.mem_of_find?_eq_some found) one other alike

theorem steps_resolveAlias (all : List DeclaredAlias)
    (owned : ∀ entry ∈ all, OwnedAlias outlook entry) (fuel : Nat) (path settled : List SymbolId)
    (entry : DeclaredAlias) (isEntry : entry ∈ all) :
    pairing.Steps (resolveAlias all fuel path settled entry) fun _ => True := by
  induction fuel generalizing path settled entry with
  | zero => exact .pure trivial
  | succ fuel inductionHypothesis =>
    unfold resolveAlias
    split
    · exact .bind (Pairing.steps_report _) fun _ _ =>
        .bind (steps_setAliasType (owned entry isEntry) (show outlook.Holds .unknown from trivial))
          fun _ _ => .pure trivial
    · split
      · exact .pure trivial
      · refine .bind (.foldlM _ ?_ _) fun _ _ =>
          .bind (steps_settle (owned entry isEntry)) fun _ _ => .pure trivial
        intro mention _ settled
        refine .bind (steps_aliasNamed? all mention.name) fun found isFound => ?_
        cases found with
        | some other => exact inductionHypothesis _ _ _ (isFound other rfl)
        | none => exact .pure trivial

theorem steps_resolveAliases (all : List DeclaredAlias)
    (owned : ∀ entry ∈ all, OwnedAlias outlook entry) :
    pairing.Steps (resolveAliases all) fun _ => True :=
  .bind (.foldlM _ (fun entry isEntry _ =>
    steps_resolveAlias all owned _ _ _ entry isEntry) _) fun _ _ => .pure trivial

theorem steps_structFields (fields : List FieldDecl)
    (owned : Lie outlook.owns (fields.map (·.type))) (index : Nat) (seen : List Ident) :
    pairing.Steps (structFields index seen fields)
      fun found => ∀ field ∈ found, outlook.Holds field.type := by
  induction fields generalizing index seen with
  | nil => exact .pure (List.forall_mem_nil _)
  | cons field rest inductionHypothesis =>
    simp only [List.map_cons, lie_cons] at owned
    have later := inductionHypothesis owned.2
    unfold structFields
    split
    · exact .bind (Pairing.steps_typeOf _ owned.1) fun _ holds =>
        .bind (later _ _) fun _ restHolds => .pure (List.forall_mem_cons.mpr ⟨holds, restHolds⟩)
    · split
      · exact .bind (Pairing.steps_report _) fun _ _ => later _ _
      · exact .bind (Pairing.steps_typeOf _ owned.1) fun _ holds =>
          .bind (later _ _) fun _ restHolds => .pure (List.forall_mem_cons.mpr ⟨holds, restHolds⟩)

theorem steps_enumBase (decl : EnumDecl) (owned : Lie outlook.owns decl.base.toList) :
    pairing.Steps (enumBase decl) outlook.Holds := by
  have standard : outlook.Holds (.prim .s32) := trivial
  unfold enumBase
  cases written : decl.base with
  | none => exact .pure standard
  | some form =>
    simp only [written, Option.toList_some, lie_cons] at owned
    refine .bind (Pairing.steps_typeOf _ owned.1) fun base holds => ?_
    split
    · exact .pure holds
    · simp only
      split
      · exact .bind (Pairing.steps_report _) fun _ _ => .pure standard
      · exact .pure standard

theorem steps_enumVariants (variants : List VariantDecl) (seen : List Ident) :
    pairing.Steps (enumVariants seen variants) fun _ => True := by
  induction variants generalizing seen with
  | nil => exact .pure trivial
  | cons variant rest inductionHypothesis =>
    unfold enumVariants
    split
    · exact .bind (Pairing.steps_report _) fun _ _ => inductionHypothesis _
    · exact .bind (inductionHypothesis _) fun _ _ => .pure trivial

theorem steps_defineType {pending : Pending} (owned : OwnedPending outlook pending) :
    pairing.Steps (defineType pending) fun _ => True := by
  obtain ⟨⟨-, owns, forms⟩, -⟩ := owned
  unfold defineType
  split
  · rename_i decl isStruct
    rw [isStruct] at owns forms
    refine .bind (steps_structFields _ forms _ _) fun fields hold => ?_
    exact Pairing.steps_act (.struct decl.span.node ⟨fields, _⟩) (fun _ => rfl) ⟨owns, hold⟩
  · rename_i decl isEnum
    rw [isEnum] at owns forms
    refine .bind (steps_enumBase _ forms) fun base holds =>
      .bind (steps_enumVariants _ _) fun variants _ => ?_
    exact Pairing.steps_act (.enum decl.span.node ⟨base, variants⟩) (fun _ => rfl) ⟨owns, holds⟩
  · exact .pure trivial

theorem visible_of_valueStruct? : (type : Ty) -> outlook.Holds type -> {name : String} ->
    {id : TypeId} -> valueStruct? type = some (name, id) -> outlook.visible id
  | .struct _ _, holds, _, _, found => by
    cases found
    exact holds
  | .fixedArray element _, holds, _, _, found => visible_of_valueStruct? element holds found
  | .const inner, holds, _, _, found => visible_of_valueStruct? inner holds found
  | .mutable inner, holds, _, _, found => visible_of_valueStruct? inner holds found

/-- Cutting a field leaves a struct that mentions nothing new. -/
theorem within_cutField {body : StructBody} (within : body.Within outlook.visible) (index : Nat) :
    (cutField body index).Within outlook.visible := by
  intro field isField
  obtain ⟨place, isPlace⟩ := List.mem_iff_getElem?.mp isField
  unfold cutField at isPlace
  simp only [List.getElem?_modify] at isPlace
  cases found : body.fields[place]? with
  | none => simp [found] at isPlace
  | some old =>
    rw [found] at isPlace
    split at isPlace
    · cases isPlace
      trivial
    · cases isPlace
      exact within old (List.mem_of_getElem? found)

/-- A field of a visible struct is cut out alike. -/
theorem steps_cutField {id : TypeId} (visible : outlook.visible id) (owned : outlook.owns id)
    (index : Nat) : pairing.Steps (Check.define fun definitions =>
      definitions.setStruct id (cutField (definitions.struct id) index)) fun _ => True := by
  intro one other alike
  have inside := outlook.inside_of_visible id visible
  have same : one.definitions.struct id = other.definitions.struct id :=
    congrArg Entry.struct ((pairing.agree alike).entries id inside)
  have outcome (session : Session) : ((Check.define fun definitions =>
      definitions.setStruct id (cutField (definitions.struct id) index)).run session).2 =
      Act.apply session (.struct id (cutField (session.definitions.struct id) index)) := rfl
  refine ⟨rfl, trivial, ?_⟩
  rw [outcome, outcome, ← same]
  exact pairing.act alike
    ⟨owned, within_cutField ((pairing.enclosed alike).entries id inside).struct index⟩

theorem steps_visitField {fuel : Nat}
    (visits : ∀ path done blame name id, outlook.visible id →
      pairing.Steps (visitStruct fuel path done blame name id) fun _ => True)
    {id : TypeId} (visible : outlook.visible id) (owned : outlook.owns id) (path : List TypeId)
    (name : String) (state : Option Span × List TypeId) {field : StructField × Nat}
    (holds : outlook.Holds field.1.type) :
    pairing.Steps (visitField fuel path name id state field) fun _ => True := by
  unfold visitField
  split
  · exact .pure trivial
  · rename_i inner innerId isStruct
    refine .bind (visits _ _ _ _ _ (visible_of_valueStruct? field.1.type holds isStruct))
      fun outcome _ => ?_
    simp only
    split
    · cases state.1 with
      | some span =>
        exact .bind (Pairing.steps_report _) fun _ _ =>
          .bind (steps_cutField visible owned _) fun _ _ => .pure trivial
      | none => exact .bind (steps_cutField visible owned _) fun _ _ => .pure trivial
    · exact .pure trivial

theorem steps_visitStruct (owned : ∀ id, outlook.visible id → outlook.owns id) (fuel : Nat)
    (path done : List TypeId) (blame : Option Span) (name : String) (id : TypeId)
    (visible : outlook.visible id) :
    pairing.Steps (visitStruct fuel path done blame name id) fun _ => True := by
  induction fuel generalizing path done blame name id with
  | zero => exact .pure trivial
  | succ fuel inductionHypothesis =>
    rw [visitStruct_succ]
    split
    · exact .pure trivial
    · split
      · exact .pure trivial
      · refine .read fun one other alike => ?_
        have inside := outlook.inside_of_visible id visible
        have same : one.definitions.struct id = other.definitions.struct id :=
          congrArg Entry.struct ((pairing.agree alike).entries id inside)
        have within := ((pairing.enclosed alike).entries id inside).struct
        simp only
        rw [← same]
        refine (Pairing.InStep.bind (.foldlM _ ?_ _) fun _ _ => .pure trivial) one other alike
        intro field isField state
        exact steps_visitField inductionHypothesis visible (owned id visible) path name state
          (within field.1 (List.fst_mem_of_mem_zipIdx isField))

theorem steps_cutRecursion (ownsVisible : ∀ id, outlook.visible id → outlook.owns id)
    (pending : List Pending) (owned : ∀ entry ∈ pending, OwnedPending outlook entry) :
    pairing.Steps (cutRecursion pending) fun _ => True := by
  refine .bind (.foldlM _ ?_ _) fun _ _ => .pure trivial
  intro entry isEntry done
  split
  · rename_i decl isStruct
    have visible := (owned entry isEntry).visible
    rw [isStruct] at visible
    exact .bind (steps_visitStruct ownsVisible _ _ _ _ _ _ visible) fun _ _ => .pure trivial
  · exact .pure trivial

theorem steps_functionSignature {symbol : Symbol} {node : NodeId} (owns : outlook.owns node)
    (own : symbol.id = .node node) (params : List Param) (result : Option TypeForm)
    (attributes : List Attribute)
    (owned : Lie outlook.owns (params.map (·.type) ++ result.toList)) :
    pairing.Steps (functionSignature symbol params result attributes) fun _ => True := by
  obtain ⟨paramsOwned, resultOwned⟩ := lie_append.mp owned
  refine .bind (.mapM _ fun param isParam => Pairing.steps_typeOf _ ?_) fun types hold =>
    .bind (Pairing.steps_typeOf? _ resultOwned) fun found resultHolds =>
    Pairing.steps_setKnown owns own ⟨?_, hold⟩
  · intro node isNode
    refine paramsOwned node (List.mem_flatMap.mpr ⟨param.type, ?_, isNode⟩)
    exact List.mem_map.mpr ⟨param, isParam, rfl⟩
  · rintro _ ⟨⟩
    refine ⟨Ty.allWithin_iff.mpr hold, ?_⟩
    cases found with
    | none => trivial
    | some type => exact resultHolds type rfl

theorem steps_valueSignature {symbol : Symbol} {node : NodeId} (owns : outlook.owns node)
    (own : symbol.id = .node node) (type : Option TypeForm)
    (owned : Lie outlook.owns type.toList) :
    pairing.Steps (valueSignature symbol type) fun _ => True := by
  cases type with
  | some form =>
    exact .bind (Pairing.steps_typeOf _ (lie_cons.mp owned).1) fun _ holds =>
      Pairing.steps_setType owns own holds
  | none => exact .pure trivial

theorem steps_resolveSignature {pending : Pending} (owned : OwnedPending outlook pending) :
    pairing.Steps (resolveSignature pending) fun _ => True := by
  obtain ⟨⟨-, owns, forms⟩, own⟩ := owned
  unfold resolveSignature
  split
  · rename_i decl isItem
    rw [isItem] at forms
    exact steps_functionSignature owns own _ _ _ forms
  · rename_i decl isItem
    rw [isItem] at forms
    exact steps_functionSignature owns own _ _ _ forms
  · rename_i decl isItem
    rw [isItem] at forms
    exact steps_valueSignature owns own _ forms
  · rename_i decl isItem
    rw [isItem] at forms
    exact steps_valueSignature owns own _ forms
  · exact .pure trivial

theorem ownedAlias_of_mem {pending : List Pending}
    (owned : ∀ entry ∈ pending, OwnedPending outlook entry) :
    ∀ entry ∈ aliases pending, OwnedAlias outlook entry := by
  intro entry isAlias
  obtain ⟨source, isSource, found⟩ := List.mem_filterMap.mp isAlias
  obtain ⟨⟨-, owns, forms⟩, own⟩ := owned source isSource
  split at found
  · rename_i decl isItem
    cases found
    rw [isItem] at forms
    exact ⟨⟨_, owns, own⟩, forms⟩
  · cases found

theorem steps_resolveSignatures (ownsVisible : ∀ id, outlook.visible id → outlook.owns id)
    (pending : List Pending) (owned : ∀ entry ∈ pending, OwnedPending outlook entry) :
    pairing.Steps (resolveSignatures pending) fun _ => True :=
  .bind (steps_resolveAliases _ (ownedAlias_of_mem owned)) fun _ _ =>
    .bind (.forM _ fun entry isEntry => steps_defineType (owned entry isEntry)) fun _ _ =>
    .bind (steps_cutRecursion ownsVisible pending owned) fun _ _ =>
    .forM _ fun entry isEntry => steps_resolveSignature (owned entry isEntry)

end Declare
end UnitCheck
