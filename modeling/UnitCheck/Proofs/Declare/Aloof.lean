import UnitCheck.Proofs.Declare.Frame
import UnitCheck.Proofs.Session.Quiet

/-!
# Declaring is aloof

The first pass goes by its items, by the table and by what it has found out about symbols,
types and definitions.
-/

namespace UnitCheck.Declare

/-! ### Collecting globals -/

theorem aloof_declareIntrinsic (intrinsic : Intrinsic) (number : Nat) :
    Aloof (intrinsic.declare number) := by
  refine .read (fun _ _ _ => rfl) fun session => ?_
  cases session.table.declareGlobal (intrinsic.symbol number) with
  | ok table => exact .bind (Check.aloof_setTable _) fun _ => Check.aloof_setKnown _ _
  | error _ => exact Check.aloof_report _ rfl

theorem aloof_declareIntrinsics (number : Nat) :
    (all : List Intrinsic) -> Aloof (declareIntrinsics number all)
  | [] => .pure _
  | intrinsic :: rest =>
    .bind (aloof_declareIntrinsic intrinsic number) fun _ =>
      aloof_declareIntrinsics (number + 1) rest

theorem aloof_introduce (item : Item) (symbol : Symbol) : Aloof (introduce item symbol) := by
  unfold introduce
  cases symbol.kind with
  | struct | enum => exact .bind (Check.aloof_define _) fun _ => Check.aloof_setKnown _ _
  | _ => exact Check.aloof_setKnown _ _

theorem aloof_declareGlobal (item : Item) (header : Header) :
    Aloof (declareGlobal item header) := by
  unfold declareGlobal
  cases header.name with
  | none => exact .bind (Check.aloof_report _ rfl) fun _ => .pure _
  | some name =>
    simp only
    split
    · exact .bind (Check.aloof_report _ rfl) fun _ => .pure _
    · refine .read (fun _ _ _ => rfl) fun session => ?_
      split
      · exact .bind (Check.aloof_report _ rfl) fun _ => .pure _
      · exact .pure _
      · exact .bind (Check.aloof_setTable _) fun _ => .bind (aloof_introduce item _) fun _ =>
          .bind (Check.aloof_say _ _) fun _ => .bind (Check.aloof_recordDecl _ _) fun _ => .pure _

theorem aloof_sayNested (span : Span) : Aloof (sayNested span) :=
  .read (fun _ _ _ => rfl) fun _ => Check.aloof_say _ _

mutual

theorem aloof_skipNested : (stmt : Stmt) -> Aloof (skipNested stmt)
  | .block body _ => by
    unfold skipNested
    exact aloof_skipNestedAll body
  | .const decl => by
    unfold skipNested
    exact aloof_sayNested decl.span
  | .struct decl => by
    unfold skipNested
    exact aloof_sayNested decl.span
  | .expr _ | .letIn _ | .instr _ | .assign _ _ _ | .write _ _ _ | .cond _ _ _ _ _
  | .whileLoop _ _ _ _ | .loop _ _ _ | .forLoop _ _ _ _ _ _ | .ret _ _ | .brk _ | .cont _
  | .bad _ => by
    simp only [skipNested]
    exact .pure _

theorem aloof_skipNestedAll : (body : List Stmt) -> Aloof (skipNestedAll body)
  | [] => by
    unfold skipNestedAll
    exact .pure _
  | stmt :: rest => by
    unfold skipNestedAll
    exact .bind (aloof_skipNested stmt) fun _ => aloof_skipNestedAll rest

end

theorem aloof_collectItem (entry : Option Span) (item : Item) : Aloof (collectItem entry item) := by
  unfold collectItem
  split
  · split
    · exact .bind (Check.aloof_report _ rfl) fun _ => .pure _
    · exact .pure _
  · exact .bind (aloof_skipNestedAll _) fun _ => .pure _
  · exact .bind (Check.aloof_report _ rfl) fun _ => .pure _
  · exact .bind (Check.aloof_report _ rfl) fun _ => .pure _
  · split
    · exact .bind (aloof_declareGlobal _ _) fun _ => .pure _
    · exact .pure _

theorem aloof_collect : (items : List Item) -> (entry : Option Span) -> Aloof (collect entry items)
  | [], _ => .pure _
  | item :: rest, entry =>
    .bind (aloof_collectItem entry item) fun _ => .bind (aloof_collect rest _) fun _ => .pure _

/-! ### Resolving signatures -/

theorem aloof_settle (entry : DeclaredAlias) : Aloof entry.settle := by
  refine .read (fun _ _ _ => rfl) fun session => ?_
  split
  · exact .pure _
  · split
    · exact .bind (Check.aloof_typeOf _) fun _ => Check.aloof_setType _ _
    · exact .bind (Check.aloof_report _ rfl) fun _ => Check.aloof_setType _ _

theorem aloof_aliasNamed? (all : List DeclaredAlias) (name : String) :
    Aloof (aliasNamed? all name) := by
  refine .read (fun _ _ _ => rfl) fun session => ?_
  cases session.table.resolveType? name <;> exact .pure _

theorem aloof_resolveAlias (all : List DeclaredAlias) (fuel : Nat) (path settled : List SymbolId)
    (entry : DeclaredAlias) : Aloof (resolveAlias all fuel path settled entry) := by
  induction fuel generalizing path settled entry with
  | zero => exact .pure _
  | succ fuel inductionHypothesis =>
    unfold resolveAlias
    split
    · exact .bind (Check.aloof_report _ rfl) fun _ => .bind (Check.aloof_setType _ _) fun _ => .pure _
    · split
      · exact .pure _
      · refine .bind (.foldlM _ ?_ _) fun _ => .bind (aloof_settle entry) fun _ => .pure _
        intro mention _ settled
        refine .bind (aloof_aliasNamed? all mention.name) fun found => ?_
        cases found with
        | some other => exact inductionHypothesis _ _ _
        | none => exact .pure _

theorem aloof_resolveAliases (all : List DeclaredAlias) : Aloof (resolveAliases all) :=
  .bind (.foldlM _ (fun entry _ _ => aloof_resolveAlias all _ _ _ entry) _) fun _ => .pure _

theorem aloof_structFields (fields : List FieldDecl) (index : Nat) (seen : List Ident) :
    Aloof (structFields index seen fields) := by
  induction fields generalizing index seen with
  | nil => exact .pure _
  | cons field rest inductionHypothesis =>
    unfold structFields
    split
    · exact .bind (Check.aloof_typeOf _) fun _ => .bind (inductionHypothesis _ _) fun _ => .pure _
    · split
      · exact .bind (Check.aloof_report _ rfl) fun _ => inductionHypothesis _ _
      · exact .bind (Check.aloof_typeOf _) fun _ => .bind (inductionHypothesis _ _) fun _ => .pure _

theorem aloof_enumBase (decl : EnumDecl) : Aloof (enumBase decl) := by
  unfold enumBase
  cases decl.base with
  | none => exact .pure _
  | some form =>
    refine .bind (Check.aloof_typeOf _) fun base => ?_
    split
    · exact .pure _
    · simp only
      split
      · exact .bind (Check.aloof_report _ rfl) fun _ => .pure _
      · exact .pure _

theorem aloof_enumVariants (variants : List VariantDecl) (seen : List Ident) :
    Aloof (enumVariants seen variants) := by
  induction variants generalizing seen with
  | nil => exact .pure _
  | cons variant rest inductionHypothesis =>
    unfold enumVariants
    split
    · exact .bind (Check.aloof_report _ rfl) fun _ => inductionHypothesis _
    · exact .bind (inductionHypothesis _) fun _ => .pure _

theorem aloof_defineType (pending : Pending) : Aloof (defineType pending) := by
  unfold defineType
  split
  · exact .bind (aloof_structFields _ _ _) fun _ => Check.aloof_define _
  · exact .bind (aloof_enumBase _) fun _ => .bind (aloof_enumVariants _ _) fun _ =>
      Check.aloof_define _
  · exact .pure _

theorem aloof_visitField {fuel : Nat}
    (visits : ∀ path done blame name id, Aloof (visitStruct fuel path done blame name id))
    (path : List TypeId) (name : String) (id : TypeId) (state : Option Span × List TypeId)
    (field : StructField × Nat) : Aloof (visitField fuel path name id state field) := by
  unfold visitField
  split
  · exact .pure _
  · refine .bind (visits _ _ _ _ _) fun outcome => ?_
    simp only
    split
    · cases state.1 with
      | some span =>
        exact .bind (Check.aloof_report _ rfl) fun _ => .bind (Check.aloof_define _) fun _ => .pure _
      | none => exact .bind (Check.aloof_define _) fun _ => .pure _
    · exact .pure _

theorem aloof_visitStruct (fuel : Nat) (path done : List TypeId) (blame : Option Span)
    (name : String) (id : TypeId) : Aloof (visitStruct fuel path done blame name id) := by
  induction fuel generalizing path done blame name id with
  | zero => exact .pure _
  | succ fuel inductionHypothesis =>
    rw [visitStruct_succ]
    split
    · exact .pure _
    · split
      · exact .pure _
      · refine .read (fun _ _ _ => rfl) fun session => .bind (.foldlM _ ?_ _) fun _ => .pure _
        intro field _ state
        exact aloof_visitField inductionHypothesis path name id state field

theorem aloof_cutRecursion (pending : List Pending) : Aloof (cutRecursion pending) := by
  refine .bind (.foldlM _ ?_ _) fun _ => .pure _
  intro entry _ done
  split
  · exact .bind (aloof_visitStruct _ _ _ _ _ _) fun _ => .pure _
  · exact .pure _

theorem aloof_functionSignature (symbol : Symbol) (params : List Param) (result : Option TypeForm)
    (attributes : List Attribute) : Aloof (functionSignature symbol params result attributes) :=
  .bind (.mapM _ fun _ _ => Check.aloof_typeOf _) fun _ =>
    .bind (Check.aloof_typeOf? _) fun _ => Check.aloof_setKnown _ _

theorem aloof_valueSignature (symbol : Symbol) :
    (type : Option TypeForm) -> Aloof (valueSignature symbol type)
  | some _ => .bind (Check.aloof_typeOf _) fun _ => Check.aloof_setType _ _
  | none => .pure _

theorem aloof_resolveSignature (pending : Pending) : Aloof (resolveSignature pending) := by
  unfold resolveSignature
  split
  · exact aloof_functionSignature _ _ _ _
  · exact aloof_functionSignature _ _ _ _
  · exact aloof_valueSignature _ _
  · exact aloof_valueSignature _ _
  · exact .pure _

/-- The first pass is aloof. -/
theorem aloof_walk : Aloof walk := by
  refine .bind (aloof_declareIntrinsics 0 intrinsics) fun _ =>
    .read (fun _ _ _ => rfl) fun session => .bind (aloof_collect session.items none) fun pending => ?_
  exact .bind (aloof_resolveAliases _) fun _ =>
    .bind (.forM _ fun entry _ => aloof_defineType entry) fun _ =>
    .bind (aloof_cutRecursion pending) fun _ =>
    .forM _ fun entry _ => aloof_resolveSignature entry

end UnitCheck.Declare
