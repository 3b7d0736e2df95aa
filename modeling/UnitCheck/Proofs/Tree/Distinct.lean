import UnitCheck.Proofs.Datum.Starts
import UnitCheck.Proofs.Tree.Sites
import UnitCheck.Tree.Decode

/-!
# Nodes are told apart

A tree takes each of its nodes from a datum of its own, so in a decoded unit no node
stands for two things. Nodes are counted: what is read from data has no node more
often than the data have it.
-/

namespace UnitCheck
namespace Decode

/-- What two readings in turn give, each of them gives. -/
theorem ok_bind {α β : Type} {first : Decoded α} {rest : α -> Decoded β} {result : β}
    (read : (first >>= rest) = .ok result) :
    ∃ value, first = .ok value ∧ rest value = .ok result := by
  cases first with
  | error error => cases read
  | ok value => exact ⟨value, rfl, read⟩

/-- A literal stands where its datum does. -/
theorem node_literal {datum : Datum} {value : Literal} (read : literal datum = .ok value) :
    value.span = datum.span := by
  unfold literal at read
  split at read <;> (try split at read) <;> (try split at read) <;>
    first | cases read; rfl | cases read

/-- A literal takes its node from its datum. -/
theorem count_literal {datum : Datum} {value : Expr}
    (read : (do return Expr.literal (<- literal datum) : Decoded Expr) = .ok value)
    (node : NodeId) : value.sites.count node ≤ datum.starts.count node := by
  obtain ⟨found, isFound, done⟩ := ok_bind read
  cases done
  rw [Expr.sites_literal, node_literal isFound]
  cases datum <;> simp [Datum.span, Datum.starts, List.count_cons]

mutual

/-- A written type takes its nodes from the data it is read from. -/
theorem count_typeForm : (datum : Datum) -> {form : TypeForm} -> typeForm datum = .ok form ->
    (node : NodeId) -> form.nodes.count node ≤ datum.starts.count node
  | .symbol text span, form, read, node => by
    unfold typeForm at read
    split at read
    · cases read
      exact Nat.le_refl _
    · split at read <;> cases read <;> exact Nat.le_refl _
  | .string text span, form, read, node | .number text span, form, read, node
  | .list [] span, form, read, node => by
    unfold typeForm at read
    cases read
  | .list (.list _ _ :: _) span, form, read, node | .list (.string _ _ :: _) span, form, read, node
  | .list (.number _ _ :: _) span, form, read, node => by
    unfold typeForm at read
    cases read
  | .list (.symbol head headSpan :: args) span, form, read, node => by
    have wrapped (inner : Datum) (rest : List Datum) (wrap : TypeForm -> TypeForm)
        (isArgs : args = inner :: rest)
        (nodes : ∀ element, (wrap element).nodes = span.node :: element.nodes)
        (read : (do return wrap (<- typeForm inner) : Decoded TypeForm) = .ok form) :
        form.nodes.count node ≤
          (Datum.list (.symbol head headSpan :: args) span).starts.count node := by
      obtain ⟨element, isElement, done⟩ := ok_bind read
      cases done
      have counted := count_typeForm inner isElement node
      simp only [nodes, isArgs, Datum.starts, Datum.startsAll, List.count_cons, List.count_append]
      omega
    unfold typeForm at read
    split at read
    · rename_i isSymbol
      cases isSymbol
    · cases read
    · cases read
    · cases read
    · rename_i same
      cases same
      split at read
      · cases read
      · exact wrapped _ _ (.pointer · span) rfl (fun _ => rfl) read
    · rename_i same
      cases same
      split at read
      · cases read
      · exact wrapped _ _ (.const · span) rfl (fun _ => rfl) read
    · rename_i same
      cases same
      split at read
      · cases read
      · exact wrapped _ _ (.mutable · span) rfl (fun _ => rfl) read
    · rename_i same
      cases same
      split at read
      · cases read
      · rename_i inner size
        obtain ⟨element, isElement, read⟩ := ok_bind read
        split at read
        · cases read
          exact wrapped inner _ (.fixedArray · _ span) rfl (fun _ => rfl) (by rw [isElement]; rfl)
        · cases read
      · exact wrapped _ _ (.array · span) rfl (fun _ => rfl) read
    · rename_i same
      cases same
      split at read
      · rename_i listed listedSpan result
        obtain ⟨params, isParams, read⟩ := ok_bind read
        obtain ⟨found, isFound, done⟩ := ok_bind read
        cases done
        have countedParams := count_paramForms listed isParams node
        have countedResult := count_typeForm result isFound node
        simp only [TypeForm.nodes, Datum.starts, Datum.startsAll, List.count_cons,
          List.count_append]
        omega
      · cases read
    · cases read
termination_by datum => sizeOf datum
decreasing_by all_goals (subst_vars; simp only [Datum.list.sizeOf_spec, List.cons.sizeOf_spec]; omega)

/-- The parameters of a written function type take their nodes from the data they are read
from. -/
theorem count_paramForms : (data : List Datum) -> {found : List TypeForm × Bool} ->
    paramForms data = .ok found ->
    (node : NodeId) -> (TypeForm.nodesAll found.1).count node ≤ (Datum.startsAll data).count node
  | [], found, read, node => by
    unfold paramForms at read
    cases read
    exact Nat.le_refl _
  | datum :: rest, found, read, node => by
    unfold paramForms at read
    split at read
    · obtain ⟨others, isOthers, done⟩ := ok_bind read
      cases done
      have counted := count_paramForms rest isOthers node
      simp only [Datum.startsAll, List.count_append]
      omega
    · obtain ⟨first, isFirst, read⟩ := ok_bind read
      obtain ⟨others, isOthers, done⟩ := ok_bind read
      cases done
      have countedFirst := count_typeForm datum isFirst node
      have countedRest := count_paramForms rest isOthers node
      simp only [TypeForm.nodesAll, Datum.startsAll, List.count_append]
      omega
termination_by data => sizeOf data
decreasing_by all_goals (subst_vars; simp only [List.cons.sizeOf_spec]; omega)

end

mutual

/-- An expression takes its nodes from the data it is read from. -/
theorem count_expr : (datum : Datum) -> {value : Expr} -> expr datum = .ok value ->
    (node : NodeId) -> value.sites.count node ≤ datum.starts.count node
  | .number text span, value, read, node => by
    unfold expr at read
    exact count_literal read node
  | .string text span, value, read, node => by
    unfold expr at read
    exact count_literal read node
  | .symbol text span, value, read, node => by
    unfold expr at read
    split at read
    · exact count_literal read node
    · cases read
      exact Nat.le_refl _
  | .list [] span, value, read, node => by
    unfold expr at read
    cases read
  | .list (.symbol head headSpan :: args) span, value, read, node => by
    unfold expr at read
    split at read
    · rename_i operand _
      obtain ⟨inner, isInner, done⟩ := ok_bind read
      cases done
      have counted := count_expr operand isInner node
      simp only [Expr.sites_unary, Datum.starts, Datum.startsAll, List.count_cons,
        List.count_append]
      omega
    · split at read
      · rename_i left right _ _
        obtain ⟨first, isFirst, read⟩ := ok_bind read
        obtain ⟨second, isSecond, done⟩ := ok_bind read
        cases done
        have countedLeft := count_expr left isFirst node
        have countedRight := count_expr right isSecond node
        simp only [Expr.sites_binary, Datum.starts, Datum.startsAll, List.count_cons,
          List.count_append]
        omega
      · cases read
      · split at read
        · exact count_literal read node
        · cases read
          simp only [Expr.sites_bad, Datum.starts, List.count_cons, List.count_nil]
          omega
        · rename_i callee calleeSpan others _ _
          obtain ⟨found, isFound, done⟩ := ok_bind read
          cases done
          have counted := count_exprs others isFound node
          simp only [Expr.sites_call, Datum.starts, Datum.startsAll, List.count_cons,
            List.count_append, List.count_nil]
          omega
        · cases read
        · rename_i function others _ _
          obtain ⟨called, isCalled, read⟩ := ok_bind read
          obtain ⟨found, isFound, done⟩ := ok_bind read
          cases done
          have countedCalled := count_expr function isCalled node
          have countedArgs := count_exprs others isFound node
          simp only [Expr.sites_callValue, Datum.starts, Datum.startsAll, List.count_cons,
            List.count_append]
          omega
        · cases read
        · rename_i base segment path _ _
          obtain ⟨inner, isInner, read⟩ := ok_bind read
          obtain ⟨segments, _, done⟩ := ok_bind read
          cases done
          have counted := count_expr base isInner node
          simp only [Expr.sites_field, Datum.starts, Datum.startsAll, List.count_cons,
            List.count_append]
          omega
        · cases read
        · rename_i base position _ _
          obtain ⟨first, isFirst, read⟩ := ok_bind read
          obtain ⟨second, isSecond, done⟩ := ok_bind read
          cases done
          have countedBase := count_expr base isFirst node
          have countedPosition := count_expr position isSecond node
          simp only [Expr.sites_index, Datum.starts, Datum.startsAll, List.count_cons,
            List.count_append]
          omega
        · cases read
        · rename_i type operand _ _
          obtain ⟨form, isForm, read⟩ := ok_bind read
          obtain ⟨inner, isInner, done⟩ := ok_bind read
          cases done
          have countedType := count_typeForm type isForm node
          have counted := count_expr operand isInner node
          simp only [Expr.sites_cast, Datum.starts, Datum.startsAll, List.count_cons,
            List.count_append]
          omega
        · cases read
        · obtain ⟨found, isFound, done⟩ := ok_bind read
          cases done
          have counted := count_exprs _ isFound node
          simp only [Expr.sites_array, Option.toList_none, List.flatMap_nil, List.nil_append,
            Datum.starts, Datum.startsAll, List.count_cons, List.count_append]
          omega
        · rename_i type items _ _
          obtain ⟨form, isForm, read⟩ := ok_bind read
          obtain ⟨found, isFound, done⟩ := ok_bind read
          cases done
          have countedType := count_typeForm type isForm node
          have counted := count_exprs items isFound node
          simp only [Expr.sites_array, Option.toList_some, List.flatMap_singleton, Datum.starts,
            Datum.startsAll, List.count_cons, List.count_append]
          omega
        · cases read
        · rename_i operand _ _
          obtain ⟨inner, isInner, done⟩ := ok_bind read
          cases done
          have counted := count_expr operand isInner node
          simp only [Expr.sites_addressOf, Datum.starts, Datum.startsAll, List.count_cons,
            List.count_append]
          omega
        · cases read
        · rename_i type operand _ _
          obtain ⟨form, isForm, read⟩ := ok_bind read
          obtain ⟨inner, isInner, done⟩ := ok_bind read
          cases done
          have countedType := count_typeForm type isForm node
          have counted := count_expr operand isInner node
          simp only [Expr.sites_load, Datum.starts, Datum.startsAll, List.count_cons,
            List.count_append]
          omega
        · cases read
        · rename_i type _ _
          obtain ⟨form, isForm, done⟩ := ok_bind read
          cases done
          have countedType := count_typeForm type isForm node
          simp only [Expr.sites_alloc, Datum.starts, Datum.startsAll, List.count_cons,
            List.count_append]
          omega
        · cases read
        · cases read
  | .list (.list _ _ :: _) span, value, read, node | .list (.string _ _ :: _) span, value, read, node
  | .list (.number _ _ :: _) span, value, read, node => by
    unfold expr at read
    cases read
termination_by datum => sizeOf datum
decreasing_by all_goals (subst_vars; simp only [Datum.list.sizeOf_spec, List.cons.sizeOf_spec]; omega)

/-- Several expressions take their nodes from the data they are read from. -/
theorem count_exprs : (data : List Datum) -> {values : List Expr} -> exprs data = .ok values ->
    (node : NodeId) -> (Expr.sitesAll values).count node ≤ (Datum.startsAll data).count node
  | [], values, read, node => by
    unfold exprs at read
    cases read
    exact Nat.le_refl _
  | datum :: rest, values, read, node => by
    unfold exprs at read
    obtain ⟨first, isFirst, read⟩ := ok_bind read
    obtain ⟨others, isOthers, done⟩ := ok_bind read
    cases done
    have countedFirst := count_expr datum isFirst node
    have countedRest := count_exprs rest isOthers node
    simp only [Expr.sitesAll_cons, Datum.startsAll, List.count_append]
    omega
termination_by data => sizeOf data
decreasing_by all_goals (subst_vars; simp only [List.cons.sizeOf_spec]; omega)

end

/-! ### Declarations -/

/-- Behind the attributes stand data that were there before. -/
theorem count_attributes : (data : List Datum) -> {found : List Attribute × List Datum} ->
    attributes data = .ok found ->
    (node : NodeId) -> (Datum.startsAll found.2).count node ≤ (Datum.startsAll data).count node
  | [], found, read, node => by
    unfold attributes at read
    cases read
    exact Nat.le_refl _
  | datum :: rest, found, read, node => by
    unfold attributes at read
    obtain ⟨first, isFirst, read⟩ := ok_bind read
    cases first with
    | none =>
      cases read
      exact Nat.le_refl _
    | some mark =>
      obtain ⟨others, isOthers, done⟩ := ok_bind read
      cases done
      have counted := count_attributes rest isOthers node
      simp only [Datum.startsAll, List.count_append]
      omega

/-- Behind a name stand data that were there before. -/
theorem count_name (data : List Datum) (node : NodeId) :
    (Datum.startsAll (name data).2).count node ≤ (Datum.startsAll data).count node := by
  unfold name
  split
  · split <;> simp [Datum.startsAll, List.count_append]
  · exact Nat.le_refl _

/-- Behind a `mut` stand data that were there before. -/
theorem count_mutMark (data : List Datum) (node : NodeId) :
    (Datum.startsAll (mutMark data).2).count node ≤ (Datum.startsAll data).count node := by
  unfold mutMark
  split
  · split <;> simp [Datum.startsAll, List.count_append]
  · exact Nat.le_refl _

/-- The nodes of an expression that may be missing. -/
def valueSites (value : Option Expr) : List NodeId := value.toList.flatMap Expr.sites

theorem count_optionalExpr {datum : Option Datum} {value : Option Expr}
    (read : optionalExpr datum = .ok value) (node : NodeId) :
    (valueSites value).count node ≤ (Datum.startsAll datum.toList).count node := by
  cases datum with
  | none =>
    cases read
    exact Nat.le_refl _
  | some datum =>
    obtain ⟨inner, isInner, done⟩ := ok_bind read
    cases done
    simpa [valueSites, Datum.startsAll] using count_expr datum isInner node

/-- The nodes of a written type that may be missing. -/
def formSites (form : Option TypeForm) : List NodeId := form.toList.flatMap TypeForm.nodes

theorem count_optionalType {datum : Datum} {form : Option TypeForm}
    (read : optionalType datum = .ok form) (node : NodeId) :
    (formSites form).count node ≤ datum.starts.count node := by
  unfold optionalType at read
  split at read
  · cases read
    exact Nat.zero_le _
  · obtain ⟨inner, isInner, done⟩ := ok_bind read
    cases done
    simpa [formSites] using count_typeForm datum isInner node

theorem count_typeAndValue {data : List Datum} {found : Option TypeForm × Option Expr}
    (read : typeAndValue data = .ok found) (node : NodeId) :
    (formSites found.1).count node + (valueSites found.2).count node ≤
      (Datum.startsAll data).count node := by
  unfold typeAndValue at read
  split at read
  · cases read
    exact Nat.le_refl _
  · obtain ⟨form, isForm, done⟩ := ok_bind read
    cases done
    have countedType := count_optionalType isForm node
    simp only [valueSites, Option.toList_none, List.flatMap_nil, List.count_nil, Datum.startsAll,
      List.append_nil]
    omega
  · obtain ⟨form, isForm, read⟩ := ok_bind read
    obtain ⟨inner, isInner, done⟩ := ok_bind read
    cases done
    have countedType := count_optionalType isForm node
    have counted := count_expr _ isInner node
    simp only [valueSites, Option.toList_some, List.flatMap_singleton, Datum.startsAll,
      List.count_append]
    omega

/-- A constant takes its nodes from its data and stands where it is read. -/
theorem count_constDecl {data : List Datum} {span : Span} {decl : ConstDecl}
    (read : constDecl data span = .ok decl) : decl.span = span ∧ ∀ node,
      (formSites decl.type).count node + (valueSites decl.value).count node ≤
        (Datum.startsAll data).count node := by
  obtain ⟨marks, isMarks, read⟩ := ok_bind read
  obtain ⟨found, isFound, done⟩ := ok_bind read
  cases done
  refine ⟨rfl, fun node => ?_⟩
  exact (count_typeAndValue isFound node).trans
    ((count_name _ node).trans (count_attributes data isMarks node))

/-- The written types of fields take their nodes from the data they are read from. -/
theorem count_fields (data : List Datum) {found : List FieldDecl} (read : fields data = .ok found)
    (node : NodeId) : ((found.map (·.type)).flatMap TypeForm.nodes).count node ≤
      (Datum.startsAll data).count node := by
  fun_induction fields data generalizing found with
  | case1 =>
    cases read
    exact Nat.le_refl _
  | case2 _ _ type span rest inductionHypothesis =>
    obtain ⟨form, isForm, read⟩ := ok_bind read
    obtain ⟨others, isOthers, done⟩ := ok_bind read
    cases done
    have countedType := count_typeForm type isForm node
    have counted := inductionHypothesis isOthers
    simp only [List.map_cons, List.flatMap_cons, Datum.startsAll, Datum.starts, List.count_cons,
      List.count_append]
    omega
  | case3 => cases read

theorem count_structDecl {data : List Datum} {span : Span} {decl : StructDecl}
    (read : structDecl data span = .ok decl) : decl.span = span ∧ ∀ node,
      ((decl.fields.map (·.type)).flatMap TypeForm.nodes).count node ≤
        (Datum.startsAll data).count node := by
  obtain ⟨marks, isMarks, read⟩ := ok_bind read
  obtain ⟨found, isFound, done⟩ := ok_bind read
  cases done
  refine ⟨rfl, fun node => ?_⟩
  exact (count_fields _ isFound node).trans
    ((count_name _ node).trans (count_attributes data isMarks node))

/-- A binding takes its nodes from its data and stands where it is read. -/
theorem count_binding {isMutable : Bool} {data : List Datum} {span : Span} {decl : BindingDecl}
    (read : binding isMutable data span = .ok decl) : decl.span = span ∧ ∀ node,
      (formSites decl.type).count node + (valueSites decl.value).count node ≤
        (Datum.startsAll data).count node := by
  unfold binding at read
  split at read
  · rename_i text nameSpan type values
    obtain ⟨form, isForm, read⟩ := ok_bind read
    obtain ⟨value, isValue, done⟩ := ok_bind read
    cases done
    refine ⟨rfl, fun node => ?_⟩
    have countedType := count_optionalType isForm node
    have counted := count_optionalExpr isValue node
    have first : (Datum.startsAll values.head?.toList).count node ≤
        (Datum.startsAll values).count node := by
      cases values <;> simp [Datum.startsAll, List.count_append]
    simp only [Datum.startsAll, List.count_append]
    omega
  · cases read

/-! ### Statements -/

/-- A statement that holds no other, read at the head of a list. -/
theorem count_leaf {stmt : Stmt} {head : Datum} {args : List Datum} {span : Span} {node : NodeId}
    (leaf : stmt.parts = [stmt]) (own : stmt.ownDecls = [] ∨ stmt.ownDecls = [span.node])
    (counted : (stmt.allForms.flatMap TypeForm.nodes).count node +
      (stmt.ownExprs.flatMap Expr.sites).count node ≤ (Datum.startsAll args).count node) :
    stmt.sites.count node ≤ (Datum.list (head :: args) span).starts.count node := by
  simp only [Stmt.sites, leaf, List.flatMap_singleton, Stmt.ownSites, List.count_append,
    Datum.starts, Datum.startsAll, List.count_cons]
  obtain own | own := own
  · rw [own, List.count_nil]
    omega
  · rw [own, List.count_cons, List.count_nil]
    omega

/-- An expression as a statement takes its nodes from the data it is read from. -/
theorem count_exprStmt {datum : Datum} {value : Expr} (read : expr datum = .ok value)
    (node : NodeId) : (Stmt.expr value).sites.count node ≤ datum.starts.count node := by
  simpa [Stmt.sites, Stmt.parts, Stmt.ownSites, Stmt.ownDecls, Stmt.ownValues, Stmt.ownExprs,
    Stmt.allForms, Stmt.ownForms] using count_expr datum read node

mutual

/-- A statement takes its nodes from the data it is read from. -/
theorem count_stmt : (datum : Datum) -> {value : Stmt} -> stmt datum = .ok value ->
    (node : NodeId) -> value.sites.count node ≤ datum.starts.count node
  | .list (.symbol head headSpan :: args) span, value, read, node => by
    unfold stmt at read
    split at read
    · obtain ⟨body, isBody, done⟩ := ok_bind read
      cases done
      have counted := count_stmts _ isBody node
      simp only [Stmt.sites_block, Datum.starts, Datum.startsAll, List.count_cons,
        List.count_append]
      omega
    · obtain ⟨decl, isDecl, done⟩ := ok_bind read
      cases done
      obtain ⟨stands, counted⟩ := count_structDecl isDecl
      refine count_leaf (by simp [Stmt.parts]) (.inr ?_) (counted node)
      rw [Stmt.ownDecls, stands]
    · obtain ⟨decl, isDecl, done⟩ := ok_bind read
      cases done
      obtain ⟨stands, counted⟩ := count_constDecl isDecl
      refine count_leaf (by simp [Stmt.parts]) (.inr ?_) (counted node)
      rw [Stmt.ownDecls, Stmt.ownValues, stands]
      simp
    · cases read
      exact count_leaf (by simp [Stmt.parts]) (.inl rfl) (Nat.zero_le _)
    · obtain ⟨decl, isDecl, done⟩ := ok_bind read
      cases done
      obtain ⟨stands, counted⟩ := count_binding isDecl
      refine count_leaf (by simp [Stmt.parts]) (.inr ?_)
        ((counted node).trans (count_mutMark _ node))
      rw [Stmt.ownDecls, Stmt.ownValues, stands]
      simp
    · obtain ⟨decl, isDecl, done⟩ := ok_bind read
      cases done
      obtain ⟨stands, counted⟩ := count_binding isDecl
      refine count_leaf (by simp [Stmt.parts]) (.inr ?_) (counted node)
      rw [Stmt.ownDecls, Stmt.ownValues, stands]
      simp
    · obtain ⟨first, isFirst, read⟩ := ok_bind read
      obtain ⟨second, isSecond, done⟩ := ok_bind read
      cases done
      have countedFirst := count_expr _ isFirst node
      have countedSecond := count_expr _ isSecond node
      refine count_leaf (by simp [Stmt.parts]) (.inl rfl) ?_
      simp only [Stmt.allForms, Stmt.ownForms, Stmt.ownExprs, List.flatMap_cons, List.flatMap_nil,
        Datum.startsAll, List.count_append, List.count_nil]
      omega
    · cases read
    · obtain ⟨inner, isInner, done⟩ := ok_bind read
      cases done
      refine count_leaf (by simp [Stmt.parts]) (.inl rfl) ?_
      simpa [Stmt.allForms, Stmt.ownForms, Stmt.ownExprs, Datum.startsAll] using
        count_expr _ isInner node
    · cases read
      exact count_leaf (by simp [Stmt.parts]) (.inl rfl) (Nat.zero_le _)
    · cases read
      exact count_leaf (by simp [Stmt.parts]) (.inl rfl) (Nat.zero_le _)
    · cases read
      exact count_leaf (by simp [Stmt.parts]) (.inl rfl) (Nat.zero_le _)
    · obtain ⟨test, isTest, read⟩ := ok_bind read
      obtain ⟨⟨body, bodySpan⟩, isBody, done⟩ := ok_bind read
      cases done
      have countedTest := count_expr _ isTest node
      have countedBody := count_block _ isBody node
      simp only [Stmt.sites_cond, Option.toList_none, List.flatMap_nil, List.append_nil,
        Datum.starts, Datum.startsAll, List.count_cons, List.count_append]
      omega
    · obtain ⟨test, isTest, read⟩ := ok_bind read
      obtain ⟨⟨body, bodySpan⟩, isBody, read⟩ := ok_bind read
      have countedTest := count_expr _ isTest node
      have countedBody := count_block _ isBody node
      simp only at read
      split at read
      · obtain ⟨other, isOther, done⟩ := ok_bind read
        cases done
        have countedOther := count_stmt _ isOther node
        simp only [Stmt.sites_cond, Option.toList_some, List.flatMap_singleton, Datum.starts,
          Datum.startsAll, List.count_cons, List.count_append]
        omega
      · cases read
    · cases read
    · obtain ⟨test, isTest, read⟩ := ok_bind read
      obtain ⟨⟨body, bodySpan⟩, isBody, done⟩ := ok_bind read
      cases done
      have countedTest := count_expr _ isTest node
      have countedBody := count_block _ isBody node
      simp only [Stmt.sites_whileLoop, Datum.starts, Datum.startsAll, List.count_cons,
        List.count_append]
      omega
    · cases read
    · obtain ⟨⟨body, bodySpan⟩, isBody, done⟩ := ok_bind read
      cases done
      have countedBody := count_block _ isBody node
      simp only [Stmt.sites_loop, Datum.starts, Datum.startsAll, List.count_cons,
        List.count_append]
      omega
    · cases read
    · rename_i first test after body
      obtain ⟨opening, isFirst, read⟩ := ok_bind read
      have countedFirst := count_clause _ isFirst node
      have rest (found : Option Expr)
          (countedTest : (valueSites found).count node ≤ test.starts.count node)
          (read : (do
            let after <- clause after
            let inner <- block body
            return Stmt.forLoop opening found after inner.1 inner.2 span) = .ok value) :
          value.sites.count node ≤
            (Datum.list (.symbol "for" headSpan :: [first, test, after, body])
              span).starts.count node := by
        obtain ⟨step, isStep, read⟩ := ok_bind read
        obtain ⟨⟨inner, innerSpan⟩, isInner, done⟩ := ok_bind read
        cases done
        have countedAfter := count_clause _ isStep node
        have countedBody := count_block _ isInner node
        unfold valueSites at countedTest
        simp only [Stmt.sites_forLoop, Datum.starts, Datum.startsAll, List.count_cons,
          List.count_append]
        omega
      simp only at read
      split at read
      · exact rest none (Nat.zero_le _) read
      · obtain ⟨found, isFound, read⟩ := ok_bind read
        refine rest found ?_ read
        simpa [Datum.startsAll] using count_optionalExpr isFound node
    · cases read
    · obtain ⟨first, isFirst, read⟩ := ok_bind read
      obtain ⟨second, isSecond, done⟩ := ok_bind read
      cases done
      have countedFirst := count_expr _ isFirst node
      have countedSecond := count_expr _ isSecond node
      refine count_leaf (by simp [Stmt.parts]) (.inl rfl) ?_
      simp only [Stmt.allForms, Stmt.ownForms, Stmt.ownExprs, List.flatMap_cons, List.flatMap_nil,
        Datum.startsAll, List.count_append, List.count_nil]
      omega
    · cases read
    · obtain ⟨inner, isInner, done⟩ := ok_bind read
      cases done
      exact count_exprStmt isInner node
  | .list [] span, value, read, node | .list (.list _ _ :: _) span, value, read, node
  | .list (.string _ _ :: _) span, value, read, node
  | .list (.number _ _ :: _) span, value, read, node
  | .symbol _ _, value, read, node | .string _ _, value, read, node
  | .number _ _, value, read, node => by
    unfold stmt at read
    obtain ⟨inner, isInner, done⟩ := ok_bind read
    cases done
    exact count_exprStmt isInner node
termination_by datum => (sizeOf datum, 0)

/-- Several statements take their nodes from the data they are read from. -/
theorem count_stmts : (data : List Datum) -> {values : List Stmt} -> stmts data = .ok values ->
    (node : NodeId) -> (Stmt.sitesAll values).count node ≤ (Datum.startsAll data).count node
  | [], values, read, node => by
    unfold stmts at read
    cases read
    exact Nat.le_refl _
  | datum :: rest, values, read, node => by
    unfold stmts at read
    obtain ⟨first, isFirst, read⟩ := ok_bind read
    obtain ⟨others, isOthers, done⟩ := ok_bind read
    cases done
    have countedFirst := count_stmt datum isFirst node
    have countedRest := count_stmts rest isOthers node
    simp only [Stmt.sitesAll_cons, Datum.startsAll, List.count_append]
    omega
termination_by data => (sizeOf data, 0)

/-- A block takes its nodes from the data it is read from. -/
theorem count_block : (datum : Datum) -> {body : List Stmt} -> {bodySpan : Span} ->
    block datum = .ok (body, bodySpan) ->
    (node : NodeId) -> (Stmt.sitesAll body).count node ≤ datum.starts.count node
  | .list (.symbol head headSpan :: items) span, body, bodySpan, read, node => by
    unfold block at read
    split at read
    · obtain ⟨body, isBody, done⟩ := ok_bind read
      cases done
      have counted := count_stmts items isBody node
      simp only [Datum.starts, Datum.startsAll, List.count_cons, List.count_append]
      omega
    · cases read
  | .list [] span, _, _, read, node | .list (.list _ _ :: _) span, _, _, read, node
  | .list (.string _ _ :: _) span, _, _, read, node
  | .list (.number _ _ :: _) span, _, _, read, node
  | .symbol _ _, _, _, read, node | .string _ _, _, _, read, node
  | .number _ _, _, _, read, node => by
    unfold block at read
    cases read
termination_by datum => (sizeOf datum, 0)

/-- A clause takes its nodes from the data it is read from. -/
theorem count_clause : (datum : Datum) -> {found : Option Stmt} -> clause datum = .ok found ->
    (node : NodeId) -> (found.toList.flatMap Stmt.sites).count node ≤ datum.starts.count node
  | .symbol text span, found, read, node => by
    unfold clause at read
    split at read
    · cases read
      exact Nat.zero_le _
    · obtain ⟨inner, isInner, done⟩ := ok_bind read
      cases done
      simpa using count_exprStmt isInner node
  | .string text span, found, read, node => by
    unfold clause at read
    obtain ⟨inner, isInner, done⟩ := ok_bind read
    cases done
    simpa using count_exprStmt isInner node
  | .number text span, found, read, node => by
    unfold clause at read
    obtain ⟨inner, isInner, done⟩ := ok_bind read
    cases done
    simpa using count_exprStmt isInner node
  | .list items span, found, read, node => by
    unfold clause at read
    obtain ⟨inner, isInner, done⟩ := ok_bind read
    cases done
    simpa using count_stmt (.list items span) isInner node
termination_by datum => (sizeOf datum, 1)

end

/-! ### Items -/

/-- Parameters take their nodes from the data they are read from. -/
theorem count_params (data : List Datum) {found : List Param} (read : params data = .ok found)
    (node : NodeId) :
    (found.map (·.span.node)).count node +
      ((found.map (·.type)).flatMap TypeForm.nodes).count node ≤
        (Datum.startsAll data).count node := by
  fun_induction params data generalizing found with
  | case1 =>
    cases read
    exact Nat.le_refl _
  | case2 _ _ _ type span rest inductionHypothesis
  | case3 _ _ type span rest inductionHypothesis =>
    obtain ⟨form, isForm, read⟩ := ok_bind read
    obtain ⟨others, isOthers, done⟩ := ok_bind read
    cases done
    have countedType := count_typeForm type isForm node
    have counted := inductionHypothesis isOthers
    simp only [List.map_cons, List.flatMap_cons, Datum.startsAll, Datum.starts, List.count_cons,
      List.count_append]
    omega
  | case4 => cases read

/-- The nodes of a signature. -/
def signatureSites (params : List Param) (result : Option TypeForm) : List NodeId :=
  params.map (·.span.node) ++ (params.map (·.type)).flatMap TypeForm.nodes ++ formSites result

/-- A signature takes its nodes from its data, and none of the data behind it. -/
theorem count_signature {data : List Datum} {found : Signature}
    (read : signature data = .ok found) (node : NodeId) :
    (signatureSites found.params found.result).count node +
      (Datum.startsAll found.rest).count node ≤ (Datum.startsAll data).count node := by
  unfold signature at read
  have behindName := count_name data node
  generalize name data = named at read behindName
  obtain ⟨named, items⟩ := named
  simp only at read behindName
  split at read
  · rename_i paramList result rest
    split at read
    · rename_i listed span
      obtain ⟨params, isParams, read⟩ := ok_bind read
      obtain ⟨form, isForm, done⟩ := ok_bind read
      cases done
      have counted := count_params listed isParams node
      have countedResult := count_typeForm result isForm node
      simp only [signatureSites, formSites, Option.toList_some, List.flatMap_singleton,
        List.count_append]
      simp only [Datum.startsAll, Datum.starts, List.count_cons, List.count_append] at behindName
      omega
    · cases read
  · cases read
    exact Nat.zero_le _

theorem count_body {datum : Datum} {found : Body} (read : body datum = .ok found)
    (node : NodeId) : (Stmt.sitesAll found.stmts).count node ≤ datum.starts.count node := by
  obtain ⟨⟨stmts, span⟩, isBlock, done⟩ := ok_bind read
  cases done
  exact count_block datum isBlock node

/-- A declaration read at the head of a list takes its nodes from the list. -/
theorem count_decl {item : Item} {head : Datum} {data : List Datum} {span : Span} {node : NodeId}
    (own : item.ownNode = [span.node])
    (counted : (item.params.map (·.span.node)).count node +
      (Stmt.sitesAll item.stmts).count node + (item.values.flatMap Expr.sites).count node +
      (item.forms.flatMap TypeForm.nodes).count node ≤ (Datum.startsAll data).count node) :
    item.sites.count node ≤ (Datum.list (head :: data) span).starts.count node := by
  simp only [Item.sites, own, Datum.starts, Datum.startsAll, List.count_append, List.count_cons,
    List.count_nil]
  omega

theorem count_functionDecl {data : List Datum} {span : Span} {decl : FunctionDecl}
    (read : functionDecl data span = .ok decl) : decl.span = span ∧ ∀ node,
      (signatureSites decl.params decl.result).count node +
        (Stmt.sitesAll (Item.function decl).stmts).count node ≤
          (Datum.startsAll data).count node := by
  obtain ⟨marks, isMarks, read⟩ := ok_bind read
  obtain ⟨sig, isSig, read⟩ := ok_bind read
  have behind (node : NodeId) := (count_signature isSig node).trans
    (count_attributes data isMarks node)
  split at read
  · cases read
    refine ⟨rfl, fun node => ?_⟩
    have counted := behind node
    simp only [Item.stmts, Item.body, Stmt.sitesAll_nil, List.count_nil]
    omega
  · rename_i datum isRest
    obtain ⟨found, isBody, done⟩ := ok_bind read
    cases done
    refine ⟨rfl, fun node => ?_⟩
    have counted := behind node
    have countedBody := count_body isBody node
    rw [isRest] at counted
    simp only [Datum.startsAll, List.append_nil] at counted
    simp only [Item.stmts, Item.body]
    omega
  · cases read

theorem count_asmDecl {data : List Datum} {span : Span} {decl : AsmDecl}
    (read : asmDecl data span = .ok decl) : decl.span = span ∧ ∀ node,
      (signatureSites decl.params decl.result).count node ≤ (Datum.startsAll data).count node := by
  obtain ⟨marks, isMarks, read⟩ := ok_bind read
  obtain ⟨sig, isSig, done⟩ := ok_bind read
  cases done
  refine ⟨rfl, fun node => ?_⟩
  have counted := (count_signature isSig node).trans (count_attributes data isMarks node)
  exact (Nat.le_add_right _ _).trans counted

theorem count_entryDecl {data : List Datum} {span : Span} {decl : EntryDecl}
    (read : entryDecl data span = .ok decl) : decl.span = span ∧ ∀ node,
      (Stmt.sitesAll decl.body.stmts).count node ≤ (Datum.startsAll data).count node := by
  obtain ⟨⟨marks, rest⟩, isMarks, read⟩ := ok_bind read
  simp only at read
  split at read
  · obtain ⟨found, isBody, done⟩ := ok_bind read
    cases done
    refine ⟨rfl, fun node => ?_⟩
    have behind := count_attributes data isMarks node
    simp only [Datum.startsAll, List.append_nil] at behind
    exact (count_body isBody node).trans behind
  · cases read

theorem count_variants (data : List Datum) {found : List VariantDecl}
    (read : variants data = .ok found) (node : NodeId) :
    ((found.filterMap (·.value)).flatMap Expr.sites).count node ≤
      (Datum.startsAll data).count node := by
  fun_induction variants data generalizing found with
  | case1 =>
    cases read
    exact Nat.le_refl _
  | case2 _ _ span rest inductionHypothesis =>
    obtain ⟨others, isOthers, done⟩ := ok_bind read
    cases done
    have counted := inductionHypothesis isOthers
    simp only [List.filterMap_cons, Datum.startsAll, List.count_append]
    omega
  | case3 _ _ value span rest inductionHypothesis =>
    obtain ⟨inner, isInner, read⟩ := ok_bind read
    obtain ⟨others, isOthers, done⟩ := ok_bind read
    cases done
    have counted := inductionHypothesis isOthers
    have countedValue := count_expr _ isInner node
    simp only [List.filterMap_cons, List.flatMap_cons, Datum.startsAll, Datum.starts,
      List.count_append, List.count_cons]
    omega
  | case4 => cases read

theorem count_enumDecl {data : List Datum} {span : Span} {decl : EnumDecl}
    (read : enumDecl data span = .ok decl) : decl.span = span ∧ ∀ node,
      (formSites decl.base).count node +
        ((decl.variants.filterMap (·.value)).flatMap Expr.sites).count node ≤
          (Datum.startsAll data).count node := by
  obtain ⟨⟨marks, rest⟩, isMarks, read⟩ := ok_bind read
  have behind (node : NodeId) := (count_name rest node).trans
    (count_attributes data isMarks node)
  simp only at read
  generalize name rest = named at read behind
  obtain ⟨named, items⟩ := named
  obtain ⟨found, isFound, done⟩ := ok_bind read
  cases done
  refine ⟨rfl, fun node => ?_⟩
  have counted := behind node
  have countedVariants := count_variants _ isFound node
  dsimp only at counted countedVariants ⊢
  split at countedVariants
  · simp only [Datum.startsAll, Datum.starts, List.count_append] at counted
    simp only [formSites, TypeForm.nodes, Option.toList_some, List.flatMap_singleton]
    dsimp only at countedVariants
    omega
  · simp only [formSites, Option.toList_none, List.flatMap_nil, List.count_nil]
    dsimp only at countedVariants
    omega

theorem count_staticFlags (data : List Datum) (node : NodeId) :
    (Datum.startsAll (staticFlags data).2).count node ≤ (Datum.startsAll data).count node := by
  fun_induction staticFlags data with
  | case1 _ _ rest _ _ _ found inductionHypothesis =>
    simp only [found, Datum.startsAll, List.count_append] at inductionHypothesis ⊢
    omega
  | case2 => exact Nat.le_refl _
  | case3 => exact Nat.le_refl _

theorem count_staticDecl {data : List Datum} {span : Span} {decl : StaticDecl}
    (read : staticDecl data span = .ok decl) : decl.span = span ∧ ∀ node,
      (formSites decl.type).count node + (valueSites decl.value).count node ≤
        (Datum.startsAll data).count node := by
  obtain ⟨marks, isMarks, read⟩ := ok_bind read
  obtain ⟨found, isFound, done⟩ := ok_bind read
  cases done
  refine ⟨rfl, fun node => ?_⟩
  exact (count_typeAndValue isFound node).trans ((count_name _ node).trans
    ((count_staticFlags _ node).trans (count_attributes data isMarks node)))

theorem count_aliasDecl {data : List Datum} {span : Span} {decl : AliasDecl}
    (read : aliasDecl data span = .ok decl) : decl.span = span ∧ ∀ node,
      (formSites decl.target).count node ≤ (Datum.startsAll data).count node := by
  obtain ⟨⟨marks, rest⟩, isMarks, read⟩ := ok_bind read
  have behind (node : NodeId) := (count_name rest node).trans
    (count_attributes data isMarks node)
  simp only at read
  generalize name rest = named at read behind
  obtain ⟨named, items⟩ := named
  simp only at read
  split at read
  · rename_i type
    obtain ⟨form, isForm, done⟩ := ok_bind read
    cases done
    refine ⟨rfl, fun node => ?_⟩
    have counted := behind node
    have countedType := count_typeForm type isForm node
    simp only [Datum.startsAll, List.append_nil] at counted
    simp only [formSites, Option.toList_some, List.flatMap_singleton]
    omega
  · cases read
    exact ⟨rfl, fun _ => Nat.zero_le _⟩

/-- An item takes its nodes from the datum it is read from. -/
theorem count_item {datum : Datum} {found : Item} (read : item datum = .ok found)
    (node : NodeId) : found.sites.count node ≤ datum.starts.count node := by
  have stray {value : Stmt} (isStmt : stmt datum = .ok value) :
      (Item.stray value).sites.count node ≤ datum.starts.count node := by
    simpa [Item.sites, Item.ownNode, Item.params, Item.stmts, Item.values, Item.forms]
      using count_stmt datum isStmt node
  unfold item at read
  split at read
  · rename_i head headSpan data span
    split at read
    · obtain ⟨decl, isDecl, done⟩ := ok_bind read
      cases done
      obtain ⟨stands, counted⟩ := count_functionDecl isDecl
      refine count_decl (by rw [Item.ownNode, Item.span, stands]; simp) ?_
      have counted := counted node
      simp only [signatureSites, formSites, List.count_append] at counted
      simp only [Item.params, Item.values, Item.forms, List.flatMap_nil, List.flatMap_append,
        List.count_append, List.count_nil]
      omega
    · obtain ⟨decl, isDecl, done⟩ := ok_bind read
      cases done
      obtain ⟨stands, counted⟩ := count_asmDecl isDecl
      refine count_decl (by rw [Item.ownNode, Item.span, stands]; simp) ?_
      have counted := counted node
      simp only [signatureSites, formSites, List.count_append] at counted
      simp only [Item.params, Item.stmts, Item.body, Item.values, Item.forms, Stmt.sitesAll_nil,
        List.flatMap_nil, List.flatMap_append, List.count_append, List.count_nil]
      omega
    · obtain ⟨decl, isDecl, done⟩ := ok_bind read
      cases done
      obtain ⟨stands, counted⟩ := count_entryDecl isDecl
      refine count_decl (by rw [Item.ownNode, Item.span, stands]; simp) ?_
      simpa [Item.params, Item.stmts, Item.body, Item.values, Item.forms] using counted node
    · obtain ⟨decl, isDecl, done⟩ := ok_bind read
      cases done
      obtain ⟨stands, counted⟩ := count_structDecl isDecl
      refine count_decl (by rw [Item.ownNode, Item.span, stands]; simp) ?_
      simpa [Item.params, Item.stmts, Item.body, Item.values, Item.forms] using counted node
    · obtain ⟨decl, isDecl, done⟩ := ok_bind read
      cases done
      obtain ⟨stands, counted⟩ := count_enumDecl isDecl
      refine count_decl (by rw [Item.ownNode, Item.span, stands]; simp) ?_
      simpa [Item.params, Item.stmts, Item.body, Item.values, Item.forms, formSites,
        Nat.add_comm] using counted node
    · obtain ⟨decl, isDecl, done⟩ := ok_bind read
      cases done
      obtain ⟨stands, counted⟩ := count_constDecl isDecl
      refine count_decl (by rw [Item.ownNode, Item.span, stands]; simp) ?_
      simpa [Item.params, Item.stmts, Item.body, Item.values, Item.forms, valueSites, formSites,
        Nat.add_comm] using counted node
    · obtain ⟨decl, isDecl, done⟩ := ok_bind read
      cases done
      obtain ⟨stands, counted⟩ := count_staticDecl isDecl
      refine count_decl (by rw [Item.ownNode, Item.span, stands]; simp) ?_
      simpa [Item.params, Item.stmts, Item.body, Item.values, Item.forms, valueSites, formSites,
        Nat.add_comm] using counted node
    · obtain ⟨decl, isDecl, done⟩ := ok_bind read
      cases done
      obtain ⟨stands, counted⟩ := count_aliasDecl isDecl
      refine count_decl (by rw [Item.ownNode, Item.span, stands]; simp) ?_
      simpa [Item.params, Item.stmts, Item.body, Item.values, Item.forms, formSites]
        using counted node
    · obtain ⟨value, isStmt, done⟩ := ok_bind read
      cases done
      exact stray isStmt
  · obtain ⟨value, isStmt, done⟩ := ok_bind read
    cases done
    exact stray isStmt

theorem count_items (data : List Datum) {found : List Item} (read : items data = .ok found)
    (node : NodeId) :
    (found.flatMap Item.sites).count node ≤ (Datum.startsAll data).count node := by
  induction data generalizing found with
  | nil =>
    cases read
    exact Nat.le_refl _
  | cons datum rest inductionHypothesis =>
    obtain ⟨first, isFirst, read⟩ := ok_bind read
    obtain ⟨others, isOthers, done⟩ := ok_bind read
    cases done
    have countedFirst := count_item isFirst node
    have countedRest := inductionHypothesis isOthers
    simp only [List.flatMap_cons, Datum.startsAll, List.count_append]
    omega

end Decode

/-- In a decoded unit no two things stand at one node. -/
theorem Module.nodup_sites {file text : String} {unit : Module}
    (read : Module.decode file text = .ok unit) : (unit.items.flatMap Item.sites).Nodup := by
  unfold decode at read
  split at read
  · cases read
  · rename_i data isData
    obtain ⟨found, isFound, done⟩ := Decode.ok_bind read
    cases done
    refine List.nodup_iff_count_le_one.mpr fun node => ?_
    exact (Decode.count_items data isFound node).trans (Datum.count_readAll isData node)

/-- A decoded unit is named for its file. -/
theorem file_of_decode {file text : String} {unit : Module}
    (read : Module.decode file text = .ok unit) : unit.file = file := by
  unfold Module.decode at read
  split at read
  · cases read
  · obtain ⟨_, -, done⟩ := Decode.ok_bind read
    cases done
    rfl

end UnitCheck
