import UnitCheck.Proofs.Tree.Distinct

/-!
# Statements are told apart

Every statement of a decoded unit is read from a datum of its own, so no two statements
start at the same place and a place names at most one statement of the unit. As for all
nodes, places are counted.
-/

namespace UnitCheck

namespace Stmt

/-- A statement is one of its parts. -/
theorem self_mem_parts (stmt : Stmt) : stmt ∈ stmt.parts := by
  cases stmt <;> exact List.mem_cons_self

/-- Where a statement and the statements inside it start. -/
def starts (stmt : Stmt) : List NodeId := stmt.parts.map (·.span.node)

/-- Where several statements and the statements inside them start. -/
def startsAll (body : List Stmt) : List NodeId := (partsAll body).map (·.span.node)

section Starts

attribute [local simp] parts parts? partsAll starts startsAll Stmt.span

variable (body : List Stmt) (test : Expr) (bodySpan span : Span)

@[simp] theorem starts_block : (block body span).starts = span.node :: startsAll body := by
  simp

@[simp] theorem starts_cond (otherwise : Option Stmt) :
    (cond test body bodySpan otherwise span).starts =
      span.node :: (startsAll body ++ otherwise.toList.flatMap starts) := by
  cases otherwise <;>
    simp

@[simp] theorem starts_whileLoop :
    (whileLoop test body bodySpan span).starts = span.node :: startsAll body := by
  simp

@[simp] theorem starts_loop : (loop body bodySpan span).starts = span.node :: startsAll body := by
  simp

@[simp] theorem starts_forLoop (first : Option Stmt) (test : Option Expr) (after : Option Stmt) :
    (forLoop first test after body bodySpan span).starts =
      span.node :: (first.toList.flatMap starts ++ after.toList.flatMap starts ++
        startsAll body) := by
  cases first <;> cases after <;>
    simp

@[simp] theorem startsAll_nil : startsAll [] = [] := rfl

@[simp] theorem startsAll_cons (stmt : Stmt) :
    startsAll (stmt :: body) = stmt.starts ++ startsAll body := by
  simp

end Starts
end Stmt

namespace Decode

/-- A statement that holds no other starts where its datum does. -/
theorem count_lone {stmt : Stmt} {head : Datum} {args : List Datum} {span : Span} {node : NodeId}
    (leaf : stmt.isLeaf = true) (stands : stmt.span = span) :
    stmt.starts.count node ≤ (Datum.list (head :: args) span).starts.count node := by
  simp only [Stmt.starts, Stmt.parts_of_isLeaf leaf, List.map_singleton, stands, Datum.starts,
    List.count_cons, List.count_nil]
  omega

/-- A statement that holds others takes their places from the data behind its head. -/
theorem count_around {stmt : Stmt} {inner : List NodeId} {head : Datum} {args : List Datum}
    {span : Span} {node : NodeId} (starts : stmt.starts = span.node :: inner)
    (counted : inner.count node ≤ (Datum.startsAll args).count node) :
    stmt.starts.count node ≤ (Datum.list (head :: args) span).starts.count node := by
  simp only [starts, Datum.starts, Datum.startsAll, List.count_cons, List.count_append]
  omega

/-- An expression as a statement starts where a datum does. -/
theorem count_lone_expr {datum : Datum} {value : Expr} (read : expr datum = .ok value)
    (node : NodeId) : (Stmt.expr value).starts.count node ≤ datum.starts.count node := by
  have inside : List.Sublist [value.node] value.sites :=
    List.singleton_sublist.mpr (Expr.node_mem_sites value)
  exact (inside.count_le node).trans (count_expr datum read node)

mutual

/-- Statements take the places where they start from the data they are read from. -/
theorem starts_stmt : (datum : Datum) -> {value : Stmt} -> stmt datum = .ok value ->
    (node : NodeId) -> value.starts.count node ≤ datum.starts.count node
  | .list (.symbol head headSpan :: args) span, value, read, node => by
    unfold stmt at read
    split at read
    · obtain ⟨body, isBody, done⟩ := ok_bind read
      cases done
      exact count_around (Stmt.starts_block _ _) (starts_stmts _ isBody node)
    · obtain ⟨decl, isDecl, done⟩ := ok_bind read
      cases done
      exact count_lone rfl (count_structDecl isDecl).1
    · obtain ⟨decl, isDecl, done⟩ := ok_bind read
      cases done
      exact count_lone rfl (count_constDecl isDecl).1
    · cases read
      exact count_lone rfl rfl
    · obtain ⟨decl, isDecl, done⟩ := ok_bind read
      cases done
      exact count_lone rfl (count_binding isDecl).1
    · obtain ⟨decl, isDecl, done⟩ := ok_bind read
      cases done
      exact count_lone rfl (count_binding isDecl).1
    · obtain ⟨first, -, read⟩ := ok_bind read
      obtain ⟨second, -, done⟩ := ok_bind read
      cases done
      exact count_lone rfl rfl
    · cases read
    · obtain ⟨inner, -, done⟩ := ok_bind read
      cases done
      exact count_lone rfl rfl
    · cases read
      exact count_lone rfl rfl
    · cases read
      exact count_lone rfl rfl
    · cases read
      exact count_lone rfl rfl
    · obtain ⟨test, -, read⟩ := ok_bind read
      obtain ⟨⟨body, bodySpan⟩, isBody, done⟩ := ok_bind read
      cases done
      have countedBody := starts_block _ isBody node
      refine count_around (Stmt.starts_cond _ _ _ _ _) ?_
      simp only [Option.toList_none, List.flatMap_nil, List.append_nil, Datum.startsAll,
        List.count_append]
      omega
    · obtain ⟨test, -, read⟩ := ok_bind read
      obtain ⟨⟨body, bodySpan⟩, isBody, read⟩ := ok_bind read
      have countedBody := starts_block _ isBody node
      simp only at read
      split at read
      · obtain ⟨other, isOther, done⟩ := ok_bind read
        cases done
        have countedOther := starts_stmt _ isOther node
        refine count_around (Stmt.starts_cond _ _ _ _ _) ?_
        simp only [Option.toList_some, List.flatMap_singleton, Datum.startsAll, List.count_append]
        omega
      · cases read
    · cases read
    · obtain ⟨test, -, read⟩ := ok_bind read
      obtain ⟨⟨body, bodySpan⟩, isBody, done⟩ := ok_bind read
      cases done
      have countedBody := starts_block _ isBody node
      refine count_around (Stmt.starts_whileLoop _ _ _ _) ?_
      simp only [Datum.startsAll, List.count_append]
      omega
    · cases read
    · obtain ⟨⟨body, bodySpan⟩, isBody, done⟩ := ok_bind read
      cases done
      have countedBody := starts_block _ isBody node
      refine count_around (Stmt.starts_loop _ _ _) ?_
      simp only [Datum.startsAll, List.count_append]
      omega
    · cases read
    · rename_i first test after body
      obtain ⟨opening, isFirst, read⟩ := ok_bind read
      have countedFirst := starts_clause _ isFirst node
      have rest (found : Option Expr)
          (read : (do
            let after <- clause after
            let inner <- block body
            return Stmt.forLoop opening found after inner.1 inner.2 span) = .ok value) :
          value.starts.count node ≤
            (Datum.list (.symbol "for" headSpan :: [first, test, after, body])
              span).starts.count node := by
        obtain ⟨step, isStep, read⟩ := ok_bind read
        obtain ⟨⟨inner, innerSpan⟩, isInner, done⟩ := ok_bind read
        cases done
        have countedAfter := starts_clause _ isStep node
        have countedBody := starts_block _ isInner node
        refine count_around (Stmt.starts_forLoop _ _ _ _ _ _) ?_
        simp only [Datum.startsAll, List.count_append]
        omega
      simp only at read
      split at read
      · exact rest none read
      · obtain ⟨found, -, read⟩ := ok_bind read
        exact rest found read
    · cases read
    · obtain ⟨first, -, read⟩ := ok_bind read
      obtain ⟨second, -, done⟩ := ok_bind read
      cases done
      exact count_lone rfl rfl
    · cases read
    · obtain ⟨inner, isInner, done⟩ := ok_bind read
      cases done
      exact count_lone_expr isInner node
  | .list [] span, value, read, node | .list (.list _ _ :: _) span, value, read, node
  | .list (.string _ _ :: _) span, value, read, node
  | .list (.number _ _ :: _) span, value, read, node
  | .symbol _ _, value, read, node | .string _ _, value, read, node
  | .number _ _, value, read, node => by
    unfold stmt at read
    obtain ⟨inner, isInner, done⟩ := ok_bind read
    cases done
    exact count_lone_expr isInner node
termination_by datum => (sizeOf datum, 0)

theorem starts_stmts : (data : List Datum) -> {values : List Stmt} -> stmts data = .ok values ->
    (node : NodeId) -> (Stmt.startsAll values).count node ≤ (Datum.startsAll data).count node
  | [], values, read, node => by
    unfold stmts at read
    cases read
    exact Nat.le_refl _
  | datum :: rest, values, read, node => by
    unfold stmts at read
    obtain ⟨first, isFirst, read⟩ := ok_bind read
    obtain ⟨others, isOthers, done⟩ := ok_bind read
    cases done
    have countedFirst := starts_stmt datum isFirst node
    have countedRest := starts_stmts rest isOthers node
    simp only [Stmt.startsAll_cons, Datum.startsAll, List.count_append]
    omega
termination_by data => (sizeOf data, 0)

theorem starts_block : (datum : Datum) -> {body : List Stmt} -> {bodySpan : Span} ->
    block datum = .ok (body, bodySpan) ->
    (node : NodeId) -> (Stmt.startsAll body).count node ≤ datum.starts.count node
  | .list (.symbol head headSpan :: items) span, body, bodySpan, read, node => by
    unfold block at read
    split at read
    · obtain ⟨body, isBody, done⟩ := ok_bind read
      cases done
      have counted := starts_stmts items isBody node
      simp only [Datum.starts, Datum.startsAll, List.count_cons, List.count_append]
      omega
    · cases read
  | .list [] span, _, _, read, node | .list (.list _ _ :: _) span, _, _, read, node
  | .list (.string _ _ :: _) span, _, _, read, node
  | .list (.number _ _ :: _) span, _, _, read, node
  | .symbol _ _, _, _, read, node | .string _ _, _, _, read, node
  | .number _ _, _, _, read, node => by
    unfold block at read
    cases read
termination_by datum => (sizeOf datum, 0)

theorem starts_clause : (datum : Datum) -> {found : Option Stmt} -> clause datum = .ok found ->
    (node : NodeId) -> (found.toList.flatMap Stmt.starts).count node ≤ datum.starts.count node
  | .symbol text span, found, read, node => by
    unfold clause at read
    split at read
    · cases read
      exact Nat.zero_le _
    · obtain ⟨inner, isInner, done⟩ := ok_bind read
      cases done
      simpa using count_lone_expr isInner node
  | .string text span, found, read, node | .number text span, found, read, node => by
    unfold clause at read
    obtain ⟨inner, isInner, done⟩ := ok_bind read
    cases done
    simpa using count_lone_expr isInner node
  | .list items span, found, read, node => by
    unfold clause at read
    obtain ⟨inner, isInner, done⟩ := ok_bind read
    cases done
    simpa using starts_stmt (.list items span) isInner node
termination_by datum => (sizeOf datum, 1)

end

theorem starts_body {datum : Datum} {found : Body} (read : body datum = .ok found)
    (node : NodeId) : (Stmt.startsAll found.stmts).count node ≤ datum.starts.count node := by
  obtain ⟨⟨stmts, span⟩, isBlock, done⟩ := ok_bind read
  cases done
  exact starts_block datum isBlock node

theorem starts_functionDecl {data : List Datum} {span : Span} {decl : FunctionDecl}
    (read : functionDecl data span = .ok decl) (node : NodeId) :
    (Stmt.startsAll (Item.function decl).stmts).count node ≤ (Datum.startsAll data).count node := by
  obtain ⟨marks, isMarks, read⟩ := ok_bind read
  obtain ⟨sig, isSig, read⟩ := ok_bind read
  have behind := (count_signature isSig node).trans (count_attributes data isMarks node)
  split at read
  · cases read
    exact Nat.zero_le _
  · rename_i datum isRest
    obtain ⟨found, isBody, done⟩ := ok_bind read
    cases done
    have countedBody := starts_body isBody node
    rw [isRest] at behind
    simp only [Datum.startsAll, List.append_nil] at behind
    simp only [Item.stmts, Item.body]
    omega
  · cases read

theorem starts_entryDecl {data : List Datum} {span : Span} {decl : EntryDecl}
    (read : entryDecl data span = .ok decl) (node : NodeId) :
    (Stmt.startsAll decl.body.stmts).count node ≤ (Datum.startsAll data).count node := by
  obtain ⟨⟨marks, rest⟩, isMarks, read⟩ := ok_bind read
  simp only at read
  split at read
  · obtain ⟨found, isBody, done⟩ := ok_bind read
    cases done
    have behind := count_attributes data isMarks node
    simp only [Datum.startsAll, List.append_nil] at behind
    exact (starts_body isBody node).trans behind
  · cases read

/-- The statements of an item take their places from the datum the item is read from. -/
theorem starts_item {datum : Datum} {found : Item} (read : item datum = .ok found)
    (node : NodeId) : (Stmt.startsAll found.stmts).count node ≤ datum.starts.count node := by
  have stray {value : Stmt} (isStmt : stmt datum = .ok value) :
      (Stmt.startsAll (Item.stray value).stmts).count node ≤ datum.starts.count node := by
    simpa [Item.stmts] using starts_stmt datum isStmt node
  have behindHead {head : Datum} {data : List Datum} {span : Span} {inner : List NodeId}
      (counted : inner.count node ≤ (Datum.startsAll data).count node) :
      inner.count node ≤ (Datum.list (head :: data) span).starts.count node := by
    simp only [Datum.starts, Datum.startsAll, List.count_cons, List.count_append]
    omega
  unfold item at read
  split at read
  · split at read
    · obtain ⟨decl, isDecl, done⟩ := ok_bind read
      cases done
      exact behindHead (starts_functionDecl isDecl node)
    · obtain ⟨decl, -, done⟩ := ok_bind read
      cases done
      exact Nat.zero_le _
    · obtain ⟨decl, isDecl, done⟩ := ok_bind read
      cases done
      exact behindHead (starts_entryDecl isDecl node)
    · obtain ⟨decl, -, done⟩ := ok_bind read
      cases done
      exact Nat.zero_le _
    · obtain ⟨decl, -, done⟩ := ok_bind read
      cases done
      exact Nat.zero_le _
    · obtain ⟨decl, -, done⟩ := ok_bind read
      cases done
      exact Nat.zero_le _
    · obtain ⟨decl, -, done⟩ := ok_bind read
      cases done
      exact Nat.zero_le _
    · obtain ⟨decl, -, done⟩ := ok_bind read
      cases done
      exact Nat.zero_le _
    · obtain ⟨value, isStmt, done⟩ := ok_bind read
      cases done
      exact stray isStmt
  · obtain ⟨value, isStmt, done⟩ := ok_bind read
    cases done
    exact stray isStmt

theorem starts_items (data : List Datum) {found : List Item} (read : items data = .ok found)
    (node : NodeId) :
    (found.flatMap fun item => Stmt.startsAll item.stmts).count node ≤
      (Datum.startsAll data).count node := by
  induction data generalizing found with
  | nil =>
    cases read
    exact Nat.le_refl _
  | cons datum rest inductionHypothesis =>
    obtain ⟨first, isFirst, read⟩ := ok_bind read
    obtain ⟨others, isOthers, done⟩ := ok_bind read
    cases done
    have countedFirst := starts_item isFirst node
    have countedRest := inductionHypothesis isOthers
    simp only [List.flatMap_cons, Datum.startsAll, List.count_append]
    omega

end Decode

/-- In a decoded unit no two statements start at the same place. -/
theorem Module.nodup_starts {file text : String} {unit : Module}
    (read : Module.decode file text = .ok unit) :
    (unit.items.flatMap fun item => Stmt.startsAll item.stmts).Nodup := by
  unfold decode at read
  split at read
  · cases read
  · rename_i data isData
    obtain ⟨found, isFound, done⟩ := Decode.ok_bind read
    cases done
    refine List.nodup_iff_count_le_one.mpr fun node => ?_
    exact (Decode.starts_items data isFound node).trans (Datum.count_readAll isData node)

end UnitCheck
