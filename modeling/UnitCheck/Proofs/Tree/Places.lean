import UnitCheck.Proofs.Tree.Origin

/-!
# A tree stands where its data do

Every span in a decoded unit is the span of a datum of the text: of the datum that the
piece of the tree was read from, or of the symbol that names it.
-/

namespace UnitCheck

namespace Datum

mutual

/-- All data inside the datum stand at places. -/
def From (span : Span -> Prop) : Datum -> Prop
  | .symbol _ place | .string _ place | .number _ place => span place
  | .list items place => span place ∧ AllFrom span items

/-- `From` for several data. -/
def AllFrom (span : Span -> Prop) : List Datum -> Prop
  | [] => True
  | datum :: rest => From span datum ∧ AllFrom span rest

end

variable {span : Span -> Prop}

@[simp] theorem allFrom_iff {data : List Datum} :
    AllFrom span data ↔ ∀ datum ∈ data, datum.From span := by
  induction data with
  | nil => simp [AllFrom]
  | cons datum rest inductionHypothesis => simp [AllFrom, inductionHypothesis]

@[simp] theorem from_symbol {text : String} {place : Span} :
    (symbol text place).From span ↔ span place := by
  simp [From]

@[simp] theorem from_string {text : String} {place : Span} :
    (string text place).From span ↔ span place := by
  simp [From]

@[simp] theorem from_number {text : String} {place : Span} :
    (number text place).From span ↔ span place := by
  simp [From]

@[simp] theorem from_list {items : List Datum} {place : Span} :
    (list items place).From span ↔ span place ∧ ∀ item ∈ items, item.From span := by
  simp [From]

theorem span_from {datum : Datum} (isFrom : datum.From span) : span datum.span := by
  cases datum <;> simp_all [Datum.span]

mutual

/-- Data from the places of all data that are met on the walk over them. -/
theorem from_of_walk : (datum : Datum) -> (depth : Nat) ->
    (∀ entry ∈ datum.walk depth, span entry.2.span) -> datum.From span
  | .symbol _ _, _, places | .string _ _, _, places | .number _ _, _, places => by
    simpa [walk, Datum.span] using places
  | .list items _, depth, places => by
    simp only [walk, List.forall_mem_cons] at places
    exact ⟨places.1, allFrom_of_walkAll items (depth + 1) places.2⟩

theorem allFrom_of_walkAll : (data : List Datum) -> (depth : Nat) ->
    (∀ entry ∈ walkAll depth data, span entry.2.span) -> AllFrom span data
  | [], _, _ => trivial
  | datum :: rest, depth, places => by
    simp only [walkAll, List.forall_mem_append] at places
    exact ⟨from_of_walk datum depth places.1, allFrom_of_walkAll rest depth places.2⟩

end
end Datum

namespace Decode

variable {span : Span -> Prop}

theorem from_literal {datum : Datum} {value : Literal} (read : literal datum = .ok value)
    (isFrom : datum.From span) : value.From (.ofSpans span) := by
  unfold Literal.From
  rw [node_literal read]
  exact Datum.span_from isFrom

/-- A literal as an expression stands where its datum does. -/
theorem from_literalExpr {datum : Datum} {value : Expr}
    (read : (do return Expr.literal (<- literal datum) : Decoded Expr) = .ok value)
    (isFrom : datum.From span) : value.From (.ofSpans span) := by
  obtain ⟨found, isFound, done⟩ := ok_bind read
  cases done
  exact from_literal isFound isFrom

mutual

/-- A written type stands where its data do. -/
theorem from_typeForm : (datum : Datum) -> {form : TypeForm} -> typeForm datum = .ok form ->
    datum.From span -> form.From (.ofSpans span)
  | .symbol text place, form, read, isFrom => by
    rw [Datum.from_symbol] at isFrom
    unfold typeForm at read
    split at read
    · cases read
      exact isFrom
    · split at read <;> cases read <;> exact isFrom
  | .string text place, form, read, isFrom | .number text place, form, read, isFrom
  | .list [] place, form, read, isFrom => by
    unfold typeForm at read
    cases read
  | .list (.list _ _ :: _) place, form, read, isFrom
  | .list (.string _ _ :: _) place, form, read, isFrom
  | .list (.number _ _ :: _) place, form, read, isFrom => by
    unfold typeForm at read
    cases read
  | .list (.symbol head headSpan :: args) place, form, read, isFrom => by
    obtain ⟨isPlace, inside⟩ := Datum.from_list.mp isFrom
    have insideArgs := (List.forall_mem_cons.mp inside).2
    have wrapped (inner : Datum) (rest : List Datum) (wrap : TypeForm -> TypeForm)
        (isArgs : args = inner :: rest)
        (wraps : ∀ element : TypeForm, element.From (.ofSpans span) → (wrap element).From (.ofSpans span))
        (read : (do return wrap (<- typeForm inner) : Decoded TypeForm) = .ok form) :
        form.From (.ofSpans span) := by
      obtain ⟨element, isElement, done⟩ := ok_bind read
      cases done
      refine wraps element (from_typeForm inner isElement (insideArgs inner ?_))
      rw [isArgs]
      exact List.mem_cons_self
    unfold typeForm at read
    split at read
    · rename_i isSymbol
      cases isSymbol
    · cases read
    · cases read
    · cases read
    · rename_i same
      cases same
      split at read
      · cases read
      · exact wrapped _ _ (.pointer · place) rfl (fun _ => .intro isPlace) read
    · rename_i same
      cases same
      split at read
      · cases read
      · exact wrapped _ _ (.const · place) rfl (fun _ => .intro isPlace) read
    · rename_i same
      cases same
      split at read
      · cases read
      · exact wrapped _ _ (.mutable · place) rfl (fun _ => .intro isPlace) read
    · rename_i same
      cases same
      split at read
      · cases read
      · rename_i inner size
        obtain ⟨element, isElement, read⟩ := ok_bind read
        split at read
        · cases read
          exact wrapped inner _ (.fixedArray · _ place) rfl (fun _ => .intro isPlace)
            (by rw [isElement]; rfl)
        · cases read
      · exact wrapped _ _ (.array · place) rfl (fun _ => .intro isPlace) read
    · rename_i same
      cases same
      split at read
      · rename_i listed listedSpan result
        obtain ⟨params, isParams, read⟩ := ok_bind read
        obtain ⟨found, isFound, done⟩ := ok_bind read
        cases done
        simp only [List.forall_mem_cons, Datum.from_list] at insideArgs
        exact ⟨isPlace, from_paramForms listed isParams insideArgs.1.2,
          from_typeForm result isFound insideArgs.2.1⟩
      · cases read
    · cases read
termination_by datum => sizeOf datum
decreasing_by all_goals (subst_vars; simp only [Datum.list.sizeOf_spec, List.cons.sizeOf_spec]; omega)

/-- The parameters of a written function type stand where their data do. -/
theorem from_paramForms : (data : List Datum) -> {found : List TypeForm × Bool} ->
    paramForms data = .ok found -> (∀ datum ∈ data, datum.From span) ->
    TypeForm.AllFrom (.ofSpans span) found.1
  | [], found, read, _ => by
    unfold paramForms at read
    cases read
    trivial
  | datum :: rest, found, read, isFrom => by
    obtain ⟨first, later⟩ := List.forall_mem_cons.mp isFrom
    unfold paramForms at read
    split at read
    · obtain ⟨others, isOthers, done⟩ := ok_bind read
      cases done
      have params := from_paramForms rest isOthers later
      exact params
    · obtain ⟨form, isForm, read⟩ := ok_bind read
      obtain ⟨others, isOthers, done⟩ := ok_bind read
      cases done
      exact ⟨from_typeForm datum isForm first, from_paramForms rest isOthers later⟩
termination_by data => sizeOf data
decreasing_by all_goals (subst_vars; simp only [List.cons.sizeOf_spec]; omega)

end

mutual

/-- An expression stands where its data do. -/
theorem from_expr : (datum : Datum) -> {value : Expr} -> expr datum = .ok value ->
    datum.From span -> value.From (.ofSpans span)
  | .number text place, value, read, isFrom | .string text place, value, read, isFrom => by
    unfold expr at read
    exact from_literalExpr read isFrom
  | .symbol text place, value, read, isFrom => by
    unfold expr at read
    split at read
    · exact from_literalExpr read isFrom
    · cases read
      exact Datum.from_symbol.mp isFrom
  | .list [] place, value, read, isFrom => by
    unfold expr at read
    cases read
  | .list (.symbol head headSpan :: args) place, value, read, isFrom => by
    have whole := isFrom
    obtain ⟨isPlace, inside⟩ := Datum.from_list.mp isFrom
    have insideArgs := (List.forall_mem_cons.mp inside).2
    unfold expr at read
    split at read
    · rename_i operand _
      obtain ⟨inner, isInner, done⟩ := ok_bind read
      cases done
      simp only [List.forall_mem_cons] at insideArgs
      exact ⟨isPlace, from_expr operand isInner insideArgs.1⟩
    · split at read
      · rename_i left right _ _
        obtain ⟨first, isFirst, read⟩ := ok_bind read
        obtain ⟨second, isSecond, done⟩ := ok_bind read
        cases done
        simp only [List.forall_mem_cons] at insideArgs
        exact ⟨isPlace, from_expr left isFirst insideArgs.1, from_expr right isSecond insideArgs.2.1⟩
      · cases read
      · split at read
        · exact from_literalExpr read whole
        · cases read
          exact isPlace
        · rename_i callee calleeSpan others _ _
          obtain ⟨found, isFound, done⟩ := ok_bind read
          cases done
          simp only [List.forall_mem_cons, Datum.from_symbol] at insideArgs
          exact ⟨isPlace, insideArgs.1, from_exprs others isFound insideArgs.2⟩
        · cases read
        · rename_i function others _ _
          obtain ⟨called, isCalled, read⟩ := ok_bind read
          obtain ⟨found, isFound, done⟩ := ok_bind read
          cases done
          simp only [List.forall_mem_cons] at insideArgs
          exact ⟨isPlace, from_expr function isCalled insideArgs.1,
            from_exprs others isFound insideArgs.2⟩
        · cases read
        · rename_i base segment path _ _
          obtain ⟨inner, isInner, read⟩ := ok_bind read
          obtain ⟨segments, _, done⟩ := ok_bind read
          cases done
          simp only [List.forall_mem_cons] at insideArgs
          exact ⟨isPlace, from_expr base isInner insideArgs.1⟩
        · cases read
        · rename_i base position _ _
          obtain ⟨first, isFirst, read⟩ := ok_bind read
          obtain ⟨second, isSecond, done⟩ := ok_bind read
          cases done
          simp only [List.forall_mem_cons] at insideArgs
          exact ⟨isPlace, from_expr base isFirst insideArgs.1,
            from_expr position isSecond insideArgs.2.1⟩
        · cases read
        · rename_i type operand _ _
          obtain ⟨form, isForm, read⟩ := ok_bind read
          obtain ⟨inner, isInner, done⟩ := ok_bind read
          cases done
          simp only [List.forall_mem_cons] at insideArgs
          exact ⟨isPlace, from_typeForm type isForm insideArgs.1,
            from_expr operand isInner insideArgs.2.1⟩
        · cases read
        · obtain ⟨found, isFound, done⟩ := ok_bind read
          cases done
          refine ⟨isPlace, ?_, from_exprs _ isFound insideArgs⟩
          rintro _ ⟨⟩
        · rename_i type items _ _
          obtain ⟨form, isForm, read⟩ := ok_bind read
          obtain ⟨found, isFound, done⟩ := ok_bind read
          cases done
          simp only [List.forall_mem_cons] at insideArgs
          refine ⟨isPlace, ?_, from_exprs items isFound insideArgs.2⟩
          rintro _ ⟨⟩
          exact from_typeForm type isForm insideArgs.1
        · cases read
        · rename_i operand _ _
          obtain ⟨inner, isInner, done⟩ := ok_bind read
          cases done
          simp only [List.forall_mem_cons] at insideArgs
          exact ⟨isPlace, from_expr operand isInner insideArgs.1⟩
        · cases read
        · rename_i type operand _ _
          obtain ⟨form, isForm, read⟩ := ok_bind read
          obtain ⟨inner, isInner, done⟩ := ok_bind read
          cases done
          simp only [List.forall_mem_cons] at insideArgs
          exact ⟨isPlace, from_typeForm type isForm insideArgs.1,
            from_expr operand isInner insideArgs.2.1⟩
        · cases read
        · rename_i type _ _
          obtain ⟨form, isForm, done⟩ := ok_bind read
          cases done
          simp only [List.forall_mem_cons] at insideArgs
          exact ⟨isPlace, from_typeForm type isForm insideArgs.1⟩
        · cases read
        · cases read
  | .list (.list _ _ :: _) place, value, read, isFrom
  | .list (.string _ _ :: _) place, value, read, isFrom
  | .list (.number _ _ :: _) place, value, read, isFrom => by
    unfold expr at read
    cases read
termination_by datum => sizeOf datum
decreasing_by all_goals (subst_vars; simp only [Datum.list.sizeOf_spec, List.cons.sizeOf_spec]; omega)

/-- Several expressions stand where their data do. -/
theorem from_exprs : (data : List Datum) -> {values : List Expr} -> exprs data = .ok values ->
    (∀ datum ∈ data, datum.From span) -> Expr.AllFrom (.ofSpans span) values
  | [], values, read, _ => by
    unfold exprs at read
    cases read
    trivial
  | datum :: rest, values, read, isFrom => by
    obtain ⟨first, later⟩ := List.forall_mem_cons.mp isFrom
    unfold exprs at read
    obtain ⟨value, isValue, read⟩ := ok_bind read
    obtain ⟨others, isOthers, done⟩ := ok_bind read
    cases done
    exact ⟨from_expr datum isValue first, from_exprs rest isOthers later⟩
termination_by data => sizeOf data
decreasing_by all_goals (subst_vars; simp only [List.cons.sizeOf_spec]; omega)

end

/-! ### Declarations -/

theorem from_attribute? {datum : Datum} {found : Option Attribute}
    (read : attribute? datum = .ok found) (isFrom : datum.From span) :
    ∀ subject ∈ found, subject.From (.ofSpans span) := by
  have missing {payload : Option Literal} (isMissing : payload = none) :
      ∀ value ∈ payload, value.From (.ofSpans span) := by
    rintro value isValue
    rw [isMissing] at isValue
    cases isValue
  unfold attribute? at read
  split at read
  · cases read
    intro subject isSubject
    obtain ⟨name, -, rfl⟩ := Option.map_eq_some_iff.mp isSubject
    exact ⟨Datum.from_symbol.mp isFrom, missing rfl⟩
  · split at read
    · cases read
      rintro _ ⟨⟩
    · cases read
      rintro _ ⟨⟩
      exact ⟨(Datum.from_list.mp isFrom).1, missing rfl⟩
    · obtain ⟨payload, isPayload, done⟩ := ok_bind read
      cases done
      simp only [Datum.from_list, List.forall_mem_cons] at isFrom
      rintro _ ⟨⟩
      refine ⟨isFrom.1, ?_⟩
      rintro _ ⟨⟩
      exact from_literal isPayload isFrom.2.2.1
    · cases read
  · cases read
    rintro _ ⟨⟩

theorem from_attributes : (data : List Datum) -> {found : List Attribute × List Datum} ->
    attributes data = .ok found -> (∀ datum ∈ data, datum.From span) ->
    (∀ subject ∈ found.1, subject.From (.ofSpans span)) ∧ ∀ datum ∈ found.2, datum.From span
  | [], found, read, _ => by
    unfold attributes at read
    cases read
    exact ⟨List.forall_mem_nil _, List.forall_mem_nil _⟩
  | datum :: rest, found, read, isFrom => by
    obtain ⟨first, later⟩ := List.forall_mem_cons.mp isFrom
    unfold attributes at read
    obtain ⟨mark, isMark, read⟩ := ok_bind read
    cases mark with
    | none =>
      cases read
      exact ⟨List.forall_mem_nil _, isFrom⟩
    | some mark =>
      obtain ⟨others, isOthers, done⟩ := ok_bind read
      cases done
      obtain ⟨marks, behind⟩ := from_attributes rest isOthers later
      exact ⟨List.forall_mem_cons.mpr ⟨from_attribute? isMark first mark rfl, marks⟩, behind⟩

theorem from_name {data : List Datum} (isFrom : ∀ datum ∈ data, datum.From span) :
    (∀ ident ∈ (name data).1, ident.From (.ofSpans span)) ∧
      ∀ datum ∈ (name data).2, datum.From span := by
  unfold name
  split
  · rw [List.forall_mem_cons, Datum.from_symbol] at isFrom
    split
    · exact ⟨none_from, isFrom.2⟩
    · refine ⟨?_, isFrom.2⟩
      rintro _ ⟨⟩
      exact isFrom.1
  · exact ⟨none_from, isFrom⟩

theorem from_mutMark {data : List Datum} (isFrom : ∀ datum ∈ data, datum.From span) :
    ∀ datum ∈ (mutMark data).2, datum.From span := by
  unfold mutMark
  split
  · split
    · exact (List.forall_mem_cons.mp isFrom).2
    · exact isFrom
  · exact List.forall_mem_nil _

theorem from_optionalExpr {datum : Option Datum} {value : Option Expr}
    (read : optionalExpr datum = .ok value) (isFrom : ∀ found ∈ datum, found.From span) :
    ∀ expr ∈ value, expr.From (.ofSpans span) := by
  cases datum with
  | none =>
    cases read
    rintro _ ⟨⟩
  | some datum =>
    obtain ⟨inner, isInner, done⟩ := ok_bind read
    cases done
    rintro _ ⟨⟩
    exact from_expr datum isInner (isFrom datum rfl)

theorem from_optionalType {datum : Datum} {form : Option TypeForm}
    (read : optionalType datum = .ok form) (isFrom : datum.From span) :
    ∀ found ∈ form, found.From (.ofSpans span) := by
  unfold optionalType at read
  split at read
  · cases read
    rintro _ ⟨⟩
  · obtain ⟨inner, isInner, done⟩ := ok_bind read
    cases done
    rintro _ ⟨⟩
    exact from_typeForm datum isInner isFrom

theorem from_typeAndValue {data : List Datum} {found : Option TypeForm × Option Expr}
    (read : typeAndValue data = .ok found) (isFrom : ∀ datum ∈ data, datum.From span) :
    (∀ form ∈ found.1, form.From (.ofSpans span)) ∧
      ∀ expr ∈ found.2, expr.From (.ofSpans span) := by
  unfold typeAndValue at read
  split at read
  · cases read
    exact ⟨none_from, none_from⟩
  · obtain ⟨form, isForm, done⟩ := ok_bind read
    cases done
    simp only [List.forall_mem_cons] at isFrom
    exact ⟨from_optionalType isForm isFrom.1, none_from⟩
  · obtain ⟨form, isForm, read⟩ := ok_bind read
    obtain ⟨inner, isInner, done⟩ := ok_bind read
    cases done
    simp only [List.forall_mem_cons] at isFrom
    refine ⟨from_optionalType isForm isFrom.1, ?_⟩
    rintro _ ⟨⟩
    exact from_expr _ isInner isFrom.2.1

theorem from_fields (data : List Datum) {found : List FieldDecl} (read : fields data = .ok found)
    (isFrom : ∀ datum ∈ data, datum.From span) :
    ∀ field ∈ found, field.From (.ofSpans span) := by
  fun_induction fields data generalizing found with
  | case1 =>
    cases read
    exact List.forall_mem_nil _
  | case2 _ _ type place rest inductionHypothesis =>
    obtain ⟨form, isForm, read⟩ := ok_bind read
    obtain ⟨others, isOthers, done⟩ := ok_bind read
    cases done
    simp only [List.forall_mem_cons, Datum.from_list, Datum.from_symbol] at isFrom
    exact List.forall_mem_cons.mpr ⟨⟨isFrom.1.2.1, from_typeForm type isForm isFrom.1.2.2.1⟩,
      inductionHypothesis isOthers isFrom.2⟩
  | case3 => cases read

section Inner

variable {data : List Datum} {place : Span} (isFrom : ∀ datum ∈ data, datum.From span)
  (isPlace : span place)

include isFrom isPlace

/-- The attributes and the name at the head of a declaration. -/
theorem from_head {marks : List Attribute × List Datum} (isMarks : attributes data = .ok marks) :
    HeadFrom (.ofSpans span) marks.1 (name marks.2).1 place ∧
      ∀ datum ∈ (name marks.2).2, datum.From span := by
  obtain ⟨marksFrom, behind⟩ := from_attributes data isMarks isFrom
  obtain ⟨nameFrom, rest⟩ := from_name behind
  exact ⟨⟨marksFrom, nameFrom, isPlace⟩, rest⟩

theorem from_constDecl {decl : ConstDecl} (read : constDecl data place = .ok decl) :
    decl.From (.ofSpans span) := by
  obtain ⟨marks, isMarks, read⟩ := ok_bind read
  obtain ⟨head, rest⟩ := from_head isFrom isPlace isMarks
  obtain ⟨found, isFound, done⟩ := ok_bind read
  cases done
  obtain ⟨type, value⟩ := from_typeAndValue isFound rest
  exact ⟨head, type, value⟩

theorem from_structDecl {decl : StructDecl} (read : structDecl data place = .ok decl) :
    decl.From (.ofSpans span) := by
  obtain ⟨marks, isMarks, read⟩ := ok_bind read
  obtain ⟨head, rest⟩ := from_head isFrom isPlace isMarks
  obtain ⟨found, isFound, done⟩ := ok_bind read
  cases done
  exact ⟨head, from_fields _ isFound rest, fun _ _ => trivial⟩

theorem from_binding {isMutable : Bool} {decl : BindingDecl}
    (read : binding isMutable data place = .ok decl) : decl.From (.ofSpans span) := by
  unfold binding at read
  split at read
  · rename_i text nameSpan type values
    obtain ⟨form, isForm, read⟩ := ok_bind read
    obtain ⟨value, isValue, done⟩ := ok_bind read
    cases done
    simp only [List.forall_mem_cons, Datum.from_symbol] at isFrom
    exact ⟨isPlace, isFrom.1, from_optionalType isForm isFrom.2.1,
      from_optionalExpr isValue fun found isFound =>
        isFrom.2.2 found (List.mem_of_head? isFound)⟩
  · cases read

end Inner

/-! ### Statements -/

mutual

/-- A statement stands where its data do. -/
theorem from_stmt : (datum : Datum) -> {value : Stmt} -> stmt datum = .ok value ->
    datum.From span -> value.From (.ofSpans span)
  | .list (.symbol head headSpan :: args) place, value, read, isFrom => by
    have whole := isFrom
    obtain ⟨isPlace, inside⟩ := Datum.from_list.mp isFrom
    have insideArgs := (List.forall_mem_cons.mp inside).2
    unfold stmt at read
    split at read
    · obtain ⟨body, isBody, done⟩ := ok_bind read
      cases done
      exact ⟨isPlace, from_stmts _ isBody insideArgs⟩
    · obtain ⟨decl, isDecl, done⟩ := ok_bind read
      cases done
      exact from_structDecl insideArgs isPlace isDecl
    · obtain ⟨decl, isDecl, done⟩ := ok_bind read
      cases done
      exact from_constDecl insideArgs isPlace isDecl
    · cases read
      exact isPlace
    · obtain ⟨decl, isDecl, done⟩ := ok_bind read
      cases done
      exact from_binding (from_mutMark insideArgs) isPlace isDecl
    · obtain ⟨decl, isDecl, done⟩ := ok_bind read
      cases done
      exact from_binding insideArgs isPlace isDecl
    · obtain ⟨first, isFirst, read⟩ := ok_bind read
      obtain ⟨second, isSecond, done⟩ := ok_bind read
      cases done
      simp only [List.forall_mem_cons] at insideArgs
      exact ⟨isPlace, from_expr _ isFirst insideArgs.1, from_expr _ isSecond insideArgs.2.1⟩
    · cases read
    · obtain ⟨inner, isInner, done⟩ := ok_bind read
      cases done
      simp only [List.forall_mem_cons] at insideArgs
      refine ⟨isPlace, ?_⟩
      rintro _ ⟨⟩
      exact from_expr _ isInner insideArgs.1
    · cases read
      exact ⟨isPlace, none_from⟩
    · cases read
      exact isPlace
    · cases read
      exact isPlace
    · obtain ⟨test, isTest, read⟩ := ok_bind read
      obtain ⟨⟨body, bodySpan⟩, isBody, done⟩ := ok_bind read
      cases done
      simp only [List.forall_mem_cons] at insideArgs
      obtain ⟨isBodyPlace, bodyFrom⟩ := from_block _ isBody insideArgs.2.1
      exact ⟨isPlace, isBodyPlace, from_expr _ isTest insideArgs.1, bodyFrom, trivial⟩
    · obtain ⟨test, isTest, read⟩ := ok_bind read
      obtain ⟨⟨body, bodySpan⟩, isBody, read⟩ := ok_bind read
      simp only [List.forall_mem_cons] at insideArgs
      obtain ⟨isBodyPlace, bodyFrom⟩ := from_block _ isBody insideArgs.2.1
      simp only at read
      split at read
      · obtain ⟨other, isOther, done⟩ := ok_bind read
        cases done
        exact ⟨isPlace, isBodyPlace, from_expr _ isTest insideArgs.1, bodyFrom,
          from_stmt _ isOther insideArgs.2.2.1⟩
      · cases read
    · cases read
    · obtain ⟨test, isTest, read⟩ := ok_bind read
      obtain ⟨⟨body, bodySpan⟩, isBody, done⟩ := ok_bind read
      cases done
      simp only [List.forall_mem_cons] at insideArgs
      obtain ⟨isBodyPlace, bodyFrom⟩ := from_block _ isBody insideArgs.2.1
      exact ⟨isPlace, isBodyPlace, from_expr _ isTest insideArgs.1, bodyFrom⟩
    · cases read
    · obtain ⟨⟨body, bodySpan⟩, isBody, done⟩ := ok_bind read
      cases done
      simp only [List.forall_mem_cons] at insideArgs
      obtain ⟨isBodyPlace, bodyFrom⟩ := from_block _ isBody insideArgs.1
      exact ⟨isPlace, isBodyPlace, bodyFrom⟩
    · cases read
    · rename_i first test after body
      simp only [List.forall_mem_cons] at insideArgs
      obtain ⟨opening, isFirst, read⟩ := ok_bind read
      have rest (found : Option Expr) (testFrom : ∀ expr ∈ found, expr.From (.ofSpans span))
          (read : (do
            let after <- clause after
            let inner <- block body
            return Stmt.forLoop opening found after inner.1 inner.2 place) = .ok value) :
          value.From (.ofSpans span) := by
        obtain ⟨step, isStep, read⟩ := ok_bind read
        obtain ⟨⟨inner, innerSpan⟩, isInner, done⟩ := ok_bind read
        cases done
        obtain ⟨isBodyPlace, bodyFrom⟩ := from_block _ isInner insideArgs.2.2.2.1
        exact ⟨isPlace, isBodyPlace, from_clause _ isFirst insideArgs.1, testFrom,
          from_clause _ isStep insideArgs.2.2.1, bodyFrom⟩
      simp only at read
      split at read
      · exact rest none none_from read
      · obtain ⟨found, isFound, read⟩ := ok_bind read
        refine rest found (from_optionalExpr isFound ?_) read
        rintro _ ⟨⟩
        exact insideArgs.2.1
    · cases read
    · obtain ⟨first, isFirst, read⟩ := ok_bind read
      obtain ⟨second, isSecond, done⟩ := ok_bind read
      cases done
      simp only [List.forall_mem_cons] at insideArgs
      exact ⟨isPlace, from_expr _ isFirst insideArgs.1, from_expr _ isSecond insideArgs.2.1⟩
    · cases read
    · obtain ⟨inner, isInner, done⟩ := ok_bind read
      cases done
      exact from_expr _ isInner whole
  | .list [] place, value, read, isFrom | .list (.list _ _ :: _) place, value, read, isFrom
  | .list (.string _ _ :: _) place, value, read, isFrom
  | .list (.number _ _ :: _) place, value, read, isFrom
  | .symbol _ _, value, read, isFrom | .string _ _, value, read, isFrom
  | .number _ _, value, read, isFrom => by
    unfold stmt at read
    obtain ⟨inner, isInner, done⟩ := ok_bind read
    cases done
    exact from_expr _ isInner isFrom
termination_by datum => (sizeOf datum, 0)

/-- Several statements stand where their data do. -/
theorem from_stmts : (data : List Datum) -> {values : List Stmt} -> stmts data = .ok values ->
    (∀ datum ∈ data, datum.From span) -> Stmt.AllFrom (.ofSpans span) values
  | [], values, read, _ => by
    unfold stmts at read
    cases read
    trivial
  | datum :: rest, values, read, isFrom => by
    obtain ⟨first, later⟩ := List.forall_mem_cons.mp isFrom
    unfold stmts at read
    obtain ⟨value, isValue, read⟩ := ok_bind read
    obtain ⟨others, isOthers, done⟩ := ok_bind read
    cases done
    exact ⟨from_stmt datum isValue first, from_stmts rest isOthers later⟩
termination_by data => (sizeOf data, 0)

/-- A block stands where its datum does. -/
theorem from_block : (datum : Datum) -> {body : List Stmt} -> {bodySpan : Span} ->
    block datum = .ok (body, bodySpan) -> datum.From span ->
    span bodySpan ∧ Stmt.AllFrom (.ofSpans span) body
  | .list (.symbol head headSpan :: items) place, body, bodySpan, read, isFrom => by
    obtain ⟨isPlace, inside⟩ := Datum.from_list.mp isFrom
    unfold block at read
    split at read
    · obtain ⟨body, isBody, done⟩ := ok_bind read
      cases done
      exact ⟨isPlace, from_stmts items isBody (List.forall_mem_cons.mp inside).2⟩
    · cases read
  | .list [] place, _, _, read, _ | .list (.list _ _ :: _) place, _, _, read, _
  | .list (.string _ _ :: _) place, _, _, read, _
  | .list (.number _ _ :: _) place, _, _, read, _
  | .symbol _ _, _, _, read, _ | .string _ _, _, _, read, _
  | .number _ _, _, _, read, _ => by
    unfold block at read
    cases read
termination_by datum => (sizeOf datum, 0)

/-- A clause stands where its datum does. -/
theorem from_clause : (datum : Datum) -> {found : Option Stmt} -> clause datum = .ok found ->
    datum.From span -> Stmt.From? (.ofSpans span) found
  | .symbol text place, found, read, isFrom => by
    unfold clause at read
    split at read
    · cases read
      trivial
    · obtain ⟨inner, isInner, done⟩ := ok_bind read
      cases done
      exact from_expr _ isInner isFrom
  | .string text place, found, read, isFrom | .number text place, found, read, isFrom => by
    unfold clause at read
    obtain ⟨inner, isInner, done⟩ := ok_bind read
    cases done
    exact from_expr _ isInner isFrom
  | .list items place, found, read, isFrom => by
    unfold clause at read
    obtain ⟨inner, isInner, done⟩ := ok_bind read
    cases done
    exact from_stmt (.list items place) isInner isFrom
termination_by datum => (sizeOf datum, 1)

end

/-! ### Items -/

theorem from_body {datum : Datum} {found : Body} (read : body datum = .ok found)
    (isFrom : datum.From span) : found.From (.ofSpans span) := by
  obtain ⟨⟨stmts, place⟩, isBlock, done⟩ := ok_bind read
  cases done
  obtain ⟨isPlace, stmtsFrom⟩ := from_block datum isBlock isFrom
  exact ⟨isPlace, stmtsFrom⟩

theorem from_params (data : List Datum) {found : List Param} (read : params data = .ok found)
    (isFrom : ∀ datum ∈ data, datum.From span) :
    ∀ param ∈ found, param.From (.ofSpans span) := by
  fun_induction params data generalizing found with
  | case1 =>
    cases read
    exact List.forall_mem_nil _
  | case2 _ _ _ type place rest inductionHypothesis =>
    obtain ⟨form, isForm, read⟩ := ok_bind read
    obtain ⟨others, isOthers, done⟩ := ok_bind read
    cases done
    simp only [List.forall_mem_cons, Datum.from_list, Datum.from_symbol] at isFrom
    obtain ⟨⟨isPlace, -, isName, isType, -⟩, later⟩ := isFrom
    exact List.forall_mem_cons.mpr ⟨⟨isPlace, isName, from_typeForm type isForm isType⟩,
      inductionHypothesis isOthers later⟩
  | case3 _ _ type place rest inductionHypothesis =>
    obtain ⟨form, isForm, read⟩ := ok_bind read
    obtain ⟨others, isOthers, done⟩ := ok_bind read
    cases done
    simp only [List.forall_mem_cons, Datum.from_list, Datum.from_symbol] at isFrom
    obtain ⟨⟨isPlace, isName, isType, -⟩, later⟩ := isFrom
    exact List.forall_mem_cons.mpr ⟨⟨isPlace, isName, from_typeForm type isForm isType⟩,
      inductionHypothesis isOthers later⟩
  | case4 => cases read

theorem from_signature {data : List Datum} {found : Signature}
    (read : signature data = .ok found) (isFrom : ∀ datum ∈ data, datum.From span) :
    (∀ ident ∈ found.name, ident.From (.ofSpans span)) ∧
      SignatureFrom (.ofSpans span) found.params found.result ∧
      ∀ datum ∈ found.rest, datum.From span := by
  have behind := from_name isFrom
  unfold signature at read
  generalize name data = named at read behind
  obtain ⟨named, items⟩ := named
  obtain ⟨nameFrom, itemsFrom⟩ := behind
  simp only at read nameFrom itemsFrom
  split at read
  · rename_i paramList result rest
    simp only [List.forall_mem_cons] at itemsFrom
    obtain ⟨listFrom, resultFrom, restFrom⟩ := itemsFrom
    split at read
    · rename_i listed listSpan
      obtain ⟨params, isParams, read⟩ := ok_bind read
      obtain ⟨form, isForm, done⟩ := ok_bind read
      cases done
      refine ⟨nameFrom, ⟨from_params listed isParams (Datum.from_list.mp listFrom).2, ?_⟩, restFrom⟩
      rintro _ ⟨⟩
      exact from_typeForm result isForm resultFrom
    · cases read
  · cases read
    exact ⟨nameFrom, ⟨List.forall_mem_nil _, none_from⟩,
      List.forall_mem_nil _⟩

theorem from_variants (data : List Datum) {found : List VariantDecl}
    (read : variants data = .ok found) (isFrom : ∀ datum ∈ data, datum.From span) :
    ∀ variant ∈ found, variant.From (.ofSpans span) := by
  fun_induction variants data generalizing found with
  | case1 =>
    cases read
    exact List.forall_mem_nil _
  | case2 _ _ place rest inductionHypothesis =>
    obtain ⟨others, isOthers, done⟩ := ok_bind read
    cases done
    simp only [List.forall_mem_cons, Datum.from_list, Datum.from_symbol] at isFrom
    exact List.forall_mem_cons.mpr ⟨⟨isFrom.1.2.1, none_from⟩,
      inductionHypothesis isOthers isFrom.2⟩
  | case3 _ _ value place rest inductionHypothesis =>
    obtain ⟨inner, isInner, read⟩ := ok_bind read
    obtain ⟨others, isOthers, done⟩ := ok_bind read
    cases done
    simp only [List.forall_mem_cons, Datum.from_list, Datum.from_symbol] at isFrom
    refine List.forall_mem_cons.mpr ⟨⟨isFrom.1.2.1, ?_⟩, inductionHypothesis isOthers isFrom.2⟩
    rintro _ ⟨⟩
    exact from_expr _ isInner isFrom.1.2.2.1
  | case4 => cases read

theorem from_staticFlags (data : List Datum) (isFrom : ∀ datum ∈ data, datum.From span) :
    ∀ datum ∈ (staticFlags data).2, datum.From span := by
  fun_induction staticFlags data with
  | case1 _ _ rest _ _ _ found inductionHypothesis =>
    simp only [found] at inductionHypothesis ⊢
    exact inductionHypothesis (List.forall_mem_cons.mp isFrom).2
  | case2 => exact isFrom
  | case3 => exact isFrom

section TopLevel

variable {data : List Datum} {place : Span} (isFrom : ∀ datum ∈ data, datum.From span)
  (isPlace : span place)

include isFrom isPlace

theorem from_functionDecl {decl : FunctionDecl} (read : functionDecl data place = .ok decl) :
    decl.From (.ofSpans span) := by
  obtain ⟨marks, isMarks, read⟩ := ok_bind read
  obtain ⟨marksFrom, behind⟩ := from_attributes data isMarks isFrom
  obtain ⟨sig, isSig, read⟩ := ok_bind read
  obtain ⟨nameFrom, sigFrom, restFrom⟩ := from_signature isSig behind
  have head : HeadFrom (.ofSpans span) marks.1 sig.name place := ⟨marksFrom, nameFrom, isPlace⟩
  split at read
  · cases read
    exact ⟨head, sigFrom, none_from⟩
  · rename_i datum isRest
    obtain ⟨found, isBody, done⟩ := ok_bind read
    cases done
    refine ⟨head, sigFrom, ?_⟩
    rintro _ ⟨⟩
    refine from_body isBody (restFrom datum ?_)
    rw [isRest]
    exact List.mem_cons_self
  · cases read

theorem from_asmDecl {decl : AsmDecl} (read : asmDecl data place = .ok decl) :
    decl.From (.ofSpans span) := by
  obtain ⟨marks, isMarks, read⟩ := ok_bind read
  obtain ⟨marksFrom, behind⟩ := from_attributes data isMarks isFrom
  obtain ⟨sig, isSig, done⟩ := ok_bind read
  cases done
  obtain ⟨nameFrom, sigFrom, -⟩ := from_signature isSig behind
  exact ⟨⟨marksFrom, nameFrom, isPlace⟩, sigFrom⟩

theorem from_entryDecl {decl : EntryDecl} (read : entryDecl data place = .ok decl) :
    decl.From (.ofSpans span) := by
  obtain ⟨⟨marks, rest⟩, isMarks, read⟩ := ok_bind read
  obtain ⟨marksFrom, behind⟩ := from_attributes data isMarks isFrom
  simp only at read
  split at read
  · obtain ⟨found, isBody, done⟩ := ok_bind read
    cases done
    exact ⟨⟨marksFrom, none_from, isPlace⟩,
      from_body isBody (List.forall_mem_cons.mp behind).1⟩
  · cases read

theorem from_enumDecl {decl : EnumDecl} (read : enumDecl data place = .ok decl) :
    decl.From (.ofSpans span) := by
  obtain ⟨⟨marks, rest⟩, isMarks, read⟩ := ok_bind read
  obtain ⟨head, behind⟩ := from_head isFrom isPlace isMarks
  simp only at read head behind
  generalize name rest = named at read head behind
  obtain ⟨named, items⟩ := named
  obtain ⟨found, isFound, done⟩ := ok_bind read
  cases done
  simp only at head behind
  dsimp only at isFound ⊢
  split at isFound
  · simp only [List.forall_mem_cons, Datum.from_symbol] at behind
    refine ⟨head, ?_, from_variants _ isFound behind.2⟩
    rintro _ ⟨⟩
    exact behind.1
  · exact ⟨head, none_from, from_variants _ isFound behind⟩

theorem from_staticDecl {decl : StaticDecl} (read : staticDecl data place = .ok decl) :
    decl.From (.ofSpans span) := by
  obtain ⟨marks, isMarks, read⟩ := ok_bind read
  obtain ⟨marksFrom, behind⟩ := from_attributes data isMarks isFrom
  obtain ⟨nameFrom, rest⟩ := from_name (from_staticFlags _ behind)
  obtain ⟨found, isFound, done⟩ := ok_bind read
  cases done
  obtain ⟨type, value⟩ := from_typeAndValue isFound rest
  exact ⟨⟨marksFrom, nameFrom, isPlace⟩, type, value⟩

theorem from_aliasDecl {decl : AliasDecl} (read : aliasDecl data place = .ok decl) :
    decl.From (.ofSpans span) := by
  obtain ⟨⟨marks, rest⟩, isMarks, read⟩ := ok_bind read
  obtain ⟨head, behind⟩ := from_head isFrom isPlace isMarks
  simp only at read head behind
  generalize name rest = named at read head behind
  obtain ⟨named, items⟩ := named
  simp only at read head behind
  split at read
  · rename_i type
    obtain ⟨form, isForm, done⟩ := ok_bind read
    cases done
    refine ⟨head, ?_⟩
    rintro _ ⟨⟩
    exact from_typeForm type isForm (List.forall_mem_cons.mp behind).1
  · cases read
    exact ⟨head, none_from⟩

end TopLevel

/-- An item stands where its datum does. -/
theorem from_item {datum : Datum} {found : Item} (read : item datum = .ok found)
    (isFrom : datum.From span) : found.From (.ofSpans span) := by
  unfold item at read
  split at read
  · rename_i head headSpan data place
    have whole := isFrom
    obtain ⟨isPlace, inside⟩ := Datum.from_list.mp isFrom
    have insideData := (List.forall_mem_cons.mp inside).2
    split at read <;> obtain ⟨decl, isDecl, done⟩ := ok_bind read <;> cases done
    · exact from_functionDecl insideData isPlace isDecl
    · exact from_asmDecl insideData isPlace isDecl
    · exact from_entryDecl insideData isPlace isDecl
    · exact from_structDecl insideData isPlace isDecl
    · exact from_enumDecl insideData isPlace isDecl
    · exact from_constDecl insideData isPlace isDecl
    · exact from_staticDecl insideData isPlace isDecl
    · exact from_aliasDecl insideData isPlace isDecl
    · exact from_stmt _ isDecl whole
  · obtain ⟨value, isStmt, done⟩ := ok_bind read
    cases done
    exact from_stmt _ isStmt isFrom

theorem from_items (data : List Datum) {found : List Item} (read : items data = .ok found)
    (isFrom : ∀ datum ∈ data, datum.From span) :
    ∀ item ∈ found, item.From (.ofSpans span) := by
  induction data generalizing found with
  | nil =>
    cases read
    exact List.forall_mem_nil _
  | cons datum rest inductionHypothesis =>
    obtain ⟨firstFrom, restFrom⟩ := List.forall_mem_cons.mp isFrom
    obtain ⟨first, isFirst, read⟩ := ok_bind read
    obtain ⟨others, isOthers, done⟩ := ok_bind read
    cases done
    exact List.forall_mem_cons.mpr ⟨from_item isFirst firstFrom,
      inductionHypothesis isOthers restFrom⟩

end Decode

/-- The span is that of a datum of the text. -/
def SpanOfDatum (text : String) (span : Span) : Prop :=
  ∃ data, Datum.readAll text = .ok data ∧ ∃ entry ∈ Datum.walkAll 0 data, entry.2.span = span

/-- In a decoded unit every span is that of a datum of the text. -/
theorem Module.from_decode {file text : String} {unit : Module}
    (read : Module.decode file text = .ok unit) :
    ∀ item ∈ unit.items, item.From (.ofSpans (SpanOfDatum text)) := by
  unfold decode at read
  split at read
  · cases read
  · rename_i data isData
    obtain ⟨found, isFound, done⟩ := Decode.ok_bind read
    cases done
    refine Decode.from_items data isFound (Datum.allFrom_iff.mp (Datum.allFrom_of_walkAll data 0 ?_))
    exact fun entry isEntry => ⟨data, isData, entry, isEntry, rfl⟩

end UnitCheck
