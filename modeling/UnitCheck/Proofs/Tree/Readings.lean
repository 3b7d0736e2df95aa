import Mathlib.Algebra.Module.Submodule.Lattice
import Mathlib.Data.List.Perm.Subperm
import Mathlib.Data.List.Permutation
import UnitCheck.Proofs.Tree.Roles

/-!
# Reading is reading what is asked for

If a datum is read, its pieces are what is read from the data it asks for, in their order
(`reads_children`). If it is not, one of these is not read either or the fault lies with a datum
of the form itself (`yields_asks`). So the nodes of a unit are just what is read from the data
that are expected to be read (`has_of_takes`, `takes_of_has`).

A text is a unit, or no sequence of data, or has a datum that the fault lies with, unless an
empty list is expected to be a type (`answered_of_typesWritten`): there alone the reading
breaks off without a report (`empty_type_unanswered`).
-/

namespace UnitCheck

/-- Every datum stands somewhere. -/
theorem Datum.from_anywhere (datum : Datum) : datum.From fun _ => True :=
  Datum.from_of_walk datum 0 fun _ _ => trivial

namespace Decode

/-- Where two readings in turn fail, one of them does. -/
theorem error_bind {α β : Type} {first : Decoded α} {rest : α -> Decoded β} {error : DecodeError}
    (isError : (first >>= rest) = .error error) :
    first = .error error ∨ ∃ value, first = .ok value ∧ rest value = .error error := by
  cases first with
  | error fault =>
    cases isError
    exact .inl rfl
  | ok value => exact .inr ⟨value, rfl, isError⟩

/-- A fault with a datum at one of the places. -/
def Malformed (place : Span -> Prop) (error : DecodeError) : Prop :=
  ∃ span fault, place span ∧ error = .malformed span.start fault

/-- The node is what is read where it is asked for. -/
def Reads (ask : Role × Datum) (node : Node) : Prop := readAs ask.1 ask.2 = .ok node

/-- What the outcome of a reading is: something with the property, or else a fault with a datum
at one of the places or the fault of something asked for. -/
structure Follows {α : Type} (place : Span -> Prop) (asked : List (Role × Datum))
    (read : Decoded α) (found : α -> Prop) : Prop where
  ok : ∀ value, read = .ok value → found value
  error : ∀ error, read = .error error →
    Malformed place error ∨ ∃ ask ∈ asked, readAs ask.1 ask.2 = .error error

/-- Reading is reading what is asked for: its pieces are what is read there, in this order. -/
def Yields {α : Type} (place : Span -> Prop) (asked : List (Role × Datum)) (read : Decoded α)
    (pieces : α -> List Node) : Prop :=
  Follows place asked read fun value => List.Forall₂ Reads asked (pieces value)

section
variable {α β γ : Type} {place : Span -> Prop} {asked more : List (Role × Datum)}
  {read : Decoded α} {rest : α -> Decoded β} {found : α -> Prop} {result : β -> Prop}
  {pieces : α -> List Node} {others : β -> List Node} {all : γ -> List Node}

namespace Follows

theorem done {value : α} (isFound : found value) : Follows place asked (.ok value) found where
  ok _ isOk := by
    cases isOk
    exact isFound
  error _ isError := by cases isError

/-- A fault with a datum. -/
theorem fail {span : Span} (isPlace : place span) (fault : Fault) :
    Follows place asked (failAt span fault) found where
  ok _ isOk := by cases isOk
  error _ isError := by
    cases isError
    exact .inl ⟨span, fault, isPlace, rfl⟩

/-- One reading behind another one. -/
theorem bind (first : Follows place asked read found)
    (later : ∀ value, found value → Follows place asked (rest value) result) :
    Follows place asked (read >>= rest) result where
  ok last isLast := by
    obtain ⟨value, isValue, isRest⟩ := ok_bind isLast
    exact (later value (first.ok value isValue)).ok last isRest
  error error isError := by
    rcases error_bind isError with isFault | ⟨value, isValue, isFault⟩
    · exact first.error error isFault
    · exact (later value (first.ok value isValue)).error error isFault

/-- More may be asked for than is read here. -/
theorem widen (first : Follows place asked read found) (among : asked ⊆ more) :
    Follows place more read found where
  ok := first.ok
  error error isError := by
    refine (first.error error isError).imp_right ?_
    rintro ⟨ask, isAsk, isFault⟩
    exact ⟨ask, among isAsk, isFault⟩

end Follows

namespace Yields

/-- A reading of which nothing is asked for. -/
theorem none {value : α} (isEmpty : pieces value = []) : Yields place [] (.ok value) pieces :=
  .done (isEmpty ▸ .nil)

/-- What is read becomes part of something larger, which has no other pieces. -/
theorem map {all : β -> List Node} {wrap : α -> β} (first : Yields place asked read pieces)
    (same : ∀ value, all (wrap value) = pieces value) :
    Yields place asked (do return wrap (<- read)) all :=
  Follows.bind first fun value reads => .done ((same value).symm ▸ reads)

/-- Two things are read in turn, of which neither decides on the other. -/
theorem pair {other : Decoded β} {wrap : α -> β -> γ} (first : Yields place asked read pieces)
    (second : Yields place more other others)
    (same : ∀ left right, all (wrap left right) = pieces left ++ others right) :
    Yields place (asked ++ more) (do
      let left <- read
      return wrap left (<- other)) all :=
  (Follows.widen first (List.subset_append_left _ _)).bind fun left isLeft =>
    (Follows.widen second (List.subset_append_right _ _)).bind fun right isRight =>
      .done ((same left right).symm ▸ List.rel_append isLeft isRight)

end Yields
end

variable {place : Span -> Prop} {asked : List (Role × Datum)} {data : List Datum} {datum : Datum}
  {span : Span}

/-- What is asked for by itself. -/
theorem yields_asked {α : Type} {role : Role} {read : Decoded α} {node : α -> Node}
    (isRole : readAs role datum = node <$> read) :
    Yields place [(role, datum)] read fun value => [node value] where
  ok value isValue := by
    refine .cons ?_ .nil
    rw [Reads, isRole, isValue]
    rfl
  error error isError := by
    refine .inr ⟨_, List.mem_singleton_self _, ?_⟩
    rw [isRole, isError]
    rfl

theorem yields_typeForm (datum : Datum) :
    Yields place [(.type, datum)] (typeForm datum) fun form => [.type form] :=
  yields_asked rfl

theorem yields_expr (datum : Datum) :
    Yields place [(.expr, datum)] (expr datum) fun value => [.expr value] :=
  yields_asked rfl

theorem yields_stmt (datum : Datum) :
    Yields place [(.stmt, datum)] (stmt datum) fun value => [.stmt value] :=
  yields_asked rfl

/-! ### Parts of forms -/

theorem yields_literal (isFrom : datum.From place) :
    Yields place [] (literal datum) fun _ => [] := by
  have isPlace := Datum.span_from isFrom
  unfold literal
  split <;> (try split) <;> (try split) <;>
    first | exact .none rfl | exact .fail isPlace _

/-- What is written as an attribute is one, and nothing else. -/
theorem follows_attribute? (isFrom : datum.From place) :
    Follows place asked (attribute? datum) fun found => datum.isMark = found.isSome := by
  unfold attribute?
  split
  · exact .done (by simp [Datum.isMark])
  · rename_i text symbolSpan values span
    have inside := (Datum.from_list.mp isFrom).2
    split
    · rename_i missing
      exact .done (by simp [Datum.isMark, missing])
    · rename_i isName
      exact .done (by simp [Datum.isMark, isName])
    · rename_i value isName
      refine ((yields_literal (inside value (by simp))).widen (List.nil_subset _)).bind
        fun payload _ => ?_
      exact .done (by simp [Datum.isMark, isName])
    · exact .fail (Datum.span_from isFrom) _
  · rename_i noSymbol noList
    refine .done ?_
    unfold Datum.isMark
    split
    · exact absurd rfl (noSymbol _ _)
    · exact absurd rfl (noList _ _ _ _)
    · rfl

/-- Behind the attributes is what is not written as one. -/
theorem follows_attributes (isFrom : ∀ datum ∈ data, datum.From place) :
    Follows place asked (attributes data) fun found => found.2 = Datum.behindMarks data := by
  induction data with
  | nil => exact .done rfl
  | cons datum rest inductionHypothesis =>
    rw [List.forall_mem_cons] at isFrom
    unfold attributes
    refine (follows_attribute? isFrom.1).bind fun mark isMark => ?_
    cases mark with
    | none => exact .done (by simp [Datum.behindMarks, isMark])
    | some mark =>
      refine (inductionHypothesis isFrom.2).bind fun others isRest => ?_
      exact .done (by simpa [Datum.behindMarks, isMark] using isRest)

/-- The attributes end where a datum is not written as one. -/
theorem rest_of_attributes {found : List Attribute × List Datum}
    (read : attributes data = .ok found) : found.2 = Datum.behindMarks data := by
  have follows : Follows (fun _ => True) [] (attributes data) _ :=
    follows_attributes fun datum _ => datum.from_anywhere
  exact follows.ok found read

theorem yields_exprs (data : List Datum) :
    Yields place (data.map (.expr, ·)) (exprs data) fun values => values.map .expr := by
  induction data with
  | nil =>
    unfold exprs
    exact .none rfl
  | cons datum rest inductionHypothesis =>
    unfold exprs
    exact (yields_expr datum).pair inductionHypothesis fun _ _ => rfl

theorem yields_stmts (data : List Datum) :
    Yields place (data.map (.stmt, ·)) (stmts data) fun values => values.map .stmt := by
  induction data with
  | nil =>
    unfold stmts
    exact .none rfl
  | cons datum rest inductionHypothesis =>
    unfold stmts
    exact (yields_stmt datum).pair inductionHypothesis fun _ _ => rfl

theorem yields_optionalType (datum : Datum) :
    Yields place (datum.askOptional .type) (optionalType datum) Node.types := by
  unfold optionalType Datum.askOptional
  split
  · exact .none rfl
  · exact (yields_typeForm datum).map fun _ => rfl

theorem yields_optionalExpr (datum : Option Datum) :
    Yields place (datum.toList.map (.expr, ·)) (optionalExpr datum) Node.values := by
  cases datum with
  | none => exact .none rfl
  | some datum => exact (yields_expr datum).map fun _ => rfl

theorem yields_typeAndValue (data : List Datum) :
    Yields place (Datum.askTypeAndValue data) (typeAndValue data)
      fun found => Node.types found.1 ++ Node.values found.2 := by
  unfold typeAndValue
  split
  · exact .none rfl
  · rename_i type
    exact (yields_optionalType type).map fun _ => List.append_nil _
  · rename_i type value rest
    exact (yields_optionalType type).pair (yields_expr value) fun _ _ => rfl

theorem yields_binding (isMutable : Bool) (data : List Datum) (isPlace : place span) :
    Yields place (Datum.askBinding data) (binding isMutable data span)
      fun decl => Node.types decl.type ++ Node.values decl.value := by
  unfold binding
  split
  · rename_i text nameSpan type values
    exact (yields_optionalType type).pair (yields_optionalExpr values.head?) fun _ _ => rfl
  · exact .fail isPlace _

theorem yields_block (isFrom : datum.From place) :
    Yields place (datum.blockItems.map (.stmt, ·)) (block datum)
      fun found => found.1.map .stmt := by
  unfold block
  split
  · split
    · rename_i isBlock
      cases isBlock
      exact (yields_stmts _).map fun _ => rfl
    · exact .fail (Datum.span_from isFrom) _
  · exact .fail (Datum.span_from isFrom) _

theorem yields_body (isFrom : datum.From place) :
    Yields place (datum.blockItems.map (.stmt, ·)) (body datum)
      fun found => found.stmts.map .stmt :=
  (yields_block isFrom).map fun _ => rfl

/-! ### Declarations -/

section Declarations

variable (isFrom : ∀ datum ∈ data, datum.From place)

include isFrom

theorem yields_fields : Yields place (data.flatMap Datum.askField) (fields data) Node.fields := by
  fun_induction fields data with
  | case1 => exact .none rfl
  | case2 text nameSpan type span rest inductionHypothesis =>
    exact (yields_typeForm type).pair (inductionHypothesis (List.forall_mem_cons.mp isFrom).2)
      fun _ _ => rfl
  | case3 => exact .fail (Datum.span_from (List.forall_mem_cons.mp isFrom).1) _

/-- The data behind attributes are some of the data. -/
theorem from_behindMarks : ∀ datum ∈ Datum.behindMarks data, datum.From place :=
  fun datum isDatum => isFrom datum ((List.dropWhile_sublist _).subset isDatum)

/-- A declaration behind its attributes, which ask for nothing. -/
theorem Yields.behindMarks {β : Type} {rest : List Attribute × List Datum -> Decoded β}
    {all : β -> List Node}
    (others : ∀ marks, Yields place asked (rest (marks, Datum.behindMarks data)) all) :
    Yields place asked (attributes data >>= rest) all := by
  refine (follows_attributes isFrom).bind fun found isRest => ?_
  obtain ⟨marks, items⟩ := found
  cases isRest
  exact others marks

theorem yields_structDecl :
    Yields place ((Datum.behindName data).flatMap Datum.askField) (structDecl data span)
      fun decl => Node.fields decl.fields :=
  .behindMarks isFrom fun _ =>
    (yields_fields (from_name (from_behindMarks isFrom)).2).map fun _ => rfl

theorem yields_constDecl :
    Yields place (Datum.askTypeAndValue (Datum.behindName data)) (constDecl data span)
      fun decl => Node.types decl.type ++ Node.values decl.value :=
  .behindMarks isFrom fun _ => (yields_typeAndValue _).map fun _ => rfl

theorem yields_staticDecl :
    Yields place (Datum.askTypeAndValue (Datum.behindFlags data)) (staticDecl data span)
      fun decl => Node.types decl.type ++ Node.values decl.value :=
  .behindMarks isFrom fun _ => (yields_typeAndValue _).map fun _ => rfl

theorem yields_aliasDecl :
    Yields place (Datum.askTarget (Datum.behindName data)) (aliasDecl data span)
      fun decl => Node.types decl.target := by
  refine .behindMarks isFrom fun marks => ?_
  simp only [Datum.behindName]
  generalize name (Datum.behindMarks data) = named
  obtain ⟨name, items⟩ := named
  simp only
  match items with
  | [type] => exact (yields_typeForm type).map fun _ => rfl
  | [] | _ :: _ :: _ => exact .none rfl

theorem yields_params : Yields place (data.flatMap Datum.askParam) (params data)
      fun found => found.map fun param => .type param.type := by
  fun_induction params data with
  | case1 => exact .none rfl
  | case2 _ _ _ type _ rest inductionHypothesis | case3 _ _ type _ rest inductionHypothesis =>
    exact (yields_typeForm type).pair (inductionHypothesis (List.forall_mem_cons.mp isFrom).2)
      fun _ _ => rfl
  | case4 => exact .fail (Datum.span_from (List.forall_mem_cons.mp isFrom).1) _

theorem yields_variants : Yields place (data.flatMap Datum.askVariant) (variants data)
      fun found => found.flatMap fun variant => Node.values variant.value := by
  fun_induction variants data with
  | case1 => exact .none rfl
  | case2 _ _ _ rest inductionHypothesis =>
    exact (inductionHypothesis (List.forall_mem_cons.mp isFrom).2).map fun _ => rfl
  | case3 _ _ value _ rest inductionHypothesis =>
    exact (yields_expr value).pair (inductionHypothesis (List.forall_mem_cons.mp isFrom).2)
      fun _ _ => rfl
  | case4 => exact .fail (Datum.span_from (List.forall_mem_cons.mp isFrom).1) _

/-- The signature of a function and what stands behind it. -/
theorem follows_signature :
    Follows place (Datum.askSignature (name data).2) (signature data) fun sig =>
      List.Forall₂ Reads (Datum.askSignature (name data).2) (Node.signature sig.params sig.result) ∧
        sig.rest = (name data).2.drop 2 := by
  have behind := (from_name isFrom).2
  unfold signature
  generalize name data = named at behind ⊢
  obtain ⟨name, items⟩ := named
  simp only
  split
  · rename_i paramList result rest
    have listFrom := (List.forall_mem_cons.mp behind).1
    have ofList (listed : List Datum) (listSpan : Span)
        (isList : paramList = .list listed listSpan) :
        Follows place (Datum.askSignature (paramList :: result :: rest)) (do
          let params <- params listed
          return (⟨name, params, some (<- typeForm result), rest⟩ : Signature)) fun sig =>
          List.Forall₂ Reads (Datum.askSignature (paramList :: result :: rest))
            (Node.signature sig.params sig.result) ∧ sig.rest = rest := by
      subst isList
      refine ((yields_params (Datum.from_list.mp listFrom).2).widen
        (List.subset_append_left _ _)).bind fun params isParams => ?_
      refine ((yields_typeForm result).widen (List.subset_append_right _ _)).bind
        fun form isForm => ?_
      exact .done ⟨List.rel_append isParams isForm, rfl⟩
    split
    · exact ofList _ _ rfl
    · exact .fail (Datum.span_from listFrom) _
  · rename_i isShort
    refine .done ⟨?_, ?_⟩
    · match items, isShort with
      | [], _ | [_], _ => exact .nil
      | _ :: _ :: _, isShort => exact absurd rfl (isShort _ _ _)
    · match items, isShort with
      | [], _ | [_], _ => rfl
      | _ :: _ :: _, isShort => exact absurd rfl (isShort _ _ _)

theorem yields_functionDecl (isPlace : place span) :
    Yields place (Datum.askSignature (Datum.behindName data) ++
        (Datum.functionBody (Datum.behindName data)).map (.stmt, ·))
      (functionDecl data span) fun decl => Node.signature decl.params decl.result ++
        decl.body.toList.flatMap fun body => body.stmts.map .stmt := by
  refine .behindMarks isFrom fun marks => ?_
  have behind := (from_name (from_behindMarks isFrom)).2
  refine ((follows_signature (from_behindMarks isFrom)).widen
    (List.subset_append_left _ _)).bind ?_
  rintro ⟨name, params, result, rest⟩ ⟨isSignature, isRest⟩
  simp only at isSignature isRest
  simp only [Datum.behindName]
  generalize (Decode.name (Datum.behindMarks data)).2 = items at *
  subst isRest
  match items, behind with
  | [], _ | [_], _ | [_, _], _ => exact .done (List.rel_append isSignature .nil)
  | [_, _, datum], behind =>
    simp only [List.forall_mem_cons] at behind
    refine ((yields_body behind.2.2.1).widen (List.subset_append_right _ _)).bind
      fun body isBody => ?_
    refine .done (List.rel_append isSignature ?_)
    rw [Option.toList_some, List.flatMap_singleton]
    exact isBody
  | _ :: _ :: _ :: _ :: _, _ => exact .fail isPlace _

theorem yields_asmDecl :
    Yields place (Datum.askSignature (Datum.behindName data)) (asmDecl data span)
      fun decl => Node.signature decl.params decl.result := by
  refine .behindMarks isFrom fun marks => ?_
  refine (follows_signature (from_behindMarks isFrom)).bind fun sig isSignature => ?_
  exact .done isSignature.1

theorem yields_entryDecl (isPlace : place span) :
    Yields place (Datum.askEntry (Datum.behindMarks data)) (entryDecl data span)
      fun decl => decl.body.stmts.map .stmt := by
  refine .behindMarks isFrom fun marks => ?_
  have marked := from_behindMarks isFrom
  generalize Datum.behindMarks data = items at marked ⊢
  match items, marked with
  | [datum], marked => exact (yields_body (List.forall_mem_cons.mp marked).1).map fun _ => rfl
  | [], _ | _ :: _ :: _, _ => exact .fail isPlace _

theorem yields_enumDecl :
    Yields place (Datum.askVariants (Datum.behindName data)) (enumDecl data span)
      fun decl => decl.variants.flatMap fun variant => Node.values variant.value := by
  refine .behindMarks isFrom fun marks => ?_
  have behind := (from_name (from_behindMarks isFrom)).2
  simp only [Datum.behindName]
  generalize name (Datum.behindMarks data) = named at behind ⊢
  obtain ⟨name, items⟩ := named
  match items, behind with
  | .symbol _ _ :: rest, behind =>
    exact (yields_variants (List.forall_mem_cons.mp behind).2).map fun _ => rfl
  | [], behind | .list _ _ :: _, behind | .string _ _ :: _, behind | .number _ _ :: _, behind =>
    exact (yields_variants behind).map fun _ => rfl

end Declarations

/-! ### Whole forms -/

theorem yields_paramForms (data : List Datum) :
    Yields place ((data.filter (!·.isSymbol "...")).map (.type, ·)) (paramForms data)
      fun found => found.1.map .type := by
  induction data with
  | nil =>
    unfold paramForms
    exact .none rfl
  | cons datum rest inductionHypothesis =>
    unfold paramForms
    split
    · rename_i isRest
      rw [List.filter_cons_of_neg (by simp [isRest])]
      exact inductionHypothesis.map fun _ => rfl
    · rename_i isParam
      rw [List.filter_cons_of_pos (by simp [isParam])]
      exact (yields_typeForm datum).pair inductionHypothesis fun _ _ => rfl

/-- An array of a length or of any length. -/
theorem yields_arrayForm {args : List Datum} (isPlace : place span)
    (isFrom : ∀ datum ∈ args, datum.From place) :
    Yields place (args.head?.toList.map (.type, ·)) (match args with
      | [] => failAt span (.elementType "array")
      | [element, size] => do
        let element <- typeForm element
        match arrayLength? size with
        | some length => return .fixedArray element length span
        | none => fail size .arrayLength
      | element :: _ => do return .array (<- typeForm element) span) Node.ofType := by
  match args with
  | [] => exact .fail isPlace _
  | [element] | element :: _ :: _ :: _ => exact (yields_typeForm element).map fun _ => rfl
  | [element, size] =>
    simp only [List.forall_mem_cons] at isFrom
    refine Follows.bind (yields_typeForm element) fun form isForm => ?_
    cases arrayLength? size with
    | none => exact .fail (Datum.span_from isFrom.2.1) _
    | some length => exact .done isForm

/-- A written type that is no empty list is what its parts are. -/
theorem yields_askForm (isFrom : datum.From place) (notEmpty : ∀ span, datum ≠ .list [] span) :
    Yields place datum.askForm (typeForm datum) Node.ofType := by
  have isPlace := Datum.span_from isFrom
  unfold typeForm
  split
  · split
    · exact .none rfl
    · split <;> exact .none rfl
  · exact .fail isPlace _
  · exact .fail isPlace _
  · exact absurd rfl (notEmpty _)
  · split
    · exact .fail isPlace _
    · exact (yields_typeForm _).map fun _ => rfl
  · split
    · exact .fail isPlace _
    · exact (yields_typeForm _).map fun _ => rfl
  · split
    · exact .fail isPlace _
    · exact (yields_typeForm _).map fun _ => rfl
  · simp only [Datum.from_list, List.forall_mem_cons] at isFrom
    exact yields_arrayForm isPlace isFrom.2.2
  · split
    · exact (yields_paramForms _).pair (yields_typeForm _) fun _ _ => rfl
    · exact .fail isPlace _
  · exact .fail isPlace _

theorem yields_path (isFrom : ∀ datum ∈ data, datum.From place) :
    Yields place [] (data.mapM pathSegment) fun _ => [] := by
  induction data with
  | nil => exact .none rfl
  | cons datum rest inductionHypothesis =>
    rw [List.forall_mem_cons] at isFrom
    have first : Yields place [] (pathSegment datum) fun _ => [] := by
      unfold pathSegment
      split
      · exact .none rfl
      · exact .none rfl
      · exact .fail (Datum.span_from isFrom.1) _
    rw [List.mapM_cons]
    exact first.pair (inductionHypothesis isFrom.2) fun _ _ => rfl

/-- An expression is what its parts are. -/
theorem yields_askExpr (isFrom : datum.From place) :
    Yields place datum.askExpr (expr datum) Node.ofExpr := by
  have isPlace := Datum.span_from isFrom
  unfold expr
  split
  · exact (yields_literal isFrom).map fun _ => rfl
  · exact (yields_literal isFrom).map fun _ => rfl
  · split
    · exact (yields_literal isFrom).map fun _ => rfl
    · exact .none rfl
  · exact .fail isPlace _
  · rename_i head headSpan args span
    simp only
    split
    · rename_i isUnary
      simp only [Datum.askExpr, isUnary]
      exact (yields_expr _).map fun _ => rfl
    · rename_i notUnary
      -- the sign of a unary operation is that of a binary one with two operands
      split
      · rename_i isBinary
        simp only [Datum.askExpr, isBinary]
        exact (yields_expr _).pair (yields_expr _) fun _ _ => rfl
      · exact .fail isPlace _
      · split
        · exact (yields_literal isFrom).map fun _ => rfl
        · exact .none rfl
        · exact (yields_exprs _).map fun _ => rfl
        · exact .fail isPlace _
        · exact (yields_expr _).pair (yields_exprs _) fun _ _ => rfl
        · exact .fail isPlace _
        · simp only [Datum.from_list, List.forall_mem_cons] at isFrom
          have pathFrom := List.forall_mem_cons.mpr isFrom.2.2.2
          exact (yields_expr _).pair (yields_path pathFrom) fun _ _ => rfl
        · exact .fail isPlace _
        · exact (yields_expr _).pair (yields_expr _) fun _ _ => rfl
        · exact .fail isPlace _
        · exact (yields_typeForm _).pair (yields_expr _) fun _ _ => rfl
        · exact .fail isPlace _
        · exact (yields_exprs _).map fun _ => rfl
        · exact (yields_typeForm _).pair (yields_exprs _) fun _ _ => rfl
        · exact .fail isPlace _
        · exact (yields_expr _).map fun _ => rfl
        · exact .fail isPlace _
        · exact (yields_typeForm _).pair (yields_expr _) fun _ _ => rfl
        · exact .fail isPlace _
        · exact (yields_typeForm _).map fun _ => rfl
        · exact .fail isPlace _
        · exact .fail isPlace _
  · exact .fail isPlace _

/-- A conditional with another branch, which is a conditional or a block. -/
theorem yields_branches {test body otherwise : Datum} (bodyFrom : body.From place)
    (otherwiseFrom : otherwise.From place) :
    Yields place ((.expr, test) :: (body.blockItems.map (.stmt, ·) ++ [(.stmt, otherwise)])) (do
      let test <- expr test
      let (body, bodySpan) <- block body
      if otherwise.head = "if" || otherwise.head = "block" then
        return .cond test body bodySpan (some (<- stmt otherwise)) span
      else fail otherwise .elseBranch) Node.ofStmt := by
  refine ((yields_expr test).widen (by simp)).bind fun test isTest => ?_
  refine ((yields_block bodyFrom).widen (by simp)).bind ?_
  rintro ⟨body, bodySpan⟩ isBody
  simp only
  split
  · refine ((yields_stmt otherwise).widen (by simp)).bind fun other isOther => ?_
    exact .done (List.rel_append isTest (List.rel_append isBody isOther))
  · exact .fail (Datum.span_from otherwiseFrom) _

/-- A clause that is not left out is read as a statement. -/
theorem clause_of_not_missing (isThere : datum.isSymbol "_" = false) :
    clause datum = do return some (<- stmt datum) := by
  cases datum with
  | symbol text span =>
    have notMissing : text ≠ "_" := by simpa [Datum.isSymbol] using isThere
    unfold clause stmt
    simp [notMissing]
  | string | number =>
    unfold clause stmt
    simp
  | list =>
    unfold clause
    rfl

theorem yields_clause (datum : Datum) :
    Yields place (datum.askOptional .stmt) (clause datum) fun found => found.toList.map .stmt := by
  unfold Datum.askOptional
  split
  · rename_i isMissing
    cases datum with
    | symbol text span =>
      have isName : text = "_" := by simpa [Datum.isSymbol] using isMissing
      unfold clause
      rw [if_pos isName]
      exact .none rfl
    | string | number | list => cases isMissing
  · rename_i isThere
    rw [clause_of_not_missing (by simpa using isThere)]
    exact (yields_stmt datum).map fun _ => rfl

/-- A loop of which each clause may be left out. -/
theorem yields_forLoop {first test after body : Datum} (bodyFrom : body.From place)
    (isAsked : asked =
      first.askOptional .stmt ++ test.askOptional .expr ++ after.askOptional .stmt ++
        body.blockItems.map (.stmt, ·)) :
    Yields place asked (do
      let first <- clause first
      let test <- if test.isSymbol "_" then pure none else optionalExpr (some test)
      let after <- clause after
      let (body, bodySpan) <- block body
      return .forLoop first test after body bodySpan span) Node.ofStmt := by
  refine ((yields_clause first).widen fun _ isAsk => ?_).bind fun first isFirst => ?_
  · simp [isAsked, isAsk]
  -- the test may be left out, and the rest is read alike
  have behindTest (found : Option Expr)
      (isTest : List.Forall₂ Reads (test.askOptional .expr) (Node.values found)) :
      Follows place asked (do
        let after <- clause after
        let (body, bodySpan) <- block body
        return .forLoop first found after body bodySpan span) fun value =>
          List.Forall₂ Reads asked (Node.ofStmt value) := by
    refine ((yields_clause after).widen fun _ isAsk => ?_).bind fun after isAfter => ?_
    · simp [isAsked, isAsk]
    refine ((yields_block bodyFrom).widen fun _ isAsk => ?_).bind fun body isBody => ?_
    · rw [isAsked]
      exact List.mem_append_right _ isAsk
    · rw [isAsked]
      exact .done
        (List.rel_append (List.rel_append (List.rel_append isFirst isTest) isAfter) isBody)
  simp only
  split
  · rename_i isMissing
    refine behindTest none ?_
    rw [Datum.askOptional, if_pos isMissing]
    exact .nil
  · rename_i isThere
    have isTest : test.askOptional .expr = [(.expr, test)] := if_neg isThere
    rw [isTest] at isAsked behindTest
    refine ((yields_optionalExpr (some test)).widen fun _ isAsk => ?_).bind behindTest
    rw [isAsked]
    exact List.mem_append_left _ (List.mem_append_left _ (List.mem_append_right _ isAsk))

/-- A statement is what its parts are. -/
theorem yields_askStmt (isFrom : datum.From place) :
    Yields place datum.askStmt (stmt datum) Node.ofStmt := by
  have isPlace := Datum.span_from isFrom
  unfold stmt
  split
  · rename_i head headSpan args span
    have inside := (List.forall_mem_cons.mp (Datum.from_list.mp isFrom).2).2
    split
    -- blocks and declarations
    · exact (yields_stmts _).map fun _ => rfl
    · exact (yields_structDecl inside).map fun _ => rfl
    · exact (yields_constDecl inside).map fun _ => rfl
    · exact .none rfl
    · exact (yields_binding _ _ isPlace).map fun _ => rfl
    · exact (yields_binding _ _ isPlace).map fun _ => rfl
    -- assignments and jumps; a return with any other number of values has none
    · exact (yields_expr _).pair (yields_expr _) fun _ _ => rfl
    · exact .fail isPlace _
    · exact (yields_expr _).map fun _ => rfl
    · rename_i notSingle
      rcases args with _ | ⟨value, _ | ⟨_, _⟩⟩
      · exact .none rfl
      · exact (notSingle value rfl).elim
      · exact .none rfl
    · exact .none rfl
    · exact .none rfl
    -- conditionals, without and with another branch
    · simp only [List.forall_mem_cons] at inside
      exact (yields_expr _).pair (yields_block inside.2.1) fun _ _ => by simp [Node.ofStmt]
    · simp only [List.forall_mem_cons] at inside
      exact yields_branches inside.2.1 inside.2.2.1
    · exact .fail isPlace _
    -- loops
    · simp only [List.forall_mem_cons] at inside
      exact (yields_expr _).pair (yields_block inside.2.1) fun _ _ => rfl
    · exact .fail isPlace _
    · simp only [List.forall_mem_cons] at inside
      exact (yields_block inside.1).map fun _ => rfl
    · exact .fail isPlace _
    · simp only [List.forall_mem_cons] at inside
      exact yields_forLoop inside.2.2.2.1 rfl
    · exact .fail isPlace _
    · exact (yields_expr _).pair (yields_expr _) fun _ _ => rfl
    · exact .fail isPlace _
    -- no statement has this head, so the datum is asked to be an expression
    · simp only [Datum.askStmt, *]
      exact (yields_expr _).map fun _ => rfl
  · simp only [Datum.askStmt, *]
    exact (yields_expr _).map fun _ => rfl

/-- An item is what its parts are. -/
theorem yields_askItem (isFrom : datum.From place) :
    Yields place datum.askItem (item datum) Node.ofItem := by
  have isPlace := Datum.span_from isFrom
  unfold item
  split
  · rename_i head headSpan args span
    have inside := (List.forall_mem_cons.mp (Datum.from_list.mp isFrom).2).2
    split
    · exact (yields_functionDecl inside isPlace).map fun _ => rfl
    · exact (yields_asmDecl inside).map fun _ => rfl
    · exact (yields_entryDecl inside isPlace).map fun _ => rfl
    · exact (yields_structDecl inside).map fun _ => rfl
    · exact (yields_enumDecl inside).map fun _ => rfl
    · exact (yields_constDecl inside).map fun _ => rfl
    · exact (yields_staticDecl inside).map fun _ => rfl
    · exact (yields_aliasDecl inside).map fun _ => rfl
    · simp only [Datum.askItem, *]
      exact (yields_stmt _).map fun _ => rfl
  · simp only [Datum.askItem, *]
    exact (yields_stmt _).map fun _ => rfl

/-- Reading a datum is reading what it asks for. The empty list is no written type and
blames no datum. -/
theorem yields_asks (role : Role) (isFrom : datum.From place)
    (notEmpty : role = .type → ∀ span, datum ≠ .list [] span) :
    Yields place (datum.asks role) (readAs role datum) Node.children :=
  match role with
  | .item => (yields_askItem isFrom).map fun _ => rfl
  | .stmt => (yields_askStmt isFrom).map fun _ => rfl
  | .expr => (yields_askExpr isFrom).map fun _ => rfl
  | .type => (yields_askForm isFrom (notEmpty rfl)).map fun _ => rfl

/-- What is read from a datum has as pieces what is read from the data it asks for. -/
theorem reads_children {role : Role} {node : Node} (read : readAs role datum = .ok node) :
    List.Forall₂ Reads (datum.asks role) node.children := by
  refine (yields_asks role datum.from_anywhere ?_).ok node read
  rintro rfl span rfl
  unfold readAs typeForm at read
  cases read

theorem yields_item (datum : Datum) :
    Yields place [(.item, datum)] (item datum) fun value => [.item value] :=
  yields_asked rfl

theorem yields_items (data : List Datum) :
    Yields place (data.map (.item, ·)) (items data) fun found => found.map .item := by
  induction data with
  | nil => exact .none rfl
  | cons datum rest inductionHypothesis =>
    exact (yields_item datum).pair inductionHypothesis fun _ _ => rfl

/-- The items are what is read from the data. -/
theorem reads_items {found : List Item} (read : items data = .ok found) :
    List.Forall₂ Reads (data.map (.item, ·)) (found.map .item) := by
  have yields : Yields (fun _ => True) _ _ _ := yields_items data
  exact yields.ok found read

theorem exists_related {α β : Type} {related : α -> β -> Prop} {left : List α} {right : List β}
    (all : List.Forall₂ related left right) {found : α} (isFound : found ∈ left) :
    ∃ other ∈ right, related found other := by
  induction all with
  | nil => cases isFound
  | cons isRelated _ inductionHypothesis =>
    rcases List.mem_cons.mp isFound with rfl | isFound
    · exact ⟨_, List.mem_cons_self, isRelated⟩
    · obtain ⟨other, isOther, isRelated⟩ := inductionHypothesis isFound
      exact ⟨other, List.mem_cons_of_mem _ isOther, isRelated⟩

section
variable {items : List Item} (read : Decode.items data = .ok items)
include read

/-- Every datum that is expected to be read is read, and what is read is in the unit. -/
theorem has_of_takes {role : Role} (isTaken : Datum.Takes data role datum) :
    ∃ node, node.Inside items ∧ readAs role datum = .ok node := by
  obtain ⟨top, isTop, path⟩ := isTaken
  have walk (ask : Role × Datum) (path : Datum.Leads (.item, top) ask) :
      ∃ node, node.Inside items ∧ Reads ask node := by
    induction path with
    | refl =>
      obtain ⟨node, isNode, isRead⟩ := exists_related (reads_items read)
        (List.mem_map_of_mem isTop)
      obtain ⟨item, isItem, rfl⟩ := List.mem_map.mp isNode
      exact ⟨_, ⟨item, isItem, .refl⟩, isRead⟩
    | tail _ isAsk inductionHypothesis =>
      obtain ⟨outer, ⟨item, isItem, path⟩, isRead⟩ := inductionHypothesis
      obtain ⟨node, isNode, done⟩ := exists_related (reads_children isRead) isAsk
      exact ⟨node, ⟨item, isItem, path.tail isNode⟩, done⟩
  exact walk _ path

/-- Everything in the unit is read from a datum that is expected to be read. -/
theorem takes_of_has {node : Node} (isThere : node.Inside items) :
    ∃ role datum, Datum.Takes data role datum ∧ readAs role datum = .ok node := by
  obtain ⟨item, isItem, path⟩ := isThere
  induction path with
  | refl =>
    obtain ⟨ask, isAsk, isRead⟩ := exists_related (reads_items read).flip
      (List.mem_map_of_mem isItem)
    obtain ⟨top, isTop, rfl⟩ := List.mem_map.mp isAsk
    exact ⟨_, top, ⟨top, isTop, .refl⟩, isRead⟩
  | tail _ isChild inductionHypothesis =>
    obtain ⟨role, outer, ⟨top, isTop, path⟩, isRead⟩ := inductionHypothesis
    obtain ⟨ask, isAsk, done⟩ := exists_related (reads_children isRead).flip isChild
    exact ⟨ask.1, ask.2, ⟨top, isTop, path.tail isAsk⟩, done⟩

end
end Decode

/-! ### Faults -/

namespace Decode

variable {place : Span -> Prop}

/-- The fault of a datum lies with a part of it, unless an empty list is expected to be a
type in it. -/
theorem fault_of_readAs (role : Role) (datum : Datum) {error : DecodeError}
    (isFrom : datum.From place) (isError : readAs role datum = .error error) :
    Malformed place error ∨ ∃ span, Datum.Leads (role, datum) (.type, .list [] span) := by
  by_cases isEmpty : role = .type ∧ ∃ span, datum = .list [] span
  · obtain ⟨rfl, span, rfl⟩ := isEmpty
    exact .inr ⟨span, .refl⟩
  · have notEmpty : role = .type → ∀ span, datum ≠ .list [] span :=
      fun isType span isList => isEmpty ⟨isType, span, isList⟩
    rcases (yields_asks role isFrom notEmpty).error error isError with
      isFault | ⟨ask, isAsk, isFault⟩
    · exact .inl isFault
    · have descends := Datum.asks_descend isAsk
      rcases fault_of_readAs ask.1 ask.2 (descends.1.from_part isFrom) isFault with
        isFault | ⟨span, path⟩
      · exact .inl isFault
      · exact .inr ⟨span, .head isAsk path⟩
termination_by (sizeOf datum, role.rank)
decreasing_by exact descends.2

/-- The fault of several items lies with a datum of theirs, unless an empty list is expected to
be a type. -/
theorem fault_of_items {data : List Datum} {error : DecodeError}
    (isFrom : ∀ datum ∈ data, datum.From place) (isError : items data = .error error) :
    Malformed place error ∨ ∃ span, Datum.Takes data .type (.list [] span) := by
  have yields : Yields place _ _ _ := yields_items data
  rcases yields.error error isError with isFault | ⟨ask, isAsk, isFault⟩
  · exact .inl isFault
  · obtain ⟨top, isTop, rfl⟩ := List.mem_map.mp isAsk
    exact (fault_of_readAs .item top (isFrom top isTop) isFault).imp_right
      fun ⟨span, path⟩ => ⟨span, top, isTop, path⟩

end Decode

/-- No empty list stands where a type is expected. -/
def Datum.TypesWritten (data : List Datum) : Prop :=
  ∀ span, ¬ Takes data .type (.list [] span)

namespace Module

/-- A text is answered by a unit or by a report: it is no sequence of data, or the fault lies with
a datum of it. -/
inductive Answered (file text : String) : Prop where
  | unit (unit : Module) (isUnit : decode file text = .ok unit)
  | unreadable (error : ReadError) (isError : Datum.readAll text = .error error)
    (isReport : decode file text = .error (.unreadable error))
  | malformed (span : Span) (fault : Fault) (isPlace : SpanOfDatum text span)
    (isReport : decode file text = .error (.malformed span.start fault))

variable {file text : String}

/-- A text is answered if no empty list in it is expected to be a type. -/
theorem answered_of_typesWritten
    (isWritten : ∀ data, Datum.readAll text = .ok data → Datum.TypesWritten data) :
    Answered file text := by
  cases isData : Datum.readAll text with
  | error error => exact .unreadable error isData (by simp only [decode, isData])
  | ok data =>
    have isFrom : Datum.AllFrom (SpanOfDatum text) data :=
      Datum.allFrom_of_walkAll data 0 fun entry isEntry => ⟨data, isData, entry, isEntry, rfl⟩
    cases isItems : Decode.items data with
    | ok items =>
      refine .unit ⟨file, items, Datum.outerSpan? data⟩ ?_
      simp only [decode, isData, isItems]
      rfl
    | error error =>
      rcases Decode.fault_of_items (Datum.allFrom_iff.mp isFrom) isItems with
        ⟨span, fault, isPlace, isFault⟩ | ⟨span, isTaken⟩
      · refine .malformed span fault isPlace ?_
        simp only [decode, isData, isItems, isFault]
        rfl
      · exact absurd isTaken (isWritten data isData span)

/-- The length of an array that is no number is reported where it stands. -/
theorem answered_of_typesWritten_array :
    (∀ data, Datum.readAll "(type T (array u8 x))" = .ok data → Datum.TypesWritten data) ∧
      Answered "unit" "(type T (array u8 x))" := by
  have written : ∀ data, Datum.readAll "(type T (array u8 x))" = .ok data →
      Datum.TypesWritten data := by
    have read : Datum.readAll "(type T (array u8 x))" = .ok
        [.list [.symbol "type" (.ofLine 1 5), .symbol "T" (.ofLine 6 7),
          .list [.symbol "array" (.ofLine 9 14), .symbol "u8" (.ofLine 15 17),
            .symbol "x" (.ofLine 18 19)] (.ofLine 8 20)] (.ofLine 0 21)] :=
      Datum.readAll_chars (by rfl)
    rintro data isData span ⟨top, isTop, path⟩
    rw [read] at isData
    cases isData
    cases List.mem_singleton.mp isTop
    rcases Relation.ReflTransGen.cases_head path with same | ⟨ask, isAsk, path⟩
    · cases same
    cases List.mem_singleton.mp isAsk
    rcases Relation.ReflTransGen.cases_head path with same | ⟨ask, isAsk, path⟩
    · cases same
    cases List.mem_singleton.mp isAsk
    rcases Relation.ReflTransGen.cases_head path with same | ⟨ask, isAsk, path⟩
    · cases same
    · cases isAsk
  exact ⟨written, answered_of_typesWritten written⟩

/-- An empty list where a type is expected has no answer. -/
theorem empty_type_unanswered : ¬ Answered "unit" "(type T ())" := by
  have fails : decode "unit" "(type T ())" = .error (.emptyType ⟨1, 9, 8⟩) :=
    Module.decode_chars (by cbv)
  rintro (⟨_, isUnit⟩ | ⟨_, _, isReport⟩ | ⟨_, _, _, isReport⟩)
  all_goals simp_all

end Module
end UnitCheck
