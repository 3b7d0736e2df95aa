import Mathlib.Data.List.MinMax
import UnitCheck.Proofs.Finding.Places
import UnitCheck.Proofs.Typing.Silence

/-!
# Untyped literals among other operands

An untyped literal waits for what stands beside it. In an operation it is typed behind the
other operand and towards its type, on whichever side it stands, and what is left of the
operation is a judgement of two types that does not depend on their order. In an array it is
typed behind all elements that are no untyped literals and towards the type that these lead
to. Shifts are left out, since they take the type of the left operand.
-/

namespace UnitCheck

namespace Ty

variable {left right : Ty}

/-- A number is a builtin type below its qualifiers, and a known one. -/
theorem prim_of_isNumeric (numeric : left.isNumeric = true) :
    ∃ name, left.unwrap = .prim name ∧ left.isUnknown = false := by
  unfold isNumeric isInteger isSigned isUnsigned isFloat isPrim prim? at numeric
  unfold isUnknown isPrim prim?
  cases unwraps : left.unwrap with
  | prim name =>
    rw [unwraps] at numeric
    refine ⟨name, rfl, ?_⟩
    cases name <;> first | rfl | cases numeric
  | _ =>
    rw [unwraps] at numeric
    cases numeric

/-- The wider of two numbers is the very same in either order. -/
theorem wider?_comm_of_isNumeric (leftNumeric : left.isNumeric = true)
    (rightNumeric : right.isNumeric = true) : left.wider? right = right.wider? left := by
  obtain ⟨leftName, leftIs, leftKnown⟩ := prim_of_isNumeric leftNumeric
  obtain ⟨rightName, rightIs, rightKnown⟩ := prim_of_isNumeric rightNumeric
  rw [wider?_of_known leftKnown rightKnown, wider?_of_known rightKnown leftKnown,
    same_comm right.unwrap]
  cases alike : left.unwrap.same right.unwrap with
  | true =>
    rw [rightIs] at alike
    rw [if_pos rfl, if_pos rfl, rightIs, eq_prim_of_same alike]
  | false =>
    cases forth : left.widensTo right with
    | true => simp [widensTo_asymm forth]
    | false => cases right.widensTo left <;> rfl

/-- Whether values can be compared, though not as numbers or pointers. -/
def isDistinct (type : Ty) : Bool :=
  type.isBool || type.isChar || type.isEnum

theorem isDistinct_of_same (alike : left.unwrap.same right.unwrap = true) :
    left.isDistinct = right.isDistinct := by
  unfold isDistinct isBool isChar isEnum isPrim prim?
  generalize left.unwrap = one at alike ⊢
  generalize right.unwrap = other at alike ⊢
  cases one <;> cases other <;> simp_all [same]

@[simp] theorem rank_unwrap (type : Ty) : type.unwrap.rank = type.rank := by
  unfold rank
  rw [unwrap_unwrap]

end Ty

namespace Typing

/-! ### Judgements that do not depend on an order -/

section Order

variable {op : BinaryOp} {span : Span} {left right : Ty}

/-- A comparison is refused in both orders or in neither. -/
theorem isSome_comparison?_comm :
    (comparison? op span left right).isSome = (comparison? op span right left).isSome := by
  unfold comparison?
  rw [Bool.and_comm right.isNumeric, Bool.or_comm right.isPointerLike,
    Ty.same_comm right.unwrap]
  split
  · rename_i numeric
    obtain ⟨leftNumeric, rightNumeric⟩ := Bool.and_eq_true_iff.mp numeric
    have commutes : right.unwrap.wider? left.unwrap = left.unwrap.wider? right.unwrap :=
      Ty.wider?_comm_of_isNumeric (by simpa) (by simpa)
    rw [commutes]
    split <;> rfl
  split
  · split
    · rfl
    · split <;> rfl
  change (if left.isDistinct = true then _ else _ : Option Finding).isSome =
    (if right.isDistinct = true then _ else _ : Option Finding).isSome
  cases alike : left.unwrap.same right.unwrap with
  | true =>
    -- operands of one type are told apart in the same way
    rw [Ty.isDistinct_of_same alike]
    cases right.isDistinct <;> cases op.isEquality <;> rfl
  | false => cases left.isDistinct <;> cases right.isDistinct <;> rfl

theorem code_of_comparison? :
    ∀ finding ∈ comparison? op span left right, finding.code = "T0002" := by
  intro finding said
  unfold comparison? at said
  split_ifs at said <;> cases said <;> rfl

/-- What is said about the operands of a comparison bears the same code in both orders. -/
theorem code_comparison?_comm :
    (comparison? op span left right).map Finding.code =
      (comparison? op span right left).map Finding.code := by
  rw [Option.map_congr code_of_comparison?, Option.map_congr code_of_comparison?]
  have refused : (comparison? op span left right).isSome =
      (comparison? op span right left).isSome := isSome_comparison?_comm
  cases forth : comparison? op span left right <;>
    cases back : comparison? op span right left <;> simp_all

/-- The judgements give one type, and what they say bears one code. -/
structure Judged.Agrees (one other : Judged) : Prop where
  type : one.1 = other.1
  code : one.2.map Finding.code = other.2.map Finding.code

/-- The type that two numbers widen to does not depend on their order. -/
theorem agrees_widened (leftNumeric : left.isNumeric = true) (rightNumeric : right.isNumeric = true) :
    Judged.Agrees (widened op span left right) (widened op span right left) := by
  unfold widened
  rw [Ty.wider?_comm_of_isNumeric rightNumeric leftNumeric]
  cases left.wider? right <;> exact ⟨rfl, rfl⟩

/-- Apart from shifts the type of an operation does not depend on the order of its operands. -/
theorem agrees_binaryType (notShift : op.isShift = false) :
    Judged.Agrees (binaryType op span left right) (binaryType op span right left) := by
  unfold binaryType
  rw [Bool.or_comm right.isUnknown, Bool.or_comm (!right.isInteger), Bool.or_comm (!right.isNumeric),
    notShift]
  split
  · exact ⟨rfl, rfl⟩
  split
  · exact ⟨rfl, code_comparison?_comm⟩
  split
  · split
    · exact ⟨rfl, rfl⟩
    · rename_i integers
      obtain ⟨leftInteger, rightInteger⟩ : left.isInteger = true ∧ right.isInteger = true := by
        simpa using integers
      exact agrees_widened (Ty.isNumeric_of_isInteger leftInteger)
        (Ty.isNumeric_of_isInteger rightInteger)
  · split
    · exact ⟨rfl, rfl⟩
    · rename_i numbers
      obtain ⟨leftNumeric, rightNumeric⟩ : left.isNumeric = true ∧ right.isNumeric = true := by
        simpa using numbers
      exact agrees_widened leftNumeric rightNumeric

end Order

/-! ### A literal on either side of an operator -/

variable {demand : Demand} {session : Session}

/-- What is done with a judgement: what it says is reported, its type is recorded. -/
theorem run_conclude (node : NodeId) (judged : Judged) (session : Session) :
    (accept judged >>= record node).run session =
      (judged.1, ((record node judged.1).run (session.noting judged.2.toList)).2) := by
  obtain ⟨type, _ | finding⟩ := judged
  · rw [Option.toList_none, Session.noting_nil]
    rfl
  · rfl

/-- Wherever an untyped literal stands in an operation other than a shift or a logical one,
the operation has the same type, everything that is recorded on the way is the same, and the
codes of what is reported are the same and in the same order. -/
theorem literal_on_either_side (demand : Demand) {op : BinaryOp} {literal other : Expr}
    (span : Span) (expected : Option Ty) (session : Session) (notLogical : op.isLogical = false)
    (notShift : op.isShift = false) (untyped : literal.isUntypedLiteral = true)
    (typed : other.isUntypedLiteral = false) :
    let ahead := (checkExpr demand (.binary op literal other span) expected).run session
    let behind := (checkExpr demand (.binary op other literal span) expected).run session
    ahead.1 = behind.1 ∧
      ahead.2 = { behind.2 with findings := ahead.2.findings } ∧
      ahead.2.findings.map Finding.code = behind.2.findings.map Finding.code := by
  intro ahead behind
  let hint := if op.isComparison then none else expected
  let first := (checkExpr demand other hint).run session
  let second := (checkExpr demand literal (literalHint first.1)).run first.2
  -- both orders type the other operand first and then come to their judgement
  have aheadIs : ahead =
      (accept (binaryType op span second.1 first.1) >>= record span.node).run second.2 := by
    simp only [ahead, checkExpr, notLogical, untyped, typed]
    rfl
  have behindIs : behind =
      (accept (binaryType op span first.1 second.1) >>= record span.node).run second.2 := by
    simp only [behind, checkExpr, notLogical, untyped, typed]
    rfl
  obtain ⟨type, code⟩ : Judged.Agrees (binaryType op span second.1 first.1)
      (binaryType op span first.1 second.1) := agrees_binaryType notShift
  rw [run_conclude] at aheadIs behindIs
  rw [aheadIs, behindIs, ← type]
  refine ⟨rfl, rfl, ?_⟩
  change (second.2.findings ++ _).map Finding.code = (second.2.findings ++ _).map Finding.code
  rw [List.map_append, List.map_append, ← Option.toList_map, ← Option.toList_map, code]

/-- The literal `true` at column 3 of a unit. -/
def truth : Expr :=
  .literal ⟨.boolean, "true", .ofLine 3 7⟩

/-- The number 300 at column 8 of a unit. -/
def threeHundred : Expr :=
  .literal ⟨.integer, "300", .ofLine 8 11⟩

/-- A number and a truth value cannot be added, whichever comes first. -/
theorem literal_on_either_side_truth :
    let ahead := (checkExpr (demandGlobal []) (.binary .add threeHundred truth (.ofLine 0 12))
      none).run (.start none .standard)
    let behind := (checkExpr (demandGlobal []) (.binary .add truth threeHundred (.ofLine 0 12))
      none).run (.start none .standard)
    (ahead.1 = behind.1 ∧
      ahead.2 = { behind.2 with findings := ahead.2.findings } ∧
      ahead.2.findings.map Finding.code = behind.2.findings.map Finding.code) ∧
      behind.2.findings.map Finding.code = ["T0002"] :=
  ⟨literal_on_either_side (demandGlobal []) (.ofLine 0 12) none (.start none .standard) rfl rfl
    rfl rfl, by decide +kernel⟩

/-! ### The element type of an array -/

/-- The element type that values of these types lead to: the first of the known types of
the highest rank, without its qualifiers. -/
def leading? (types : List Ty) : Option Ty :=
  ((types.filter (!·.isUnknown)).argmax Ty.rank).map Ty.unwrap

theorem leading?_concat (types : List Ty) (type : Ty) :
    leading? (types ++ [type]) = better (leading? types) type := by
  unfold leading? better
  cases unknown : type.isUnknown with
  | true => simp [unknown]
  | false =>
    have kept : [type].filter (!·.isUnknown) = [type] := by simp [unknown]
    rw [List.filter_append, kept, List.argmax_concat]
    cases (types.filter (!·.isUnknown)).argmax Ty.rank with
    | none => rfl
    | some current =>
      simp only [Option.map_some, Ty.rank_unwrap, Bool.false_eq_true, if_false]
      split <;> rfl

/-- Going through types for the best candidate finds the one that they lead to. -/
theorem foldl_better (types : List Ty) : types.foldl better none = leading? types := by
  induction types using List.reverseRecOn with
  | nil => rfl
  | append_singleton types type inductionHypothesis =>
    rw [List.foldl_concat, inductionHypothesis, leading?_concat]

/-- Types lead to none just where all of them are unknown. -/
theorem leading?_eq_none_iff {types : List Ty} :
    leading? types = none ↔ ∀ type ∈ types, type.isUnknown = true := by
  simp [leading?, List.argmax_eq_none]

/-- The type that is recorded for an expression; without one it counts as unknown. -/
def recordedAt (facts : Facts) (expr : Expr) : Ty :=
  (facts.exprs.find? expr.node).getD .unknown

/-- The elements of an array whose recorded types may not stand where its element type is
wanted. -/
def misfits (facts : Facts) (element : Ty) (items : List Expr) : List Expr :=
  items.filter fun item => !((recordedAt facts item).compatibility element).isAllowed

/-- Comparing elements reports those that do not fit and does nothing else. -/
theorem run_compareItems (element : Ty) (items : List Expr) (session : Session) :
    (compareItems element items).run session =
      ((), session.noting ((misfits session.facts element items).map fun item =>
        .mismatch item.span element (recordedAt session.facts item))) := by
  induction items generalizing session with
  | nil => simp [misfits, compareItems]; rfl
  | cons item rest inductionHypothesis =>
    change (do
      tell (mismatch? item.span (recordedAt session.facts item) element)
      compareItems element rest).run session = _
    unfold mismatch? misfits
    cases allowed : ((recordedAt session.facts item).compatibility element).isAllowed with
    | true =>
      rw [List.filter_cons_of_neg (by simp [allowed])]
      exact inductionHypothesis session
    | false =>
      rw [List.filter_cons_of_pos (by simp [allowed])]
      refine (inductionHypothesis (session.noting [.mismatch item.span element
        (recordedAt session.facts item)])).trans ?_
      simp [Session.noting, misfits]

/-- Typing an array without an element type from elsewhere types the elements that are no
untyped literals, then the others, and takes the type that the former lead to, or else the
latter. -/
theorem run_array (demand : Demand) (items : List Expr) (span : Span)
    (expected : Option Ty) (session : Session) (nothing : expectedElement? expected = none) :
    let typed := (checkEach demand none (items.filter (!·.isUntypedLiteral))).run session
    let literals := (checkEach demand (leading? typed.1) (items.filter (·.isUntypedLiteral))).run
      typed.2
    (checkExpr demand (.array none items span) expected).run session =
      (pickedArray items span ((leading? typed.1).or (leading? literals.1))).run literals.2 := by
  intro typed literals
  have picks (hint : Option Ty) (types : List Ty) :
      (if hint.isNone then types.foldl better hint else hint) = hint.or (leading? types) := by
    cases hint with
    | none => exact foldl_better types
    | some element => rfl
  simp only [checkExpr_array, givenElement, nothing, pure_bind, arrayFrom, checkTypedItems_eq,
    checkLiteralItems_eq, bind_assoc, foldl_better, picks]
  rfl

/-- An array without a written element type, where no array is expected. Its elements that
are no untyped literals are typed first, with nothing expected of them. Then the untyped
literals are typed: towards the type that the others lead to, and with nothing expected of
them if these lead to none, where the literals decide themselves. The array is one of that
type and of as many elements as are written, and exactly the elements that do not fit are
reported. Where nothing leads to a type the array counts as empty. -/
theorem run_array_without_type (demand : Demand) (items : List Expr) (span : Span)
    (expected : Option Ty) (session : Session) (nothing : expectedElement? expected = none) :
    let typed := (checkEach demand none (items.filter (!·.isUntypedLiteral))).run session
    let literals := (checkEach demand (leading? typed.1) (items.filter (·.isUntypedLiteral))).run
      typed.2
    let array := (checkExpr demand (.array none items span) expected).run session
    match (leading? typed.1).or (leading? literals.1) with
    | some element =>
      let unfit := misfits literals.2.facts element items
      array.1 = .fixedArray element items.length ∧
        array.2 = ((record span.node array.1).run (literals.2.noting (unfit.map fun item =>
          .mismatch item.span element (recordedAt literals.2.facts item)))).2 ∧
        array.2.findings.map Finding.code =
          literals.2.findings.map Finding.code ++ unfit.map fun _ => "T0001"
    | none =>
      array.1 = .fixedArray .unknown 0 ∧
        array.2 = ((record span.node array.1).run (literals.2.noting [.emptyArray span])).2 ∧
        array.2.findings.map Finding.code = literals.2.findings.map Finding.code ++ ["T0002"] := by
  intro typed literals array
  have arrayIs : array = (pickedArray items span ((leading? typed.1).or
      (leading? literals.1))).run literals.2 := run_array demand items span expected session nothing
  cases decided : (leading? typed.1).or (leading? literals.1) with
  | some element =>
    let unfit := misfits literals.2.facts element items
    have comparedIs : array = (record span.node (.fixedArray element items.length)).run
        ((compareItems element items).run literals.2).2 := by
      rw [arrayIs, decided]
      rfl
    rw [run_compareItems] at comparedIs
    rw [comparedIs]
    refine ⟨rfl, rfl, ?_⟩
    change (literals.2.findings ++ unfit.map _).map Finding.code = _
    rw [List.map_append, List.map_map]
    rfl
  | none =>
    rw [arrayIs, decided]
    refine ⟨rfl, rfl, ?_⟩
    change (literals.2.findings ++ [_]).map Finding.code = _
    rw [List.map_append]
    rfl

/-- A number among truth values is typed towards them and does not fit. -/
theorem run_array_without_type_truth :
    let items := [threeHundred, truth]
    let array := (checkExpr (demandGlobal []) (.array none items (.ofLine 0 12)) none).run
      (.start none .standard)
    let typed := (checkEach (demandGlobal []) none [truth]).run (.start none .standard)
    let literals := (checkEach (demandGlobal []) (some .bool) [threeHundred]).run typed.2
    leading? typed.1 = some .bool ∧ array.1 = .fixedArray .bool 2 ∧
      array.2 = ((record (Span.ofLine 0 12).node array.1).run (literals.2.noting
        ((misfits literals.2.facts .bool items).map fun item =>
          .mismatch item.span .bool (recordedAt literals.2.facts item)))).2 ∧
      array.2.findings.map Finding.code =
        literals.2.findings.map Finding.code ++
          (misfits literals.2.facts .bool items).map (fun _ => "T0001") ∧
      array.2.findings.map Finding.code = ["T0001"] :=
  have array := run_array_without_type (demandGlobal []) [threeHundred, truth] (.ofLine 0 12)
    none (.start none .standard) rfl
  ⟨rfl, array.1, array.2.1, array.2.2, by decide +kernel⟩

end Typing
end UnitCheck
