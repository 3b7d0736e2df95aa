import Mathlib.Data.Nat.Digits.Defs
import UnitCheck.Proofs.Numeral.Integers
import UnitCheck.Proofs.Tree.Sites
import UnitCheck.Proofs.Tree.Readings

/-!
# Integers in a unit

Every expression of a decoded unit has been read from a datum, so what reading refuses does not
stand in it: an integer literal spells an integer, in one of four bases.
-/

namespace UnitCheck

namespace Numeral

/-- The mark in front of the digits of a base. -/
inductive BaseMark : List Char -> Nat -> Prop where
  | decimal : BaseMark [] 10
  | sixteen {letter : Char} (isLetter : letter = 'x' ∨ letter = 'X') : BaseMark ['0', letter] 16
  | eight {letter : Char} (isLetter : letter = 'o' ∨ letter = 'O') : BaseMark ['0', letter] 8
  | two {letter : Char} (isLetter : letter = 'b' ∨ letter = 'B') : BaseMark ['0', letter] 2

/-- The characters are digits of the base, and underscores, which count for nothing. -/
structure Run (base : Nat) (run : List Char) : Prop where
  nonempty : run ≠ []
  digits : ∀ letter ∈ run, letter = '_' ∨ ∃ digit < base, digitValue? letter = some digit

/-- The text spells the integer: a minus or nothing, a mark for the base, and digits. -/
def Denotes (text : String) (value : Int) : Prop :=
  ∃ (negative : Bool) (mark : List Char) (base : Nat) (run : List Char),
    text.toList = (if negative then ['-'] else []) ++ mark ++ run ∧ BaseMark mark base ∧
      Run base run ∧
      value = (if negative then -1 else 1) *
        (Nat.ofDigits base (run.filterMap digitValue?).reverse : Nat)

/-- The value of digits is positional. -/
theorem digitsValue_eq (base : Nat) (run : List Char) :
    digitsValue base run = Nat.ofDigits base (run.filterMap digitValue?).reverse := by
  rw [digitsValue, Nat.ofDigits_eq_foldr, List.foldr_reverse]
  simp [Nat.mul_comm, Nat.add_comm]

theorem digit_of_isDigitOf {base : Nat} {letter : Char} (isDigit : isDigitOf base letter = true) :
    ∃ digit < base, digitValue? letter = some digit := by
  unfold isDigitOf at isDigit
  split at isDigit
  · rename_i value found
    exact ⟨value, of_decide_eq_true isDigit, found⟩
  · cases isDigit

theorem digits_of_isRunTail {base : Nat} {run : List Char} (isTail : isRunTail base run = true) :
    ∀ letter ∈ run, letter = '_' ∨ ∃ digit < base, digitValue? letter = some digit := by
  fun_induction isRunTail base run with
  | case1 => simp
  | case2 letter rest inductionHypothesis =>
    rw [Bool.and_eq_true] at isTail
    simp only [List.forall_mem_cons]
    exact ⟨.inl trivial, .inr (digit_of_isDigitOf isTail.1), inductionHypothesis isTail.2⟩
  | case3 letter rest _ inductionHypothesis =>
    rw [Bool.and_eq_true] at isTail
    exact List.forall_mem_cons.mpr
      ⟨.inr (digit_of_isDigitOf isTail.1), inductionHypothesis isTail.2⟩

theorem run_of_isRun {base : Nat} {run : List Char} (isRun : isRun base run = true) :
    Run base run := by
  cases run with
  | nil => cases isRun
  | cons letter rest =>
    unfold Numeral.isRun at isRun
    rw [Bool.and_eq_true] at isRun
    exact ⟨List.cons_ne_nil _ _, List.forall_mem_cons.mpr
      ⟨.inr (digit_of_isDigitOf isRun.1), digits_of_isRunTail isRun.2⟩⟩

/-- The base of a spelling is the one of its mark. -/
theorem mark_of_splitBase (body : List Char) :
    ∃ mark, body = mark ++ (splitBase body).2 ∧ BaseMark mark (splitBase body).1 := by
  unfold splitBase
  split
  · rename_i letter digits
    unfold baseOfMark?
    split_ifs with sixteen eight two
    · exact ⟨['0', letter], rfl, .sixteen sixteen⟩
    · exact ⟨['0', letter], rfl, .eight eight⟩
    · exact ⟨['0', letter], rfl, .two two⟩
    · exact ⟨[], rfl, .decimal⟩
  · exact ⟨[], rfl, .decimal⟩

theorem sign_of_splitSign (text : List Char) :
    text = (if (splitSign text).1 then ['-'] else []) ++ (splitSign text).2 := by
  unfold splitSign
  split <;> rfl

/-- What is accepted as the spelling of an integer spells its value. -/
theorem denotes_of_isInteger {text : String} (isInteger : isInteger text = true) :
    ∃ value, integer? text = some value ∧ Denotes text value := by
  refine ⟨integerValue text.toList, (integer?_eq text).trans (if_pos isInteger), ?_⟩
  have isRun : isRun (splitBase (splitSign text.toList).2).1
      (splitBase (splitSign text.toList).2).2 = true := isInteger
  obtain ⟨mark, isBody, isMark⟩ := mark_of_splitBase (splitSign text.toList).2
  refine ⟨(splitSign text.toList).1, mark, (splitBase (splitSign text.toList).2).1,
    (splitBase (splitSign text.toList).2).2, ?_, isMark, run_of_isRun isRun, ?_⟩
  · rw [List.append_assoc, ← isBody]
    exact sign_of_splitSign _
  · simp only [integerValue, digitsValue_eq]
    split <;> simp

end Numeral

/-! ### What stands in a unit has been read -/

section Inside

open Relation

/-- The piece is inside the other one, or is it. -/
abbrev Node.Within (inner outer : Node) : Prop :=
  ReflTransGen (fun outer inner => inner ∈ outer.children) outer inner

variable {outer inner : Node}

theorem Node.Within.of_child {child : Node} (isChild : child ∈ outer.children)
    (within : inner.Within child) : inner.Within outer :=
  .head isChild within

mutual

/-- The parts of an expression are inside it. -/
theorem Expr.within_of_parts : (expr : Expr) -> ∀ part ∈ expr.parts,
    (Node.expr part).Within (.expr expr)
  | .literal _ | .name _ | .alloc _ _ | .bad _ => by
    simp [parts, ReflTransGen.refl]
  | .binary op left right span | .index left right span => by
    simp only [parts, List.forall_mem_cons, List.forall_mem_append]
    exact ⟨.refl,
      fun part isPart => .of_child (by simp [Node.children, Node.ofExpr])
        (within_of_parts left part isPart),
      fun part isPart => .of_child (by simp [Node.children, Node.ofExpr])
        (within_of_parts right part isPart)⟩
  | .unary _ operand _ | .field operand _ _ | .cast _ operand _ | .addressOf operand _
  | .load _ operand _ => by
    simp only [parts, List.forall_mem_cons]
    exact ⟨.refl, fun part isPart => .of_child (by simp [Node.children, Node.ofExpr])
      (within_of_parts operand part isPart)⟩
  | .call _ args _ | .array _ args _ => by
    simp only [parts, List.forall_mem_cons]
    refine ⟨.refl, fun part isPart => ?_⟩
    obtain ⟨arg, isArg, within⟩ := within_of_partsAll args part isPart
    exact .of_child (by simp [Node.children, Node.ofExpr, isArg]) within
  | .callValue function args _ => by
    simp only [parts, List.forall_mem_cons, List.forall_mem_append]
    refine ⟨.refl, fun part isPart => .of_child (by simp [Node.children, Node.ofExpr])
      (within_of_parts function part isPart), fun part isPart => ?_⟩
    obtain ⟨arg, isArg, within⟩ := within_of_partsAll args part isPart
    exact .of_child (by simp [Node.children, Node.ofExpr, isArg]) within

theorem Expr.within_of_partsAll : (exprs : List Expr) -> ∀ part ∈ partsAll exprs,
    ∃ expr ∈ exprs, (Node.expr part).Within (.expr expr)
  | [] => by
    simp [partsAll]
  | expr :: rest => by
    simp only [partsAll, List.forall_mem_append]
    refine ⟨fun part isPart => ⟨expr, List.mem_cons_self, within_of_parts expr part isPart⟩,
      fun part isPart => ?_⟩
    obtain ⟨other, isOther, within⟩ := within_of_partsAll rest part isPart
    exact ⟨other, List.mem_cons_of_mem _ isOther, within⟩

end

mutual

/-- The parts of a statement are inside it. -/
theorem Stmt.within_of_parts : (stmt : Stmt) -> ∀ part ∈ stmt.parts,
    (Node.stmt part).Within (.stmt stmt)
  | .block body span | .loop body _ span => by
    simp only [parts, List.forall_mem_cons]
    refine ⟨.refl, fun part isPart => ?_⟩
    obtain ⟨other, isOther, within⟩ := within_of_partsAll body part isPart
    exact .of_child (by simp [Node.children, Node.ofStmt, isOther]) within
  | .whileLoop test body _ span => by
    simp only [parts, List.forall_mem_cons]
    refine ⟨.refl, fun part isPart => ?_⟩
    obtain ⟨other, isOther, within⟩ := within_of_partsAll body part isPart
    exact .of_child (by simp [Node.children, Node.ofStmt, isOther]) within
  | .cond test body _ otherwise span => by
    simp only [parts, List.forall_mem_cons, List.forall_mem_append]
    refine ⟨.refl, fun part isPart => ?_, fun part isPart => ?_⟩
    · obtain ⟨other, isOther, within⟩ := within_of_partsAll body part isPart
      exact .of_child (by simp [Node.children, Node.ofStmt, isOther]) within
    · obtain ⟨other, rfl, within⟩ := within_of_parts? otherwise part isPart
      exact .of_child (by simp [Node.children, Node.ofStmt]) within
  | .forLoop first test after body _ span => by
    simp only [parts, List.forall_mem_cons, List.forall_mem_append]
    refine ⟨.refl, ⟨fun part isPart => ?_, fun part isPart => ?_⟩, fun part isPart => ?_⟩
    · obtain ⟨other, rfl, within⟩ := within_of_parts? first part isPart
      exact .of_child (by simp [Node.children, Node.ofStmt]) within
    · obtain ⟨other, rfl, within⟩ := within_of_parts? after part isPart
      exact .of_child (by simp [Node.children, Node.ofStmt]) within
    · obtain ⟨other, isOther, within⟩ := within_of_partsAll body part isPart
      exact .of_child (by simp [Node.children, Node.ofStmt, isOther]) within
  | .expr _ | .letIn _ | .instr _ | .const _ | .struct _ | .assign _ _ _ | .write _ _ _
  | .ret _ _ | .brk _ | .cont _ | .bad _ => by
    simp [parts, ReflTransGen.refl]

theorem Stmt.within_of_parts? : (stmt : Option Stmt) -> ∀ part ∈ parts? stmt,
    ∃ inner, stmt = some inner ∧ (Node.stmt part).Within (.stmt inner)
  | none => by
    simp [parts?]
  | some stmt => fun part isPart => ⟨stmt, rfl, within_of_parts stmt part isPart⟩

theorem Stmt.within_of_partsAll : (body : List Stmt) -> ∀ part ∈ partsAll body,
    ∃ stmt ∈ body, (Node.stmt part).Within (.stmt stmt)
  | [] => by
    simp [partsAll]
  | stmt :: rest => by
    simp only [partsAll, List.forall_mem_append]
    refine ⟨fun part isPart => ⟨stmt, List.mem_cons_self, within_of_parts stmt part isPart⟩,
      fun part isPart => ?_⟩
    obtain ⟨other, isOther, within⟩ := within_of_partsAll rest part isPart
    exact ⟨other, List.mem_cons_of_mem _ isOther, within⟩

end

variable {items : List Item} {item : Item} {expr : Expr}

/-- The expressions of an item are inside it. -/
theorem Item.inside_of_exprs (isItem : item ∈ items) (isExpr : expr ∈ item.exprs) :
    (Node.expr expr).Inside items := by
  suffices within : (Node.expr expr).Within (.item item) from ⟨item, isItem, within⟩
  obtain ⟨top, isTop, isPart⟩ := List.mem_flatMap.mp isExpr
  refine .trans ?_ (Expr.within_of_parts top expr isPart)
  obtain inBody | isValue := List.mem_append.mp isTop
  · obtain ⟨part, isPart, isOwn⟩ := List.mem_flatMap.mp inBody
    obtain ⟨stmt, isStmt, within⟩ := Stmt.within_of_partsAll item.body part isPart
    have inStmt : Node.expr top ∈ (Node.stmt part).children := by
      cases part <;>
        simp_all [Stmt.ownExprs, Node.children, Node.ofStmt, Node.values]
    have inItem : Node.stmt stmt ∈ (Node.item item).children := by
      cases item with
      | function decl =>
        cases written : decl.body with
        | none => simp [Item.body, written] at isStmt
        | some body =>
          simp only [Item.body, written] at isStmt
          simp [Node.children, Node.ofItem, written, isStmt]
      | entry decl => exact List.mem_map_of_mem isStmt
      | _ => cases isStmt
    exact .head inItem (within.tail inStmt)
  · refine .single ?_
    cases item with
    | const decl | static decl =>
      simp_all [Item.values, Node.children, Node.ofItem, Node.values]
    | enum decl =>
      obtain ⟨variant, isVariant, value⟩ := List.mem_filterMap.mp isValue
      refine List.mem_flatMap.mpr ⟨variant, isVariant, ?_⟩
      simp [Node.values, value]
    | _ => cases isValue

end Inside

namespace Decode

theorem literal_spelled {datum : Datum} {found : Literal} (read : literal datum = .ok found)
    (isInteger : found.kind = .integer) : Numeral.isInteger found.text = true := by
  unfold literal at read
  split at read
  · split_ifs at read with isFloat isSpelled
    · cases read
      cases isInteger
    · cases read
      exact isSpelled
    · cases read
  · cases read
    cases isInteger
  · split_ifs at read <;> cases read <;> cases isInteger
  · split_ifs at read
    · cases read
      cases isInteger
    · cases read
  · cases read

/-- Where a literal is read, it is written as one. -/
def Quotes (read : Decoded Expr) : Prop :=
  ∀ found, read = .ok (.literal found) → ∃ datum, literal datum = .ok found

theorem quotes_literal (datum : Datum) : Quotes (do return .literal (<- literal datum)) := by
  intro found isRead
  obtain ⟨value, isValue, done⟩ := ok_bind isRead
  cases done
  exact ⟨datum, isValue⟩

theorem quotes_failAt (span : Span) (fault : Fault) : Quotes (failAt span fault) := by
  intro found isRead
  cases isRead

theorem Quotes.bind {α : Type} {read : Decoded α} {rest : α -> Decoded Expr}
    (later : ∀ value, Quotes (rest value)) : Quotes (read >>= rest) := by
  intro found isRead
  obtain ⟨value, -, done⟩ := ok_bind isRead
  exact later value found done

theorem quotes_ok {expr : Expr} (other : ∀ found, expr ≠ .literal found) : Quotes (.ok expr) := by
  intro found isRead
  cases isRead
  exact absurd rfl (other found)

/-- An expression that is read as a literal is written as one. -/
theorem quotes_expr (datum : Datum) : Quotes (expr datum) := by
  have nothing {result : Expr} (other : ∀ found, result ≠ .literal found) :
      Quotes (pure result) := quotes_ok other
  unfold expr
  split
  · exact quotes_literal _
  · exact quotes_literal _
  · split
    · exact quotes_literal _
    · exact quotes_ok (by simp)
  · exact quotes_failAt _ _
  · simp only
    split
    · exact .bind fun _ => nothing (by simp)
    · split
      · exact .bind fun _ => .bind fun _ => nothing (by simp)
      · exact quotes_failAt _ _
      · split
        · exact quotes_literal _
        · exact quotes_ok (by simp)
        all_goals first
          | exact quotes_failAt _ _
          | exact .bind fun _ => nothing (by simp)
          | exact .bind fun _ => .bind fun _ => nothing (by simp)
  · exact quotes_failAt _ _

end Decode

/-- An integer literal of a decoded unit spells an integer. -/
theorem Module.denotes_of_decode {file text : String} {unit : Module}
    (read : Module.decode file text = .ok unit) {item : Item} (isItem : item ∈ unit.items)
    {literal : Literal} (isExpr : .literal literal ∈ item.exprs)
    (isInteger : literal.kind = .integer) :
    ∃ value, Numeral.integer? literal.text = some value ∧ Numeral.Denotes literal.text value := by
  refine Numeral.denotes_of_isInteger ?_
  have isUnit := read
  unfold Module.decode at isUnit
  split at isUnit
  · cases isUnit
  · obtain ⟨items, isItems, done⟩ := Decode.ok_bind isUnit
    cases done
    obtain ⟨role, datum, -, isRead⟩ :=
      Decode.takes_of_has isItems (Item.inside_of_exprs isItem isExpr)
    cases role with
    | expr =>
      obtain ⟨found, isFound, done⟩ := Decode.ok_bind isRead
      cases done
      obtain ⟨datum, isLiteral⟩ := Decode.quotes_expr datum literal isFound
      exact Decode.literal_spelled isLiteral isInteger
    | item | stmt | type =>
      obtain ⟨found, -, done⟩ := Decode.ok_bind isRead
      cases done

end UnitCheck
