import Mathlib.Data.List.Nodup
import UnitCheck.Datum.Reader
import UnitCheck.Proofs.Source.Order
import UnitCheck.Tree.Expr

/-!
# Where data start

No two data of a text start at the same byte: the tokens of a text start one behind
the other, and each datum starts where a token of its own does. Places are counted
throughout, so the order in which data are put together does not matter.
-/

namespace UnitCheck

/-! ### Tokens -/

namespace Token

/-- Where what is being read starts. -/
def Mode.origin (point : Position) : Mode -> Nat
  | .gap | .comment => point.index
  | .atom start _ | .string start _ | .escape start _ => start.index

/-- What is being read has started before the point. -/
def Mode.Behind (point : Position) : Mode -> Prop
  | .gap | .comment => True
  | .atom start _ | .string start _ | .escape start _ => start.index < point.index

/-- The tokens start one behind the other, from a place on and before another. -/
structure Ascends (low high : Nat) (tokens : List Token) : Prop where
  sorted : (tokens.map (·.span.node)).Pairwise (· < ·)
  low : ∀ token ∈ tokens, low ≤ token.span.node
  high : ∀ token ∈ tokens, token.span.node < high

/-- What a character does between tokens. -/
theorem ascends_openWith (point : Position) (c : Char) :
    Ascends point.index ((openWith point c).2.origin (point.step c)) (openWith point c).1 ∧
      (openWith point c).2.Behind (point.step c) ∧
      point.index ≤ (openWith point c).2.origin (point.step c) := by
  have forward := point.index_lt_step c
  unfold openWith
  split_ifs <;>
    simp only [Mode.origin, Mode.Behind, true_and] <;>
    refine ⟨⟨by simp, ?_, ?_⟩, by omega⟩ <;>
    simp [Span.node] <;> omega

/-- What a character does in any mode. -/
theorem ascends_next {mode : Mode} {point : Position} (behind : mode.Behind point) (c : Char) :
    Ascends (mode.origin point) ((next mode point c).2.origin (point.step c))
        (next mode point c).1 ∧
      (next mode point c).2.Behind (point.step c) ∧
      mode.origin point ≤ (next mode point c).2.origin (point.step c) := by
  have forward := point.index_lt_step c
  have opened := ascends_openWith point c
  cases mode with
  | gap => exact opened
  | comment =>
    simp only [next]
    split <;> simp only [Mode.origin, Mode.Behind, true_and] <;>
      exact ⟨⟨by simp, by simp, by simp⟩, by omega⟩
  | atom start read =>
    simp only [Mode.Behind] at behind
    simp only [next]
    split
    · obtain ⟨ascends, stays, later⟩ := opened
      have node : (ofAtom read.reverse ⟨start, point⟩).span.node = start.index := by
        unfold ofAtom
        split <;> rfl
      refine ⟨⟨?_, ?_, ?_⟩, stays, (Nat.le_of_lt behind).trans later⟩
      · rw [List.map_cons, List.pairwise_cons, node]
        refine ⟨fun other isLater => ?_, ascends.sorted⟩
        obtain ⟨token, inside, rfl⟩ := List.mem_map.mp isLater
        exact Nat.lt_of_lt_of_le behind (ascends.low token inside)
      · simp only [List.forall_mem_cons, node, Mode.origin, le_refl, true_and]
        exact fun token inside => (Nat.le_of_lt behind).trans (ascends.low token inside)
      · simp only [List.forall_mem_cons, node]
        exact ⟨Nat.lt_of_lt_of_le behind later, ascends.high⟩
    · simp only [Mode.origin, Mode.Behind]
      exact ⟨⟨by simp, by simp, by simp⟩, by omega, le_refl _⟩
  | string start read =>
    simp only [Mode.Behind] at behind
    simp only [next]
    split_ifs
    · refine ⟨⟨by simp, by simp [Mode.origin, Span.node], ?_⟩, trivial, ?_⟩
      · intro token inside
        cases List.mem_singleton.mp inside
        exact Nat.lt_trans behind forward
      · simp only [Mode.origin]
        omega
    · simp only [Mode.origin, Mode.Behind]
      exact ⟨⟨by simp, by simp, by simp⟩, by omega, le_refl _⟩
    · simp only [Mode.origin, Mode.Behind]
      exact ⟨⟨by simp, by simp, by simp⟩, by omega, le_refl _⟩
  | escape start read =>
    simp only [Mode.Behind] at behind
    simp only [next, Mode.origin, Mode.Behind]
    exact ⟨⟨by simp, by simp, by simp⟩, by omega, le_refl _⟩

/-- The tokens of a text start one behind the other. -/
theorem sorted_scan (text : List Char) (mode : Mode) (point : Position)
    (behind : mode.Behind point) :
    ((scan mode point text).map (·.span.node)).Pairwise (· < ·) ∧
      ∀ token ∈ scan mode point text, mode.origin point ≤ token.span.node := by
  induction text generalizing mode point with
  | nil =>
    cases mode with
    | gap | comment => simp [scan, finish]
    | atom start read =>
      simp only [scan, finish, ofAtom]
      split <;> simp [Mode.origin, Span.node]
    | string start read | escape start read => simp [scan, finish, Mode.origin, Span.node]
  | cons c rest inductionHypothesis =>
    obtain ⟨ascends, stays, later⟩ := ascends_next behind c
    obtain ⟨sorted, low⟩ := inductionHypothesis _ _ stays
    rw [scan]
    constructor
    · rw [List.map_append, List.pairwise_append]
      refine ⟨ascends.sorted, sorted, fun first isFirst second isSecond => ?_⟩
      obtain ⟨token, inside, rfl⟩ := List.mem_map.mp isFirst
      obtain ⟨other, behindIt, rfl⟩ := List.mem_map.mp isSecond
      exact (ascends.high token inside).trans_le (low other behindIt)
    · simp only [List.forall_mem_append]
      exact ⟨ascends.low, fun token inside => later.trans (low token inside)⟩

end Token

/-! ### Data -/

namespace Datum

mutual

/-- Where the datum and the data inside it start. -/
def starts : Datum -> List NodeId
  | .symbol _ span | .string _ span | .number _ span => [span.node]
  | .list items span => span.node :: startsAll items

/-- Where several data and the data inside them start. -/
def startsAll : List Datum -> List NodeId
  | [] => []
  | datum :: rest => starts datum ++ startsAll rest

end

theorem startsAll_eq (data : List Datum) : startsAll data = data.flatMap starts := by
  induction data with
  | nil => rfl
  | cons datum rest inductionHypothesis =>
    rw [startsAll, inductionHypothesis, List.flatMap_cons]

/-- The order of data does not matter for what starts in them. -/
theorem count_startsAll_reverse (data : List Datum) (node : NodeId) :
    (startsAll data.reverse).count node = (startsAll data).count node := by
  rw [startsAll_eq, startsAll_eq]
  exact (List.Perm.flatMap_right starts data.reverse_perm).count_eq node

namespace Stack

/-- Where the lists still open and the data read so far start. -/
def starts (stack : Stack) : List NodeId :=
  stack.lists.flatMap (fun inner => inner.start.index :: startsAll inner.read) ++
    startsAll stack.read

theorem count_push (stack : Stack) (datum : Datum) (node : NodeId) :
    (stack.push datum).starts.count node = stack.starts.count node + datum.starts.count node := by
  unfold push starts
  split
  · rename_i empty
    simp only [empty, List.flatMap_nil, startsAll, List.nil_append, List.count_append]
    omega
  · rename_i inner outer isOpen
    simp only [isOpen, List.flatMap_cons, startsAll, List.cons_append, List.count_append,
      List.count_cons]
    omega

/-- A token adds the place where it starts, or nothing. -/
theorem count_add {stack after : Stack} {token : Token} (added : stack.add token = .ok after)
    (node : NodeId) :
    after.starts.count node ≤ stack.starts.count node + [token.span.node].count node := by
  unfold add at added
  split at added
  · cases added
    rw [count_push]
    exact le_refl _
  · cases added
    rw [count_push]
    exact le_refl _
  · cases added
    rw [count_push]
    exact le_refl _
  · cases added
    simp only [starts, List.flatMap_cons, startsAll, List.cons_append, List.nil_append,
      List.count_append, List.count_cons, List.count_nil, Span.node]
    omega
  · split at added
    · cases added
    · rename_i inner outer isOpen
      cases added
      rw [count_push]
      simp only [starts, isOpen, Datum.starts, List.flatMap_cons, List.cons_append,
        List.count_append, List.count_cons, count_startsAll_reverse, Span.node]
      omega
  · cases added

/-- Reading tokens adds nothing but the places where they start. -/
theorem count_assemble (tokens : List Token) {stack : Stack} {data : List Datum}
    (read : stack.assemble tokens = .ok data) (node : NodeId) :
    (startsAll data).count node ≤
      stack.starts.count node + (tokens.map (·.span.node)).count node := by
  induction tokens generalizing stack with
  | nil =>
    unfold assemble close at read
    split at read
    · rename_i empty
      cases read
      simp [starts, empty, count_startsAll_reverse]
    · cases read
  | cons token rest inductionHypothesis =>
    unfold assemble at read
    split at read
    · rename_i after added
      have first := count_add added node
      have later := inductionHypothesis read
      simp only [List.map_cons, List.count_cons, List.count_nil] at first ⊢
      omega
    · cases read

end Stack

/-- No two data of a text start at the same byte. -/
theorem count_readAll {text : String} {data : List Datum} (read : readAll text = .ok data)
    (node : NodeId) : (startsAll data).count node ≤ 1 := by
  have counted := Stack.count_assemble _ read node
  have sorted := (Token.sorted_scan text.toList .gap .start trivial).1
  have once := List.nodup_iff_count_le_one.mp (sorted.imp Nat.ne_of_lt) node
  have empty : Stack.empty.starts.count node = 0 := rfl
  unfold Token.ofText at counted
  omega

end Datum
end UnitCheck
