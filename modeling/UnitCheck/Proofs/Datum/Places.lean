import Mathlib.Data.List.Infix
import UnitCheck.Proofs.Datum.Lexemes
import UnitCheck.Proofs.Datum.Tokens
import UnitCheck.Proofs.Source.Order

/-!
# Where data stand in their text

The span of a datum is the stretch of the text that the datum was read from: these bytes
read by themselves give the datum again, and both ends count the lines, characters and
bytes in front of them. Spans nest as the data do, and all ends are ordered alike by
lines and columns and by bytes (`readAll_places`).
-/

namespace UnitCheck

/-! ### Tokens in order -/

namespace Token

/-- The tokens cover stretches one behind the other. -/
structure InOrder (tokens : List Token) : Prop where
  forward : ∀ token ∈ tokens, token.span.start.index < token.span.stop.index
  apart : tokens.Pairwise fun token later => token.span.stop.index ≤ later.span.start.index

theorem Tokenized.nonempty {point : Position} {text : List Char} {first : Token}
    {rest : List Token} (tokenized : Tokenized point text (first :: rest)) : text ≠ [] := by
  cases tokenized with
  | token _ writes _ _ => simp [writes.nonempty]

theorem Tokenized.inOrder {point : Position} {text : List Char} {tokens : List Token}
    (tokenized : Tokenized point text tokens) :
    InOrder tokens ∧ ∀ token ∈ tokens, point.index ≤ token.span.start.index := by
  induction tokenized with
  | stop => exact ⟨⟨by simp, .nil⟩, by simp⟩
  | @token point gap own _ _ _ _ writes _ _ inductionHypothesis =>
    obtain ⟨⟨forward, apart⟩, behind⟩ := inductionHypothesis
    have start := point.index_le_advance gap
    have first := ((point.advance gap).before_advance writes.nonempty).2
    refine ⟨⟨List.forall_mem_cons.mpr ⟨first, forward⟩, .cons behind apart⟩,
      List.forall_mem_cons.mpr ⟨start, fun token later => ?_⟩⟩
    exact start.trans (first.le.trans (behind token later))

end Token

namespace Datum

open Token (Tokenized InOrder)

/-! ### Data among tokens -/

/-- A datum is spelled by at least one token, the first of which starts where it starts and
the last of which stops where it stops. -/
theorem ends_of_spelled {datum : Datum} {tokens : List Token} (spelled : datum.Spelled tokens) :
    ∃ first rest, tokens = first :: rest ∧ first.span.start = datum.span.start ∧
      ∃ last ∈ tokens.getLast?, last.span.stop = datum.span.stop := by
  cases datum with
  | symbol | string | number =>
    cases spelled
    exact ⟨_, [], rfl, rfl, _, rfl, rfl⟩
  | list items span =>
    obtain ⟨first, inner, last, rfl, -, -, starts, -, stops⟩ := spelled
    exact ⟨first, inner ++ [last], rfl, starts, last, List.getLast?_concat (l := first :: inner),
      stops⟩

mutual

/-- A datum inside another one is spelled by some of its tokens in a row. -/
theorem spelled_of_mem_walk : {datum : Datum} → {tokens : List Token} → {depth : Nat} →
    {entry : Nat × Datum} → datum.Spelled tokens → entry ∈ datum.walk depth →
      ∃ before own after, tokens = before ++ own ++ after ∧ entry.2.Spelled own
  | .symbol _ _, tokens, _, _, spelled, inside
  | .string _ _, tokens, _, _, spelled, inside
  | .number _ _, tokens, _, _, spelled, inside => by
    cases List.mem_singleton.mp inside
    exact ⟨[], tokens, [], by simp, spelled⟩
  | .list items _, tokens, _, _, spelled, inside => by
    obtain rfl | inside := List.mem_cons.mp inside
    · exact ⟨[], tokens, [], by simp, spelled⟩
    · obtain ⟨first, inner, last, rfl, spelledItems, -⟩ := spelled
      obtain ⟨before, own, after, rfl, spelledOwn⟩ := spelled_of_mem_walkAll spelledItems inside
      exact ⟨first :: before, own, after ++ [last], by simp, spelledOwn⟩

/-- A datum among others or inside one of them is spelled by some of their tokens in a row. -/
theorem spelled_of_mem_walkAll : {data : List Datum} → {tokens : List Token} → {depth : Nat} →
    {entry : Nat × Datum} → SpelledAll data tokens → entry ∈ walkAll depth data →
      ∃ before own after, tokens = before ++ own ++ after ∧ entry.2.Spelled own
  | [], _, _, _, _, inside => by cases inside
  | _ :: _, _, _, _, spelled, inside => by
    obtain ⟨first, later, rfl, spelledFirst, spelledRest⟩ := spelled
    obtain inside | inside := List.mem_append.mp inside
    · obtain ⟨before, own, after, rfl, spelledOwn⟩ := spelled_of_mem_walk spelledFirst inside
      exact ⟨before, own, after ++ later, by simp, spelledOwn⟩
    · obtain ⟨before, own, after, rfl, spelledOwn⟩ := spelled_of_mem_walkAll spelledRest inside
      exact ⟨first ++ before, own, after, by simp, spelledOwn⟩

end

/-- Both ends of a datum are ends of its tokens. -/
theorem tokens_at_ends {datum : Datum} {tokens : List Token} (spelled : datum.Spelled tokens) :
    (∃ token ∈ tokens, token.span.start = datum.span.start) ∧
      ∃ token ∈ tokens, token.span.stop = datum.span.stop := by
  obtain ⟨first, rest, rfl, starts, last, isLast, stops⟩ := ends_of_spelled spelled
  exact ⟨⟨first, List.mem_cons_self, starts⟩, last, List.mem_of_getLast? isLast, stops⟩

/-- Both ends of each of several data are ends of their tokens. -/
theorem tokens_at_item_ends {data : List Datum} {tokens : List Token}
    (spelled : SpelledAll data tokens) {item : Datum} (isItem : item ∈ data) :
    (∃ token ∈ tokens, token.span.start = item.span.start) ∧
      ∃ token ∈ tokens, token.span.stop = item.span.stop := by
  induction data generalizing tokens with
  | nil => cases isItem
  | cons datum rest inductionHypothesis =>
    obtain ⟨own, later, rfl, spelledOwn, spelledRest⟩ := spelled
    obtain rfl | isLater := List.mem_cons.mp isItem
    · obtain ⟨⟨first, isFirst, starts⟩, last, isLast, stops⟩ := tokens_at_ends spelledOwn
      exact ⟨⟨first, List.mem_append_left _ isFirst, starts⟩,
        last, List.mem_append_left _ isLast, stops⟩
    · obtain ⟨⟨first, isFirst, starts⟩, last, isLast, stops⟩ :=
        inductionHypothesis spelledRest isLater
      exact ⟨⟨first, List.mem_append_right _ isFirst, starts⟩,
        last, List.mem_append_right _ isLast, stops⟩

/-- Data spelled by tokens in order stand in order themselves. -/
theorem pairwise_of_spelledAll {data : List Datum} {tokens : List Token}
    (spelled : SpelledAll data tokens) (inOrder : InOrder tokens) :
    data.Pairwise fun item later => item.span.stop.index ≤ later.span.start.index := by
  induction data generalizing tokens with
  | nil => exact .nil
  | cons datum rest inductionHypothesis =>
    obtain ⟨own, later, rfl, spelledOwn, spelledRest⟩ := spelled
    obtain ⟨-, apartLater, between⟩ := List.pairwise_append.mp inOrder.apart
    refine .cons (fun item isItem => ?_) (inductionHypothesis spelledRest
      ⟨fun token isLater => inOrder.forward token (List.mem_append_right _ isLater), apartLater⟩)
    obtain ⟨-, last, isLast, stops⟩ := tokens_at_ends spelledOwn
    obtain ⟨⟨first, isFirst, starts⟩, -⟩ := tokens_at_item_ends spelledRest isItem
    rw [← stops, ← starts]
    exact between last isLast first isFirst

/-! ### The places of a text -/

/-- The point is one of the text and counts what stands in front of it. -/
def StandsIn (text : String) (point : Position) : Prop :=
  ∃ before after, text = before ++ after ∧ point.Counts before

/-- The items of a datum lie strictly inside of it, one behind the other. -/
structure Nested (datum : Datum) : Prop where
  inside : ∀ item ∈ datum.items, datum.span.start.index < item.span.start.index ∧
    item.span.stop.index < datum.span.stop.index
  apart : datum.items.Pairwise fun item later => item.span.stop.index ≤ later.span.start.index

/-- The datum is what its stretch of the text says. -/
structure Placed (text : String) (datum : Datum) : Prop where
  /-- The bytes of its span, read by themselves, are the datum. -/
  own : ∃ part : String, ∃ again : Datum,
    part.toByteArray = text.toByteArray.extract datum.span.start.index datum.span.stop.index ∧
      readAll part = .ok [again] ∧ ∀ blank, again.respan blank = datum.respan blank
  start : StandsIn text datum.span.start
  stop : StandsIn text datum.span.stop
  forward : datum.span.start.index < datum.span.stop.index
  nested : datum.Nested

/-- All points at which data or data inside them start or stop. -/
def points (data : List Datum) : List Position :=
  (walkAll 0 data).flatMap fun entry => [entry.2.span.start, entry.2.span.stop]

theorem standsIn_advance {front rest : List Char} {text : String}
    (split : text.toList = front ++ rest) : StandsIn text (Position.start.advance front) := by
  refine ⟨String.ofList front, String.ofList rest, ?_, Position.counts_advance front⟩
  rw [← String.ofList_append, ← split, String.ofList_toList]

/-- The middle of three stretches of bytes. -/
theorem extract_middle (front part back : ByteArray) :
    (front ++ part ++ back).extract front.size (front.size + part.size) = part := by
  have before : front.extract front.size (front.size + part.size) = ByteArray.empty :=
    ByteArray.extract_eq_empty_iff.mpr (Nat.min_le_right ..)
  have behind : back.extract (front.size - front.size - part.size)
      (front.size + part.size - front.size - part.size) = ByteArray.empty :=
    ByteArray.extract_eq_empty_iff.mpr (by omega)
  rw [ByteArray.append_assoc, ByteArray.extract_append, ByteArray.extract_append, before, behind]
  simp

/-- Between two points of a text stand the bytes that were read from one to the other. -/
theorem extract_advance {front part back : List Char} {text : String}
    (split : text.toList = front ++ part ++ back) :
    (String.ofList part).toByteArray = text.toByteArray.extract
      (Position.start.advance front).index (Position.start.advance (front ++ part)).index := by
  have whole : text = String.ofList front ++ String.ofList part ++ String.ofList back := by
    rw [← String.ofList_append, ← String.ofList_append, ← split, String.ofList_toList]
  rw [(Position.counts_advance front).index, (Position.counts_advance (front ++ part)).index,
    String.ofList_append, String.utf8ByteSize_append, whole, String.toByteArray_append,
    String.toByteArray_append, ← String.size_toByteArray, ← String.size_toByteArray]
  exact (extract_middle ..).symm

/-- The tokens of a list enclose the items. -/
theorem nested_of_spelled {datum : Datum} {tokens : List Token} (spelled : datum.Spelled tokens)
    (inOrder : InOrder tokens) : datum.Nested := by
  cases datum with
  | symbol | string | number => exact ⟨by simp [Datum.items], .nil⟩
  | list items span =>
    obtain ⟨first, inner, last, rfl, spelledItems, -, starts, -, stops⟩ := spelled
    obtain ⟨behindFirst, apart⟩ := List.pairwise_cons.mp inOrder.apart
    obtain ⟨apartInner, -, beforeLast⟩ := List.pairwise_append.mp apart
    refine ⟨fun item isItem => ?_, pairwise_of_spelledAll spelledItems
      ⟨fun token isInner => inOrder.forward token (by simp [isInner]), apartInner⟩⟩
    obtain ⟨⟨opening, isOpening, itemStarts⟩, closing, isClosing, itemStops⟩ :=
      tokens_at_item_ends spelledItems isItem
    have forwardFirst := inOrder.forward first (by simp)
    have forwardLast := inOrder.forward last (by simp)
    have afterFirst := behindFirst opening (by simp [isOpening])
    have untilLast := beforeLast closing isClosing last (by simp)
    rw [starts] at forwardFirst
    rw [itemStarts] at afterFirst
    rw [stops] at forwardLast
    rw [itemStops] at untilLast
    exact ⟨forwardFirst.trans_le afterFirst, untilLast.trans_lt forwardLast⟩

/-- The stretch of a text that a datum was read from. -/
theorem stretch_of_mem {text : String} {data : List Datum} (read : readAll text = .ok data)
    {entry : Nat × Datum} (inside : entry ∈ walkAll 0 data) :
    ∃ front part back own, text.toList = front ++ part ++ back ∧ part ≠ [] ∧
      entry.2.Spelled own ∧ Tokenized (Position.start.advance front) part own ∧
      entry.2.span = ⟨Position.start.advance front, Position.start.advance (front ++ part)⟩ := by
  have spelled := (readAll_eq_ok_iff text data).mp read
  have tokenized := Token.tokenized_scan .start text.toList (terminated_of_spelledAll spelled)
  obtain ⟨before, own, after, split, spelledOwn⟩ := spelled_of_mem_walkAll spelled inside
  obtain ⟨first, rest, rfl, starts, last, isLast, stops⟩ := ends_of_spelled spelledOwn
  unfold Token.ofText at split
  rw [split] at tokenized
  obtain ⟨front, part, back, whole, covered, startsAt, stopsAt⟩ := tokenized.between
  refine ⟨front, part, back, first :: rest, whole, covered.nonempty, spelledOwn, covered, ?_⟩
  rw [← startsAt, ← stopsAt last isLast, starts, stops]

/-- Data that are alike to a single datum, up to spans, are a single datum. -/
theorem single_of_respanAll {blank : Span} {data : List Datum} {datum : Datum}
    (alike : respanAll blank data = respanAll blank [datum]) : ∃ single, data = [single] := by
  cases data with
  | nil => simp [respanAll] at alike
  | cons single rest =>
    cases rest with
    | nil => exact ⟨single, rfl⟩
    | cons _ _ => simp [respanAll] at alike

/-- Every datum of a text stands where its span says. -/
theorem placed_of_mem {text : String} {data : List Datum} (read : readAll text = .ok data)
    {entry : Nat × Datum} (inside : entry ∈ walkAll 0 data) : Placed text entry.2 := by
  obtain ⟨front, part, back, own, split, nonempty, spelled, covered, span⟩ :=
    stretch_of_mem read inside
  obtain ⟨moved, tokenized, same⟩ := covered.shift .start
  have lexemes : (Token.ofText (String.ofList part)).map (·.lexeme) = lexemesAll [entry.2] := by
    rw [Token.ofText, String.toList_ofList, tokenized.scan, same, lexemes_of_spelled spelled]
    simp [lexemesAll]
  refine ⟨⟨String.ofList part, ?_⟩, ?_, ?_, ?_, nested_of_spelled spelled covered.inOrder.1⟩
  · obtain ⟨again, readPart, _⟩ := readAll_of_lexemes default lexemes
    have alike (blank : Span) : respanAll blank again = respanAll blank [entry.2] := by
      obtain ⟨other, readOther, alike⟩ := readAll_of_lexemes blank lexemes
      cases readPart.symm.trans readOther
      exact alike
    obtain ⟨single, rfl⟩ := single_of_respanAll (alike default)
    refine ⟨single, ?_, readPart, fun blank => (List.cons.inj (alike blank)).1⟩
    rw [span]
    exact extract_advance split
  · rw [span]
    rw [List.append_assoc] at split
    exact standsIn_advance split
  · rw [span]
    exact standsIn_advance split
  · rw [span, Position.advance_append]
    exact (Position.before_advance _ nonempty).2

/-- Every end of a datum is a point that reading some front part of the text leads to. -/
theorem prefix_of_mem_points {text : String} {data : List Datum} (read : readAll text = .ok data)
    {point : Position} (isEnd : point ∈ points data) :
    ∃ front, front <+: text.toList ∧ point = Position.start.advance front := by
  obtain ⟨entry, inside, isEnd⟩ := List.mem_flatMap.mp isEnd
  obtain ⟨front, part, back, _, split, _, _, _, span⟩ := stretch_of_mem read inside
  rw [span] at isEnd
  obtain rfl | isEnd := List.mem_cons.mp isEnd
  · exact ⟨front, split ▸ List.append_assoc .. ▸ List.prefix_append .., rfl⟩
  · cases List.mem_singleton.mp isEnd
    exact ⟨front ++ part, split ▸ List.prefix_append .., rfl⟩

/-- Every datum that was read stands where its span says, with its items inside of it, and
the order of the ends by line and column is their order by bytes. -/
theorem readAll_places (text : String) (data : List Datum) (read : readAll text = .ok data) :
    (∀ entry ∈ walkAll 0 data, Placed text entry.2) ∧
      ∀ left ∈ points data, ∀ right ∈ points data,
        left.before right = decide (left.index < right.index) := by
  refine ⟨fun entry inside => placed_of_mem read inside, fun left isLeft right isRight => ?_⟩
  obtain ⟨first, isFirst, rfl⟩ := prefix_of_mem_points read isLeft
  obtain ⟨second, isSecond, rfl⟩ := prefix_of_mem_points read isRight
  exact Position.before_of_prefixes isFirst isSecond

/-- A character of two bytes inside a string and a list over two lines. -/
theorem readAll_places_lines :
    let data : List Datum := [.list [.string "é" ⟨⟨1, 2, 1⟩, ⟨1, 5, 5⟩⟩,
      .symbol "x" ⟨⟨2, 2, 7⟩, ⟨2, 3, 8⟩⟩] ⟨⟨1, 1, 0⟩, ⟨2, 4, 9⟩⟩]
    readAll "(\"é\"\n x)" = .ok data ∧
      (∀ entry ∈ walkAll 0 data, Placed "(\"é\"\n x)" entry.2) ∧
        ∀ left ∈ points data, ∀ right ∈ points data,
          left.before right = decide (left.index < right.index) := by
  intro data
  have read : readAll "(\"é\"\n x)" = .ok data := readAll_chars (by rfl)
  exact ⟨read, readAll_places _ _ read⟩

end Datum
end UnitCheck
