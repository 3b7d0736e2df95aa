import Mathlib.Algebra.GroupWithZero.Nat
import Mathlib.Algebra.Order.BigOperators.Group.List
import Mathlib.Algebra.Order.Group.Nat
import Mathlib.Data.List.DropRight
import UnitCheck.Diagnostic.Listing
import UnitCheck.Proofs.Datum.Places

/-!
# Underlined data

A label at a datum shows the line that the datum starts on with marks below it. They begin below
the first character of the datum, and there is one for each of its characters on that line. Where
the datum goes on behind the line, the marks are counted in bytes, so there is one more for each
byte that a character of the line takes beyond its first (`label_of_datum`).
-/

namespace UnitCheck

/-! ### The line around a point -/

namespace Text

/-- What stands behind the last line feed. -/
def lastLine (text : List Char) : List Char :=
  text.rtakeWhile (· ≠ '\n')

/-- What stands in front of the first line feed. -/
def firstLine (text : List Char) : List Char :=
  text.takeWhile (· ≠ '\n')

theorem lastLine_append {behind : List Char} (text : List Char) (inLine : '\n' ∉ behind) :
    lastLine (text ++ behind) = lastLine text ++ behind := by
  induction behind using List.reverseRecOn with
  | nil => simp
  | append_singleton behind c inductionHypothesis =>
    simp only [List.mem_append, List.mem_singleton, not_or] at inLine
    have noFeed : decide (c ≠ '\n') = true := decide_eq_true (Ne.symm inLine.2)
    rw [← List.append_assoc, lastLine, List.rtakeWhile_concat_pos (· ≠ '\n') _ _ noFeed, ← lastLine,
      inductionHypothesis inLine.1, List.append_assoc]

theorem lastLine_feed (text behind : List Char) :
    lastLine (text ++ '\n' :: behind) = lastLine behind := by
  induction behind using List.reverseRecOn with
  | nil => simp [lastLine]
  | append_singleton behind c inductionHypothesis =>
    rw [lastLine] at inductionHypothesis
    rw [← List.cons_append, ← List.append_assoc, lastLine, lastLine, List.rtakeWhile_concat,
      List.rtakeWhile_concat, inductionHypothesis, lastLine]

theorem firstLine_append_feed {text : List Char} (feed : '\n' ∈ text) (behind : List Char) :
    firstLine (text ++ behind) = firstLine text := by
  induction text with
  | nil => cases feed
  | cons c text inductionHypothesis =>
    by_cases isFeed : c = '\n'
    · simp [firstLine, isFeed]
    · have later : '\n' ∈ text := (List.mem_cons.mp feed).resolve_left (Ne.symm isFeed)
      simpa [firstLine, isFeed] using inductionHypothesis later

theorem firstLine_append {text : List Char} (inLine : '\n' ∉ text) (behind : List Char) :
    firstLine (text ++ behind) = text ++ firstLine behind :=
  List.takeWhile_append_of_pos fun _ inside => decide_eq_true fun feed => inLine (feed ▸ inside)

/-- The first line of a text being read goes on up to a line feed. -/
theorem head_linesFrom (line rest : List Char) :
    (linesFrom line rest)[0]? = some (line.reverse ++ firstLine rest) := by
  induction rest generalizing line with
  | nil => simp [linesFrom, firstLine]
  | cons c rest inductionHypothesis =>
    by_cases feed : c = '\n'
    · simp [linesFrom, firstLine, feed]
    · simp [linesFrom, feed, inductionHypothesis, firstLine]

/-- There is a line for every line feed in front of it. -/
theorem getElem?_linesFrom {line : List Char} (inLine : '\n' ∉ line) (front rest : List Char) :
    (linesFrom line (front ++ rest))[front.count '\n']? =
      some (lastLine (line.reverse ++ front) ++ firstLine rest) := by
  induction front generalizing line with
  | nil =>
    have whole : lastLine line.reverse = line.reverse := lastLine_append [] (by simpa using inLine)
    simp [head_linesFrom, whole]
  | cons c front inductionHypothesis =>
    by_cases feed : c = '\n'
    · subst feed
      rw [lastLine_feed]
      simpa [linesFrom] using @inductionHypothesis [] (by simp)
    · have inLonger : '\n' ∉ c :: line := by simp [Ne.symm feed, inLine]
      simpa [linesFrom, feed] using inductionHypothesis inLonger

end Text

namespace Position

theorem line_advance (text : List Char) : (start.advance text).line = text.count '\n' + 1 := by
  rw [(counts_advance text).line, String.toList_ofList, Nat.add_comm]

theorem column_advance (text : List Char) :
    (start.advance text).column = (Text.lastLine text).length + 1 := by
  rw [(counts_advance text).column, String.toList_ofList, Text.lastLine, List.rtakeWhile,
    List.length_reverse, Nat.add_comm]

end Position

/-! ### Where a datum starts -/

theorem Token.Writes.noFeed {own : List Char} {lexeme : Lexeme} (writes : Writes own lexeme) :
    own.head? ≠ some '\n' := by
  cases writes with
  | openList | closeList | string => simp
  | atom isAtom =>
    intro first
    have inside := isAtom.inside _ (List.mem_of_head? first)
    cases inside

/-- The stretch of the text consists of these characters. -/
structure Span.Covers (span : Span) (text : String) (front part back : List Char) : Prop where
  whole : text.toList = front ++ part ++ back
  start : span.start = Position.start.advance front
  stop : span.stop = Position.start.advance (front ++ part)

/-- A datum starts with one of its characters, which is no line feed. -/
theorem Datum.covers_of_mem {text : String} {data : List Datum} (read : readAll text = .ok data)
    {entry : Nat × Datum} (inside : entry ∈ walkAll 0 data) :
    ∃ front part back, entry.2.span.Covers text front part back ∧ Text.firstLine part ≠ [] := by
  obtain ⟨front, part, back, own, whole, -, spelled, covered, span⟩ := stretch_of_mem read inside
  refine ⟨front, part, back, ⟨whole, by rw [span], by rw [span]⟩, ?_⟩
  obtain ⟨first, rest, rfl, starts, -⟩ := ends_of_spelled spelled
  rw [span] at starts
  cases covered with
  | @token _ gap own behind lexeme _ _ writes _ _ =>
    have noGap : gap = [] := by
      by_contra nonempty
      have later := ((Position.start.advance front).before_advance nonempty).2
      have same : (Position.start.advance front).advance gap = Position.start.advance front := starts
      rw [same] at later
      exact lt_irrefl _ later
    obtain ⟨c, others, rfl⟩ := List.exists_cons_of_ne_nil writes.nonempty
    have noFeed : c ≠ '\n' := fun same => writes.noFeed (congrArg some same)
    simp [noGap, Text.firstLine, noFeed]

/-! ### Characters and bytes -/

namespace Listing

/-- The bytes that the characters of a line take beyond their first ones. -/
def surplus (line : List Char) : Nat :=
  (line.map fun c => c.utf8Size - 1).sum

theorem byteLength_eq (line : List Char) : byteLength line = line.length + surplus line := by
  have from_any (read : Nat) : line.foldl (fun length c => length + c.utf8Size) read =
      read + line.length + surplus line := by
    induction line generalizing read with
    | nil => rfl
    | cons c line inductionHypothesis =>
      have positive := Char.utf8Size_pos c
      rw [List.foldl_cons, inductionHypothesis]
      simp only [surplus, List.map_cons, List.sum_cons, List.length_cons]
      omega
  rw [byteLength, from_any, Nat.zero_add]

theorem surplus_eq_zero_iff (line : List Char) : surplus line = 0 ↔ ∀ c ∈ line, c.utf8Size = 1 := by
  rw [surplus, List.sum_eq_zero_iff]
  simp only [List.forall_mem_map]
  refine forall₂_congr fun c _ => ?_
  have positive := Char.utf8Size_pos c
  omega

theorem utf8ByteSize_ofList (text : List Char) :
    (String.ofList text).utf8ByteSize = byteLength text := by
  induction text using List.reverseRecOn with
  | nil => rfl
  | append_singleton text c inductionHypothesis =>
    have single : (String.ofList [c]).utf8ByteSize = c.utf8Size := by
      rw [← String.utf8ByteSize_singleton]
      simp
    rw [String.ofList_append, String.utf8ByteSize_append, inductionHypothesis, single, byteLength,
      byteLength, List.foldl_append]
    rfl

theorem byteLength_append (front behind : List Char) :
    byteLength (front ++ behind) = byteLength front + byteLength behind := by
  simp only [← utf8ByteSize_ofList, String.ofList_append, String.utf8ByteSize_append]

theorem byteLength_le_of_isInfix {line : List Char} {text : String} (inside : line <:+: text.toList) :
    byteLength line ≤ text.utf8ByteSize := by
  obtain ⟨front, back, whole⟩ := inside
  rw [← String.ofList_toList (s := text), ← whole, utf8ByteSize_ofList, byteLength_append,
    byteLength_append]
  omega

/-! ### Marks -/

variable {text : String} {span : Span} {front part back : List Char}

theorem isInfix_line (whole : text.toList = front ++ part ++ back) :
    Text.lastLine front ++ Text.firstLine (part ++ back) <:+: text.toList := by
  refine ⟨front.rdropWhile (· ≠ '\n'), (part ++ back).dropWhile (· ≠ '\n'), ?_⟩
  rw [← List.append_assoc, Text.lastLine, List.rdropWhile_append_rtakeWhile, Text.firstLine,
    List.append_assoc, List.takeWhile_append_dropWhile, whole, List.append_assoc]

theorem line_of_covers (covers : span.Covers text front part back) :
    (Text.lines text)[span.start.line - 1]? =
      some (Text.lastLine front ++ Text.firstLine (part ++ back)) := by
  rw [covers.start, Position.line_advance, Nat.add_sub_cancel, Text.lines, covers.whole,
    List.append_assoc]
  exact Text.getElem?_linesFrom (List.not_mem_nil : '\n' ∉ []) front (part ++ back)

/-- The line that the stretch starts on is cut where the stretch starts. -/
theorem line?_of_covers {sources : Sources} {file : String} (known : sources.text? file = some text)
    (covers : span.Covers text front part back) :
    sources.line? file span.start.line =
      some (Text.lastLine front ++ Text.firstLine (part ++ back)) := by
  have counted : ¬((span.start.line : Int) < 1) := by
    rw [covers.start, Position.line_advance]
    omega
  have behind : ((span.start.line : Int) - 1).toNat = span.start.line - 1 := by omega
  rw [Sources.line?, if_neg counted, known, Option.bind_some, behind, line_of_covers covers]

/-- A row of marks that fits is as long as asked for. -/
theorem markRow_natCast {length : Nat} (positive : 0 < length)
    (bounded : length < Numeral.power 2 63) : markRow length = length := by
  rw [markRow, if_pos (by exact_mod_cast bounded), Int.toNat_natCast]
  omega

/-- On one line the marks are counted in columns. -/
theorem markCount_within {start stop : Position} {line : List Char} {width : Nat}
    (within : stop.line = start.line) (columns : stop.column = start.column + width)
    (positive : 0 < width) (bounded : width < Numeral.power 2 63) :
    markCount start.toPoint stop.toPoint line = width := by
  have forward : (start.toPoint.column < stop.toPoint.column) := by
    simp only [Position.toPoint]
    omega
  have distance : stop.toPoint.column - start.toPoint.column = width := by
    simp only [Position.toPoint]
    omega
  have sameLine : stop.toPoint.line = start.toPoint.line := congrArg Nat.cast within
  rw [markCount, if_pos (by simp [sameLine, forward]), distance, markRow_natCast positive bounded]

/-- Over several lines they are counted in the bytes of the first one. -/
theorem markCount_behind {start stop : Position} {line : List Char} {width : Nat}
    (behind : start.line < stop.line) (bytes : byteLength line + 1 = start.column + width)
    (positive : 0 < width) (bounded : width < Numeral.power 2 63) :
    markCount start.toPoint stop.toPoint line = width := by
  have later : start.toPoint.line < stop.toPoint.line := Int.ofNat_lt.mpr behind
  have distance : (byteLength line : Int) - start.toPoint.column + 1 = width := by
    simp only [Position.toPoint]
    omega
  rw [markCount, if_neg (by simp [later.ne']), if_pos later, distance,
    markRow_natCast positive bounded]

/-- There is a mark for each character of the stretch on its first line. If it goes on behind the
line, there is one more for each byte that a character of the line takes beyond its first. -/
theorem markCount_of_covers (covers : span.Covers text front part back)
    (nonempty : Text.firstLine part ≠ []) (bounded : text.utf8ByteSize < Numeral.power 2 63) :
    markCount span.start.toPoint span.stop.toPoint
        (Text.lastLine front ++ Text.firstLine (part ++ back)) =
      (Text.firstLine part).length + if span.stop.line = span.start.line then 0 else
        surplus (Text.lastLine front ++ Text.firstLine part) := by
  have fits := byteLength_le_of_isInfix (isInfix_line covers.whole)
  have positive := List.length_pos_of_ne_nil nonempty
  have startLine : span.start.line = front.count '\n' + 1 := by
    rw [covers.start, Position.line_advance]
  have stopLine : span.stop.line = span.start.line + part.count '\n' := by
    rw [covers.stop, Position.line_advance, startLine, List.count_append]
    omega
  have startColumn : span.start.column = (Text.lastLine front).length + 1 := by
    rw [covers.start, Position.column_advance]
  by_cases feed : '\n' ∈ part
  · have later : span.start.line < span.stop.line := by
      have some := List.count_pos_iff.mpr feed
      omega
    rw [Text.firstLine_append_feed feed, byteLength_eq, List.length_append] at fits
    rw [Text.firstLine_append_feed feed, if_neg later.ne']
    refine markCount_behind later ?_ (by omega) (by omega)
    rw [byteLength_eq, List.length_append, startColumn]
    omega
  · have within : span.stop.line = span.start.line := by
      rw [stopLine, List.count_eq_zero_of_not_mem feed, Nat.add_zero]
    have wholePart : Text.firstLine part = part := by
      simpa [Text.firstLine] using Text.firstLine_append feed []
    have stopColumn : span.stop.column = span.start.column + part.length := by
      rw [covers.stop, Position.column_advance, Text.lastLine_append front feed, startColumn,
        List.length_append]
      omega
    rw [Text.firstLine_append feed, byteLength_eq, List.length_append, List.length_append] at fits
    rw [wholePart] at positive
    rw [wholePart, if_pos within, Nat.add_zero]
    exact markCount_within within stopColumn positive (by omega)

/-- What a label with a place and a source line shows: both of them, and below the line a row of
marks behind some spaces. -/
def shown (severity : Severity) (label : Label) (file : String) (start : Point)
    (line : List Char) (indent marks : Nat) : String :=
  let margin := spaces (toString start.line).length
  let row := String.ofList (List.replicate marks (markChar label.style))
  Style.blue.paint (margin ++ "--> " ++ file ++ ":" ++ start.renderShort ++ "\n") ++
    (margin ++ Style.grey.paintLine " |" ++
      Style.grey.paint (toString start.line ++ " | ") ++ String.ofList line ++ "\n" ++
      margin ++ Style.grey.paint " | " ++ spaces indent ++
      (markStyle severity label.style).paint (row ++ " " ++ label.message) ++ "\n")

theorem label_eq_shown {sources : Sources} {label : Label} {file : String} {line : List Char}
    (severity : Severity) (located : label.location = some (span.inFile file))
    (known : sources.line? file span.start.line = some line) :
    Listing.label sources severity label =
      shown severity label file span.start.toPoint line (span.start.column - 1)
        (markCount span.start.toPoint span.stop.toPoint line) := by
  have indent : (span.start.toPoint.column - 1).toNat = span.start.column - 1 := by
    simp only [Position.toPoint]
    omega
  have fileName : Location.fileName label.location = file := by
    rw [located]
    rfl
  have place : label.location.bind (·.start) = some span.start.toPoint := by
    rw [located]
    rfl
  have stop : label.location.bind (·.stop) = some span.stop.toPoint := by
    rw [located]
    rfl
  have found : sources.line? file span.start.toPoint.line = some line := known
  simp only [Listing.label, place, stop, fileName, found, Option.getD_some, underlined, shown, indent]

/-- A label at a datum of a text shows the line that the datum starts on, and below the part of the
datum on this line, which is not empty, a row of marks. It is as long as that part unless the datum
goes on behind the line and there are characters of several bytes in it. -/
theorem label_of_datum {sources : Sources} {label : Label} {file : String} {data : List Datum}
    {entry : Nat × Datum} (severity : Severity) (read : Datum.readAll text = .ok data)
    (inside : entry ∈ Datum.walkAll 0 data) (known : sources.text? file = some text)
    (located : label.location = some (entry.2.span.inFile file))
    (bounded : text.utf8ByteSize < Numeral.power 2 63) :
    ∃ front part back marks, entry.2.span.Covers text front part back ∧
      Text.firstLine part ≠ [] ∧
      Listing.label sources severity label =
        shown severity label file entry.2.span.start.toPoint
          (Text.lastLine front ++ Text.firstLine (part ++ back)) (entry.2.span.start.column - 1)
          marks ∧
      entry.2.span.start.column - 1 = (Text.lastLine front).length ∧ 0 < marks ∧
      (marks = (Text.firstLine part).length ↔ entry.2.span.stop.line = entry.2.span.start.line ∨
        ∀ c ∈ Text.lastLine front ++ Text.firstLine part, c.utf8Size = 1) := by
  obtain ⟨front, part, back, covers, nonempty⟩ := Datum.covers_of_mem read inside
  have positive := List.length_pos_of_ne_nil nonempty
  have marks := markCount_of_covers covers nonempty bounded
  refine ⟨front, part, back, _, covers, nonempty,
    label_eq_shown severity located (line?_of_covers known covers), ?_, ?_, ?_⟩
  · rw [covers.start, Position.column_advance, Nat.add_sub_cancel]
  · omega
  · rw [marks, ← surplus_eq_zero_iff]
    split
    · rename_i within
      simp [within]
    · rename_i behind
      simp [behind]

/-- The marks below an atom with a character of two bytes begin below it. -/
theorem label_of_datum_symbol : ∃ line marks, 0 < marks ∧
    Listing.label ⟨[("a", "(é\n)")], ⟨[]⟩⟩ .error
        ⟨some (Span.inFile ⟨⟨1, 2, 1⟩, ⟨1, 3, 3⟩⟩ "a"), "here", .primary⟩ =
      shown .error ⟨some (Span.inFile ⟨⟨1, 2, 1⟩, ⟨1, 3, 3⟩⟩ "a"), "here", .primary⟩ "a" ⟨1, 2, 1⟩
        line 1 marks := by
  have read : Datum.readAll "(é\n)" =
      .ok [.list [.symbol "é" ⟨⟨1, 2, 1⟩, ⟨1, 3, 3⟩⟩] ⟨⟨1, 1, 0⟩, ⟨2, 2, 5⟩⟩] :=
    Datum.readAll_chars (by rfl)
  have inside : (1, .symbol "é" ⟨⟨1, 2, 1⟩, ⟨1, 3, 3⟩⟩) ∈ Datum.walkAll 0
      [.list [.symbol "é" ⟨⟨1, 2, 1⟩, ⟨1, 3, 3⟩⟩] ⟨⟨1, 1, 0⟩, ⟨2, 2, 5⟩⟩] := .tail _ (.head _)
  have known : Sources.text? ⟨[("a", "(é\n)")], ⟨[]⟩⟩ "a" = some "(é\n)" := rfl
  have located : Label.location
      ⟨some (Span.inFile ⟨⟨1, 2, 1⟩, ⟨1, 3, 3⟩⟩ "a"), "here", .primary⟩ =
        some (Span.inFile ⟨⟨1, 2, 1⟩, ⟨1, 3, 3⟩⟩ "a") := rfl
  obtain ⟨front, part, back, marks, -, -, shows, -, positive, -⟩ :=
    label_of_datum .error read inside known located (by decide)
  exact ⟨_, marks, positive, shows⟩

/-- A list of two characters on its first line is underlined by three marks, since one of them takes
two bytes and the list goes on behind the line. -/
theorem list_underlined_beyond :
    Datum.readAll "(é\n)" =
        .ok [.list [.symbol "é" ⟨⟨1, 2, 1⟩, ⟨1, 3, 3⟩⟩] ⟨⟨1, 1, 0⟩, ⟨2, 2, 5⟩⟩] ∧
      Span.Covers ⟨⟨1, 1, 0⟩, ⟨2, 2, 5⟩⟩ "(é\n)" [] ['(', 'é', '\n', ')'] [] ∧
      Text.firstLine ['(', 'é', '\n', ')'] = ['(', 'é'] ∧
      Listing.label ⟨[("a", "(é\n)")], ⟨[]⟩⟩ .error
          ⟨some (Span.inFile ⟨⟨1, 1, 0⟩, ⟨2, 2, 5⟩⟩ "a"), "here", .primary⟩ =
        shown .error ⟨some (Span.inFile ⟨⟨1, 1, 0⟩, ⟨2, 2, 5⟩⟩ "a"), "here", .primary⟩ "a" ⟨1, 1, 0⟩
          ['(', 'é'] 0 3 := by
  have marks : markCount ⟨1, 1, 0⟩ ⟨2, 2, 5⟩ ['(', 'é'] = 3 := by decide
  refine ⟨Datum.readAll_chars (by rfl), ⟨by decide, by decide, by decide⟩, by decide, ?_⟩
  rw [label_eq_shown .error rfl rfl]
  exact congrArg _ marks

end Listing
end UnitCheck
