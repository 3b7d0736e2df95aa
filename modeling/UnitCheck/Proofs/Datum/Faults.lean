import Mathlib.Order.Nat
import UnitCheck.Datum.Reader

/-!
# Which texts are data

Whether a text reads as data is decided by its quotes and parentheses alone: strings must
be closed, and the parentheses outside of strings and comments must balance. The first
breach, from left to right, is the one that is reported (`readAll_faults`). Regions and
counts of parentheses stand for the text here; tokens and the stack take no part in the
statement.
-/

namespace UnitCheck.Datum

/-! ### Regions and parentheses -/

/-- Where a character of a text stands. -/
inductive Region where
  | outside
  | comment
  | string
  /-- Behind a backslash in a string. -/
  | escape
deriving Repr, DecidableEq

namespace Region

/-- The region behind a character. -/
def after (region : Region) (c : Char) : Region :=
  match region with
  | .outside => if c = '"' then .string else if c = ';' then .comment else .outside
  | .comment => if c = '\n' then .outside else .comment
  | .string => if c = '"' then .outside else if c = '\\' then .escape else .string
  | .escape => .string

/-- The region behind a text that starts in a region. -/
def behind (region : Region) (text : List Char) : Region := text.foldl after region

/-- Whether the region belongs to a string. -/
def inString : Region -> Bool
  | .string | .escape => true
  | .outside | .comment => false

theorem behind_cons (region : Region) (c : Char) (rest : List Char) :
    region.behind (c :: rest) = (region.after c).behind rest := rfl

theorem behind_append (region : Region) (first second : List Char) :
    region.behind (first ++ second) = (region.behind first).behind second :=
  List.foldl_append

end Region

/-- The parentheses of a text outside of strings and comments, in order. -/
def parens (region : Region) : List Char -> List Char
  | [] => []
  | c :: rest =>
    if region = .outside ∧ (c = '(' ∨ c = ')') then c :: parens .outside rest
    else parens (region.after c) rest

theorem parens_append (region : Region) (first second : List Char) :
    parens region (first ++ second) = parens region first ++ parens (region.behind first) second := by
  induction first generalizing region with
  | nil => rfl
  | cons c rest inductionHypothesis =>
    simp only [List.cons_append, parens, Region.behind_cons]
    split
    · rename_i isParen
      obtain ⟨rfl, rfl | rfl⟩ := isParen <;> simp [inductionHypothesis, Region.after]
    · exact inductionHypothesis _

/-- How many lists the text opens. -/
def openers (text : List Char) : Nat := (parens .outside text).count '('

/-- How many lists the text closes. -/
def closers (text : List Char) : Nat := (parens .outside text).count ')'

/-- Every string of the text is closed. -/
def StringsClosed (text : List Char) : Prop :=
  (Region.outside.behind text).inString = false

/-- No prefix of the text closes more lists than it opens. -/
def Supported (text : List Char) : Prop :=
  ∀ front, front <+: text → closers front ≤ openers front

/-- The parentheses of the text are balanced. -/
structure Balanced (text : List Char) : Prop where
  supported : Supported text
  even : closers text = openers text

/-- The first breach in a text, from left to right: a parenthesis that closes no list, the
quote that opens a string without end, or, at the end of the text, the parenthesis of the
innermost list that is still open. -/
inductive FirstFault (text : List Char) : ReadError -> Prop where
  | close {front rest : List Char} (split : text = front ++ ')' :: rest)
      (outside : Region.outside.behind front = .outside) (balanced : Balanced front) :
      FirstFault text (.unexpectedClose (Position.start.advance front))
  | string {front rest : List Char} (split : text = front ++ '"' :: rest)
      (outside : Region.outside.behind front = .outside) (supported : Supported front)
      (unclosed : ∀ part, part <+: rest → (Region.string.behind part).inString = true) :
      FirstFault text (.unterminatedString (Position.start.advance front))
  | list {front rest : List Char} (split : text = front ++ '(' :: rest)
      (outside : Region.outside.behind front = .outside) (closed : StringsClosed text)
      (supported : Supported text) (innermost : Balanced rest) :
      FirstFault text (.unterminatedList (Position.start.advance front))

/-! ### Counting parentheses -/

section Counting

variable {front rest text : List Char} {c : Char}

theorem openers_append (outside : Region.outside.behind front = .outside) (rest : List Char) :
    openers (front ++ rest) = openers front + openers rest := by
  rw [openers, parens_append, outside, List.count_append]
  rfl

theorem closers_append (outside : Region.outside.behind front = .outside) (rest : List Char) :
    closers (front ++ rest) = closers front + closers rest := by
  rw [closers, parens_append, outside, List.count_append]
  rfl

theorem openers_open (rest : List Char) : openers ('(' :: rest) = openers rest + 1 := by
  simp [openers, parens]

theorem closers_open (rest : List Char) : closers ('(' :: rest) = closers rest := by
  simp [closers, parens]

theorem openers_close (rest : List Char) : openers (')' :: rest) = openers rest := by
  simp [openers, parens]

theorem closers_close (rest : List Char) : closers (')' :: rest) = closers rest + 1 := by
  simp [closers, parens]

/-- A character that is no parenthesis of the text. -/
def Neutral (text : List Char) (c : Char) : Prop :=
  ¬(Region.outside.behind text = .outside ∧ (c = '(' ∨ c = ')'))

theorem Neutral.parens (neutral : Neutral text c) :
    parens .outside (text ++ [c]) = Datum.parens .outside text := by
  rw [parens_append]
  have none : Datum.parens (Region.outside.behind text) [c] = [] := by
    rw [Datum.parens, if_neg neutral]
    rfl
  rw [none, List.append_nil]

/-- A prefix of two texts in a row lies in the first or goes on into the second. -/
theorem prefix_append_cases {part first second : List Char} (isPrefix : part <+: first ++ second) :
    part <+: first ∨ ∃ more, more <+: second ∧ part = first ++ more := by
  obtain ⟨tail, whole⟩ := isPrefix
  obtain ⟨more, rfl, rfl⟩ | ⟨more, rfl, rfl⟩ := List.append_eq_append_iff.mp whole
  · exact .inl ⟨more, rfl⟩
  · exact .inr ⟨more, List.prefix_append .., rfl⟩

theorem Supported.take (supported : Supported (front ++ rest)) : Supported front :=
  fun part isPrefix => supported part (isPrefix.trans (List.prefix_append ..))

theorem Supported.append (supported : Supported front)
    (outside : Region.outside.behind front = .outside)
    (enough : ∀ part, part <+: rest → closers front + closers part ≤ openers front + openers part) :
    Supported (front ++ rest) := by
  intro part isPrefix
  obtain within | ⟨more, isMore, rfl⟩ := prefix_append_cases isPrefix
  · exact supported part within
  · rw [openers_append outside, closers_append outside]
    exact enough more isMore

theorem Supported.concat (supported : Supported text)
    (enough : closers (text ++ [c]) ≤ openers (text ++ [c])) : Supported (text ++ [c]) := by
  intro part isPrefix
  obtain rfl | within := List.prefix_concat_iff.mp isPrefix
  · exact enough
  · exact supported part within

theorem Balanced.nil : Balanced [] :=
  ⟨fun part isPrefix => by rw [List.prefix_nil.mp isPrefix]; exact le_refl _, rfl⟩

theorem Balanced.concat (balanced : Balanced text) (neutral : Neutral text c) :
    Balanced (text ++ [c]) := by
  have even : closers (text ++ [c]) = openers (text ++ [c]) := by
    rw [closers, openers, neutral.parens]
    exact balanced.even
  exact ⟨balanced.supported.concat even.le, even⟩

/-- A balanced list behind a balanced text. -/
theorem Balanced.group (balanced : Balanced front)
    (outside : Region.outside.behind front = .outside) (inner : Balanced rest)
    (isClosed : Region.outside.behind rest = .outside) :
    Balanced (front ++ '(' :: rest ++ [')']) := by
  have behindOpen : Region.outside.behind ('(' :: rest) = .outside := isClosed
  have opened : Supported ('(' :: rest) := by
    intro part isPrefix
    obtain rfl | ⟨part, rfl, within⟩ := List.prefix_cons_iff.mp isPrefix
    · exact le_refl _
    · rw [openers_open, closers_open]
      exact (inner.supported part within).trans (Nat.le_succ _)
  have closing : closers ('(' :: rest ++ [')']) = openers ('(' :: rest ++ [')']) := by
    rw [openers_append behindOpen, closers_append behindOpen, openers_open, closers_open,
      openers_close, closers_close, inner.even]
    rfl
  have group := opened.concat closing.le
  rw [List.append_assoc]
  refine ⟨balanced.supported.append outside fun part isPrefix => ?_, ?_⟩
  · exact Nat.add_le_add balanced.even.le (group part isPrefix)
  · rw [openers_append outside, closers_append outside, balanced.even, closing]

end Counting

/-! ### Lists still open -/

/-- The places of the parentheses without counterpart, the innermost first. -/
inductive Unclosed : List Char -> List Position -> Prop where
  | none {text : List Char} (balanced : Balanced text) : Unclosed text []
  | inner {front rest : List Char} {outer : List Position} (unclosed : Unclosed front outer)
      (outside : Region.outside.behind front = .outside) (balanced : Balanced rest) :
      Unclosed (front ++ '(' :: rest) (Position.start.advance front :: outer)

namespace Unclosed

variable {text : List Char} {places : List Position} {c : Char}

/-- With lists open, there are no closing parentheses too many. -/
theorem supported (unclosed : Unclosed text places) : Supported text := by
  induction unclosed with
  | none balanced => exact balanced.supported
  | inner _ outside balanced inductionHypothesis =>
    refine inductionHypothesis.append outside fun part isPrefix => ?_
    have enough := inductionHypothesis _ (List.prefix_refl _)
    obtain rfl | ⟨part, rfl, within⟩ := List.prefix_cons_iff.mp isPrefix
    · exact enough
    · have inside := balanced.supported part within
      rw [openers_open, closers_open]
      omega

/-- Each place stands for one list that is not closed. -/
theorem count (unclosed : Unclosed text places) : openers text = closers text + places.length := by
  induction unclosed with
  | none balanced => exact balanced.even.symm
  | inner _ outside balanced inductionHypothesis =>
    have even := balanced.even
    rw [openers_append outside, closers_append outside, openers_open, closers_open,
      inductionHypothesis, List.length_cons]
    omega

/-- The region behind the innermost parenthesis is that of what follows it. -/
theorem region {front rest : List Char} (outside : Region.outside.behind front = .outside) :
    Region.outside.behind (front ++ '(' :: rest) = Region.outside.behind rest := by
  rw [Region.behind_append, outside]
  rfl

/-- What is no parenthesis opens and closes nothing. -/
theorem skip (unclosed : Unclosed text places) (neutral : Neutral text c) :
    Unclosed (text ++ [c]) places := by
  cases unclosed with
  | none balanced => exact .none (balanced.concat neutral)
  | inner unclosed outside balanced =>
    rw [Neutral, region outside] at neutral
    rw [List.append_assoc]
    exact .inner unclosed outside (balanced.concat neutral)

/-- An opening parenthesis opens a list. -/
theorem opening (unclosed : Unclosed text places)
    (outside : Region.outside.behind text = .outside) :
    Unclosed (text ++ ['(']) (Position.start.advance text :: places) :=
  .inner unclosed outside .nil

/-- A closing parenthesis closes the innermost list. -/
theorem closing {place : Position} (unclosed : Unclosed text (place :: places))
    (isOutside : Region.outside.behind text = .outside) : Unclosed (text ++ [')']) places := by
  cases unclosed with
  | inner unclosed outside balanced =>
    rw [region outside] at isOutside
    cases unclosed with
    | none before => exact .none (before.group outside balanced isOutside)
    | inner unclosed outer before =>
      rw [region outer] at outside
      have grouped := before.group outside balanced isOutside
      simpa using unclosed.inner outer grouped

end Unclosed

/-! ### The reader -/

open Token (Mode next openWith scan finish endsAtom)

/-- Where the reader takes itself to be. Between tokens and in an atom it is outside. -/
def region : Mode -> Region
  | .gap | .atom _ _ => .outside
  | .comment => .comment
  | .string _ _ => .string
  | .escape _ _ => .escape

namespace Stack

/-- Where the lists still open start, the innermost first. -/
def places (stack : Stack) : List Position := stack.lists.map (·.start)

/-- What several tokens do to the stack in turn. -/
def addAll (stack : Stack) : List Token -> Except ReadError Stack
  | [] => .ok stack
  | token :: rest =>
    match stack.add token with
    | .ok stack => addAll stack rest
    | .error error => .error error

theorem assemble_append (stack : Stack) (first second : List Token) :
    stack.assemble (first ++ second) =
      match stack.addAll first with
      | .ok stack => stack.assemble second
      | .error error => .error error := by
  induction first generalizing stack with
  | nil => rfl
  | cons token rest inductionHypothesis =>
    simp only [List.cons_append, assemble, addAll]
    cases stack.add token with
    | ok after => exact inductionHypothesis after
    | error error => rfl

theorem places_push (stack : Stack) (datum : Datum) : (stack.push datum).places = stack.places := by
  obtain ⟨lists, read⟩ := stack
  cases lists <;> rfl

theorem add_ofAtom (stack : Stack) (text : List Char) (span : Span) :
    ∃ after, stack.add (Token.ofAtom text span) = .ok after ∧ after.places = stack.places := by
  unfold Token.ofAtom
  split <;> exact ⟨_, rfl, places_push ..⟩

/-- What the tokens that a character completes do to the lists still open, by the region
in which the character stands. -/
inductive Moves (stack : Stack) (point : Position) (region : Region) (c : Char) :
    Except ReadError Stack -> Prop where
  | opening {after : Stack} (outside : region = .outside) (isOpen : c = '(')
      (places : after.places = point :: stack.places) : Moves stack point region c (.ok after)
  | closing {after : Stack} {place : Position} (outside : region = .outside) (isClose : c = ')')
      (places : stack.places = place :: after.places) : Moves stack point region c (.ok after)
  | refused (outside : region = .outside) (isClose : c = ')') (none : stack.places = []) :
      Moves stack point region c (.error (.unexpectedClose point))
  | neutral {after : Stack} (other : ¬(region = .outside ∧ (c = '(' ∨ c = ')')))
      (places : after.places = stack.places) : Moves stack point region c (.ok after)

/-- What a character does between tokens. -/
theorem moves_openWith (stack : Stack) (point : Position) (c : Char) :
    Moves stack point .outside c (stack.addAll (openWith point c).1) := by
  by_cases isOpen : c = '('
  · subst isOpen
    exact .opening rfl rfl rfl
  by_cases isClose : c = ')'
  · subst isClose
    obtain ⟨lists, read⟩ := stack
    cases lists with
    | nil => exact .refused rfl rfl rfl
    | cons inner outer =>
      refine .closing rfl rfl (?_ : _ = inner.start :: _)
      rw [places_push]
      rfl
  · have nothing : (openWith point c).1 = [] := by
      unfold openWith
      split_ifs <;> rfl
    rw [nothing]
    exact .neutral (by simp [isOpen, isClose]) rfl

/-- What a character does in any mode. -/
theorem moves_next (stack : Stack) (mode : Mode) (point : Position) (c : Char) :
    Moves stack point (region mode) c (stack.addAll (next mode point c).1) := by
  cases mode with
  | gap => exact moves_openWith stack point c
  | comment =>
    have nothing : (next .comment point c).1 = [] := by
      simp only [next]
      split <;> rfl
    rw [nothing]
    exact .neutral (by simp [region]) rfl
  | atom start read =>
    by_cases ends : endsAtom c = true
    · obtain ⟨middle, added, same⟩ := stack.add_ofAtom read.reverse ⟨start, point⟩
      have opened := middle.moves_openWith point c
      simp only [next, ends, if_true, addAll, added]
      generalize middle.addAll (openWith point c).1 = outcome at opened
      cases opened with
      | opening outside isOpen places => exact .opening outside isOpen (same ▸ places)
      | closing outside isClose places => exact .closing outside isClose (same ▸ places)
      | refused outside isClose none => exact .refused outside isClose (same ▸ none)
      | neutral other places => exact .neutral other (same ▸ places)
    · have isParen : ¬(c = '(' ∨ c = ')') := by
        rintro (rfl | rfl) <;> exact ends (by decide)
      have nothing : (next (.atom start read) point c).1 = [] := by simp [next, ends]
      rw [nothing]
      exact .neutral (fun paren => isParen paren.2) rfl
  | string start read =>
    simp only [next]
    split_ifs
    · exact .neutral (by simp [region]) (places_push ..)
    · exact .neutral (by simp [region]) rfl
    · exact .neutral (by simp [region]) rfl
  | escape start read => exact .neutral (by simp [region]) rfl

/-- What the end of the text outside of strings does. -/
theorem places_finish (stack : Stack) {mode : Mode} (point : Position)
    (outside : (region mode).inString = false) :
    ∃ after, stack.addAll (finish mode point) = .ok after ∧ after.places = stack.places := by
  cases mode with
  | gap | comment => exact ⟨stack, rfl, rfl⟩
  | atom start read =>
    obtain ⟨after, added, same⟩ := stack.add_ofAtom read.reverse ⟨start, point⟩
    exact ⟨after, by simp [finish, addAll, added], same⟩
  | string | escape => cases outside

end Stack

/-- The reader keeps to the region in which the text is. -/
theorem region_next (mode : Mode) (point : Position) (c : Char) :
    region (next mode point c).2 = (region mode).after c := by
  have opened : region (openWith point c).2 = Region.outside.after c := by
    by_cases isQuote : c = '"'
    · subst isQuote
      rfl
    by_cases opens : c = ';'
    · subst opens
      rfl
    · unfold openWith
      split_ifs <;> simp [region, Region.after, isQuote, opens]
  cases mode with
  | gap => exact opened
  | comment =>
    by_cases ends : c = '\n' <;> simp [next, region, Region.after, ends]
  | atom start read =>
    by_cases ends : endsAtom c = true
    · simp only [next, ends, if_true]
      exact opened
    · have other : c ≠ '"' ∧ c ≠ ';' := by
        constructor <;> rintro rfl <;> exact ends (by decide)
      simp [next, ends, region, Region.after, other]
  | string start read =>
    simp only [next, Region.after, region]
    split_ifs <;> rfl
  | escape start read => rfl

/-- The text ends in a string that starts at the place. -/
def EndsInString (text : List Char) (place : Position) : Prop :=
  ∃ front rest, text = front ++ '"' :: rest ∧ Region.outside.behind front = .outside ∧
    place = Position.start.advance front ∧
    ∀ part, part <+: rest → (Region.string.behind part).inString = true

namespace EndsInString

variable {text : List Char} {place : Position} {c : Char}

theorem opening (outside : Region.outside.behind text = .outside) :
    EndsInString (text ++ ['"']) (Position.start.advance text) := by
  refine ⟨text, [], rfl, outside, rfl, fun part isPrefix => ?_⟩
  rw [List.prefix_nil.mp isPrefix]
  rfl

theorem more (inside : EndsInString text place)
    (stays : (Region.outside.behind (text ++ [c])).inString = true) :
    EndsInString (text ++ [c]) place := by
  obtain ⟨front, rest, rfl, outside, rfl, unclosed⟩ := inside
  refine ⟨front, rest ++ [c], by simp, outside, rfl, fun part isPrefix => ?_⟩
  obtain rfl | within := List.prefix_concat_iff.mp isPrefix
  · have region : Region.outside.behind (front ++ '"' :: rest ++ [c]) =
        Region.string.behind (rest ++ [c]) := by
      rw [List.append_assoc, Region.behind_append, outside]
      rfl
    rwa [region] at stays
  · exact unclosed part within

end EndsInString

/-- Where the string being read starts. -/
def opened? : Mode -> Option Position
  | .string start _ | .escape start _ => some start
  | .gap | .comment | .atom _ _ => none

/-- A string being read has been opened by the last character or before it. -/
theorem opened?_next {mode : Mode} {point start : Position} {c : Char}
    (opened : opened? (next mode point c).2 = some start) :
    (region mode = .outside ∧ c = '"' ∧ start = point) ∨ opened? mode = some start := by
  have opening (opened : opened? (openWith point c).2 = some start) : c = '"' ∧ start = point := by
    unfold openWith at opened
    split_ifs at opened with _ _ _ _ isQuote <;> cases opened
    exact ⟨isQuote, rfl⟩
  cases mode with
  | gap => exact .inl ⟨rfl, opening opened⟩
  | comment =>
    simp only [next] at opened
    split at opened <;> cases opened
  | atom first read =>
    simp only [next] at opened
    split at opened
    · exact .inl ⟨rfl, opening opened⟩
    · cases opened
  | string first read =>
    simp only [next] at opened
    split_ifs at opened
    · cases opened
    · exact .inr opened
    · exact .inr opened
  | escape first read => exact .inr opened

theorem inString_of_opened? {mode : Mode} {start : Position} (opened : opened? mode = some start) :
    (region mode).inString = true := by
  cases mode <;> first | rfl | cases opened

/-- The reader has come to the end of a text without finding a fault. -/
structure Reached (text : List Char) (mode : Mode) (stack : Stack) : Prop where
  region : Datum.region mode = Region.outside.behind text
  unclosed : Unclosed text stack.places
  string : ∀ start, opened? mode = some start → EndsInString text start

namespace Reached

variable {text : List Char} {mode : Mode} {stack after : Stack}

theorem start : Reached [] .gap Stack.empty :=
  ⟨rfl, .none .nil, fun _ opened => by cases opened⟩

/-- One more character without a fault. -/
theorem step (reached : Reached text mode stack) {c : Char} {places : List Position}
    (unclosed : Unclosed (text ++ [c]) places) (same : after.places = places) :
    Reached (text ++ [c]) (next mode (Position.start.advance text) c).2 after := by
  have region : Datum.region (next mode (Position.start.advance text) c).2 =
      Region.outside.behind (text ++ [c]) := by
    rw [region_next, reached.region, Region.behind_append]
    rfl
  refine ⟨region, same ▸ unclosed, fun start opened => ?_⟩
  obtain ⟨outside, rfl, rfl⟩ | before := opened?_next opened
  · exact .opening (reached.region.symm.trans outside)
  · refine (reached.string start before).more ?_
    rw [← region]
    exact inString_of_opened? opened

/-- What the end of the text brings. -/
theorem finish (reached : Reached text mode stack) :
    (∃ data, stack.assemble (Token.finish mode (Position.start.advance text)) = .ok data ∧
      StringsClosed text ∧ Balanced text) ∨
    ∃ error, stack.assemble (Token.finish mode (Position.start.advance text)) = .error error ∧
      FirstFault text error := by
  by_cases inString : (Datum.region mode).inString = true
  · have faulty (start : Position) (opened : opened? mode = some start) :
        FirstFault text (.unterminatedString start) := by
      obtain ⟨front, rest, split, outside, rfl, unclosed⟩ := reached.string start opened
      subst split
      exact .string rfl outside reached.unclosed.supported.take unclosed
    cases mode with
    | string start read | escape start read => exact .inr ⟨_, rfl, faulty start rfl⟩
    | gap | comment | atom => cases inString
  · have closed : StringsClosed text := by
      unfold StringsClosed
      rw [← reached.region]
      simpa using inString
    obtain ⟨after, added, same⟩ := stack.places_finish (Position.start.advance text)
      (by simpa using inString)
    have unclosed := reached.unclosed
    have outcome := stack.assemble_append (Token.finish mode (Position.start.advance text)) []
    rw [List.append_nil, added] at outcome
    rw [outcome]
    rw [← same] at unclosed
    obtain ⟨lists, read⟩ := after
    cases lists with
    | nil =>
      cases unclosed with
      | none balanced => exact .inl ⟨_, rfl, closed, balanced⟩
    | cons innermost outer =>
      refine .inr ⟨.unterminatedList innermost.start, rfl, ?_⟩
      have supported := unclosed.supported
      have isOpen : Unclosed text (innermost.start :: outer.map (·.start)) := unclosed
      generalize places : innermost.start :: outer.map (·.start) = unclosedPlaces at isOpen
      cases isOpen with
      | none => cases places
      | inner _ outside balanced =>
        rw [(List.cons.inj places).1]
        exact .list rfl outside closed supported balanced

end Reached

/-- From where the reader is without a fault, it gets to the end or finds the first fault. -/
theorem assemble_scan (rest : List Char) {text : List Char} {mode : Mode} {stack : Stack}
    (reached : Reached text mode stack) :
    (∃ data, stack.assemble (scan mode (Position.start.advance text) rest) = .ok data ∧
      StringsClosed (text ++ rest) ∧ Balanced (text ++ rest)) ∨
    ∃ error, stack.assemble (scan mode (Position.start.advance text) rest) = .error error ∧
      FirstFault (text ++ rest) error := by
  induction rest generalizing text mode stack with
  | nil =>
    rw [List.append_nil]
    exact reached.finish
  | cons c rest inductionHypothesis =>
    have moves := stack.moves_next mode (Position.start.advance text) c
    rw [scan, Stack.assemble_append, List.append_cons]
    have point : (Position.start.advance text).step c = Position.start.advance (text ++ [c]) := by
      rw [Position.advance_append]
      rfl
    rw [point]
    generalize stack.addAll (next mode (Position.start.advance text) c).1 = outcome at moves
    rw [reached.region] at moves
    cases moves with
    | opening outside isOpen places =>
      subst isOpen
      exact inductionHypothesis (reached.step (reached.unclosed.opening outside) places)
    | closing outside isClose places =>
      subst isClose
      have unclosed := reached.unclosed
      rw [places] at unclosed
      exact inductionHypothesis (reached.step (unclosed.closing outside) rfl)
    | neutral other places =>
      exact inductionHypothesis (reached.step (reached.unclosed.skip other) places)
    | refused outside isClose none =>
      subst isClose
      have unclosed := reached.unclosed
      rw [none] at unclosed
      cases unclosed with
      | none balanced => exact .inr ⟨_, rfl, .close (List.append_cons ..).symm outside balanced⟩

/-! ### There is only one first fault -/

section Faults

variable {text front rest part : List Char}

/-- Where a list is closed that was not opened, no supported text goes on. -/
theorem not_supported_close (balanced : Balanced front)
    (outside : Region.outside.behind front = .outside) (isPrefix : front ++ [')'] <+: part) :
    ¬Supported part := by
  intro supported
  have enough := supported _ isPrefix
  rw [openers_append outside, closers_append outside, openers_close, closers_close,
    balanced.even] at enough
  exact absurd enough (by simp [openers, closers, parens])

/-- A string without end never ends. -/
theorem not_outside_string (outside : Region.outside.behind front = .outside)
    (unclosed : ∀ part, part <+: rest → (Region.string.behind part).inString = true)
    (isPrefix : front ++ ['"'] <+: part) (isPart : part <+: front ++ '"' :: rest) :
    (Region.outside.behind part).inString = true := by
  obtain ⟨more, rfl⟩ := isPrefix
  rw [List.append_assoc] at isPart ⊢
  have within : more <+: rest := by
    have inner := (List.prefix_append_right_inj front).mp isPart
    exact (List.prefix_cons_inj '"').mp inner
  rw [Region.behind_append, outside]
  exact unclosed more within

/-- Behind an open list with nothing open inside, no list inside is open. -/
theorem not_open_inside (balanced : Balanced (part ++ '(' :: rest))
    (outside : Region.outside.behind part = .outside) : ¬Balanced rest := by
  intro inner
  have even := balanced.even
  have before := balanced.supported.take part (List.prefix_refl part)
  rw [openers_append outside, closers_append outside, openers_open, closers_open,
    inner.even] at even
  omega

/-- A text with a fault has strings without end, or its parentheses are not balanced. -/
theorem FirstFault.not_data {error : ReadError} (fault : FirstFault text error) :
    ¬(StringsClosed text ∧ Balanced text) := by
  rintro ⟨closed, whole⟩
  cases fault with
  | @close front rest split outside balanced =>
    refine not_supported_close balanced outside ⟨rest, ?_⟩ whole.supported
    rw [split, List.append_assoc]
    rfl
  | @string front rest split outside supported unclosed =>
    have opens : front ++ ['"'] <+: text := ⟨rest, by rw [split, List.append_assoc]; rfl⟩
    have isPart : text <+: front ++ '"' :: rest := split ▸ List.prefix_refl _
    have inside := not_outside_string outside unclosed opens isPart
    rw [closed] at inside
    cases inside
  | list split outside _ _ innermost =>
    subst split
    exact not_open_inside whole outside innermost

/-- Two places where a text is split are the same, or one lies behind the other. -/
theorem compare_splits {other behind : List Char} {c d : Char}
    (same : front ++ c :: rest = other ++ d :: behind) :
    front = other ∧ c = d ∨ front ++ [c] <+: other ∨ other ++ [d] <+: front := by
  obtain ⟨more, rfl, eq⟩ | ⟨more, rfl, eq⟩ := List.append_eq_append_iff.mp same
  · cases more with
    | nil =>
      cases eq
      exact .inl ⟨(List.append_nil front).symm, rfl⟩
    | cons first more =>
      cases eq
      exact .inr (.inl ⟨more, by simp⟩)
  · cases more with
    | nil =>
      cases eq
      exact .inl ⟨List.append_nil other, rfl⟩
    | cons first more =>
      cases eq
      exact .inr (.inr ⟨more, by simp⟩)

/-- No list is innermost behind another one that is. -/
theorem not_innermost_behind {other behind : List Char} (split : text = front ++ '(' :: rest)
    (splitOther : text = other ++ '(' :: behind)
    (outside : Region.outside.behind front = .outside)
    (outsideOther : Region.outside.behind other = .outside) (balanced : Balanced rest)
    (balancedOther : Balanced behind) : ¬front ++ ['('] <+: other := by
  rintro ⟨more, rfl⟩
  have inner : rest = more ++ '(' :: behind := by
    have same := split.symm.trans splitOther
    simpa using same
  have outsideMore : Region.outside.behind more = .outside := by
    rw [List.append_assoc, Region.behind_append, outside] at outsideOther
    exact outsideOther
  subst inner
  exact not_open_inside balanced outsideMore balancedOther

theorem FirstFault.of_close {error : ReadError} (split : text = front ++ ')' :: rest)
    (outside : Region.outside.behind front = .outside) (balanced : Balanced front)
    (fault : FirstFault text error) : error = .unexpectedClose (Position.start.advance front) := by
  cases fault with
  | @close other behind splitOther outsideOther balancedOther =>
    obtain ⟨rfl, -⟩ | later | later := compare_splits (split.symm.trans splitOther)
    · rfl
    · exact absurd balancedOther.supported (not_supported_close balanced outside later)
    · exact absurd balanced.supported (not_supported_close balancedOther outsideOther later)
  | @string other behind splitOther outsideOther supportedOther unclosed =>
    obtain ⟨-, same⟩ | later | later := compare_splits (split.symm.trans splitOther)
    · cases same
    · exact absurd supportedOther (not_supported_close balanced outside later)
    · have inside := not_outside_string outsideOther unclosed later
        (splitOther ▸ split ▸ List.prefix_append ..)
      rw [outside] at inside
      cases inside
  | list _ _ _ supported _ =>
    refine absurd supported (not_supported_close balanced outside ⟨rest, ?_⟩)
    rw [split, List.append_assoc]
    rfl

theorem FirstFault.of_string {error : ReadError} (split : text = front ++ '"' :: rest)
    (outside : Region.outside.behind front = .outside) (supported : Supported front)
    (unclosed : ∀ part, part <+: rest → (Region.string.behind part).inString = true)
    (fault : FirstFault text error) :
    error = .unterminatedString (Position.start.advance front) := by
  have own : FirstFault text (.unterminatedString (Position.start.advance front)) :=
    .string split outside supported unclosed
  cases fault with
  | close splitOther outsideOther balancedOther =>
    exact (FirstFault.of_close splitOther outsideOther balancedOther own).symm
  | @string other behind splitOther outsideOther supportedOther unclosedOther =>
    obtain ⟨rfl, -⟩ | later | later := compare_splits (split.symm.trans splitOther)
    · rfl
    · have inside := not_outside_string outside unclosed later
        (split ▸ splitOther ▸ List.prefix_append ..)
      rw [outsideOther] at inside
      cases inside
    · have inside := not_outside_string outsideOther unclosedOther later
        (splitOther ▸ split ▸ List.prefix_append ..)
      rw [outside] at inside
      cases inside
  | list _ _ closed _ _ =>
    have opens : front ++ ['"'] <+: text := ⟨rest, by rw [split, List.append_assoc]; rfl⟩
    have isPart : text <+: front ++ '"' :: rest := split ▸ List.prefix_refl _
    have inside := not_outside_string outside unclosed opens isPart
    rw [closed] at inside
    cases inside

/-- No text has two first faults. -/
theorem FirstFault.unique {error other : ReadError} (fault : FirstFault text error)
    (another : FirstFault text other) : other = error := by
  cases fault with
  | close split outside balanced => exact another.of_close split outside balanced
  | string split outside supported unclosed =>
    exact another.of_string split outside supported unclosed
  | @list front rest split outside closed supported innermost =>
    have own : FirstFault text (.unterminatedList (Position.start.advance front)) :=
      .list split outside closed supported innermost
    cases another with
    | close splitOther outsideOther balancedOther =>
      exact (own.of_close splitOther outsideOther balancedOther).symm
    | string splitOther outsideOther supportedOther unclosed =>
      exact (own.of_string splitOther outsideOther supportedOther unclosed).symm
    | @list second behind splitOther outsideOther _ _ innermostOther =>
      obtain ⟨rfl, -⟩ | later | later := compare_splits (split.symm.trans splitOther)
      · rfl
      · exact absurd later
          (not_innermost_behind split splitOther outside outsideOther innermost innermostOther)
      · exact absurd later
          (not_innermost_behind splitOther split outsideOther outside innermostOther innermost)

end Faults

/-- A text is data exactly if all its strings are closed and its parentheses are balanced.
Any other text is refused for its first fault. -/
theorem readAll_faults (text : String) :
    ((∃ data, readAll text = .ok data) ↔ StringsClosed text.toList ∧ Balanced text.toList) ∧
      ∀ error, readAll text = .error error ↔ FirstFault text.toList error := by
  have outcome := assemble_scan text.toList Reached.start
  rw [List.nil_append] at outcome
  change (∃ data, readAll text = .ok data ∧ _) ∨ ∃ error, readAll text = .error error ∧ _ at outcome
  obtain ⟨data, read, closed, balanced⟩ | ⟨error, refused, fault⟩ := outcome
  · refine ⟨⟨fun _ => ⟨closed, balanced⟩, fun _ => ⟨data, read⟩⟩, fun error => ?_⟩
    constructor
    · intro refused
      cases read.symm.trans refused
    · intro fault
      exact absurd ⟨closed, balanced⟩ fault.not_data
  · refine ⟨⟨?_, fun whole => absurd whole fault.not_data⟩, fun other => ?_⟩
    · rintro ⟨data, read⟩
      cases read.symm.trans refused
    · constructor
      · intro refusedOther
        cases refused.symm.trans refusedOther
        exact fault
      · intro another
        rw [fault.unique another]
        exact refused

end UnitCheck.Datum
