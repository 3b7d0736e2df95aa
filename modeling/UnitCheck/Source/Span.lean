/-!
# Points and stretches of a text

A `Position` counts lines and columns from one and bytes from zero. Moving past
a character is the only way a position changes, so the three counters of every
position met while reading a text stand for the same point of that text.

A `Span` is the stretch between two points of one text and belongs to whatever
was read there. A `Location` is what a message may know about a stretch: the
file and either end can be missing, and an end is any `Point`, whether or not
the text has it.
-/

namespace UnitCheck

/-- A point of a text: its line and column, counted from one in characters, and
its byte offset in UTF-8. -/
structure Position where
  line : Nat
  column : Nat
  index : Nat
deriving Repr, DecidableEq, Inhabited

namespace Position

/-- The point in front of the first character. -/
def start : Position := ⟨1, 1, 0⟩

/-- The point behind `c`: a line feed opens a new line, and every other
character takes one column whatever its width in bytes. -/
def step (point : Position) (c : Char) : Position :=
  if c = '\n' then ⟨point.line + 1, 1, point.index + 1⟩
  else ⟨point.line, point.column + 1, point.index + c.utf8Size⟩

/-- The point behind all of `text`. -/
def advance (point : Position) (text : List Char) : Position :=
  text.foldl step point

/-- Strict order by line, then by column; the byte offset takes no part. -/
def before (left right : Position) : Bool :=
  if left.line = right.line then left.column < right.column else left.line < right.line

/-- Written `line:column:index`. -/
def render (point : Position) : String :=
  s!"{point.line}:{point.column}:{point.index}"

/-- Written `line:column`, as messages name a point. -/
def renderShort (point : Position) : String :=
  s!"{point.line}:{point.column}"

theorem advance_nil (point : Position) : point.advance [] = point := rfl

theorem advance_cons (point : Position) (c : Char) (rest : List Char) :
    point.advance (c :: rest) = (point.step c).advance rest := rfl

theorem advance_append (point : Position) (first second : List Char) :
    point.advance (first ++ second) = (point.advance first).advance second := by
  simp [advance, List.foldl_append]

end Position

/-! ### Stretches -/

/-- The stretch from `start` up to, and without, `stop`. -/
structure Span where
  start : Position
  stop : Position
deriving Repr, DecidableEq, Inhabited

/-- Written `start-stop`. -/
def Span.render (span : Span) : String :=
  span.start.render ++ "-" ++ span.stop.render

/-- A point that a message names. Unlike a position it need not be one that reading a
text can reach, so its coordinates may be zero or negative. -/
structure Point where
  line : Int
  column : Int
  index : Int
deriving Repr, DecidableEq, Inhabited

/-- A position as a point. -/
def Position.toPoint (position : Position) : Point :=
  ⟨position.line, position.column, position.index⟩

namespace Point

/-- Strict order by line, then by column; the byte offset takes no part. -/
def before (left right : Point) : Bool :=
  if left.line = right.line then left.column < right.column else left.line < right.line

/-- Written `line:column:index`. -/
def render (point : Point) : String :=
  s!"{point.line}:{point.column}:{point.index}"

/-- Written `line:column`, as messages name a point. -/
def renderShort (point : Point) : String :=
  s!"{point.line}:{point.column}"

end Point

/-- The order of positions is that of their points. -/
theorem Position.toPoint_before (left right : Position) :
    left.toPoint.before right.toPoint = left.before right := by
  simp only [Position.toPoint, Point.before, Position.before, Int.natCast_inj, Int.ofNat_lt]

/-- What is known about a stretch of some file; each part may be missing. -/
structure Location where
  file : Option String
  start : Option Point
  stop : Option Point
deriving Repr, DecidableEq, Inhabited

/-- A span placed in a file. -/
def Span.inFile (span : Span) (file : String) : Location :=
  ⟨some file, some span.start.toPoint, some span.stop.toPoint⟩

namespace Location

/-- The file's name, with a placeholder for a location detached from any file. -/
def fileName (location : Option Location) : String :=
  match location.bind (·.file) with
  | some name => name
  | none => "<unknown>"

/-- Both ends, when both are known. -/
def ends? (location : Location) : Option (Point × Point) :=
  match location.start, location.stop with
  | some start, some stop => some (start, stop)
  | _, _ => none

/-- Both ends, written `start-stop`. -/
def renderEnds? (location : Location) : Option String :=
  location.ends?.map fun (start, stop) => start.render ++ "-" ++ stop.render

/-- A point lies in a location when it is neither before its start nor behind
its stop; without both ends and a point there is nothing to lie in. -/
def contains (location : Location) (point : Option Point) : Bool :=
  match location.ends?, point with
  | some (start, stop), some point => !point.before start && !stop.before point
  | _, _ => false

/-- The earlier of two starts, preferring a known one. -/
def earlier (first second : Option Point) : Option Point :=
  match first, second with
  | some left, some right => if right.before left then some right else some left
  | some left, none => some left
  | none, other => other

/-- The later of two stops, preferring a known one. -/
def later (first second : Option Point) : Option Point :=
  match first, second with
  | some left, some right => if left.before right then some right else some left
  | some left, none => some left
  | none, other => other

/-- The smallest location covering both, in the file of the first. -/
def merge (first second : Option Location) : Option Location :=
  match first, second with
  | none, other => other
  | some left, none => some left
  | some left, some right =>
    some ⟨left.file, earlier left.start right.start, later left.stop right.stop⟩

/-- Written `file:line:column` of the start; a location without both ends is unknown. -/
def render (location : Option Location) : String :=
  match location.bind ends? with
  | some (start, _) => fileName location ++ ":" ++ start.renderShort
  | none => "location(unknown)"

end Location
end UnitCheck
