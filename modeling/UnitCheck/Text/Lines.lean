/-!
# White space and lines

The characters that separate words are those of the Unicode property `White_Space`.

The lines of a text are what stands between its line feeds. A text has one line
more than line feeds, so a text that ends with a line feed has an empty last
line.
-/

namespace UnitCheck.Text

/-- Whether `c` has the Unicode property `White_Space`. -/
def isBlank (c : Char) : Bool :=
  let n := c.toNat
  (9 ≤ n && n ≤ 13) || n = 0x20 || n = 0x85 || n = 0xA0 || n = 0x1680 ||
    (0x2000 ≤ n && n ≤ 0x200A) || n = 0x2028 || n = 0x2029 || n = 0x202F || n = 0x205F ||
    n = 0x3000

/-- Without the white space at both ends. -/
def trimBlank (text : List Char) : List Char :=
  ((text.dropWhile isBlank).reverse.dropWhile isBlank).reverse

/-- The maximal runs without white space, in order; `word` is the run being read. -/
def wordsFrom (word : List Char) : List Char -> List (List Char)
  | [] => if word.isEmpty then [] else [word.reverse]
  | c :: rest =>
    if isBlank c then
      if word.isEmpty then wordsFrom [] rest else word.reverse :: wordsFrom [] rest
    else wordsFrom (c :: word) rest

/-- The words of a text: its maximal runs without white space. -/
def words (text : String) : List String :=
  (wordsFrom [] text.toList).map String.ofList

/-! ### Lines -/

/-- The lines of a text; `line` holds the characters of the line being read, the
latest first. -/
def linesFrom (line : List Char) : List Char -> List (List Char)
  | [] => [line.reverse]
  | c :: rest =>
    if c = '\n' then line.reverse :: linesFrom [] rest else linesFrom (c :: line) rest

/-- The lines of a text. -/
def lines (text : String) : List (List Char) :=
  linesFrom [] text.toList

/-- The lines of a text, each with the line feed that ends it; `line` holds the
characters of the line being read, the latest first. -/
def fedLinesFrom (line : List Char) : List Char -> List (List Char)
  | [] => if line.isEmpty then [] else [line.reverse]
  | c :: rest =>
    if c = '\n' then (c :: line).reverse :: fedLinesFrom [] rest
    else fedLinesFrom (c :: line) rest

/-- The lines of a text, each with the line feed that ends it. Only the last one may lack
a line feed, and it is then not empty. -/
def fedLines (text : String) : List (List Char) :=
  fedLinesFrom [] text.toList

theorem flatten_fedLinesFrom (line rest : List Char) :
    (fedLinesFrom line rest).flatten = line.reverse ++ rest := by
  induction rest generalizing line with
  | nil => cases line <;> simp [fedLinesFrom]
  | cons c rest ih =>
    by_cases feed : c = '\n'
    · simp [fedLinesFrom, feed, ih]
    · simp [fedLinesFrom, feed, ih]

/-- The lines of a text with their line feeds make up the text. -/
theorem flatten_fedLines (text : String) : (fedLines text).flatten = text.toList := by
  simp [fedLines, flatten_fedLinesFrom]

end UnitCheck.Text
