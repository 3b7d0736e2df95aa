import UnitCheck.Text.Lines

/-!
# Headings and fences of a document

A document is read line by line for its headings and its fenced blocks;
everything else is prose. A heading starts with one to six number signs, or it is
a paragraph with a bar of equals signs or dashes below it. A fence opens with at
least three back ticks or tildes and is closed by at least as many of the same;
an open fence runs to the end of the document. Lines come with the line feed that
ends them.
-/

namespace UnitCheck.Scenario

/-- A part of a document that scenarios are made of. -/
inductive Part where
  | heading (title : String) (line : Nat)
  /-- A fenced block, with the first word behind its opening fence and the line of its
  content. -/
  | fence (language content : String) (line : Nat)
deriving Repr, DecidableEq

/-- The white space of a line, its line feed included. -/
def isSpace (c : Char) : Bool :=
  c = ' ' || c = '\t' || c = '\r' || c = '\n'

/-- Without the white space at the end. -/
def trimRight (text : List Char) : List Char :=
  (text.reverse.dropWhile isSpace).reverse

/-- Without the white space at both ends. -/
def trim (text : List Char) : List Char :=
  trimRight (text.dropWhile isSpace)

/-- The indentation of a line and the rest of it; four spaces and more make the line
part of the prose. -/
def unindent? (line : List Char) : Option (Nat × List Char) :=
  let width := (line.takeWhile (· = ' ')).length
  if width < 4 then some (width, line.drop width) else none

/-- The title of a heading without the number signs that close it. -/
def closeTitle (title : List Char) : List Char :=
  let body := (title.reverse.dropWhile (· = '#')).reverse
  match body.getLast? with
  | none => []
  | some last => if isSpace last then trimRight body else title

/-- The title of the heading that a line is. -/
def title? (line : List Char) : Option String :=
  match unindent? line with
  | none => none
  | some (_, rest) =>
    let level := (rest.takeWhile (· = '#')).length
    let behind := rest.drop level
    if level = 0 || 6 < level then none
    else match behind with
      | [] => some ""
      | c :: _ =>
        if isSpace c then some (String.ofList (closeTitle (trim behind))) else none

/-- An opening fence. -/
structure Fence where
  indent : Nat
  mark : Char
  /-- The number of marks. -/
  length : Nat
  language : String
deriving Repr, DecidableEq

/-- What stands behind the marks of an opening fence. A single character counts for
nothing, so that a fence of marks alone may end with or without a line feed. -/
def infoOf (behind : List Char) : List Char :=
  match behind with
  | [c] => if c.utf8Size = 1 then [] else [c]
  | _ => trim behind

/-- The fence that a line opens. What follows back ticks holds no back tick. -/
def opens? (line : List Char) : Option Fence :=
  match unindent? line with
  | none => none
  | some (indent, rest) =>
    match rest with
    | [] => none
    | mark :: _ =>
      let length := (rest.takeWhile (· = mark)).length
      let info := infoOf (rest.drop length)
      if (mark ≠ '\x60' && mark ≠ '~') || length < 3 || (mark = '\x60' && info.contains '\x60') then none
      else some ⟨indent, mark, length, String.ofList (info.takeWhile (· ≠ ' '))⟩

/-- Whether a line closes a fence. -/
def Fence.closedBy (fence : Fence) (line : List Char) : Bool :=
  match unindent? line with
  | none => false
  | some (_, rest) =>
    fence.length ≤ (rest.takeWhile (· = fence.mark)).length &&
      (rest.dropWhile (· = fence.mark)).all isSpace

/-- Takes an indentation of `width` columns off a line that has reached `column`; a tab
reaches to the next multiple of four, and the columns of it that are not taken off
become spaces. Nothing is taken off a line with less indentation. -/
def dedent? (width column : Nat) : List Char -> Option (List Char)
  | [] => if width ≤ column then some (List.replicate (column - width) ' ') else none
  | c :: rest =>
    if width ≤ column then some (List.replicate (column - width) ' ' ++ c :: rest)
    else if c = ' ' then dedent? width (column + 1) rest
    else if c = '\t' then dedent? width (column + (4 - column % 4)) rest
    else none

/-- A line of a fenced block without the indentation of the fence. A line with less
indentation loses all of it, unless there is nothing else in the line. -/
def Fence.contentOf (fence : Fence) (line : List Char) : List Char :=
  match dedent? fence.indent 0 line with
  | some content => content
  | none =>
    let content := line.dropWhile fun c => c = ' ' || c = '\t'
    if content.isEmpty || content.head? = some '\n' then line else content

/-- A line with a line feed at its end; a line of which nothing is left gets none. -/
def closeLine (line : List Char) : List Char :=
  match line.getLast? with
  | none => []
  | some last => if last = '\n' then line else line ++ ['\n']

/-- The part that a fence and its lines make; each line ends with a line feed. An empty
block counts as standing on the first line of the document. -/
def Fence.part (fence : Fence) (start : Nat) (content : List (List Char)) : Part :=
  .fence fence.language
    (String.ofList (content.flatMap fun line => closeLine (fence.contentOf line)))
    (if content.isEmpty then 1 else start)

/-- Whether a line is a bar of equals signs or dashes. -/
def isBar (line : List Char) : Bool :=
  match unindent? line with
  | none => false
  | some (_, rest) =>
    match trimRight rest with
    | [] => false
    | mark :: more => (mark = '=' || mark = '-') && more.all (· = mark)

/-- Whether a line is a rule: three or more dashes, asterisks or underscores with nothing
but white space among them. -/
def isRule (line : List Char) : Bool :=
  match unindent? line with
  | none => false
  | some (_, rest) =>
    match rest.filter fun c => !isSpace c with
    | [] => false
    | mark :: more =>
      (mark = '-' || mark = '*' || mark = '_') && 2 ≤ more.length && more.all (· = mark)

/-- Whether a line starts a quotation. -/
def isQuotation (line : List Char) : Bool :=
  match unindent? line with
  | some (_, '>' :: _) => true
  | _ => false

/-- Whether a line starts a list inside a paragraph: with a bullet or the number one, and
with something behind it. -/
def isFirstItem (line : List Char) : Bool :=
  match unindent? line with
  | some (_, mark :: space :: rest) =>
    let behind :=
      if mark = '-' || mark = '+' || mark = '*' then space :: rest
      else if mark = '1' && (space = '.' || space = ')') then rest
      else []
    match behind with
    | [] => false
    | c :: _ => isSpace c && !behind.all isSpace
  | _ => false

/-- Whether a line ends the paragraph in front of it without being part of a heading. -/
def endsParagraph (line : List Char) : Bool :=
  line.all isSpace || isRule line || isQuotation line || isFirstItem line

/-- Whether a line starts a paragraph: it is not blank, not indented like a code block
and not a rule. -/
def startsParagraph (line : List Char) : Bool :=
  !line.all isSpace && !isRule line &&
    (unindent? line).any fun (_, rest) => rest.head? ≠ some '\t'

/-- What is being read: plain prose, a paragraph with its first line and its lines, or a
fence with the first line and the lines of its content; the latest line comes first. -/
inductive Reading where
  | prose
  | paragraph (start : Nat) (lines : List (List Char))
  | fence (fence : Fence) (start : Nat) (content : List (List Char))

/-- What a line outside of fences and headings leaves to be read. -/
def Reading.afterProse (number : Nat) (line : List Char) : Reading -> Reading
  | .paragraph start lines =>
    if line.all isSpace then .prose
    else if endsParagraph line then if startsParagraph line then .paragraph number [line] else .prose
    else .paragraph start (line :: lines)
  | _ => if startsParagraph line then .paragraph number [line] else .prose

/-- A line of a title that goes on in the next line. A single backslash at its end asks
for a break there and is no part of the title, but the white space before it is. -/
def continuedTitle (line : List Char) : List Char :=
  let title := line.dropWhile isSpace
  let ending := title.reverse.dropWhile (· = '\n')
  match (if ending.head? = some '\r' then ending.drop 1 else ending) with
  | '\\' :: before => if before.head? = some '\\' then trimRight title else before.reverse
  | _ => trimRight title

/-- The title that a paragraph makes: its lines in a row, the latest given first. -/
def paragraphTitle : List (List Char) -> String
  | [] => ""
  | last :: before => String.ofList (before.reverse.flatMap continuedTitle ++ trim last)

/-- The heading that a bar makes of a paragraph. -/
def Reading.barHeading? (line : List Char) : Reading -> Option Part
  | .paragraph start lines =>
    if isBar line then some (.heading (paragraphTitle lines) start) else none
  | _ => none

/-- The parts of the lines of a document; `number` is the number of the next line. -/
def partsFrom (number : Nat) : Reading -> List (List Char) -> List Part
  | .fence fence start content, [] => [fence.part start content.reverse]
  | _, [] => []
  | .fence fence start content, line :: rest =>
    if fence.closedBy line then
      fence.part start content.reverse :: partsFrom (number + 1) .prose rest
    else partsFrom (number + 1) (.fence fence start (line :: content)) rest
  | reading, line :: rest =>
    match reading.barHeading? line with
    | some heading => heading :: partsFrom (number + 1) .prose rest
    | none =>
      match opens? line with
      | some fence => partsFrom (number + 1) (.fence fence (number + 1) []) rest
      | none =>
        match title? line with
        | some title => .heading title number :: partsFrom (number + 1) .prose rest
        | none => partsFrom (number + 1) (reading.afterProse number line) rest

/-- The headings and fenced blocks of a document, in order. -/
def parts (document : String) : List Part :=
  partsFrom 1 .prose (Text.fedLines document)

end UnitCheck.Scenario
