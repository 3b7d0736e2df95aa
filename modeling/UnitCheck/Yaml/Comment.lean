import UnitCheck.Yaml.Token

/-!
# Comments of a settings file

A comment runs from a number sign to the end of its line. Comments on lines of their
own are gathered into groups: a group belongs to what follows it, or, when it is
indented less than the content around it or an empty line sets it off, to what
stands before it. Comments say nothing about the document, but a group in front of
an entry changes how far its reader looks ahead.
-/

namespace UnitCheck.Yaml

/-- A group of comments. -/
structure Comment where
  /-- The lines of a group that belongs to what follows it; of other groups none are
  kept. -/
  heading : Option (List Char)
  /-- The index of the token that the group belongs to, or from which on it may be used. -/
  owner : Nat
  /-- The place of the first number sign; its column is counted from one. -/
  start : Place
  /-- Where the search that found the group began. -/
  searched : Nat
  /-- The index of the end of the group. -/
  stop : Nat
deriving Repr, DecidableEq, Inhabited

/-- Where comments are looked for. -/
structure CommentSite where
  /-- The token in front of them. -/
  before : Token
  /-- The column of the content around them. -/
  indent : Nat
  /-- They stand between brackets. -/
  inFlow : Bool
  /-- The place behind the token in front of them. -/
  searched : Place
deriving Repr, DecidableEq, Inhabited

/-- Comments being gathered. -/
structure Gathering where
  /-- The groups that are complete, the latest first. -/
  groups : List Comment
  /-- The lines of the current group, the latest character first. -/
  text : List Char
  /-- The place of the first number sign of the current group. -/
  start : Place
  /-- The owner of the current group. -/
  owner : Nat
  /-- Where the search for the current group began. -/
  searched : Nat
  line : Nat
  column : Nat
  /-- The line on which a group that belongs to what stands before it starts. -/
  footLine : Option Nat
  /-- No empty line was met yet. -/
  isTight : Bool
  /-- An empty line was met behind the last comment. -/
  isBehindEmpty : Bool
deriving Repr, DecidableEq, Inhabited

namespace Gathering

/-- Nothing gathered at a site, with the cursor in front of the first number sign. -/
def atSite (site : CommentSite) (cursor : Cursor) : Gathering :=
  { groups := []
    text := []
    start := ⟨0, 0, 0⟩
    owner := site.before.place.index
    searched := site.searched.index
    line := cursor.line
    column := cursor.column
    footLine :=
      if site.searched.line = 0 then none
      else some (cursor.line + 1 - cursor.breaks +
        if cursor.breaks = 0 && 1 < cursor.column then 1 else 0)
    isTight := cursor.breaks ≤ 1
    isBehindEmpty := false }

/-- Whether the current group is indented less than the content around it. -/
def isDedented (site : CommentSite) (gathering : Gathering) : Bool :=
  gathering.start.column < site.indent + 1

/-- Completes the current group, which belongs to what stands before it, at an index. -/
def closeFoot (index : Nat) (gathering : Gathering) : Gathering :=
  if gathering.text.isEmpty then gathering
  else
    { gathering with
      groups := ⟨none, gathering.owner, gathering.start, gathering.searched, index⟩ :: gathering.groups
      owner := index
      searched := index
      text := [] }

/-- Completes the current group like `closeFoot`. A group that is dedented has nothing to do
with the token in front of it. -/
def closeOwnFoot (site : CommentSite) (index : Nat) (gathering : Gathering) : Gathering :=
  closeFoot index
    (if gathering.isDedented site then { gathering with owner := gathering.start.index }
    else gathering)

/-- Notes the end of an empty line, or of the text, at an index. -/
def atLineEnd (site : CommentSite) (index : Nat) (isTextEnd : Bool) (gathering : Gathering) :
    Gathering :=
  if gathering.isBehindEmpty then gathering
  else if gathering.isTight &&
      ((some gathering.start.line = gathering.footLine && site.before.kind ≠ .value) ||
        gathering.isDedented site) then
    gathering.closeOwnFoot site index
  else if gathering.text.isEmpty || isTextEnd then gathering
  else { gathering with text := '\n' :: gathering.text }

/-- Completes the gathering: the current group belongs to what follows. -/
def finish (index : Nat) (gathering : Gathering) : List Comment :=
  (if gathering.text.isEmpty then gathering.groups
  else
    ⟨some gathering.text.reverse, gathering.start.index, gathering.start, gathering.searched,
      index⟩ :: gathering.groups).reverse

end Gathering

namespace Reading

/-- The distance over which a comment is looked for. -/
def commentReach : Nat := 512

/-- The characters from the second byte of the first one on. The middle of a character
counts as one that ends the search for comments. -/
def behindByte : List Char -> List Char
  | [] => []
  | c :: rest => if c.utf8Size = 1 then rest else ['\uFFFD']

/-- Reads over blanks and line breaks up to an index. -/
def skipGap : (fuel : Nat) -> (target : Nat) -> Reading Unit
  | 0, _ => return ()
  | fuel + 1, target => do
    if (<- get).index < target then
      need 1
      if <- next isBreak then skipLine else skip
      skipGap fuel target

/-- Gathers comments among characters that stand `offset` bytes behind the cursor. The
cursor moves to the end of each comment that is found. The result also tells how far the
search went; `fuel` bounds its steps. -/
def gatherFrom (site : CommentSite) :
    (fuel offset : Nat) -> (behind : List Char) -> Gathering -> Reading (Gathering × Nat)
  | 0, offset, _, gathering => return (gathering, offset)
  | fuel + 1, offset, behind, gathering => do
    if commentReach ≤ offset || !(<- reaches (offset + 1)) then return (gathering, offset)
    let index := (<- get).index + offset
    let gathering := { gathering with column := gathering.column + 1 }
    match behind with
    | [] => return (gathering.atLineEnd site index true, offset)
    | c :: rest =>
      if isBlank c then gatherFrom site fuel (offset + 1) rest gathering
      else if site.inFlow && (c = ']' || c = '\x7d') then
        return (gathering.closeOwnFoot site index, offset)
      else if isBreak c then
        gatherFrom site fuel (offset + 1) (behindByte behind)
          { gathering.atLineEnd site index false with
            line := gathering.line + 1
            column := 0
            isTight := false
            isBehindEmpty := true }
      else
        let gathering :=
          if gathering.column < site.indent + 1 && gathering.column ≠ gathering.start.column then
            gathering.closeFoot index
          else gathering
        if c ≠ '#' then return (gathering, offset)
        else
          let gathering :=
            if gathering.text.isEmpty then
              { gathering with start := ⟨index, gathering.line, gathering.column⟩ }
            else { gathering with text := '\n' :: gathering.text }
          skipGap (offset + 1) index
          let comment <- takeWhile fun c => !isBreak c
          let cursor <- get
          gatherFrom site fuel 1 (behindByte cursor.rest)
            { gathering with
              text := comment.reverse ++ gathering.text
              line := cursor.line
              column := 0
              isBehindEmpty := false }

/-- Reads the comments at a site, from the number sign of the first. -/
def comments (site : CommentSite) : Reading (List Comment) := do
  let cursor <- get
  let (gathering, offset) <-
    gatherFrom site (2 * (cursor.size + commentReach)) 0 cursor.rest (.atSite site cursor)
  return gathering.finish ((<- get).index + offset - 1)

/-- Looks for a comment on the line of a token, among characters that stand `offset`
characters behind the cursor. The result is the offset of its number sign; `count` bounds
the characters looked at. -/
def commentBeside? : (count offset : Nat) -> (behind : List Char) -> Reading (Option Nat)
  | 0, _, _ => return none
  | count + 1, offset, behind => do
    if !(<- reaches (offset + 1)) then return none
    match behind with
    | [] => return none
    | c :: rest =>
      if isBlank c then commentBeside? count (offset + 1) rest
      else return if c = '#' then some offset else none

/-- Reads a comment that follows a token on its line. -/
def lineComment : Reading Unit := do
  let cursor <- get
  if cursor.breaks = 0 then
    match <- commentBeside? commentReach 0 cursor.rest with
    | none => return ()
    | some offset =>
      skipRun 1 offset
      skipToLineEnd

end Reading
end UnitCheck.Yaml
