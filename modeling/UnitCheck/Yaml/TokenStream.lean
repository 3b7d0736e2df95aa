import Std.Data.HashMap
import UnitCheck.Yaml.Comment

/-!
# The stream of tokens

Tokens are read ahead of their use, because a token turns out to start a key only
when the colon behind the key is met: the token that announces the key is then put
in front of it, or behind all others if the start of the key is already in use.
Indentation is told in tokens as well: a deeper column opens a collection and a
smaller one closes all that are deeper.
-/

namespace UnitCheck.Yaml

/-- A token that may turn out to start a key on its line. -/
structure KeyCandidate where
  /-- The colon may still come. -/
  isPossible : Bool
  /-- The colon has to come, since the token stands where the next key of a mapping is
  expected. -/
  isRequired : Bool
  /-- The number of the token, counted from the start of the stream. -/
  number : Nat
  place : Place
deriving Repr, DecidableEq, Inhabited

/-- A stream of tokens. -/
structure TokenStream where
  cursor : Cursor
  /-- The token in front of those read ahead. -/
  latest : Token
  /-- The tokens read ahead. -/
  queue : List Token
  /-- The number of tokens in front of those. -/
  taken : Nat
  /-- The column of the innermost collection without brackets. -/
  indent : Int
  /-- The columns around it, the innermost first. -/
  indents : List Int
  /-- The candidate between the innermost brackets, or outside of all. -/
  candidate : KeyCandidate
  /-- The candidates around it, the innermost last. -/
  outerCandidates : Array KeyCandidate
  /-- The numbers of tokens that are held back, each with the depth of the brackets whose
  candidate holds it back. -/
  held : Std.HashMap Nat Nat
  /-- A key may start at the cursor. -/
  allowsKey : Bool
  /-- The groups of comments that were read and not used. -/
  comments : List Comment
deriving Repr, Inhabited

/-- The number of characters between the start of a key and its colon. -/
def keyLimit : Nat := 1024

/-- The number of collections that may be open. -/
def depthLimit : Nat := 10000

namespace KeyCandidate

/-- No candidate, at the token with a number and at a place. -/
def none (number : Nat) (place : Place) : KeyCandidate := ⟨false, false, number, place⟩

/-- Whether the colon of a candidate can no longer come at a place: it stands on the same
line and not far away. -/
def isStale (candidate : KeyCandidate) (place : Place) : Bool :=
  candidate.place.line < place.line || candidate.place.index + keyLimit < place.index

/-- Gives a candidate up. -/
def drop (candidate : KeyCandidate) : KeyCandidate := { candidate with isPossible := false }

/-- The fault of a candidate whose colon is missing at a place. -/
def fault (candidate : KeyCandidate) (place : Place) : SyntaxError :=
  .inToken .missingColon candidate.place.line place.line

/-- A candidate as it is at a place: a stale one is given up, which is a fault if its colon
had to come. -/
def refresh (candidate : KeyCandidate) (place : Place) : Except SyntaxError KeyCandidate :=
  if candidate.isPossible && candidate.isStale place then
    if candidate.isRequired then .error (candidate.fault place) else .ok candidate.drop
  else .ok candidate

end KeyCandidate

/-- A step of a stream. A fault leaves the stream as it was when it was met, and reading may
go on from there. -/
abbrev Tokenizing := EStateM SyntaxError TokenStream

namespace TokenStream

/-- The tokens of a text. -/
def ofText (text : String) : TokenStream :=
  let cursor := Cursor.start text
  let first : Token := ⟨.streamStart, cursor.place⟩
  { cursor := cursor
    latest := first
    queue := [first]
    taken := 0
    indent := -1
    indents := []
    candidate := .none 0 cursor.place
    outerCandidates := #[]
    held := ∅
    allowsKey := true
    comments := [] }

/-- The number of open brackets. -/
def depth (stream : TokenStream) : Nat := stream.outerCandidates.size

/-- Whether the cursor stands between brackets. -/
def inFlow (stream : TokenStream) : Bool := !stream.outerCandidates.isEmpty

/-- The number of the next token to be read. -/
def nextNumber (stream : TokenStream) : Nat := stream.taken + stream.queue.length

/-- Puts a token behind all others. -/
def push (stream : TokenStream) (kind : TokenKind) (place : Place) : TokenStream :=
  { stream with queue := stream.queue ++ [⟨kind, place⟩] }

/-- Puts a token in front of the one with a number, or behind all others if that one is
already in use. -/
def insert (stream : TokenStream) (number : Nat) (kind : TokenKind) (place : Place) :
    TokenStream :=
  if number < stream.taken then stream.push kind place
  else
    let count := number - stream.taken
    { stream with queue := stream.queue.take count ++ ⟨kind, place⟩ :: stream.queue.drop count }

/-- The last token read, unless it is a comma, and otherwise the one before it. -/
def tokenBefore (stream : TokenStream) : Token :=
  match stream.queue.reverse with
  | [] => stream.latest
  | last :: before =>
    if last.kind = .flowEntry then before.headD stream.latest else last

/-- Holds a token back for the current candidate. -/
def hold (stream : TokenStream) (number : Nat) : TokenStream :=
  { stream with held := stream.held.insert number stream.depth }

/-- No longer holds a token back. -/
def release (stream : TokenStream) (number : Nat) : TokenStream :=
  { stream with held := stream.held.erase number }

/-- Gives the current candidate up, which is a fault if its colon had to come. -/
def removeCandidate (stream : TokenStream) : Except SyntaxError TokenStream :=
  let candidate := stream.candidate
  if !candidate.isPossible then .ok stream
  else if candidate.isRequired then .error (candidate.fault stream.cursor.place)
  else .ok ({ stream with candidate := candidate.drop }.release candidate.number)

/-- The candidate at a depth. -/
def candidateAt? (stream : TokenStream) (depth : Nat) : Option KeyCandidate :=
  if depth = stream.depth then some stream.candidate
  else stream.outerCandidates[depth]?

/-- Replaces the candidate at a depth. -/
def setCandidate (stream : TokenStream) (depth : Nat) (candidate : KeyCandidate) : TokenStream :=
  if depth = stream.depth then { stream with candidate := candidate }
  else { stream with outerCandidates := stream.outerCandidates.setIfInBounds depth candidate }

/-- The place that stands for the end of the collection at a column. It is the one at hand,
unless the groups of comments in front of it, the latest given first, begin with some in
that column: then it is the first of those. Only groups that follow each other without
content between them are looked at, from the index `stop` backwards. -/
def endPlace (column : Int) : (stop : Nat) -> Place -> List Comment -> Place
  | _, place, [] => place
  | stop, place, comment :: rest =>
    if comment.stop < stop then place
    else
      endPlace column comment.searched
        (if (comment.start.column : Int) = column + 1 then comment.start else place) rest

/-- Closes the collections that are deeper than a column, given the columns around the
innermost one. -/
def closeFrom (stream : TokenStream) (column : Int) (place : Place) : List Int -> TokenStream
  | [] => stream
  | outer :: rest =>
    if column < stream.indent then
      let place := endPlace stream.indent place.index place stream.comments.reverse
      closeFrom ({ stream with indent := outer, indents := rest }.push .blockEnd place)
        column place rest
    else stream

/-- Closes the collections that are deeper than a column, from a place on. Brackets know no
indentation. -/
def closeTo (stream : TokenStream) (column : Int) (place : Place) : TokenStream :=
  if stream.inFlow then stream
  else stream.closeFrom column { place with index := place.index - 1 } stream.indents

end TokenStream

namespace Tokenizing

/-- Moves the cursor of a stream. -/
def reading {α : Type} (read : Reading α) : Tokenizing α := do
  let stream <- get
  match read.run stream.cursor with
  | .ok result cursor =>
    set { stream with cursor := cursor }
    return result
  | .error fault cursor =>
    set { stream with cursor := cursor }
    throw fault

/-- A fault at the cursor. -/
def fail {α : Type} (problem : Problem) : Tokenizing α := do
  let line := (<- get).cursor.line
  throw (.inToken problem line line)

/-- Tells whether a key may start behind the token being read. -/
def allowKey (allowsKey : Bool) : Tokenizing Unit :=
  modify fun stream => { stream with allowsKey := allowsKey }

/-- Gives the current candidate up. -/
def removeCandidate : Tokenizing Unit := do
  set (<- MonadExcept.ofExcept (<- get).removeCandidate)

/-- Makes the token at the cursor a candidate, where a key may start. -/
def saveCandidate : Tokenizing Unit := do
  if (<- get).allowsKey then
    removeCandidate
    let stream <- get
    let place := stream.cursor.place
    let number := stream.nextNumber
    let isRequired := !stream.inFlow && stream.indent = place.column
    set (TokenStream.hold
      { stream with candidate := ⟨true, isRequired, number, place⟩ } number)

/-- Opens a collection at a place, unless one is open in its column already. The token that
announces it is put in front of the one with a number. -/
def openAt (place : Place) (number : Nat) (kind : TokenKind) : Tokenizing Unit := do
  let stream <- get
  if !stream.inFlow && stream.indent < place.column then
    set { stream with indent := place.column, indents := stream.indent :: stream.indents }
    if depthLimit ≤ stream.indents.length then
      throw (.inToken .tooDeep stream.candidate.place.line stream.cursor.line)
    modify fun stream => stream.insert number kind place

/-- Ends all collections without brackets, in front of something that is no part of a
document. -/
def closeAll : Tokenizing Unit := do
  modify fun stream => stream.closeTo (-1) stream.cursor.place
  removeCandidate
  allowKey false

/-- Reads a token with a reader, from the cursor. -/
def token (read : Reading TokenKind) : Tokenizing Unit := do
  let place := (<- get).cursor.place
  let kind <- reading read
  modify fun stream => stream.push kind place

/-- Reads a token of so many characters. -/
def mark (kind : TokenKind) (width : Nat) : Tokenizing Unit :=
  token do
    Reading.skipChars width
    return kind

/-! ## Comments and white space -/

/-- Reads comments behind the last token, from the number sign of the first. The search for
them began at a place. -/
def comments (searched : Place) : Tokenizing Unit := do
  let stream <- get
  let groups <- reading (Reading.comments
    ⟨stream.tokenBefore, stream.indent.toNat, stream.inFlow, searched⟩)
  modify fun stream => { stream with comments := stream.comments ++ groups }

/-- Reads white space and comments up to the next token, from a place. Tabs count as white
space where no key may start. As long as characters were last loaded in front of a byte
order mark, the first character of each line is passed over. -/
def toToken (searched : Place) : (fuel : Nat) -> Tokenizing Unit
  | 0 => return ()
  | fuel + 1 => do
    let stream <- get
    let skipsTabs := stream.inFlow || !stream.allowsKey
    reading do
      Reading.need 1
      let cursor <- get
      if cursor.column = 0 && cursor.loadedAtMark then Reading.skip
      Reading.need 1
      let _ <- Reading.takeWhile fun c => c = ' ' || (skipsTabs && c = '\t')
    if <- reading (Reading.next (· = '#')) then comments searched
    if <- reading (Reading.next isBreak) then
      reading Reading.skipLine
      if !(<- get).inFlow then allowKey true
      toToken searched fuel

/-! ## Tokens -/

/-- Reads the end of the stream, which stands at the start of a line. -/
def streamEnd : Tokenizing Unit := do
  modify fun stream =>
    let cursor := stream.cursor
    if cursor.column = 0 then stream
    else { stream with cursor := { cursor with place := ⟨cursor.index, cursor.line + 1, 0⟩ } }
  closeAll
  mark .streamEnd 0

/-- Reads an opening bracket. -/
def openBracket (kind : TokenKind) : Tokenizing Unit := do
  saveCandidate
  let stream <- get
  set { stream with
    candidate := .none stream.nextNumber stream.cursor.place
    outerCandidates := stream.outerCandidates.push stream.candidate }
  if depthLimit ≤ stream.depth then fail .tooDeep
  allowKey true
  mark kind 1

/-- Reads a closing bracket. What was held back for a candidate between the brackets, or for
the opening bracket if there was none, is held back no longer. -/
def closeBracket (kind : TokenKind) : Tokenizing Unit := do
  removeCandidate
  modify fun stream =>
    match stream.outerCandidates.back? with
    | some candidate =>
      { stream.release stream.candidate.number with
        candidate := candidate
        outerCandidates := stream.outerCandidates.pop }
    | none => stream
  allowKey false
  mark kind 1

/-- Opens a collection at the cursor, where its entries may start. -/
def openHere (kind : TokenKind) (problem : Problem) : Tokenizing Unit := do
  let stream <- get
  if !stream.inFlow then
    if !stream.allowsKey then fail problem
    openAt stream.cursor.place stream.nextNumber kind

/-- Reads the mark of an entry. -/
def entry : Tokenizing Unit := do
  openHere .sequenceStart .entryNotAllowed
  removeCandidate
  allowKey true
  mark .entry 1

/-- Reads the mark of a key. -/
def key : Tokenizing Unit := do
  openHere .mappingStart .keyNotAllowed
  removeCandidate
  allowKey (!(<- get).inFlow)
  mark .key 1

/-- Reads the mark of a value. The candidate, if it is still possible, becomes a key. -/
def value : Tokenizing Unit := do
  let stream <- get
  let candidate <- MonadExcept.ofExcept (stream.candidate.refresh stream.cursor.place)
  if candidate.isPossible then
    set (stream.insert candidate.number .key candidate.place)
    openAt candidate.place candidate.number .mappingStart
    modify fun stream => { stream with candidate := candidate.drop }.release candidate.number
    allowKey false
  else
    set { stream with candidate := candidate }
    openHere .mappingStart .valueNotAllowed
    allowKey (!stream.inFlow)
  mark .value 1

/-- Reads a token that a key may start with. -/
def keyToken (read : Reading TokenKind) : Tokenizing Unit := do
  saveCandidate
  allowKey false
  token read

/-- Reads a plain scalar. A key may start behind the line breaks at its end. -/
def plainScalar : Tokenizing Unit := do
  saveCandidate
  allowKey false
  let stream <- get
  let place := stream.cursor.place
  let (text, isBroken) <- reading (Reading.plain stream.inFlow (stream.indent + 1).toNat)
  if isBroken then allowKey true
  modify fun stream => stream.push (.scalar (String.ofList text) true) place

/-- Reads a block scalar. -/
def blockScalar (isFolded : Bool) : Tokenizing Unit := do
  removeCandidate
  allowKey true
  let parent := (<- get).indent
  token do return .scalar (String.ofList (<- Reading.block isFolded parent)) false

/-- Whether a plain scalar starts with a character that is followed by another. -/
def startsPlain (inFlow : Bool) (c : Char) (behind : Option Char) : Bool :=
  if c = '-' then !behind.any isBlank
  else if c = '?' || c = ':' then !inFlow && !endsWord behind
  else !isBlank c && !isBreak c && !(",[]\x7b\x7d#&*!|>'\"%@\x60".toList.contains c)

/-- Reads the token that starts with a character. -/
def tokenAt (c : Char) (behind : Option Char) : Tokenizing Unit := do
  let stream <- get
  let line := stream.cursor.line
  let inFlow := stream.inFlow
  match c with
  | '[' => openBracket .flowSequenceStart
  | '\x7b' => openBracket .flowMappingStart
  | ']' => closeBracket .flowSequenceEnd
  | '\x7d' => closeBracket .flowMappingEnd
  | ',' =>
    removeCandidate
    allowKey true
    mark .flowEntry 1
  | '*' => keyToken do return .alias (<- Reading.anchorName line)
  | '&' => keyToken do return .anchor (<- Reading.anchorName line)
  | '!' => keyToken (Reading.tag line)
  | '\x27' => keyToken do return .scalar (String.ofList (<- Reading.quoted c)) false
  | '"' => keyToken do return .scalar (String.ofList (<- Reading.quoted c)) false
  | _ =>
    if c = '-' && endsWord behind then entry
    else if c = '?' && (inFlow || endsWord behind) then key
    else if c = ':' && (inFlow || endsWord behind) then value
    else if c = '|' && !inFlow then blockScalar false
    else if c = '>' && !inFlow then blockScalar true
    else if startsPlain inFlow c behind then plainScalar
    else fail .noToken

/-- Reads the next token of the text, and in front of it those that its column closes. -/
def step : Tokenizing Unit := do
  reading (Reading.need 1)
  let start := (<- get).cursor
  toToken start.place (start.size + 1)
  modify fun stream => stream.closeTo stream.cursor.column start.place
  reading (Reading.need 4)
  let cursor := (<- get).cursor
  match cursor.rest with
  | [] => streamEnd
  | c :: rest =>
    if cursor.column = 0 && c = '%' then
      closeAll
      token (Reading.directive cursor.line)
    else if cursor.isIndicator '-' then
      closeAll
      mark .documentStart 3
    else if cursor.isIndicator '.' then
      closeAll
      mark .documentEnd 3
    else
      tokenAt c rest.head?
      if (<- get).queue.getLast?.all (·.kind ≠ .entry) then reading Reading.lineComment

/-- Whether the token with a number is held back by a candidate; a stale candidate is given
up. -/
def isHeld (number : Nat) : Tokenizing Bool := do
  let stream <- get
  match stream.held[number]? with
  | none => return false
  | some depth =>
    match stream.candidateAt? depth with
    | none => return false
    | some candidate =>
      let candidate <- MonadExcept.ofExcept (candidate.refresh stream.cursor.place)
      set (stream.setCandidate depth candidate)
      return candidate.isPossible

/-- Whether enough tokens are read ahead: there are three of them, and the first is not held
back. -/
def isFilled : Tokenizing Bool := do
  let stream <- get
  if stream.queue.length < 3 then return false
  else return !(<- isHeld stream.taken)

/-- Reads ahead until enough tokens are there; `fuel` bounds their number. -/
def fill : (fuel : Nat) -> Tokenizing Unit
  | 0 => return ()
  | fuel + 1 => do
    if !(<- isFilled) then
      step
      fill fuel

/-- The next token. -/
def peek : Tokenizing Token := do
  fill ((<- get).cursor.size + 4)
  let stream <- get
  return stream.queue.headD ⟨.streamEnd, stream.cursor.place⟩

/-- Leaves the next token behind. -/
def drop : Tokenizing Unit :=
  modify fun stream =>
    match stream.queue with
    | [] => stream
    | token :: rest => { stream with latest := token, queue := rest, taken := stream.taken + 1 }

/-- Takes the groups of comments that may be used at a token out of the stream. A group in
front of something is not used at the end of a collection, and keeps all behind it. -/
def takeComments (token : Token) : Tokenizing (List Comment) := do
  let stream <- get
  let isUsed := fun (comment : Comment) =>
    comment.owner ≤ token.place.index && !(comment.heading.isSome && token.kind = .blockEnd)
  set { stream with comments := stream.comments.dropWhile isUsed }
  return stream.comments.takeWhile isUsed

end Tokenizing
end UnitCheck.Yaml
