import UnitCheck.Yaml.Meaning
import UnitCheck.Yaml.TokenStream

/-!
# Documents of settings files

A document is a tree of scalars, sequences and mappings, in which an alias stands
for a node that was given a name. Of a text only the first document is read, with
as many tokens behind it as are read ahead.
-/

namespace UnitCheck.Yaml

/-- A node of a document; lines are counted from one. -/
inductive Node where
  | scalar (scalar : Scalar)
  | sequence (tag : String) (items : List Node) (line : Nat)
  | mapping (tag : String) (entries : List (Node × Node)) (line : Nat)
  /-- Stands for the node that has the number `target` among those with a name; `number` is
  its own number among the aliases. -/
  | alias (name : String) (target number line : Nat)
deriving Repr, Inhabited

/-- A document: its root, and the nodes with a name by their numbers. -/
structure Document where
  root : Node
  named : List (Nat × Node)
deriving Repr, Inhabited

/-- A document being read. -/
structure Draft where
  stream : TokenStream
  /-- What tag handles stand for. -/
  rules : List (String × String)
  /-- The numbers of the names, the latest first. -/
  numbers : List (String × Nat)
  named : List (Nat × Node)
  /-- The number of aliases. -/
  aliases : Nat
  /-- The comments in front of the next part, a line feed between each two. -/
  heading : List Char
deriving Inhabited

/-- A step of reading a document, unless it meets a fault. -/
abbrev Drafting := StateT Draft (Except SyntaxError)

namespace Drafting

/-- Moves the stream of a document. -/
def tokenizing {α : Type} (read : Tokenizing α) : Drafting α := do
  let draft <- get
  match read.run draft.stream with
  | .ok result stream =>
    set { draft with stream := stream }
    return result
  | .error fault _ => throw fault

/-- Adds a group of comments to a heading. -/
def joinHeading (heading : List Char) (comment : Comment) : List Char :=
  match comment.heading with
  | none => heading
  | some text => if heading.isEmpty then text else heading ++ '\n' :: text

/-- The next token. The comments in front of it are added to the heading. -/
def peek : Drafting Token := do
  let (token, comments) <- tokenizing do
    let token <- Tokenizing.peek
    return (token, <- Tokenizing.takeComments token)
  if !comments.isEmpty then
    modify fun draft => { draft with heading := comments.foldl joinHeading draft.heading }
  return token

/-- Leaves the next token behind. -/
def drop : Drafting Unit := tokenizing Tokenizing.drop

/-- Gives the heading to the part being read. -/
def takeHeading : Drafting Unit := modify fun draft => { draft with heading := [] }

/-- The characters up to an empty line, given backwards, in front of those kept. -/
def sinceEmptyLine (kept : List Char) : List Char -> List Char
  | [] => kept
  | c :: rest =>
    if c = '\n' && rest.head? = some '\n' then kept else sinceEmptyLine (c :: kept) rest

/-- The part of a heading behind the last empty line in it. Of a heading that ends with an
empty line nothing is left. -/
def lastParagraph (heading : List Char) : List Char :=
  if heading.getLast? = some '\n' then [] else sinceEmptyLine [] heading.reverse

/-- Looks at what follows the mark of an entry with a heading of so many characters in front
of it. If that is a collection, the heading is the collection's. A fault met in looking does
not end the reading: it shows at the end of the part, unless another one shows before. -/
def lookBehindMark (length : Nat) : Drafting Unit := do
  if length ≠ 0 then
    let draft <- get
    match Tokenizing.peek.run draft.stream with
    | .ok token _ =>
      let _ <- peek
      if token.kind = .sequenceStart || token.kind = .mappingStart then
        modify fun draft => { draft with heading := draft.heading.drop (length + 1) }
    | .error fault stream =>
      set { draft with
        stream := { stream with cursor := { stream.cursor with fault := some fault } } }

/-- Ends the reading of a part of a document: a node, or the start or the end of a collection
or of the document. A fault that was met but did not end the reading shows now, unless
another one showed before. -/
def settle : Drafting Unit := do
  match (<- get).stream.cursor.fault with
  | some fault => throw fault
  | none => return ()

/-- A fault in a collection that starts on a line, at the next token. -/
def fail {α : Type} (problem : Problem) (outer : Nat) : Drafting α := do
  throw (.inStructure problem outer (<- peek).line)

/-- The scalar that stands for nothing at all, on a line counted from zero. -/
def empty (line : Nat) : Drafting Node := do
  settle
  return .scalar ⟨"", "!!null", line + 1⟩

/-! ## Tags and anchors -/

/-- The beginning of the names of common types, which are shown in short. -/
def commonTags : String := "tag:yaml.org,2002:"

/-- The short form of a tag. -/
def shortTag (tag : String) : String :=
  if commonTags.toList.isPrefixOf tag.toList then
    "!!" ++ String.ofList (tag.toList.drop commonTags.length)
  else tag

/-- What stands in front of the content of a node. -/
structure Properties where
  anchor : Option String
  /-- A tag with its line. -/
  tag : Option (String × String × Nat)
  /-- The line of the first of them, or of the content. -/
  line : Nat

/-- Reads an anchor, if there is one. -/
def anchor? : Drafting (Option String) := do
  match (<- peek).kind with
  | .anchor name =>
    drop
    return some name
  | _ => return none

/-- Reads a tag, if there is one. -/
def tag? : Drafting (Option (String × String × Nat)) := do
  let token <- peek
  match token.kind with
  | .tag handle suffix =>
    drop
    return some (handle, suffix, token.line)
  | _ => return none

/-- Reads an anchor and a tag in either order. -/
def properties : Drafting Properties := do
  let line := (<- peek).line
  match <- anchor? with
  | some name => return ⟨some name, <- tag?, line⟩
  | none =>
    match <- tag? with
    | some tag => return ⟨<- anchor?, some tag, line⟩
    | none => return ⟨none, none, line⟩

/-- The tag in front of a node in its short form; the lone mark is no tag, and neither is
none at all. -/
def writtenTag (properties : Properties) : Drafting (Option String) := do
  match properties.tag with
  | none => return none
  | some (handle, suffix, line) =>
    let rules := (<- get).rules
    let tag := if handle.isEmpty then suffix
      else match rules.lookup handle with
        | some start => start ++ suffix
        | none => ""
    if !handle.isEmpty && tag.isEmpty then
      throw (.inStructure .unknownTagHandle properties.line line)
    return if tag.isEmpty || tag = "!" then none else some (shortTag tag)

/-- Gives the name of a node that follows a number. -/
def register (anchor : Option String) : Drafting (Option Nat) := do
  match anchor with
  | none => return none
  | some name =>
    let draft <- get
    let number := draft.numbers.length
    set { draft with numbers := (name, number) :: draft.numbers }
    return some number

/-- Keeps a node under its number. -/
def keep (number : Option Nat) (node : Node) : Drafting Node := do
  match number with
  | none => return node
  | some number =>
    modify fun draft => { draft with named := (number, node) :: draft.named }
    return node

/-- An alias of the node with a name. -/
def aliasOf (name : String) (line : Nat) : Drafting Node := do
  settle
  let draft <- get
  match draft.numbers.lookup name with
  | some target =>
    set { draft with aliases := draft.aliases + 1 }
    return .alias name target draft.aliases (line + 1)
  | none => throw (.plain (.unknownAnchor name))

/-! ## Nodes -/

/-- Whether a token stands where a node of a mapping without brackets is missing. -/
def isMissing : TokenKind -> Bool
  | .key | .value | .blockEnd => true
  | _ => false

/-- Whether a token ends an entry of a sequence in brackets. -/
def endsItem : TokenKind -> Bool
  | .flowEntry | .flowSequenceEnd => true
  | _ => false

/-- Whether a token ends an entry of a mapping in brackets. -/
def endsPair : TokenKind -> Bool
  | .flowEntry | .flowMappingEnd => true
  | _ => false

/-- A scalar with the tag in front of it. -/
def scalarNode (tag : Option String) (text : String) (isPlain : Bool) (line : Nat) : Node :=
  .scalar ⟨text, tag.getD (Scalar.givenTag text isPlain), line + 1⟩

/-- A node without content, which needs an anchor or a tag. -/
def emptyNode (properties : Properties) (tag : Option String) : Drafting Node := do
  if properties.anchor.isNone && properties.tag.isNone then fail .noContent properties.line
  else
    settle
    let number <- register properties.anchor
    keep number (scalarNode tag "" true properties.line)

/-- Starts a collection, which may have an anchor. -/
def start (properties : Properties) : Drafting (Option Nat) := do
  settle
  register properties.anchor

/-- Ends a collection with the next token. -/
def finish {α : Type} : Drafting (List α) := do
  drop
  settle
  return []

/-- Ends a collection with the next token, and gives the heading to its end. -/
def finishWithHeading {α : Type} : Drafting (List α) := do
  takeHeading
  finish

mutual

/-- Reads a node. Outside of brackets it may be a collection without brackets, and where
`indentless` a sequence that is not indented. -/
def node : (fuel : Nat) -> (inBlock indentless : Bool) -> Drafting Node
  | 0, _, _ => fail .noContent 0
  | fuel + 1, inBlock, indentless => do
    let token <- peek
    match token.kind with
    | .alias name =>
      takeHeading
      drop
      aliasOf name token.line
    | _ =>
      let properties <- properties
      let token <- peek
      let tag <- writtenTag properties
      let line := properties.line
      match token.kind with
      | .scalar text isPlain =>
        takeHeading
        drop
        let number <- start properties
        keep number (scalarNode tag text isPlain line)
      | .entry =>
        if indentless then
          let number <- start properties
          keep number (.sequence (tag.getD "!!seq") (<- indentlessItems fuel) (line + 1))
        else emptyNode properties tag
      | .flowSequenceStart =>
        takeHeading
        let number <- start properties
        drop
        let items <- flowItems fuel token.line true
        keep number (.sequence (tag.getD "!!seq") items (line + 1))
      | .flowMappingStart =>
        takeHeading
        let number <- start properties
        drop
        let entries <- flowEntries fuel token.line true
        keep number (.mapping (tag.getD "!!map") entries (line + 1))
      | .sequenceStart =>
        if inBlock then
          let number <- start properties
          drop
          keep number (.sequence (tag.getD "!!seq") (<- items fuel token.line) (line + 1))
        else emptyNode properties tag
      | .mappingStart =>
        if inBlock then
          let number <- start properties
          drop
          keep number (.mapping (tag.getD "!!map") (<- entries fuel token.line) (line + 1))
        else emptyNode properties tag
      | _ => emptyNode properties tag

/-- Reads the items of a sequence that starts on a line. -/
def items : (fuel : Nat) -> (start : Nat) -> Drafting (List Node)
  | 0, start => fail .noEntry start
  | fuel + 1, start => do
    let token <- peek
    match token.kind with
    | .entry =>
      let length := (<- get).heading.length
      drop
      lookBehindMark length
      let item <- match (<- peek).kind with
        | .entry | .blockEnd => empty token.line
        | _ => node fuel true false
      return item :: (<- items fuel start)
    | .blockEnd => finish
    | _ => fail .noEntry start

/-- Reads the items of a sequence that is not indented. -/
def indentlessItems : (fuel : Nat) -> Drafting (List Node)
  | 0 => return []
  | fuel + 1 => do
    let token <- peek
    match token.kind with
    | .entry =>
      let length := (<- get).heading.length
      drop
      lookBehindMark length
      let next := (<- peek).kind
      let item <-
        if next = .entry || isMissing next then empty token.line
        else node fuel true false
      return item :: (<- indentlessItems fuel)
    | _ =>
      settle
      return []

/-- Reads the entries of a mapping that starts on a line. -/
def entries : (fuel : Nat) -> (start : Nat) -> Drafting (List (Node × Node))
  | 0, start => fail .noKey start
  | fuel + 1, start => do
    let token <- peek
    match token.kind with
    | .key =>
      drop
      let key <- blockPart fuel token.line
      let token <- peek
      let value <- match token.kind with
        | .value => do
          drop
          blockPart fuel token.line
        | _ => empty token.line
      return (key, value) :: (<- entries fuel start)
    | .blockEnd => finishWithHeading
    | _ => fail .noKey start

/-- Reads the key or the value of an entry behind its mark, which stands on a line. -/
def blockPart : (fuel : Nat) -> (line : Nat) -> Drafting Node
  | 0, line => empty line
  | fuel + 1, line => do
    if isMissing (<- peek).kind then empty line else node fuel true true

/-- Reads the items of a sequence in brackets that starts on a line, behind the bracket or
behind an item. -/
def flowItems : (fuel : Nat) -> (start : Nat) -> (isFirst : Bool) -> Drafting (List Node)
  | 0, start, _ => fail .unclosedSequence start
  | fuel + 1, start, isFirst => do
    if (<- peek).kind = .flowSequenceEnd then finishWithHeading
    else
      if !isFirst then
        if (<- peek).kind = .flowEntry then drop else fail .unclosedSequence start
      let token <- peek
      match token.kind with
      | .flowSequenceEnd => finishWithHeading
      | .key =>
        drop
        settle
        let pair <- flowPair fuel
        return .mapping "!!map" [pair] (token.line + 1) :: (<- flowItems fuel start false)
      | _ =>
        let item <- node fuel false false
        return item :: (<- flowItems fuel start false)

/-- Reads an entry that stands as an item of a sequence in brackets, behind the mark of its
key. What stands in place of a missing key is passed over. -/
def flowPair : (fuel : Nat) -> Drafting (Node × Node)
  | 0 => return (<- empty 0, <- empty 0)
  | fuel + 1 => do
    let token <- peek
    let key <-
      if token.kind = .value || endsItem token.kind then do
        drop
        empty token.line
      else node fuel false false
    let token <- peek
    let value <-
      if token.kind = .value then do
        drop
        if endsItem (<- peek).kind then empty token.line else node fuel false false
      else empty token.line
    let _ <- peek
    settle
    return (key, value)

/-- Reads the entries of a mapping in brackets that starts on a line, behind the bracket or
behind an entry. -/
def flowEntries :
    (fuel : Nat) -> (start : Nat) -> (isFirst : Bool) -> Drafting (List (Node × Node))
  | 0, start, _ => fail .unclosedMapping start
  | fuel + 1, start, isFirst => do
    if (<- peek).kind = .flowMappingEnd then finishWithHeading
    else
      if !isFirst then
        if (<- peek).kind = .flowEntry then drop else fail .unclosedMapping start
      let token <- peek
      match token.kind with
      | .flowMappingEnd => finishWithHeading
      | .key =>
        drop
        let token <- peek
        let key <-
          if token.kind = .value || endsPair token.kind then empty token.line
          else node fuel false false
        let token <- peek
        let value <-
          if token.kind = .value then do
            drop
            let token <- peek
            if endsPair token.kind then empty token.line else node fuel false false
          else empty token.line
        return (key, value) :: (<- flowEntries fuel start false)
      | _ =>
        let key <- node fuel false false
        let value <- empty (<- peek).line
        return (key, value) :: (<- flowEntries fuel start false)

end

/-! ## Documents -/

/-- Reads the directives in front of a document; `hasVersion` tells whether one gave the
version. -/
def directives : (fuel : Nat) -> (hasVersion : Bool) -> Drafting Unit
  | 0, _ => return ()
  | fuel + 1, hasVersion => do
    match (<- peek).kind with
    | .version major minor =>
      if hasVersion then fail .repeatedVersion 0
      if major ≠ 1 || minor ≠ 1 then fail .otherVersion 0
      drop
      directives fuel true
    | .tagRule handle start =>
      let draft <- get
      if (draft.rules.lookup handle).isSome then fail .repeatedTagRule 0
      set { draft with rules := draft.rules ++ [(handle, start)] }
      drop
      directives fuel hasVersion
    | _ => return ()

/-- The handles that every document knows. -/
def commonRules : List (String × String) := [("!", "!"), ("!!", commonTags)]

/-- Reads the root of a document that is announced. -/
def announcedRoot (fuel : Nat) : Drafting Node := do
  directives fuel false
  if (<- peek).kind ≠ .documentStart then fail .noDocumentStart 0
  drop
  settle
  modify fun draft => { draft with rules := draft.rules ++ commonRules }
  let token <- peek
  match token.kind with
  | .version _ _ | .tagRule _ _ | .documentStart | .documentEnd | .streamEnd => empty token.line
  | _ => node fuel true false

/-- Reads the first document, if there is one. -/
def document (fuel : Nat) : Drafting (Option Node) := do
  let _ <- peek
  drop
  settle
  match (<- peek).kind with
  | .streamEnd =>
    settle
    return none
  | .version _ _ | .tagRule _ _ | .documentStart =>
    let root <- announcedRoot fuel
    let _ <- peek
    settle
    return some root
  | _ =>
    settle
    modify fun draft =>
      { draft with rules := commonRules, heading := lastParagraph draft.heading }
    let root <- node fuel true false
    let _ <- peek
    settle
    return some root

end Drafting

/-- The first document of a text, or nothing if the text has none. -/
def Document.read? (text : String) : Except SyntaxError (Option Document) := do
  let start : Draft := ⟨.ofText text, [], [], [], 0, []⟩
  match <- (Drafting.document (4 * text.length + 16)).run start with
  | (some root, draft) => return some ⟨root, draft.named⟩
  | (none, _) => return none

end UnitCheck.Yaml
