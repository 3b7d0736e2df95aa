/-!
# Faults of settings files

Why a text is not a well formed settings file. A fault says what is wrong and, if
it is known and not on the first line, where.
-/

namespace UnitCheck.Yaml

/-- What is wrong with a text. -/
inductive Problem where
  -- characters
  | forbiddenCharacter
  -- tokens
  | noToken
  | missingColon
  | entryNotAllowed
  | keyNotAllowed
  | valueNotAllowed
  | tooDeep
  -- scalars
  | indicatorInQuotes
  | endInQuotes
  | unknownEscape
  | noHexNumber
  | badCodePoint
  | tabInPlain
  | tabInBlock
  | zeroIndent
  | afterBlockHeader
  -- names and tags
  | noAnchorName
  | noTagMark
  | noTagEnd
  | noTagAddress
  | noTagSpace
  | noTagOctet
  | badLeadingOctet
  | badTrailingOctet
  -- directives
  | unknownDirective
  | noDirectiveName
  | badDirectiveName
  | afterDirective
  | noVersionNumber
  | longVersionNumber
  | noVersionPoint
  | noPrefixSpace
  | afterTagPrefix
  | repeatedVersion
  | otherVersion
  | repeatedTagRule
  -- structure
  | noDocumentStart
  | noContent
  | noKey
  | noEntry
  | unclosedSequence
  | unclosedMapping
  | unknownTagHandle
  -- meaning
  | unknownAnchor (name : String)
  | circularAnchor (name : String)
  | otherType (found text wanted : String)
  | badMerge
  | collectionAsKey
  | badBase64
  | excessiveAliases
deriving Repr, DecidableEq

/-- The wording of each problem. -/
def Problem.text : Problem -> String
  | .forbiddenCharacter => "control characters are not allowed"
  | .noToken => "found character that cannot start any token"
  | .missingColon => "could not find expected ':'"
  | .entryNotAllowed => "block sequence entries are not allowed in this context"
  | .keyNotAllowed => "mapping keys are not allowed in this context"
  | .valueNotAllowed => "mapping values are not allowed in this context"
  | .tooDeep => "exceeded max depth of 10000"
  | .indicatorInQuotes => "found unexpected document indicator"
  | .endInQuotes => "found unexpected end of stream"
  | .unknownEscape => "found unknown escape character"
  | .noHexNumber => "did not find expected hexdecimal number"
  | .badCodePoint => "found invalid Unicode character escape code"
  | .tabInPlain => "found a tab character that violates indentation"
  | .tabInBlock => "found a tab character where an indentation space is expected"
  | .zeroIndent => "found an indentation indicator equal to 0"
  | .afterBlockHeader | .afterDirective => "did not find expected comment or line break"
  | .noAnchorName => "did not find expected alphabetic or numeric character"
  | .noTagMark => "did not find expected '!'"
  | .noTagEnd => "did not find the expected '>'"
  | .noTagAddress => "did not find expected tag URI"
  | .noTagSpace | .afterTagPrefix => "did not find expected whitespace or line break"
  | .noTagOctet => "did not find URI escaped octet"
  | .badLeadingOctet => "found an incorrect leading UTF-8 octet"
  | .badTrailingOctet => "found an incorrect trailing UTF-8 octet"
  | .unknownDirective => "found unknown directive name"
  | .noDirectiveName => "could not find expected directive name"
  | .badDirectiveName => "found unexpected non-alphabetical character"
  | .noVersionNumber => "did not find expected version number"
  | .longVersionNumber => "found extremely long version number"
  | .noVersionPoint => "did not find expected digit or '.' character"
  | .noPrefixSpace => "did not find expected whitespace"
  | .repeatedVersion => "found duplicate %YAML directive"
  | .otherVersion => "found incompatible YAML document"
  | .repeatedTagRule => "found duplicate %TAG directive"
  | .noDocumentStart => "did not find expected <document start>"
  | .noContent => "did not find expected node content"
  | .noKey => "did not find expected key"
  | .noEntry => "did not find expected '-' indicator"
  | .unclosedSequence => "did not find expected ',' or ']'"
  | .unclosedMapping => "did not find expected ',' or '\x7d'"
  | .unknownTagHandle => "found undefined tag handle"
  | .unknownAnchor name => "unknown anchor '" ++ name ++ "' referenced"
  | .circularAnchor name => "anchor '" ++ name ++ "' value contains itself"
  | .otherType found text wanted =>
    "cannot decode " ++ found ++ " \x60" ++ text ++ "\x60 as a " ++ wanted
  | .badMerge => "map merge requires map or sequence of maps as the value"
  | .collectionAsKey => "invalid map key"
  | .badBase64 => "!!binary value contains invalid base64 data"
  | .excessiveAliases => "document contains excessive aliasing"

/-- Why a text is not well formed, and where. Lines are counted from zero. -/
structure SyntaxError where
  problem : Problem
  /-- The line on which the token or the collection around the fault starts. -/
  outer : Nat
  /-- The line of the fault itself. -/
  inner : Nat
  /-- The fault is met inside a token. -/
  isInToken : Bool
deriving Repr, DecidableEq

namespace SyntaxError

/-- A fault without a place. -/
def plain (problem : Problem) : SyntaxError := ⟨problem, 0, 0, false⟩

/-- A fault met inside a token that starts on the line `outer`, on the line `inner`. -/
def inToken (problem : Problem) (outer inner : Nat) : SyntaxError := ⟨problem, outer, inner, true⟩

/-- A fault met between tokens, in a collection that starts on the line `outer`, at a token
on the line `inner`. -/
def inStructure (problem : Problem) (outer inner : Nat) : SyntaxError :=
  ⟨problem, outer, inner, false⟩

/-- The fault of a character that no text may hold. It has no place of its own, but takes
over that of a fault met before. -/
def forbidden (earlier : Option SyntaxError) : SyntaxError :=
  match earlier with
  | some error => ⟨.forbiddenCharacter, error.outer, error.inner, false⟩
  | none => .plain .forbiddenCharacter

/-- The line that the wording names: the first of the two that is not the first line of the
text. Lines of tokens are counted from one there. -/
def line? (error : SyntaxError) : Option Nat :=
  let line := if error.outer ≠ 0 then error.outer else error.inner
  if line = 0 then none else some (if error.isInToken then line + 1 else line)

/-- The wording of a fault. -/
def message (error : SyntaxError) : String :=
  "yaml: " ++
    (match error.line? with
      | some line => "line " ++ toString line ++ ": "
      | none => "") ++ error.problem.text

end SyntaxError
end UnitCheck.Yaml
