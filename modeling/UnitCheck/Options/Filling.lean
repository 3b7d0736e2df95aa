import UnitCheck.Options.Basic
import UnitCheck.Yaml.Meaning
import UnitCheck.Yaml.Node

/-!
# Filling options from a document

Complaints say what is wrong with the values of a settings file, and why a file is
refused as a whole.

A step of reading changes the options, adds complaints and counts the nodes it
reads; a document whose aliases stand for much more than is written in it is
refused.
-/

namespace UnitCheck.Options

/-- What is wrong with a value of a settings file. -/
inductive Complaint where
  | unknownField (line : Nat) (name : Text.ByteText) (owner : String)
  | repeatedField (line : Nat) (name : Text.ByteText) (owner : String)
  | duplicateKey (line : Nat) (name : String) (first : Nat)
  | wrongScalar (scalar : Yaml.Scalar) (target : String)
  | wrongCollection (line : Nat) (tag target : String)
deriving Repr, DecidableEq

/-- The first bytes of a text; each byte of a character that does not fit as a whole is
shown as a replacement character. -/
def takeBytes (bytes : Nat) : List Char -> List Char
  | [] => []
  | c :: rest =>
    if c.utf8Size ≤ bytes then c :: takeBytes (bytes - c.utf8Size) rest
    else List.replicate bytes '\uFFFD'

/-- A value as complaints show it: cut when it is long. -/
def excerpt (text : String) : String :=
  if text.utf8ByteSize ≤ 10 then text
  else String.ofList (takeBytes 7 text.toList) ++ "..."

/-- Names a line in front of a complaint. -/
def atLine (line : Nat) : String := "line " ++ toString line ++ ": "

/-- The tags of collections, behind which complaints show a value as it is. -/
def collectionTags : List String := ["!!map", "!!seq"]

/-- A value behind its tag, as complaints show the two. -/
def tagged (tag text : String) : String :=
  if collectionTags.contains tag then tag ++ text
  else tag ++ " \x60" ++ excerpt text ++ "\x60"

/-- The wording of each complaint. -/
def Complaint.message : Complaint -> String
  | .unknownField line name owner =>
    atLine line ++ "field " ++ name.shown ++ " not found in type " ++ owner
  | .repeatedField line name owner =>
    atLine line ++ "field " ++ name.shown ++ " already set in type " ++ owner
  | .duplicateKey line name first =>
    atLine line ++ "mapping key " ++ Text.quoted name ++ " already defined at line " ++
      toString first
  | .wrongScalar scalar target =>
    atLine scalar.line ++ "cannot unmarshal " ++ tagged scalar.tag scalar.text ++ " into " ++ target
  | .wrongCollection line tag target =>
    atLine line ++ "cannot unmarshal " ++ tagged tag "" ++ " into " ++ target

/-- Why a settings file is refused. -/
inductive FileFault where
  | syntaxError (error : Yaml.SyntaxError)
  /-- A mapping that takes over others has a collection for a key. -/
  | collectionKey
  | types (complaints : List Complaint)
  | invalid (error : OptionsError)

/-- The fault of the file at a path in words. -/
def FileFault.message (path : String) : FileFault -> String
  | .syntaxError error => "parsing " ++ path ++ ": " ++ error.message
  | .collectionKey => "parsing " ++ path ++ ": a collection is a key"
  | .types complaints =>
    "parsing " ++ path ++ ": yaml: unmarshal errors:\n  " ++
      "\n  ".intercalate (complaints.map Complaint.message)
  | .invalid error => path ++ ": " ++ error.message

/-! ### Filling -/

/-- What was read of a settings file. -/
structure Progress where
  given : GivenOptions
  /-- The complaints, the latest first. -/
  complaints : List Complaint
  /-- The number of nodes read, each as often as it was read. -/
  count : Nat
  /-- The number of those that were read inside of what an alias stands for. -/
  repeated : Nat

/-- A step of reading a settings file, unless it meets a fault. -/
abbrev Filling := StateT Progress (Except FileFault)

/-- Where a value stands: in a document, inside what some aliases stand for. -/
structure Setting where
  document : Yaml.Document
  /-- The numbers of those aliases. -/
  entered : List Nat

/-- The number of nodes up to which nearly all of them may be repeated. -/
def repeatLow : Nat := 400000

/-- The number of nodes from which on only a tenth of them may be repeated. -/
def repeatHigh : Nat := 4000000

/-- Whether too many of the nodes read were repeated: more than ninety-nine in a hundred of
few nodes, more than one in ten of many, and a share in between that falls evenly with the
number of nodes. -/
def isExcessive (count repeated : Nat) : Bool :=
  100 < repeated && 1000 < count &&
    if count ≤ repeatLow then 99 * count < 100 * repeated
    else if repeatHigh ≤ count then count < 10 * repeated
    else
      let range := repeatHigh - repeatLow
      count * (99 * range - 89 * (count - repeatLow)) < 100 * range * repeated

namespace Filling

/-- A fault of the document. -/
def fail {α : Type} (problem : Yaml.Problem) : Filling α :=
  throw (.syntaxError (.plain problem))

/-- Adds complaints. -/
def complain (complaints : List Complaint) : Filling Unit :=
  modify fun progress => { progress with complaints := complaints.reverse ++ progress.complaints }

/-- Changes the options. -/
def change (set : GivenOptions -> GivenOptions) : Filling Unit :=
  modify fun progress => { progress with given := set progress.given }

/-- Counts a node. -/
def countNode (setting : Setting) : Filling Unit := do
  let progress <- get
  let count := progress.count + 1
  let repeated := if setting.entered.isEmpty then progress.repeated else progress.repeated + 1
  if isExcessive count repeated then fail .excessiveAliases
  set { progress with count := count, repeated := repeated }

/-- Reads a node, or what it stands for. An alias is not entered again inside of what it
stands for. -/
def enter (setting : Setting) (node : Yaml.Node) : Filling (Setting × Yaml.Node) := do
  countNode setting
  match node with
  | .alias name target number _ =>
    if setting.entered.contains number then fail (.circularAnchor name)
    let inner := { setting with entered := number :: setting.entered }
    countNode inner
    match setting.document.named.lookup target with
    | some node => return (inner, node)
    | none => fail (.unknownAnchor name)
  | node => return (setting, node)

/-- The meaning of a scalar. -/
def meaning (scalar : Yaml.Scalar) : Filling Yaml.Meaning :=
  match scalar.meaning with
  | .ok meaning => return meaning
  | .error error => throw (.syntaxError error)

end Filling

/-! ### Values -/

/-- What tells two keys of a mapping apart: the kind of the node, its text and, for a
message, its line. -/
def keyMark : Yaml.Node -> Nat × String × Nat
  | .scalar scalar => (0, scalar.text, scalar.line)
  | .sequence _ _ line => (1, "", line)
  | .mapping _ _ line => (2, "", line)
  | .alias name _ _ line => (3, name, line)

/-- The complaints about keys that are given again, each against every earlier one. -/
def duplicates : List (Yaml.Node × Yaml.Node) -> List Complaint
  | [] => []
  | (key, _) :: rest =>
    let (kind, text, line) := keyMark key
    (rest.filterMap fun (other, _) =>
      let (otherKind, otherText, otherLine) := keyMark other
      if otherKind = kind && otherText = text then some (.duplicateKey otherLine text line)
      else none) ++
      duplicates rest

/-- The complaints about a collection that stands where a `target` is wanted; a mapping
with a key given twice is not looked at further. -/
def collectionComplaints (target : String) : Yaml.Node -> List Complaint
  | .mapping tag entries line =>
    match duplicates entries with
    | [] => [.wrongCollection line tag target]
    | complaints => complaints
  | .sequence tag _ line => [.wrongCollection line tag target]
  | _ => []

/-- Reads what a node stands for where a `target` is wanted. Of a scalar that is not null
`read` makes a result; nothing comes of null and of what is complained about. -/
def scalarResult {α : Type} (target : String)
    (read : Yaml.Scalar -> Yaml.Meaning -> Option α) (node : Yaml.Node) : Filling (Option α) := do
  match node with
  | .scalar scalar =>
    match <- Filling.meaning scalar with
    | .null => return none
    | meaning =>
      match read scalar meaning with
      | some result => return some result
      | none =>
        Filling.complain [.wrongScalar scalar target]
        return none
  | node =>
    Filling.complain (collectionComplaints target node)
    return none

/-- The name in a key; there is none in null and in what is complained about. -/
def keyName (setting : Setting) (key : Yaml.Node) : Filling (Option Text.ByteText) := do
  let (_, key) <- Filling.enter setting key
  scalarResult "string" (fun scalar meaning => some (scalar.asText meaning)) key

end UnitCheck.Options
