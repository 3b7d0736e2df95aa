import UnitCheck.Scenario.Document
import UnitCheck.Text.Lines

/-!
# Scenarios

A scenario is a unit together with the codes that its check reports. Documents
hold scenarios: each starts with a heading `Test: name` and has one fenced block
with the unit, one with the codes, and possibly one with options.
-/

namespace UnitCheck
namespace Scenario

/-- The fenced blocks that a scenario is made of. -/
inductive FenceKind where
  | unit | codes | options
deriving Repr, DecidableEq, Inhabited

/-- The language that a fence of this kind names. -/
def FenceKind.text : FenceKind -> String
  | .unit => "ast"
  | .codes => "expect"
  | .options => "config"

/-- The kind of fence that names a language. -/
def FenceKind.ofText? (language : String) : Option FenceKind :=
  [FenceKind.unit, .codes, .options].find? (·.text = language)

end Scenario

/-- A scenario. A text that was not given is empty. -/
structure Scenario where
  name : String
  /-- The line of the heading. -/
  line : Nat
  input : String
  expect : List String
  config : String
deriving Repr, DecidableEq, Inhabited

namespace Scenario

/-- Why a document does not hold scenarios. -/
inductive DocumentError where
  | unknownLanguage (line : Nat) (language : String)
  | outside (line : Nat) (kind : FenceKind)
  | repeated (line : Nat) (kind : FenceKind) (name : String)
  /-- A scenario without a block of some kind, met at the next heading or, if it is the
  last scenario, at the end of the document. -/
  | missing (kind : FenceKind) (name : String) (isLast : Bool)
deriving Repr, DecidableEq

/-- What is said in front of an error met inside a document. -/
def walking : String := "error walking markdown: "

/-- Names a line in front of an error. -/
def atLine (line : Nat) : String := "line " ++ toString line ++ ": "

/-- The wording of each cause. -/
def DocumentError.message : DocumentError -> String
  | .unknownLanguage line language =>
    walking ++ atLine line ++ "unknown fence language '" ++ language ++ "'"
  | .outside line kind =>
    walking ++ atLine line ++ kind.text ++ " fence found outside of a test case"
  | .repeated line kind name =>
    walking ++ atLine line ++ "multiple " ++ kind.text ++ " fences in test '" ++ name ++ "'"
  | .missing kind name isLast =>
    (if isLast then "" else walking) ++ "test '" ++ name ++ "' has no " ++ kind.text ++ " fence"

/-- A scenario being read. The codes are missing until their block is met; an empty
block of another kind counts as none. -/
structure Draft where
  name : String
  line : Nat
  input : String
  expect : Option (List String)
  config : String
deriving Repr, DecidableEq

/-- A line up to the comment in it. -/
def withoutComment (line : List Char) : List Char :=
  line.takeWhile (· ≠ '#')

/-- The codes in a block: its words, without comments. -/
def codes (content : String) : List String :=
  (Text.lines content).flatMap fun line => Text.words (String.ofList (withoutComment line))

/-- Without the line feeds at the end. -/
def dropFinalFeeds (content : String) : String :=
  String.ofList (content.toList.reverse.dropWhile (· = '\n')).reverse

namespace Draft

/-- A scenario of which only the heading is known. -/
def start (name : String) (line : Nat) : Draft := ⟨name, line, "", none, ""⟩

/-- Adds a fenced block, unless there is one of its kind. -/
def add (draft : Draft) (kind : FenceKind) (content : String) (line : Nat) :
    Except DocumentError Draft :=
  match kind with
  | .unit =>
    if draft.input.isEmpty then .ok { draft with input := dropFinalFeeds content }
    else .error (.repeated line kind draft.name)
  | .codes =>
    if draft.expect.isNone then .ok { draft with expect := some (codes content) }
    else .error (.repeated line kind draft.name)
  | .options =>
    if draft.config.isEmpty then .ok { draft with config := content }
    else .error (.repeated line kind draft.name)

/-- The scenario, if its unit and its codes are known. -/
def finish (draft : Draft) (isLast : Bool) : Except DocumentError Scenario :=
  if draft.input.isEmpty then .error (.missing .unit draft.name isLast)
  else match draft.expect with
    | none => .error (.missing .codes draft.name isLast)
    | some expect => .ok ⟨draft.name, draft.line, draft.input, expect, draft.config⟩

end Draft

/-- The name of the scenario that a heading starts. -/
def nameOf? (title : String) : Option String :=
  let mark := "Test: ".toList
  if mark.isPrefixOf title.toList then
    some (String.ofList (Text.trimBlank (title.toList.drop mark.length)))
  else none

/-- The scenarios of the parts of a document behind the scenario being read. -/
def collectFrom : Option Draft -> List Part -> Except DocumentError (List Scenario)
  | none, [] => .ok []
  | some draft, [] => do return [<- draft.finish true]
  | current, .heading title line :: rest =>
    match nameOf? title with
    | none => collectFrom current rest
    | some name =>
      match current with
      | none => collectFrom (some (.start name line)) rest
      | some draft => do
        let finished <- draft.finish false
        return finished :: (<- collectFrom (some (.start name line)) rest)
  | current, .fence language content line :: rest =>
    if language.isEmpty then collectFrom current rest
    else match FenceKind.ofText? language with
      | none => .error (.unknownLanguage line language)
      | some kind =>
        match current with
        | none => .error (.outside line kind)
        | some draft => do collectFrom (some (<- draft.add kind content line)) rest

/-- The scenarios of a document, in order. -/
def collect (document : String) : Except DocumentError (List Scenario) :=
  collectFrom none (parts document)

end Scenario
end UnitCheck
