import UnitCheck.Finding.Basic
import UnitCheck.Session.Basic

/-!
# Attributes

The rules say which attributes there are, what each may decorate, which values it
takes and which attributes exclude each other. Every declaration of the unit has
its attributes compared with the rules, including the structs and constants that
bodies declare.
-/

namespace UnitCheck.Attributes

/-! ### Rules -/

/-- The rule for one attribute. -/
structure Rule where
  name : String
  /-- The kinds of declarations that it may decorate. -/
  allowed : List DeclKind
  /-- The values that it takes; without any it takes no value. -/
  choices : Option (List String)
deriving Repr, DecidableEq

/-- The calling conventions. -/
def conventions : List String :=
  ["C", "fast", "tail", "cold", "swift", "preserve_most", "preserve_all", "win64", "sysv64"]

/-- The linkages. -/
def linkages : List String :=
  ["external", "internal", "private", "weak", "weak_odr", "linkonce", "linkonce_odr",
    "common", "appending", "extern_weak", "available_externally"]

/-- The notations for assembler. -/
def asmNotations : List String := ["Intel", "AT&T"]

/-- The rules, in alphabetical order of the attributes' names. -/
def rules : List Rule := [
  ⟨"alwaysinline", [.function, .asmFunction], none⟩,
  ⟨"asmalignstack", [.asmFunction], none⟩,
  ⟨"asmeffects", [.asmFunction], none⟩,
  ⟨"asmsyntax", [.asmFunction], some asmNotations⟩,
  ⟨"asmthrow", [.asmFunction], none⟩,
  ⟨"convention", [.function, .asmFunction], some conventions⟩,
  ⟨"extern", [.function, .static], none⟩,
  ⟨"heap", [.struct], none⟩,
  ⟨"hot", [.function, .asmFunction], none⟩,
  ⟨"ignore", [.function], none⟩,
  ⟨"inline", [.function, .asmFunction], none⟩,
  ⟨"linkage", [.function, .constant, .static], some linkages⟩,
  ⟨"minsize", [.function, .asmFunction], none⟩,
  ⟨"noinline", [.function, .asmFunction], none⟩,
  ⟨"nounwind", [.function, .asmFunction], none⟩,
  ⟨"optfuzzing", [.function, .entrypoint], none⟩,
  ⟨"packed", [.struct], none⟩,
  ⟨"precisefp", [.function, .entrypoint], none⟩,
  ⟨"public", [.function, .asmFunction, .struct, .enum, .constant, .static, .typeAlias], none⟩,
  ⟨"safestack", [.function, .entrypoint], none⟩,
  ⟨"stack", [.struct], none⟩,
  ⟨"strongstack", [.function, .entrypoint], none⟩,
  ⟨"weakstack", [.function, .entrypoint], none⟩]

/-- The rule for the attribute called `name`. -/
def rule? (name : String) : Option Rule :=
  rules.find? (·.name = name)

/-- The pairs of attributes that exclude each other. -/
def conflicts : List (String × String) :=
  [("noinline", "alwaysinline"), ("noinline", "inline"), ("safestack", "strongstack"),
    ("safestack", "weakstack"), ("strongstack", "weakstack"), ("heap", "stack")]

/-- The lower-case form of a character, as far as it is an ASCII letter. Besides the
ASCII capitals these are the forms of the Kelvin sign and of the dotted capital i. -/
def lowerChar (c : Char) : Char :=
  if c = '\u212a' then 'k' else if c = '\u0130' then 'i' else c.toLower

/-- The known attribute that an unknown one probably means: the one that differs only
in case, or the first one that a name of at least three characters starts. -/
def closest? (name : String) : Option String :=
  let lower := name.toList.map lowerChar
  match rule? (String.ofList lower) with
  | some rule => some rule.name
  | none =>
    if lower.length < 3 then none
    else (rules.find? fun rule => lower.isPrefixOf rule.name.toList).map (·.name)

/-! ### Judging -/

/-- What is to be said about the value of an attribute that may stand where it is. -/
def payload? (rule : Rule) (subject : Attribute) : Option Finding :=
  match rule.choices, subject.payload with
  | none, none => none
  | none, some payload => some (.unexpectedAttributeValue subject.name payload)
  | some choices, none => some (.missingAttributeValue subject choices)
  | some choices, some payload =>
    if payload.kind = .string && choices.contains payload.text then none
    else some (.invalidAttributeValue subject.name payload choices)

/-- What is to be said about one attribute of a declaration, given the earlier
attributes that have rules, and whether it is a new one of these. -/
def judge (kind : DeclKind) (seen : List Attribute) (subject : Attribute) :
    Option Finding × Bool :=
  match rule? subject.name with
  | none => (some (.unknownAttribute subject (closest? subject.name)), false)
  | some rule =>
    match seen.find? (·.name = subject.name) with
    | some first => (some (.duplicateAttribute subject first.span), false)
    | none =>
      if rule.allowed.contains kind then (payload? rule subject, true)
      else (some (.misusedAttribute subject kind rule.allowed), true)

/-- What is to be said about the attributes of a declaration one by one, and the
distinct attributes that have rules, the latest first. -/
def judgeAll (kind : DeclKind) (seen : List Attribute) :
    List Attribute -> List Finding × List Attribute
  | [] => ([], seen)
  | subject :: rest =>
    let (finding, isNew) := judge kind seen subject
    let (findings, all) := judgeAll kind (if isNew then subject :: seen else seen) rest
    (finding.toList ++ findings, all)

/-- What is to be said about a pair of attributes that exclude each other. -/
def conflict? (seen : List Attribute) (pair : String × String) : Option Finding :=
  match seen.find? (·.name = pair.1), seen.find? (·.name = pair.2) with
  | some left, some right =>
    if right.span.start.before left.span.start then some (.conflictingAttributes right left)
    else some (.conflictingAttributes left right)
  | _, _ => none

/-- What is to be said about the body of a function: it has one exactly when it is not
external. -/
def bodyProblem? (seen : List Attribute) (decl : FunctionDecl) : Option Finding :=
  let name := match decl.name with
    | some name => name.name
    | none => "_"
  match seen.find? (·.name = "extern"), decl.body with
  | some mark, some body => some (.externalWithBody name body.span mark.span)
  | none, none => some (.missingBody name decl.span)
  | _, _ => none

/-- Everything to be said about the attributes of a declaration; `function` is the
declaration when it is a function. -/
def declFindings (kind : DeclKind) (attributes : List Attribute)
    (function : Option FunctionDecl) : List Finding :=
  let (findings, seen) := judgeAll kind [] attributes
  findings ++ conflicts.filterMap (conflict? seen) ++
    (function.bind (bodyProblem? seen)).toList

mutual

/-- What is to be said about the declarations inside a statement. -/
def stmtFindings : Stmt -> List Finding
  | .block body _ => stmtsFindings body
  | .const decl => declFindings .constant decl.attributes none
  | .struct decl => declFindings .struct decl.attributes none
  | .cond _ body _ otherwise _ => stmtsFindings body ++ stmtFindings? otherwise
  | .whileLoop _ body _ _ => stmtsFindings body
  | .loop body _ _ => stmtsFindings body
  | .forLoop _ _ _ body _ _ => stmtsFindings body
  | _ => []

/-- What is to be said about the declarations inside a statement that may be missing. -/
def stmtFindings? : Option Stmt -> List Finding
  | none => []
  | some stmt => stmtFindings stmt

/-- What is to be said about the declarations inside several statements. -/
def stmtsFindings : List Stmt -> List Finding
  | [] => []
  | stmt :: rest => stmtFindings stmt ++ stmtsFindings rest

end

/-- What is to be said about the declarations of an item. -/
def itemFindings : Item -> List Finding
  | .function decl =>
    declFindings .function decl.attributes (some decl) ++
      (match decl.body with
        | some body => stmtsFindings body.stmts
        | none => [])
  | .asm decl => declFindings .asmFunction decl.attributes none
  | .entry decl =>
    declFindings .entrypoint decl.attributes none ++ stmtsFindings decl.body.stmts
  | .struct decl => declFindings .struct decl.attributes none
  | .enum decl => declFindings .enum decl.attributes none
  | .const decl => declFindings .constant decl.attributes none
  | .static decl => declFindings .static decl.attributes none
  | .typeAlias decl => declFindings .typeAlias decl.attributes none
  | .stray stmt => stmtFindings stmt

/-- The fourth pass: compares the attributes of every declaration with the rules. -/
def pass : Check Unit :=
  Check.runPass .attributes do
    ((<- get).items.flatMap itemFindings).forM Check.report

end UnitCheck.Attributes
