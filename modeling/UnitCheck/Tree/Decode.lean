import UnitCheck.Numeral.Integer
import UnitCheck.Tree.Fault
import UnitCheck.Tree.Item

/-!
# From data to units

Each form of the tree is read from the datum in its place. The parts of a form
are read from left to right and the first fault ends the reading.
-/

namespace UnitCheck

/-- The result of reading a form. -/
abbrev Decoded (α : Type) := Except DecodeError α

namespace Decode

/-- Blames a datum. -/
def fail {α : Type} (datum : Datum) (fault : Fault) : Decoded α :=
  .error (.malformed datum.span.start fault)

/-- Blames the datum that starts where `span` does. -/
def failAt {α : Type} (span : Span) (fault : Fault) : Decoded α :=
  .error (.malformed span.start fault)

/-- A literal. -/
def literal (datum : Datum) : Decoded Literal :=
  match datum with
  | .number text span =>
    if Numeral.isFloat text then .ok ⟨.float, text, span⟩
    else if Numeral.isInteger text then .ok ⟨.integer, text, span⟩
    else fail datum (.invalidNumber text)
  | .string text span => .ok ⟨.string, text, span⟩
  | .symbol text span =>
    if text = "true" || text = "false" then .ok ⟨.boolean, text, span⟩
    else if text = "null" then .ok ⟨.null, text, span⟩
    else fail datum (.notLiteral datum)
  | .list [.symbol "char" _, .string text _] span =>
    if text.length = 1 then .ok ⟨.char, text, span⟩ else fail datum (.notLiteral datum)
  | .list _ _ => fail datum (.notLiteral datum)

/-- The part of an attribute's spelling behind the `@`. -/
def attributeName? (text : String) : Option String :=
  match text.toList with
  | '@' :: rest => some (String.ofList rest)
  | _ => none

/-- One attribute, or nothing when the datum is none. -/
def attribute? (datum : Datum) : Decoded (Option Attribute) :=
  match datum with
  | .symbol text span => .ok ((attributeName? text).map (⟨·, none, span⟩))
  | .list (.symbol text _ :: values) span =>
    match attributeName? text, values with
    | none, _ => .ok none
    | some name, [] => .ok (some ⟨name, none, span⟩)
    | some name, [value] => do
      let payload <- literal value
      return some ⟨name, some payload, span⟩
    | some _, _ => fail datum .attributeValues
  | _ => .ok none

/-- The attributes in front of a declaration and the items behind them. -/
def attributes : List Datum -> Decoded (List Attribute × List Datum)
  | [] => .ok ([], [])
  | datum :: rest => do
    match <- attribute? datum with
    | some found =>
      let (others, rest) <- attributes rest
      return (found :: others, rest)
    | none => return ([], datum :: rest)

/-- A declaration's name and the items behind it; `_` stands for a missing name. -/
def name : List Datum -> Option Ident × List Datum
  | .symbol text span :: rest => if text = "_" then (none, rest) else (some ⟨text, span⟩, rest)
  | items => (none, items)

/-- The length of an array: a plain decimal number that is not negative. -/
def arrayLength? (datum : Datum) : Option Nat :=
  match datum with
  | .number text _ =>
    match Numeral.machineInteger? text with
    | some length => if length < 0 then none else some length.toNat
    | none => none
  | _ => none

mutual

/-- A written type. -/
def typeForm : Datum -> Decoded TypeForm
  | .symbol text span =>
    if text = "ptr" then .ok (.opaquePointer span)
    else if text = "addr" then .ok (.address span)
    else .ok (.named text span)
  | .string text span => failAt span (.notType (.string text span))
  | .number text span => failAt span (.notType (.number text span))
  | .list [] span => .error (.emptyType span.start)
  | .list (.symbol "ptr" _ :: args) span =>
    match args with
    | [] => failAt span (.elementType "ptr")
    | element :: _ => do return .pointer (<- typeForm element) span
  | .list (.symbol "const" _ :: args) span =>
    match args with
    | [] => failAt span (.elementType "const")
    | inner :: _ => do return .const (<- typeForm inner) span
  | .list (.symbol "mut" _ :: args) span =>
    match args with
    | [] => failAt span (.elementType "mut")
    | inner :: _ => do return .mutable (<- typeForm inner) span
  | .list (.symbol "array" _ :: args) span =>
    match args with
    | [] => failAt span (.elementType "array")
    | [element, size] => do
      let element <- typeForm element
      match arrayLength? size with
      | some length => return .fixedArray element length span
      | none => fail size .arrayLength
    | element :: _ => do return .array (<- typeForm element) span
  | .list (.symbol "fn" _ :: args) span =>
    match args with
    | [.list params _, result] => do
      let (params, variadic) <- paramForms params
      return .function params (<- typeForm result) variadic span
    | _ => failAt span .functionType
  | .list items span => failAt span (.unknownType (.list items span))

/-- The parameters of a written function type, and whether `...` is among them. -/
def paramForms : List Datum -> Decoded (List TypeForm × Bool)
  | [] => .ok ([], false)
  | datum :: rest =>
    if datum.isSymbol "..." then do
      let (params, _) <- paramForms rest
      return (params, true)
    else do
      let param <- typeForm datum
      let (params, variadic) <- paramForms rest
      return (param :: params, variadic)

end

/-- A written type, where `_` asks for the type to be inferred. -/
def optionalType (datum : Datum) : Decoded (Option TypeForm) :=
  if datum.isSymbol "_" then .ok none else do return some (<- typeForm datum)

/-- One segment of a field path: a name or an index. -/
def pathSegment (datum : Datum) : Decoded String :=
  match datum with
  | .symbol text _ | .number text _ => .ok text
  | _ => fail datum .pathSegment

mutual

/-- An expression. -/
def expr : Datum -> Decoded Expr
  | .number text span => do return .literal (<- literal (.number text span))
  | .string text span => do return .literal (<- literal (.string text span))
  | .symbol text span =>
    if text = "true" || text = "false" || text = "null" then do
      return .literal (<- literal (.symbol text span))
    else .ok (.name ⟨text, span⟩)
  | .list [] span => failAt span .emptyExpression
  | .list (.symbol head headSpan :: args) span =>
    let datum := Datum.list (.symbol head headSpan :: args) span
    match UnaryOp.ofText? head, args with
    | some op, [operand] => do return .unary op (<- expr operand) span
    | _, args =>
    match BinaryOp.ofText? head, args with
    | some op, [left, right] => do return .binary op (<- expr left) (<- expr right) span
    | some op, _ => failAt span (.operands op.text)
    | none, args =>
    match head, args with
    | "char", _ => do return .literal (<- literal datum)
    | "bad", _ => .ok (.bad span)
    | "call", .symbol callee calleeSpan :: args => do
      return .call ⟨callee, calleeSpan⟩ (<- exprs args) span
    | "call", _ => failAt span .callee
    | "icall", function :: args => do
      let function <- expr function
      return .callValue function (<- exprs args) span
    | "icall", [] => failAt span .calleeValue
    | ".", base :: segment :: path => do
      let base <- expr base
      return .field base (<- (segment :: path).mapM pathSegment) span
    | ".", _ => failAt span .fieldAccess
    | "index", [base, position] => do return .index (<- expr base) (<- expr position) span
    | "index", _ => failAt span .index
    | "cast", [type, operand] => do
      let type <- typeForm type
      return .cast type (<- expr operand) span
    | "cast", _ => failAt span .cast
    | "arr", items => do return .array none (<- exprs items) span
    | "arr-of", type :: items => do
      let type <- typeForm type
      return .array (some type) (<- exprs items) span
    | "arr-of", [] => failAt span .arrayElement
    | "address", [operand] => do return .addressOf (<- expr operand) span
    | "address", _ => failAt span .addressOf
    | "load", [type, operand] => do
      let type <- typeForm type
      return .load type (<- expr operand) span
    | "load", _ => failAt span .load
    | "alloc", [type] => do return .alloc (<- typeForm type) span
    | "alloc", _ => failAt span .alloc
    | _, _ => failAt span (.unknownExpression datum)
  | .list items span => failAt span (.unknownExpression (.list items span))

/-- Several expressions in turn. -/
def exprs : List Datum -> Decoded (List Expr)
  | [] => .ok []
  | datum :: rest => do
    let first <- expr datum
    return first :: (<- exprs rest)

end

/-- An expression that may be missing. -/
def optionalExpr : Option Datum -> Decoded (Option Expr)
  | none => .ok none
  | some datum => do return some (<- expr datum)

/-- The fields of a struct. -/
def fields : List Datum -> Decoded (List FieldDecl)
  | [] => .ok []
  | .list [.symbol text nameSpan, type] span :: rest => do
    let type <- typeForm type
    return ⟨⟨text, nameSpan⟩, type, span⟩ :: (<- fields rest)
  | datum :: _ => fail datum (.structField datum)

/-- A struct, from the items behind its head. -/
def structDecl (items : List Datum) (span : Span) : Decoded StructDecl := do
  let (attributes, items) <- attributes items
  let (name, items) := name items
  return ⟨attributes, name, <- fields items, span⟩

/-- The written type and the value of a constant or static. -/
def typeAndValue (items : List Datum) : Decoded (Option TypeForm × Option Expr) :=
  match items with
  | [] => .ok (none, none)
  | [type] => do return (<- optionalType type, none)
  | type :: value :: _ => do
    let type <- optionalType type
    return (type, some (<- expr value))

/-- A constant, from the items behind its head. -/
def constDecl (items : List Datum) (span : Span) : Decoded ConstDecl := do
  let (attributes, items) <- attributes items
  let (name, items) := name items
  let (type, value) <- typeAndValue items
  return ⟨attributes, name, type, value, span⟩

/-- A binding: its name, its type and its value, if it has one. -/
def binding (isMutable : Bool) (args : List Datum) (span : Span) : Decoded BindingDecl :=
  match args with
  | .symbol text nameSpan :: type :: values => do
    let type <- optionalType type
    let value <- optionalExpr values.head?
    return ⟨⟨text, nameSpan⟩, type, value, isMutable, span⟩
  | _ => failAt span .binding

/-- Whether the items start with the symbol `mut`, and the items behind it. -/
def mutMark : List Datum -> Bool × List Datum
  | datum :: rest => if datum.isSymbol "mut" then (true, rest) else (false, datum :: rest)
  | [] => (false, [])

mutual

/-- A statement. What no statement form matches is an expression. -/
def stmt : Datum -> Decoded Stmt
  | .list (.symbol head headSpan :: args) span =>
    match head, args with
    | "block", items => do return .block (<- stmts items) span
    | "struct", items => do return .struct (<- structDecl items span)
    | "const", items => do return .const (<- constDecl items span)
    | "bad", _ => .ok (.bad span)
    | "let", args => do
      let (isMutable, args) := mutMark args
      return .letIn (<- binding isMutable args span)
    | "instr", args => do return .instr (<- binding false args span)
    | "set", [target, value] => do return .assign (<- expr target) (<- expr value) span
    | "set", _ => failAt span .assignment
    | "return", [value] => do return .ret (some (<- expr value)) span
    | "return", _ => .ok (.ret none span)
    | "break", _ => .ok (.brk span)
    | "continue", _ => .ok (.cont span)
    | "if", [test, body] => do
      let test <- expr test
      let (body, bodySpan) <- block body
      return .cond test body bodySpan none span
    | "if", [test, body, otherwise] => do
      let test <- expr test
      let (body, bodySpan) <- block body
      if otherwise.head = "if" || otherwise.head = "block" then
        return .cond test body bodySpan (some (<- stmt otherwise)) span
      else fail otherwise .elseBranch
    | "if", _ => failAt span .conditional
    | "while", [test, body] => do
      let test <- expr test
      let (body, bodySpan) <- block body
      return .whileLoop test body bodySpan span
    | "while", _ => failAt span .whileLoop
    | "loop", [body] => do
      let (body, bodySpan) <- block body
      return .loop body bodySpan span
    | "loop", _ => failAt span .loop
    | "for", [first, test, after, body] => do
      let first <- clause first
      let test <- if test.isSymbol "_" then pure none else optionalExpr (some test)
      let after <- clause after
      let (body, bodySpan) <- block body
      return .forLoop first test after body bodySpan span
    | "for", _ => failAt span .forLoop
    | "write", [target, value] => do return .write (<- expr target) (<- expr value) span
    | "write", _ => failAt span .write
    | _, args => do return .expr (<- expr (.list (.symbol head headSpan :: args) span))
  | datum => do return .expr (<- expr datum)

/-- Several statements in turn. -/
def stmts : List Datum -> Decoded (List Stmt)
  | [] => .ok []
  | datum :: rest => do
    let first <- stmt datum
    return first :: (<- stmts rest)

/-- A block: its statements and its span. -/
def block : Datum -> Decoded (List Stmt × Span)
  | .list (.symbol head headSpan :: items) span =>
    if head = "block" then do return (<- stmts items, span)
    else failAt span (.notBlock (.list (.symbol head headSpan :: items) span))
  | datum => fail datum (.notBlock datum)

/-- A clause of a `for`, where `_` leaves the clause out. -/
def clause : Datum -> Decoded (Option Stmt)
  | .symbol text span =>
    if text = "_" then .ok none else do return some (.expr (<- expr (.symbol text span)))
  | .string text span => do return some (.expr (<- expr (.string text span)))
  | .number text span => do return some (.expr (<- expr (.number text span)))
  | .list items span => do return some (<- stmt (.list items span))

end

/-- A body. -/
def body (datum : Datum) : Decoded Body := do
  let (stmts, span) <- block datum
  return ⟨stmts, span⟩

/-- The parameters of a function. -/
def params : List Datum -> Decoded (List Param)
  | [] => .ok []
  | .list [.symbol "mut" _, .symbol text nameSpan, type] span :: rest => do
    let type <- typeForm type
    return ⟨⟨text, nameSpan⟩, type, true, span⟩ :: (<- params rest)
  | .list [.symbol text nameSpan, type] span :: rest => do
    let type <- typeForm type
    return ⟨⟨text, nameSpan⟩, type, false, span⟩ :: (<- params rest)
  | datum :: _ => fail datum (.parameter datum)

/-- What follows the attributes of a function: its name, parameters and result, and
the items behind them. Without parameters and result the rest is left out. -/
structure Signature where
  name : Option Ident
  params : List Param
  result : Option TypeForm
  rest : List Datum

/-- Reads the signature of a function. -/
def signature (items : List Datum) : Decoded Signature :=
  let (name, items) := name items
  match items with
  | paramList :: result :: rest => do
    let params <- match paramList with
      | .list items _ => params items
      | other => fail other (.parameterList other)
    return ⟨name, params, some (<- typeForm result), rest⟩
  | _ => .ok ⟨name, [], none, []⟩

/-- A function, from the items behind its head. -/
def functionDecl (items : List Datum) (span : Span) : Decoded FunctionDecl := do
  let (attributes, items) <- attributes items
  let sig <- signature items
  match sig.rest with
  | [] => return ⟨attributes, sig.name, sig.params, sig.result, none, span⟩
  | [datum] => return ⟨attributes, sig.name, sig.params, sig.result, some (<- body datum), span⟩
  | _ => failAt span .functionBody

/-- The text of a string, where any other datum counts as empty. -/
def stringText : Option Datum -> String
  | some (.string text _) => text
  | _ => ""

/-- An assembler function, from the items behind its head. -/
def asmDecl (items : List Datum) (span : Span) : Decoded AsmDecl := do
  let (attributes, items) <- attributes items
  let sig <- signature items
  return ⟨attributes, sig.name, sig.params, sig.result, stringText sig.rest.head?,
    stringText sig.rest.tail.head?, span⟩

/-- The entrypoint, from the items behind its head. -/
def entryDecl (items : List Datum) (span : Span) : Decoded EntryDecl := do
  let (attributes, items) <- attributes items
  match items with
  | [datum] => return ⟨attributes, <- body datum, span⟩
  | _ => failAt span .entryBody

/-- The variants of an enumeration. -/
def variants : List Datum -> Decoded (List VariantDecl)
  | [] => .ok []
  | .list [.symbol text nameSpan] span :: rest => do
    return ⟨⟨text, nameSpan⟩, none, span⟩ :: (<- variants rest)
  | .list [.symbol text nameSpan, value] span :: rest => do
    let value <- expr value
    return ⟨⟨text, nameSpan⟩, some value, span⟩ :: (<- variants rest)
  | datum :: _ => fail datum (.enumVariant datum)

/-- An enumeration, from the items behind its head. -/
def enumDecl (items : List Datum) (span : Span) : Decoded EnumDecl := do
  let (attributes, items) <- attributes items
  let (name, items) := name items
  let (base, items) := match items with
    | .symbol text baseSpan :: rest => (some (TypeForm.named text baseSpan), rest)
    | items => (none, items)
  return ⟨attributes, name, base, <- variants items, span⟩

/-- The flags in front of a static's name. -/
def isStaticFlag (text : String) : Bool :=
  text = "mut" || text = "volatile" || text = "threadlocal" || text = "atomic"

/-- The flags in front of a static's name, and the items behind them. -/
def staticFlags : List Datum -> List String × List Datum
  | .symbol text span :: rest =>
    if isStaticFlag text then
      let (flags, rest) := staticFlags rest
      (text :: flags, rest)
    else ([], .symbol text span :: rest)
  | items => ([], items)

/-- A static, from the items behind its head. -/
def staticDecl (items : List Datum) (span : Span) : Decoded StaticDecl := do
  let (attributes, items) <- attributes items
  let (flags, items) := staticFlags items
  let (name, items) := name items
  let (type, value) <- typeAndValue items
  return ⟨attributes, name, type, value, flags.contains "mut", flags.contains "volatile",
    flags.contains "threadlocal", flags.contains "atomic", span⟩

/-- A type alias, from the items behind its head. -/
def aliasDecl (items : List Datum) (span : Span) : Decoded AliasDecl := do
  let (attributes, items) <- attributes items
  let (name, items) := name items
  match items with
  | [type] => return ⟨attributes, name, some (<- typeForm type), span⟩
  | _ => return ⟨attributes, name, none, span⟩

/-- An item of a unit. What no declaration matches is a stray statement. -/
def item (datum : Datum) : Decoded Item :=
  match datum with
  | .list (.symbol head _ :: items) span =>
    match head with
    | "fn" => do return .function (<- functionDecl items span)
    | "asm" => do return .asm (<- asmDecl items span)
    | "entry" => do return .entry (<- entryDecl items span)
    | "struct" => do return .struct (<- structDecl items span)
    | "enum" => do return .enum (<- enumDecl items span)
    | "const" => do return .const (<- constDecl items span)
    | "static" => do return .static (<- staticDecl items span)
    | "type" => do return .typeAlias (<- aliasDecl items span)
    | _ => do return .stray (<- stmt datum)
  | _ => do return .stray (<- stmt datum)

/-- The items of a unit. -/
def items : List Datum -> Decoded (List Item)
  | [] => .ok []
  | datum :: rest => do
    let first <- item datum
    return first :: (<- items rest)

end Decode

/-- The span from the first datum to the last. -/
def Datum.outerSpan? (data : List Datum) : Option Span :=
  match data.head?, data.getLast? with
  | some first, some last => some ⟨first.span.start, last.span.stop⟩
  | _, _ => none

/-- Reads the unit written in a text. -/
def Module.decode (file : String) (text : String) : Decoded Module :=
  match Datum.readAll text with
  | .error error => .error (.unreadable error)
  | .ok data => do return ⟨file, <- Decode.items data, Datum.outerSpan? data⟩

/-- A unit is read from the characters of its text. -/
theorem Module.decode_chars {file : String} {chars : List Char} {outcome : Decoded Module}
    (read : (match Datum.Stack.empty.assemble (Token.scan .gap .start chars) with
      | .error error => .error (.unreadable error)
      | .ok data => do return ⟨file, <- Decode.items data, Datum.outerSpan? data⟩) = outcome) :
    Module.decode file (String.ofList chars) = outcome := by
  rwa [Module.decode, Datum.readAll_chars rfl]

end UnitCheck
