import UnitCheck.Diagnostic.Basic
import UnitCheck.Finding.Basic

/-!
# How findings are worded

Every finding has one severity, one code and one wording. Places are put into
the file of the unit.
-/

namespace UnitCheck

/-- A text between single quotes. -/
def inQuotes (text : String) : String := "'" ++ text ++ "'"

/-- A type between single quotes. -/
def Ty.inQuotes (type : Ty) : String := UnitCheck.inQuotes type.render

/-- The texts, each between double quotes, separated by commas. -/
def listQuoted (texts : List String) : String :=
  ", ".intercalate (texts.map fun text => "\"" ++ text ++ "\"")

/-- Why an item is no proper declaration, in words. -/
def MalformedReason.text : MalformedReason -> String
  | .unreadable => "could not read this declaration"
  | .notDeclaration => "expected a declaration at top level"
  | .unnamed kind => kind.text ++ " declaration has no name"
  | .reservedName name => name ++ " is a builtin type and cannot be redefined"
  | .aliasWithoutTarget name => "type alias " ++ name ++ " has no target type"

/-- What is declared a second time, in words. -/
def Redeclared.text : Redeclared -> String
  | .symbol name => name
  | .field name => "field " ++ name
  | .variant name => "variant " ++ name

/-- Why two operands do not go together, in words. -/
def OperandReason.text : OperandReason -> String
  | .needIntegers => "bitwise operators need integer operands"
  | .needNumbers => "arithmetic needs numeric operands"
  | .noWidening => "neither operand widens to the other without loss"
  | .differentPointers => "pointers must have the same type"
  | .differentTypes => "operands must have the same type"
  | .incomparable => "values of these types cannot be compared"

/-- What an operator expects of an operand, in words. -/
def OperandWish.text : OperandWish -> String
  | .bool => "bool"
  | .number => "a number"
  | .integer => "an integer"

/-- The statement's keyword. -/
def Terminator.text : Terminator -> String
  | .ret => "return"
  | .brk => "break"
  | .cont => "continue"

/-- The code of a repeated terminator. -/
def Terminator.code : Terminator -> String
  | .ret => "C0001"
  | .brk => "C0002"
  | .cont => "C0003"

namespace Finding

/-- What is said to have raised a bug. -/
def bugOrigin : String := "<origin>"

/-- The primary label of a finding. -/
def mark (file : String) (span : Span) (message : String) : Label :=
  ⟨some (span.inFile file), message, .primary⟩

/-- A secondary label of a finding. -/
def explain (file : String) (span : Span) (message : String) : Label :=
  ⟨some (span.inFile file), message, .secondary⟩

/-- A secondary label at a place that may not exist. -/
def explain? (file : String) (span : Option Span) (message : String) : List Label :=
  match span with
  | some span => [explain file span message]
  | none => []

/-- An error. -/
def error (code message : String) (labels : List Label) (help : String) : Diagnostic :=
  ⟨.error, message, code, labels, [], help, ""⟩

/-- A bug. -/
def bug (code message : String) (labels : List Label) : Diagnostic :=
  ⟨.bug, message, code, labels, [], "", bugOrigin⟩

/-- The diagnostic for a binding that can get no type. -/
def missingInitializerDiagnostic (file : String) (span : Span) : Uninitialized -> Diagnostic
  | .binding name =>
    error "T0017" (name ++ " needs a type or an initializer")
      [mark file span "type cannot be inferred"]
      "write the type out or give it an initial value"
  | .constant => error "T0017" "constant needs a value" [mark file span "no initializer"] ""
  | .static =>
    error "T0017" "static needs a type or an initializer"
      [mark file span "type cannot be inferred"] ""

/-- The diagnostic for a field access that leads nowhere. -/
def fieldAccessDiagnostic (file : String) (span : Span) (problem : FieldError) : Diagnostic :=
  match problem.reason with
  | .missing =>
    error "T0008" ("field " ++ problem.segment ++ " not found")
      [mark file span (problem.type.render ++ " has no field " ++ problem.segment)]
      "check the field name spelling"
  | .needsPointer =>
    error "T0008" problem.message
      [mark file span "mut values are not dereferenced implicitly"]
      ("declare the value as ptr[" ++ problem.type.unwrap.render ++ "]")
  | .notStruct | .indexOutOfRange =>
    error "T0008" problem.message [mark file span "invalid field access"] ""

/-- The diagnostic for a finding in a file. -/
def diagnostic (file : String) : Finding -> Diagnostic
  | .malformed span reason =>
    error "F0001" "malformed declaration" [mark file span reason.text] ""
  | .duplicateEntrypoint span first =>
    error "F0002" "duplicate entrypoint"
      [mark file span "second entrypoint declared here",
        explain file first "first entrypoint here"]
      "a compilation unit has at most one entrypoint"
  | .redeclared span previous what =>
    error "R0002" (what.text ++ " is already declared")
      (mark file span "redeclared here" :: explain? file previous "previously declared here")
      "use a different name or remove one of the declarations"
  | .unknownType name =>
    error "R0004" ("unknown type: " ++ name.name)
      [mark file name.span ("no type named " ++ name.name ++ " in scope")] ""
  | .invalidEnumBase span base =>
    error "F0004" "invalid enum base type"
      [mark file span (base.inQuotes ++ " is not an integer type")]
      "enums are stored as one of s8..s64 or u8..u64"
  | .recursiveStruct span field outer inner =>
    error "F0001" "recursive struct has infinite size"
      [mark file span
        ("field " ++ field ++ " of " ++ outer ++ " contains " ++ inner ++ " by value")]
      ("use a ptr[" ++ inner ++ "] field instead")
  | .cyclicAlias name =>
    error "F0003" "cyclic type alias"
      [mark file name.span (name.name ++ " refers to itself")]
      "break the cycle with a struct"
  | .intrinsicTwice name => bug "B0001" ("intrinsic declared twice: " ++ name) []
  | .undeclared name =>
    error "R0001" ("undeclared symbol: " ++ name.name)
      [mark file name.span "not found in this scope"]
      "check that the symbol is declared before use"
  | .typeAsValue name kind =>
    error "R0005" (kind.text ++ " " ++ name.name ++ " is a type, not a value")
      [mark file name.span "used as a value here"] ""
  | .duplicateParameter name previous =>
    error "R0006" ("duplicate parameter " ++ name.name)
      (mark file name.span "parameter declared twice" ::
        explain? file previous "first declared here") ""
  | .duplicateLocal name previous =>
    error "R0003" (name.name ++ " is already declared in this scope")
      (mark file name.span "redeclared here" :: explain? file previous "previously declared here")
      "declare it in a nested block to shadow it, or pick another name"
  | .localOutsideScope name =>
    bug "B0001" "no open scope for local declaration" [mark file name.span "while declaring this"]
  | .scopeUnderflow span =>
    bug "B0003" "scope stack underflow" [mark file span "while leaving this scope"]
  | .scopesLeftOpen count =>
    bug "B0003" ("scoper left " ++ toString count ++ " frame(s) open") []
  | .mismatch span expected found =>
    error "T0001" "mismatched types"
      [mark file span ("expected " ++ expected.inQuotes ++ ", found " ++ found.inQuotes)]
      (if found.compatibility expected = .lossy then
        "use an explicit cast: (cast " ++ expected.render ++ " ...)" else "")
  | .literalOverflow span value type =>
    error "T0015"
      ("integer literal " ++ toString value ++ " overflows " ++ UnitCheck.inQuotes type.text)
      [mark file span (UnitCheck.inQuotes type.text ++ " holds " ++ (Ty.prim type).rangeText)]
      "use a wider type or an explicit cast"
  | .notNumber span text =>
    error "T0015" (Numeral.integerComplaint text) [mark file span "not a number"] ""
  | .operandMismatch span op left right reason =>
    error "T0002" ("invalid operation: " ++ left.inQuotes ++ " " ++ op.text ++ " " ++ right.inQuotes)
      [mark file span reason.text] "convert one operand with an explicit cast"
  | .invalidOperand span op type wish =>
    error "T0002" ("operator " ++ op ++ " is not defined on " ++ type.inQuotes)
      [mark file span ("expected " ++ wish.text)] ""
  | .pointerOrder span op =>
    error "T0002" ("pointers cannot be compared with " ++ op.text)
      [mark file span "only == and != are defined on pointers"] ""
  | .unordered span type =>
    error "T0002" (type.inQuotes ++ " values cannot be ordered")
      [mark file span "only == and != are defined here"] ""
  | .negatedUnsigned span type =>
    error "T0002" ("cannot negate a value of unsigned type " ++ type.inQuotes)
      [mark file span "negation of an unsigned value"]
      ("cast it to " ++ type.unwrap.toSigned.inQuotes ++ " first")
  | .selfReference span =>
    error "T0002" "initializer refers to itself"
      [mark file span "the value depends on its own declaration"] ""
  | .emptyArray span =>
    error "T0002" "cannot infer the element type of an empty array"
      [mark file span "no elements"] "write the element type: (arr-of T)"
  | .notCallable name kind =>
    error "T0003" (kind.text ++ " " ++ name.name ++ " is not callable")
      [mark file name.span "called here"] ""
  | .valueNotCallable span type =>
    error "T0003" ("value of type " ++ type.inQuotes ++ " is not callable")
      [mark file span "called here"] ""
  | .argumentCount span callee expected found =>
    error "T0004" ("wrong number of arguments to " ++ callee)
      [mark file span
        ("expected " ++ toString expected ++ " argument(s), found " ++ toString found)] ""
  | .argumentOrder span callee params =>
    error "T0005" ("expected argument order for " ++ callee)
      [mark file span ("expected (" ++ ", ".intercalate (Ty.renderAll params) ++ ")")] ""
  | .unknownVariant span enum path variants =>
    error "T0008" ("enum " ++ enum ++ " has no variant " ++ ".".intercalate path)
      [mark file span "unknown variant"] ("variants: " ++ ", ".intercalate variants)
  | .fieldAccess span problem => fieldAccessDiagnostic file span problem
  | .indexNotInteger span type =>
    error "T0009" "index must be an integer" [mark file span ("found " ++ type.inQuotes)] ""
  | .notIndexable span type =>
    error "T0009" ("type " ++ type.inQuotes ++ " cannot be indexed")
      [mark file span "not an array or typed pointer"] ""
  | .indexOutOfBounds span index type length =>
    error "T0016" ("index " ++ index ++ " out of bounds for " ++ type.inQuotes)
      [mark file span ("valid indices are 0 to " ++ toString ((length : Int) - 1))] ""
  | .invalidCast span source target =>
    error "T0010" ("cannot cast " ++ source.inQuotes ++ " to " ++ target.inQuotes)
      [mark file span "invalid cast"] ""
  | .voidBinding span name =>
    error "T0006" (name.getD "binding" ++ " cannot have type void")
      [mark file span "void has no values"] ""
  | .missingInitializer span what => missingInitializerDiagnostic file span what
  | .conditionNotBool span type =>
    error "T0007" "condition must be bool" [mark file span ("found " ++ type.inQuotes)]
      "compare the value explicitly, for example x != 0"
  | .missingReturnValue span result =>
    error "T0012" "missing return value"
      [mark file span ("function returns " ++ result.inQuotes)] ""
  | .unexpectedReturnValue span =>
    error "T0011" "void function cannot return a value" [mark file span "unexpected value"]
      "remove the value or declare a return type"
  | .returnMismatch span expected found =>
    error "T0011" "mismatched return type"
      [mark file span ("expected " ++ expected.inQuotes ++ ", found " ++ found.inQuotes)]
      (found.conversionComplaint expected (found.compatibility expected))
  | .notAddressable span =>
    error "T0014" "cannot take the address of this expression"
      [mark file span "not a memory location"] "bind the value to a local first"
  | .notAssignable span =>
    error "T0014" "cannot assign to this expression" [mark file span "not a memory location"] ""
  | .constTarget span =>
    error "T0013" "cannot assign to a const value" [mark file span "has a const type"] ""
  | .constantTarget span symbol =>
    error "T0013" ("cannot assign to constant " ++ UnitCheck.inQuotes symbol.name)
      (mark file span "cannot modify constant" ::
        explain? file symbol.site "declared as constant here")
      "constants are immutable; use 'let mut' for a variable"
  | .immutableTarget span symbol =>
    error "T0018"
      ("cannot assign twice to immutable " ++ symbol.kind.text ++ " " ++
        UnitCheck.inQuotes symbol.name)
      (mark file span "cannot assign" :: explain? file symbol.site "declared here")
      "declare it with mut to allow assignment"
  | .loadOperand span type =>
    error "T0019" ("cannot load from a value of type " ++ type.inQuotes)
      [mark file span "expected an addr or a pointer"] ""
  | .writeOperand span type =>
    error "T0019" ("cannot write through a value of type " ++ type.inQuotes)
      [mark file span "expected an addr or a pointer"] ""
  | .unknownAttribute subject near =>
    error "A0002" ("unknown attribute '@" ++ subject.name ++ "'")
      [mark file subject.span "not a compiler attribute"]
      (match near with
        | some name => "did you mean '@" ++ name ++ "'?"
        | none => "")
  | .duplicateAttribute subject first =>
    error "A0004" ("duplicate attribute '@" ++ subject.name ++ "'")
      [mark file subject.span "repeated here", explain file first "first given here"] ""
  | .misusedAttribute subject kind allowed =>
    error "A0001" ("attribute '@" ++ subject.name ++ "' cannot be applied to a " ++ kind.text)
      [mark file subject.span ("not allowed on a " ++ kind.text)]
      ("'@" ++ subject.name ++ "' is valid on: " ++ ", ".intercalate (allowed.map DeclKind.text))
  | .unexpectedAttributeValue name payload =>
    error "A0003" ("attribute '@" ++ name ++ "' does not take a value")
      [mark file payload.span "unexpected value"] ("write it as '@" ++ name ++ "'")
  | .missingAttributeValue subject choices =>
    error "A0006" ("attribute '@" ++ subject.name ++ "' needs a value")
      [mark file subject.span "missing value"] ("expected one of: " ++ listQuoted choices)
  | .invalidAttributeValue name payload choices =>
    error "A0003"
      ("invalid value " ++ Text.quoted payload.text ++ " for attribute '@" ++ name ++ "'")
      [mark file payload.span "not recognized"] ("expected one of: " ++ listQuoted choices)
  | .conflictingAttributes first second =>
    error "A0005" ("attributes '@" ++ first.name ++ "' and '@" ++ second.name ++ "' conflict")
      [mark file second.span "conflicts with an earlier attribute",
        explain file first.span "first given here"]
      "keep only one of them"
  | .externalWithBody name body attributeSpan =>
    error "A0007" ("external function " ++ UnitCheck.inQuotes name ++ " cannot have a body")
      [mark file body "body given here", explain file attributeSpan "declared external here"]
      "remove the body or the '@extern' attribute"
  | .missingBody name span =>
    error "A0008" ("function " ++ UnitCheck.inQuotes name ++ " has no body")
      [mark file span "missing body"] "add a body, or mark the function '@extern'"
  | .returnOutsideFunction span =>
    error "C0007" "return outside of a function" [mark file span "not inside a function body"] ""
  | .breakOutsideLoop span =>
    error "C0005" "break outside of a loop" [mark file span "not inside a loop"] ""
  | .continueOutsideLoop span =>
    error "C0006" "continue outside of a loop" [mark file span "not inside a loop"] ""
  | .duplicateTerminator span what =>
    error what.code ("duplicate " ++ what.text)
      [mark file span ("previous " ++ what.text ++ " makes this unreachable")]
      ("remove this " ++ what.text)
  | .unreachable span strict =>
    { error "C0004" "unreachable code" [mark file span "this code will never execute"]
        "remove this code or restructure control flow" with
      severity := if strict then .error else .warning }
  | .lowLevelOutside span instruction =>
    error "C0008"
      ("low-level instruction " ++ UnitCheck.inQuotes instruction ++ " outside of a function")
      [mark file span "only allowed inside a function or entrypoint body"] ""
  | .addressOfAddress span operand =>
    { error "W0001" "address of an address is undefined behavior"
        [mark file span "double indirection through 'addr' is not checked",
          explain file operand "this is already an 'addr'"]
        "use the address directly, or cast it to a typed pointer first" with
      severity := .warning }
  | .missingReturn span name result branches =>
    error "C0009"
      ("not all code paths in function " ++ UnitCheck.inQuotes name ++ " return a value of type " ++
        result.inQuotes)
      (mark file span "missing return on some paths" ::
        branches.map fun (kind, place) =>
          explain file place
            ("missing return in " ++ kind.text ++ " at line " ++ toString place.start.line))
      "make sure every branch returns, or add a final return at the end of the function"
  | .passTooEarly pass missing =>
    bug "B0002" (pass.text ++ " ran before " ++ missing.text ++ " completed") []
  | .passRefused problem => bug "B0002" problem.message []

/-- The severity of a finding. -/
def severity (finding : Finding) : Severity := (finding.diagnostic "").severity

/-- The code of a finding. -/
def code (finding : Finding) : String := (finding.diagnostic "").code

end Finding
end UnitCheck
