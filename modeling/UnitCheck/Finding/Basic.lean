import UnitCheck.Pass
import UnitCheck.Scope.Member
import UnitCheck.Scope.Symbol
import UnitCheck.Tree.Item
import UnitCheck.Type.Conversion

/-!
# Findings

A finding is something the passes have to say about a unit: the cause, with the
places and things it is about. How a finding is worded is decided elsewhere.
-/

namespace UnitCheck

/-- The kinds of declarations. -/
inductive DeclKind where
  | function | asmFunction | entrypoint | struct | enum | constant | static | typeAlias
deriving Repr, DecidableEq, Inhabited

namespace DeclKind

/-- The kinds in the order in which lists name them. -/
def all : List DeclKind :=
  [.function, .asmFunction, .entrypoint, .struct, .enum, .constant, .static, .typeAlias]

/-- The kind in words. -/
def text : DeclKind -> String
  | .function => "function"
  | .asmFunction => "assembler function"
  | .entrypoint => "entrypoint"
  | .struct => "struct"
  | .enum => "enum"
  | .constant => "constant"
  | .static => "static"
  | .typeAlias => "type alias"

end DeclKind

/-- Why an item is no proper declaration. -/
inductive MalformedReason where
  | unreadable
  | notDeclaration
  | unnamed (kind : DeclKind)
  | reservedName (name : String)
  | aliasWithoutTarget (name : String)
deriving Repr, DecidableEq

/-- What a second declaration of a name declares. -/
inductive Redeclared where
  | symbol (name : String)
  | field (name : String)
  | variant (name : String)
deriving Repr, DecidableEq

/-- Why two operands do not go together. -/
inductive OperandReason where
  | needIntegers
  | needNumbers
  | noWidening
  | differentPointers
  | differentTypes
  | incomparable
deriving Repr, DecidableEq

/-- What an operator expects of an operand. -/
inductive OperandWish where
  | bool | number | integer
deriving Repr, DecidableEq

/-- What a binding without a type or a value is. -/
inductive Uninitialized where
  | binding (name : String)
  | constant
  | static
deriving Repr, DecidableEq

/-- The statements that end a statement list. -/
inductive Terminator where
  | ret | brk | cont
deriving Repr, DecidableEq

/-- The kinds of blocks that start a branch. -/
inductive BranchKind where
  | ifBranch | elseBranch | loopBody
deriving Repr, DecidableEq, Inhabited

/-- The branch kind in words. -/
def BranchKind.text : BranchKind -> String
  | .ifBranch => "if"
  | .elseBranch => "else"
  | .loopBody => "loop"

/-- Something the passes have to say about a unit. -/
inductive Finding where
  -- declarations
  | malformed (span : Span) (reason : MalformedReason)
  | duplicateEntrypoint (span first : Span)
  | redeclared (span : Span) (previous : Option Span) (what : Redeclared)
  | unknownType (name : Ident)
  | invalidEnumBase (span : Span) (base : Ty)
  | recursiveStruct (span : Span) (field outer inner : String)
  | cyclicAlias (name : Ident)
  | intrinsicTwice (name : String)
  -- names
  | undeclared (name : Ident)
  | typeAsValue (name : Ident) (kind : SymbolKind)
  | duplicateParameter (name : Ident) (previous : Option Span)
  | duplicateLocal (name : Ident) (previous : Option Span)
  | localOutsideScope (name : Ident)
  | scopeUnderflow (span : Span)
  | scopesLeftOpen (count : Nat)
  -- types
  | mismatch (span : Span) (expected found : Ty)
  | literalOverflow (span : Span) (value : Int) (type : Prim)
  | notNumber (span : Span) (text : String)
  | operandMismatch (span : Span) (op : BinaryOp) (left right : Ty) (reason : OperandReason)
  | invalidOperand (span : Span) (op : String) (type : Ty) (wish : OperandWish)
  | pointerOrder (span : Span) (op : BinaryOp)
  | unordered (span : Span) (type : Ty)
  | negatedUnsigned (span : Span) (type : Ty)
  | selfReference (span : Span)
  | emptyArray (span : Span)
  | notCallable (name : Ident) (kind : SymbolKind)
  | valueNotCallable (span : Span) (type : Ty)
  | argumentCount (span : Span) (callee : String) (expected found : Nat)
  | argumentOrder (span : Span) (callee : String) (params : List Ty)
  | unknownVariant (span : Span) (enum : String) (path : List String) (variants : List String)
  | fieldAccess (span : Span) (error : FieldError)
  | indexNotInteger (span : Span) (type : Ty)
  | notIndexable (span : Span) (type : Ty)
  | indexOutOfBounds (span : Span) (index : String) (type : Ty) (length : Nat)
  | invalidCast (span : Span) (source target : Ty)
  | voidBinding (span : Span) (name : Option String)
  | missingInitializer (span : Span) (what : Uninitialized)
  | conditionNotBool (span : Span) (type : Ty)
  | missingReturnValue (span : Span) (result : Ty)
  | unexpectedReturnValue (span : Span)
  | returnMismatch (span : Span) (expected found : Ty)
  | notAddressable (span : Span)
  | notAssignable (span : Span)
  | constTarget (span : Span)
  | constantTarget (span : Span) (symbol : Symbol)
  | immutableTarget (span : Span) (symbol : Symbol)
  | loadOperand (span : Span) (type : Ty)
  | writeOperand (span : Span) (type : Ty)
  -- attributes
  | unknownAttribute (subject : Attribute) (near : Option String)
  | duplicateAttribute (subject : Attribute) (first : Span)
  | misusedAttribute (subject : Attribute) (kind : DeclKind) (allowed : List DeclKind)
  | unexpectedAttributeValue (name : String) (payload : Literal)
  | missingAttributeValue (subject : Attribute) (choices : List String)
  | invalidAttributeValue (name : String) (payload : Literal) (choices : List String)
  | conflictingAttributes (first second : Attribute)
  | externalWithBody (name : String) (body mark : Span)
  | missingBody (name : String) (span : Span)
  -- control flow
  | returnOutsideFunction (span : Span)
  | breakOutsideLoop (span : Span)
  | continueOutsideLoop (span : Span)
  | duplicateTerminator (span : Span) (what : Terminator)
  | unreachable (span : Span) (strict : Bool)
  | lowLevelOutside (span : Span) (instruction : String)
  | addressOfAddress (span operand : Span)
  | missingReturn (span : Span) (name : String) (result : Ty)
      (branches : List (BranchKind × Span))
  -- the order of passes
  | passTooEarly (pass missing : Pass)
  | passRefused (error : PassError)

end UnitCheck
