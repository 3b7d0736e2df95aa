import UnitCheck.Text.Bytes
import UnitCheck.Type.Basic

/-!
# Options

What a user may tune. Options are given as texts, or as bytes that no text has;
validation refuses values outside the choices and fills in what was left empty. The
checks read options through accessors that fall back to the default choice.
-/

namespace UnitCheck

/-- Whether a field access looks through `mut` the way it looks through a pointer. -/
inductive DerefMode where
  | viaMut | pointerOnly
deriving Repr, DecidableEq, Inhabited

/-- How many units are checked at a time. -/
inductive Jobs where
  /-- As many as the machine has processors. -/
  | auto
  | count (n : Int)
deriving Repr, DecidableEq, Inhabited

/-- The options of a run. -/
structure Options where
  /-- Unreachable code is an error instead of a warning. -/
  strict : Bool
  /-- The type of an integer literal where none is expected. -/
  defaultInt : String
  mutDeref : String
  jobs : Jobs
  debug : Bool
  color : String
deriving Repr, DecidableEq, Inhabited

/-- Options as they are given, before validation. -/
structure GivenOptions where
  strict : Bool
  defaultInt : Text.ByteText
  mutDeref : Text.ByteText
  jobs : Jobs
  debug : Bool
  color : Text.ByteText
deriving Repr, DecidableEq, Inhabited

/-- Why options are refused. -/
inductive OptionsError where
  | defaultInt (got : Text.ByteText)
  | mutDeref (got : Text.ByteText)
  | color (got : Text.ByteText)
  | jobs
deriving Repr, DecidableEq

/-- The wording of each cause. -/
def OptionsError.message : OptionsError -> String
  | .defaultInt got =>
    "invalid configuration: default_int " ++ got.quoted ++ " is not an integer type"
  | .mutDeref got =>
    "invalid configuration: field_access.mut_deref must be implicit or explicit, got " ++
      got.quoted
  | .color got =>
    "invalid configuration: color must be auto, always or never, got " ++ got.quoted
  | .jobs => "invalid configuration: jobs must not be negative"

namespace Options

/-- The options of a run that is told nothing. -/
def standard : Options := ⟨true, "s32", "implicit", .auto, false, "auto"⟩

/-- The type of an integer literal where none is expected. -/
def integerType (options : Options) : Ty :=
  .prim ((Prim.ofName? options.defaultInt).getD .s32)

/-- How field accesses treat `mut`. -/
def derefMode (options : Options) : DerefMode :=
  if options.mutDeref = "explicit" then .pointerOnly else .viaMut

/-- The names of the integer types. -/
def integerNames : List String := ["s8", "s16", "s32", "s64", "u8", "u16", "u32", "u64"]

/-- `value` when it is one of the choices, the standard one when it is empty. -/
def choose? (choices : List String) (standard : String) (value : Text.ByteText) : Option String :=
  match value.toString? with
  | none => none
  | some text =>
    if choices.contains text then some text
    else if text.isEmpty then some standard
    else none

/-- The options as they would be given. -/
def given (options : Options) : GivenOptions where
  strict := options.strict
  defaultInt := .ofString options.defaultInt
  mutDeref := .ofString options.mutDeref
  jobs := options.jobs
  debug := options.debug
  color := .ofString options.color

end Options

/-- The options with empty values filled in; the first value outside its choices is
refused. -/
def GivenOptions.validate (given : GivenOptions) : Except OptionsError Options :=
  match Options.choose? Options.integerNames "s32" given.defaultInt with
  | none => .error (.defaultInt given.defaultInt)
  | some defaultInt =>
  match Options.choose? ["implicit", "explicit"] "implicit" given.mutDeref with
  | none => .error (.mutDeref given.mutDeref)
  | some mutDeref =>
  match Options.choose? ["auto", "always", "never"] "auto" given.color with
  | none => .error (.color given.color)
  | some color =>
  let options : Options := ⟨given.strict, defaultInt, mutDeref, given.jobs, given.debug, color⟩
  match given.jobs with
  | .auto => .ok options
  | .count n =>
    if n < 0 then .error .jobs
    else if n = 0 then .ok { options with jobs := .auto }
    else .ok options

/-- Validates options. -/
def Options.validate (options : Options) : Except OptionsError Options :=
  options.given.validate

end UnitCheck
