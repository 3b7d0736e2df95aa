import UnitCheck.Options.Merge

/-!
# Options from a settings file

A settings file gives options by name; what it leaves out, or gives as null,
keeps its standard value. A value of the wrong type is reported and reading goes
on, so that all of them are reported together.
-/

namespace UnitCheck.Options

/-! ## Values -/

/-- Reads a scalar of which `read` makes a change. -/
def fillScalar (target : String)
    (read : Yaml.Scalar -> Yaml.Meaning -> Option (GivenOptions -> GivenOptions))
    (setting : Setting) (node : Yaml.Node) : Filling Unit := do
  let (_, node) <- Filling.enter setting node
  match <- scalarResult target read node with
  | some set => Filling.change set
  | none => return ()

/-- The truth value that a scalar means; some words count besides the truth values
themselves. -/
def truth? : Yaml.Meaning -> Option Bool
  | .bool value => some value
  | .text word =>
    match word.toString? with
    | none => none
    | some word =>
      if ["y", "Y", "yes", "Yes", "YES", "on", "On", "ON"].contains word then some true
      else if ["n", "N", "no", "No", "NO", "off", "Off", "OFF"].contains word then some false
      else none
  | _ => none

/-- The least signed 64-bit word, which stands for numbers below all words. -/
def leastWord : Int := -(Numeral.power 2 63 : Int)

/-- The signed 64-bit word that a number means; a fraction is dropped. -/
def word? : Yaml.Meaning -> Option Int
  | .int value => if Numeral.fits value 64 true then some value else none
  | .float bits =>
    let whole := Yaml.wholePart bits
    if Numeral.fits whole 64 true then some whole
    else if whole ≤ Numeral.power 2 63 then some leastWord
    else none
  | .infinity true => some leastWord
  | _ => none

/-- Reads a truth value. -/
def fillBool (set : Bool -> GivenOptions -> GivenOptions) : Setting -> Yaml.Node -> Filling Unit :=
  fillScalar "bool" fun _ meaning => (truth? meaning).map set

/-- Reads a text; every scalar but null has one. -/
def fillText (target : String) (set : Text.ByteText -> GivenOptions -> GivenOptions) :
    Setting -> Yaml.Node -> Filling Unit :=
  fillScalar target fun scalar meaning => some (set (scalar.asText meaning))

/-- Reads a number of jobs. -/
def fillJobs : Setting -> Yaml.Node -> Filling Unit :=
  fillScalar "int" fun _ meaning =>
    (word? meaning).map fun count given => { given with jobs := .count count }

/-! ## Mappings -/

/-- The fields of a mapping by their names. -/
structure Fields where
  /-- The type that complaints name. -/
  owner : String
  field? : String -> Option (Setting -> Yaml.Node -> Filling Unit)

/-- What a mapping has given so far. -/
structure Tally where
  /-- The fields that it has set. -/
  set : List Text.ByteText
  seen : SeenKeys
  /-- The mappings to take over. -/
  merged : Option Yaml.Node

/-- Reads the field with a name. -/
def fillField (fields : Fields) (setting : Setting) (tally : Tally)
    (name : Text.ByteText) (line : Nat) (value : Yaml.Node) : Filling Tally := do
  match name.toString?.bind fields.field? with
  | none =>
    Filling.complain [.unknownField line name fields.owner]
    return tally
  | some read =>
    if tally.set.contains name then
      Filling.complain [.repeatedField line name fields.owner]
      return tally
    else
      read setting value
      return { tally with set := name :: tally.set }

/-- Reads an entry of a mapping. -/
def fillEntry (fields : Fields) (setting : Setting) (tally : Tally)
    (entry : Yaml.Node × Yaml.Node) : Filling Tally := do
  let (key, value) := entry
  if isMerge key then return { tally with merged := some value }
  else
    match <- keyName setting key with
    | none => return tally
    | some name =>
      let line := (keyMark key).2.2
      if tally.seen.has (.text name) then return tally
      else
        let seen := tally.seen.map (.text name :: ·)
        fillField fields setting { tally with seen := seen } name line value

/-- Reads a mapping, of which the keys in `seen` do not count; with a key given twice none
of its fields is read. The result is the keys that no longer count. -/
def fillMapping (fields : Fields) :
    (fuel : Nat) -> Setting -> SeenKeys -> Yaml.Node -> Filling SeenKeys
  | 0, _, _, _ => Filling.fail .badMerge
  | fuel + 1, setting, seen, node => do
    let (setting, node) <- Filling.enter setting node
    match node with
    | .mapping _ entries _ =>
      match duplicates entries with
      | [] =>
        let tally <- entries.foldlM (fillEntry fields setting) ⟨[], seen, none⟩
        match tally.merged with
        | none => return tally.seen
        | some merged =>
          takeOver (survey fuel setting) (fillMapping fields fuel setting) setting tally.seen
            entries merged
      | complaints =>
        Filling.complain complaints
        return seen
    | node =>
      let _ <- scalarResult fields.owner (fun _ _ => (none : Option Unit)) node
      return seen

/-- Reads a mapping that stands for itself. -/
def fillOwn (fields : Fields) (fuel : Nat) (setting : Setting) (node : Yaml.Node) :
    Filling Unit := do
  let _ <- fillMapping fields fuel setting none node

/-! ## Settings -/

/-- The fields that tune field accesses. -/
def accessFields : Fields where
  owner := "config.FieldAccess"
  field? name :=
    if name = "mut_deref" then
      some (fillText "config.MutDeref" fun text given => { given with mutDeref := text })
    else none

/-- The fields of a settings file. -/
def settingsFields (fuel : Nat) : Fields where
  owner := "config.Config"
  field? name :=
    match name with
    | "strict" => some (fillBool fun value given => { given with strict := value })
    | "default_int" => some (fillText "string" fun text given => { given with defaultInt := text })
    | "field_access" => some (fillOwn accessFields fuel)
    | "jobs" => some fillJobs
    | "debug" => some (fillBool fun value given => { given with debug := value })
    | "color" => some (fillText "string" fun text given => { given with color := text })
    | _ => none

/-- The options that a document gives on top of the standard ones, with the complaints
about it. A merge enters an alias at most once, and no node is deeper than the text is
long. The document itself counts as a node. -/
def ofDocument (document : Yaml.Document) (length : Nat) :
    Except FileFault (GivenOptions × List Complaint) := do
  let fuel := (length + 2) * (length + 2)
  let start : Progress := ⟨standard.given, [], 1, 0⟩
  let (_, progress) <- (fillOwn (settingsFields fuel) fuel ⟨document, []⟩ document.root).run start
  return (progress.given, progress.complaints.reverse)

/-- The options that a settings file gives. -/
def read (text : String) : Except FileFault Options :=
  match Yaml.Document.read? text with
  | .error error => .error (.syntaxError error)
  | .ok none => .ok standard
  | .ok (some document) =>
    match ofDocument document text.length with
    | .error fault => .error fault
    | .ok (given, []) =>
      match given.validate with
      | .ok options => .ok options
      | .error error => .error (.invalid error)
    | .ok (_, complaints) => .error (.types complaints)

end UnitCheck.Options
