import UnitCheck.Options.Filling

/-!
# Mappings that take over others

A mapping may take over the entries of other mappings. Its own keys win over
theirs, and of two that are taken over the earlier one wins. To know its own keys,
each of them is read as a value of any kind; a key that is a collection cannot be
compared with others.
-/

namespace UnitCheck.Options

/-- The keys that no longer count, when a mapping is taken over by another. -/
abbrev SeenKeys := Option (List Yaml.Meaning)

/-- Whether a key no longer counts. -/
def SeenKeys.has (seen : SeenKeys) (key : Yaml.Meaning) : Bool :=
  seen.any (·.contains key)

/-- Whether a key takes over the entries of other mappings. -/
def isMerge : Yaml.Node -> Bool
  | .scalar scalar => scalar.text = "<<" && scalar.tag = Yaml.Scalar.mergeTag
  | _ => false

/-- The mappings that a mapping takes over: one, or the items of a sequence. -/
def mergedNodes (node : Yaml.Node) : List Yaml.Node :=
  match node with
  | .sequence _ items _ => items
  | other => [other]

/-- Whether a node is a mapping or an alias of one. -/
def isMapping (setting : Setting) : Yaml.Node -> Bool
  | .mapping _ _ _ => true
  | .alias _ target _ _ =>
    match setting.document.named.lookup target with
    | some (.mapping _ _ _) => true
    | _ => false
  | _ => false

/-- What a value of any kind turns out to be. -/
inductive Found where
  /-- Nothing, since a key of it is given twice. -/
  | nothing
  | scalar (meaning : Yaml.Meaning)
  | collection

/-- A reader of a value of any kind, inside of which some keys no longer count. -/
abbrev Survey := SeenKeys -> Yaml.Node -> Filling (Found × SeenKeys)

/-- The keys of a mapping, which win over those that it takes over. -/
def ownKeys (survey : Survey) (entries : List (Yaml.Node × Yaml.Node)) : Filling SeenKeys :=
  entries.foldlM (fun seen (key, _) => do
    let (found, seen) <- survey seen key
    match found with
    | .nothing => return seen
    | .scalar meaning => return seen.map (meaning :: ·)
    | .collection => throw .collectionKey) (some [])

/-- Takes over the mappings of a node into a mapping with some entries; `fill` reads each of
them. The result is the keys that no longer count. -/
def takeOver (survey : Survey) (fill : SeenKeys -> Yaml.Node -> Filling SeenKeys)
    (setting : Setting) (seen : SeenKeys) (entries : List (Yaml.Node × Yaml.Node))
    (merged : Yaml.Node) : Filling SeenKeys := do
  let own <- if seen.isSome then pure seen else ownKeys survey entries
  let keys <- (mergedNodes merged).foldlM (fun keys node => do
    if isMapping setting node then fill keys node else Filling.fail .badMerge) own
  return if seen.isSome then keys else none

/-- The tags of keys that are texts. -/
def textTags : List String := ["!!str", Yaml.Scalar.mergeTag]

/-- Whether a node is tagged as a text. -/
def isTextTagged : Yaml.Node -> Bool
  | .scalar scalar => textTags.contains scalar.tag
  | .sequence tag _ _ | .mapping tag _ _ => textTags.contains tag
  | .alias _ _ _ _ => false

/-- Whether all keys of a mapping are tagged as texts. -/
def hasTextKeys (setting : Setting) (entries : List (Yaml.Node × Yaml.Node)) : Bool :=
  entries.all fun (key, _) =>
    match key with
    | .alias _ target _ _ => (setting.document.named.lookup target).any isTextTagged
    | key => isTextTagged key

mutual

/-- Reads a value where any value is welcome, for the faults in it. -/
def survey : (fuel : Nat) -> Setting -> Survey
  | 0, _, _, _ => Filling.fail .badMerge
  | fuel + 1, setting, seen, node => do
    let (setting, node) <- Filling.enter setting node
    match node with
    | .scalar scalar => return (.scalar (<- Filling.meaning scalar), seen)
    | .sequence _ items _ =>
      let seen <- items.foldlM (fun seen item => do
        let (_, seen) <- survey fuel setting seen item
        return seen) seen
      return (.collection, seen)
    | .mapping _ entries _ =>
      match duplicates entries with
      | [] =>
        let seen <- surveyEntries fuel (hasTextKeys setting entries) setting seen entries
        return (.collection, seen)
      | complaints =>
        Filling.complain complaints
        return (.nothing, seen)
    | .alias _ _ _ _ => return (.nothing, seen)

/-- Reads the entries of a mapping of any kind; `textKeys` tells whether its keys are
wanted as texts. -/
def surveyEntries : (fuel : Nat) -> (textKeys : Bool) -> Setting -> SeenKeys ->
    List (Yaml.Node × Yaml.Node) -> Filling SeenKeys
  | 0, _, _, _, _ => Filling.fail .badMerge
  | fuel + 1, textKeys, setting, seen, entries => do
    let (seen, merged) <- entries.foldlM (fun (seen, merged) (key, value) => do
      if isMerge key then return (seen, some value)
      else
        let found <-
          if textKeys then do
            match <- keyName setting key with
            | some name => pure (Found.scalar (.text name))
            | none => pure .nothing
          else do
            let (found, _) <- survey fuel setting none key
            pure found
        match found with
        | .nothing => return (seen, merged)
        | .collection =>
          if seen.isSome then throw .collectionKey else Filling.fail .collectionAsKey
        | .scalar meaning =>
          if seen.has meaning then return (seen, merged)
          else
            let _ <- survey fuel setting none value
            return (seen.map (meaning :: ·), merged)) (seen, (none : Option Yaml.Node))
    match merged with
    | none => return seen
    | some merged =>
      takeOver (survey fuel setting) (fun seen node => do
        let (setting, node) <- Filling.enter setting node
        match node with
        | .mapping _ entries _ =>
          match duplicates entries with
          | [] => surveyEntries fuel textKeys setting seen entries
          | complaints =>
            Filling.complain complaints
            return seen
        | _ => return seen) setting seen entries merged

end

end UnitCheck.Options
