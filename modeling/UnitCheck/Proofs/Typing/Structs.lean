import Mathlib.Algebra.Module.Submodule.Lattice
import Mathlib.Data.List.Permutation
import UnitCheck.Proofs.Typing.ValueFlow

/-!
# Structs that meet

A value of a struct type is allowed where a struct type of the same name is wanted. Both are
declared in the unit, at top level or in the very item in which they meet, so values never
pass between structs that different functions declare. A struct in a function may still
share its name with one at top level, and then values pass from the one to the other.
-/

namespace UnitCheck.Typing

/-- The item declares a struct of the name in its statements, while it can reach another. -/
def Shadows (items : List Item) (item : Item) (name : String) : Prop :=
  ∃ own other, StructAt item.innerStructs name own ∧
    StructAt (Item.reachable items item) name other ∧ own ≠ other

/-- Where every type has its name to itself, one struct of a name stands at top level. -/
theorem top_unique {items : List Item} (named : ∀ item ∈ items, Declare.Named items item)
    {name : String} {one other : TypeId} (isOne : StructAt (items.filterMap Item.struct?) name one)
    (isOther : StructAt (items.filterMap Item.struct?) name other) : one = other := by
  have means {id : TypeId} (isAt : StructAt (items.filterMap Item.struct?) name id) :
      ∃ decl, typeNamed? items name = some (.struct decl) ∧ decl.span.node = id := by
    obtain ⟨decl, isDecl, ⟨ident, isName, rfl⟩, same⟩ := isAt
    obtain ⟨item, isItem, isStruct⟩ := List.mem_filterMap.mp isDecl
    cases item with
    | struct found =>
      cases isStruct
      have typeName : (Item.struct decl).typeName? = some ident.name := by
        rw [Item.typeName?, isName, Option.map_some]
      exact ⟨_, named _ isItem ident.name typeName, same⟩
    | _ => cases isStruct
  obtain ⟨decl, isMeant, rfl⟩ := means isOne
  obtain ⟨_, isMeantToo, rfl⟩ := means isOther
  cases isMeant.symm.trans isMeantToo
  rfl

/-- Only an item that shadows the name reaches two structs of it. -/
theorem same_of_not_shadows {items : List Item} {item : Item}
    (named : ∀ item ∈ items, Declare.Named items item) {name : String}
    (plain : ¬Shadows items item name) {one other : TypeId}
    (isOne : StructAt (Item.reachable items item) name one)
    (isOther : StructAt (Item.reachable items item) name other) : one = other := by
  by_contra different
  obtain isTop | isInner := structAt_append.mp isOne
  · obtain isTopToo | isInner := structAt_append.mp isOther
    · exact different (top_unique named isTop isTopToo)
    · exact plain ⟨other, one, isInner, isOne, Ne.symm different⟩
  · exact plain ⟨one, other, isInner, isOther, different⟩

/-- A struct is no builtin type of any sort. -/
theorem isPrim_of_struct? {type : Ty} {name : String} {id : TypeId}
    (isStruct : type.struct? = some (name, id)) (property : Prim -> Bool) :
    type.isPrim property = false := by
  rw [Ty.isPrim, Ty.prim?, unwrap_of_struct? isStruct]
  rfl

/-- A struct is allowed only where a struct of its name is wanted. -/
theorem Allowed.name {found wanted : Ty} (allowed : Allowed found wanted)
    {source target : String} {sourceId targetId : TypeId}
    (isSource : found.struct? = some (source, sourceId))
    (isTarget : wanted.struct? = some (target, targetId)) : source = target := by
  by_contra different
  have incompatible : found.compatibility wanted = .incompatible := by
    simp [Ty.compatibility, Ty.isUnknown, Ty.isNumeric, Ty.isInteger, Ty.isSigned, Ty.isUnsigned,
      Ty.isFloat, isPrim_of_struct? isSource, isPrim_of_struct? isTarget,
      unwrap_of_struct? isSource, unwrap_of_struct? isTarget, Ty.same, different]
  rw [Allowed, incompatible] at allowed
  cases allowed

/-- In the item a value of one struct flows to where another is wanted. -/
def Meets (session : Session) (item : Item) (source target : String × TypeId) : Prop :=
  ∃ value found wanted, Flow session (Recorded session) item value wanted ∧
    Recorded session value.node found ∧ found.struct? = some source ∧ wanted.struct? = some target

/-- In a unit in which nothing fatal is found, structs that meet have the same name, and each
is declared at top level or in the item in which they meet. Unless this item shadows the
name, they have the same declaration. -/
theorem structs_meet_by_name {file text : String} {unit : Module}
    (read : Module.decode file text = .ok unit) {options : Options}
    (accepted : (Session.check (some unit) options).bag.hasErrors = false) {item : Item}
    (isItem : item ∈ unit.items) {source target : String} {sourceId targetId : TypeId}
    (meets : Meets (.check (some unit) options) item (source, sourceId) (target, targetId)) :
    source = target ∧ StructAt (Item.reachable unit.items item) source sourceId ∧
      StructAt (Item.reachable unit.items item) target targetId ∧
      (¬Shadows unit.items item source → sourceId = targetId) := by
  obtain ⟨value, found, wanted, flow, isFound, isSource, isTarget⟩ := meets
  obtain ⟨other, isOther, allowed⟩ := flow.fits_check read accepted isItem
  cases isFound.symm.trans isOther
  obtain rfl := allowed.name isSource isTarget
  have spread := spread_of_decode read
  have sourced := sourced_check (Item.from_structs unit.items) options
  have enclosed := (housed_check read options).items item isItem
  obtain ⟨isExpr, wantedInReach⟩ := flow.inside sourced enclosed spread isItem
  have foundInReach := inReach_recorded sourced enclosed spread isItem
    (Item.mem_sites_of_exprs isExpr value.node_mem_ownNodes) isFound
  have isOne := foundInReach.struct spread isItem isSource
  have isTwo := wantedInReach.struct spread isItem isTarget
  have named := Declare.named_check (Module.nodup_sites read) ((Session.quiet_iff _).mp accepted)
  exact ⟨rfl, isOne, isTwo, fun plain => same_of_not_shadows named plain isOne isTwo⟩

/-- A function that takes a struct from top level and declares one of its own by that name. -/
def shadowItem : Item :=
  .function ⟨[], some ⟨"f", .ofLine 23 24⟩,
    [⟨⟨"p", .ofLine 27 28⟩, .named "P" (.ofLine 29 30), false, .ofLine 26 31⟩],
    some (.named "void" (.ofLine 33 37)), some ⟨[
      .struct ⟨[], some ⟨"P", .ofLine 53 54⟩,
        [⟨⟨"y", .ofLine 56 57⟩, .named "bool" (.ofLine 58 62), .ofLine 55 63⟩], .ofLine 45 64⟩,
      .letIn ⟨⟨"q", .ofLine 70 71⟩, some (.named "P" (.ofLine 72 73)),
        some (.name ⟨"p", .ofLine 74 75⟩), false, .ofLine 65 76⟩], .ofLine 38 77⟩, .ofLine 19 78⟩

/-- The function behind the struct at top level. -/
def shadowUnit : Module :=
  ⟨"unit", [
    .struct ⟨[], some ⟨"P", .ofLine 8 9⟩,
      [⟨⟨"x", .ofLine 11 12⟩, .named "s32" (.ofLine 13 16), .ofLine 10 17⟩], .ofLine 0 18⟩,
    shadowItem], some (.ofLine 0 78)⟩

theorem decode_shadow : Module.decode "unit"
    "(struct P (x s32)) (fn f ((p P)) void (block (struct P (y bool)) (let q P p)))" =
      .ok shadowUnit :=
  Module.decode_chars (by cbv)

theorem accepted_shadow : (Session.check (some shadowUnit) .standard).bag.hasErrors = false := by
  decide +kernel

/-- The struct from top level becomes the initial value of the other one. -/
theorem meets_shadow :
    Meets (.check (some shadowUnit) .standard) shadowItem ("P", 0) ("P", 45) := by
  have isStmt : .letIn ⟨⟨"q", .ofLine 70 71⟩, some (.named "P" (.ofLine 72 73)),
      some (.name ⟨"p", .ofLine 74 75⟩), false, .ofLine 65 76⟩ ∈ Stmt.partsAll shadowItem.body := by
    simp [shadowItem, Item.body, Stmt.partsAll, Stmt.parts]
  refine ⟨.name ⟨"p", .ofLine 74 75⟩, .struct "P" 0, .struct "P" 45, ?_, ?_, rfl, rfl⟩
  · exact .initializer (.letIn isStmt rfl rfl) (by decide +kernel)
  · unfold Recorded
    decide +kernel

/-- Nothing fatal is found, though two structs with different fields meet. -/
theorem shadowed_structs_meet :
    Module.decode "unit"
        "(struct P (x s32)) (fn f ((p P)) void (block (struct P (y bool)) (let q P p)))" =
          .ok shadowUnit ∧
      shadowItem ∈ shadowUnit.items ∧
      let session := Session.check (some shadowUnit) .standard
      session.bag.hasErrors = false ∧ Meets session shadowItem ("P", 0) ("P", 45) ∧
        (session.definitions.struct 0).fields = [⟨"x", .prim .s32⟩] ∧
        (session.definitions.struct 45).fields = [⟨"y", .prim .bool⟩] :=
  ⟨decode_shadow, List.mem_cons_of_mem _ List.mem_cons_self, accepted_shadow, meets_shadow,
    by decide +kernel, by decide +kernel⟩

/-- The function reaches both structs that meet, so it shadows the name. -/
theorem structs_meet_by_name_shadow :
    StructAt (Item.reachable shadowUnit.items shadowItem) "P" 0 ∧
      StructAt (Item.reachable shadowUnit.items shadowItem) "P" 45 ∧
        Shadows shadowUnit.items shadowItem "P" := by
  obtain ⟨-, isSource, isTarget, same⟩ := structs_meet_by_name decode_shadow accepted_shadow
    (List.mem_cons_of_mem _ List.mem_cons_self) meets_shadow
  refine ⟨isSource, isTarget, ?_⟩
  by_contra plain
  cases same plain

end UnitCheck.Typing
