import UnitCheck.Proofs.Declare.Frame
import UnitCheck.Proofs.Session.Origin

/-!
# What declaring finds comes from the unit

The first pass makes symbols of the names of items, gives structs and enumerations their own
types, and finds all other types by resolving written ones. What it reports is about items,
about names in them, or about symbols declared before.
-/

namespace UnitCheck.Declare

variable {origin : Origin}

/-! ### Collecting globals -/

theorem sourced_declareIntrinsics (number : Nat) : (all : List Intrinsic) ->
    (∀ intrinsic ∈ all, (∀ param ∈ intrinsic.params, param.From origin) ∧
      intrinsic.result.From origin) →
    (sourced origin).Obeys (declareIntrinsics number all)
  | [], _ => .pure _
  | intrinsic :: rest, isFrom => by
    obtain ⟨⟨params, result⟩, restFrom⟩ := List.forall_mem_cons.mp isFrom
    refine .bind (.readAt fun session holds => ?_) fun _ => sourced_declareIntrinsics _ rest restFrom
    cases declared : session.table.declareGlobal (intrinsic.symbol number) with
    | error _ => exact Check.obeys_report (List.forall_mem_nil _) session holds
    | ok table =>
      have known : intrinsic.known.From origin :=
        ⟨some_from ⟨Ty.allFrom_iff.mpr params, result⟩, params⟩
      have noSite : (intrinsic.symbol number).From origin := none_from
      rw [globals_of_declareGlobal declared]
      exact (Trace.single (show (sourced origin).permits (.global _) from noSite)).bind holds fun _ =>
        Check.obeys_setKnown known

/-- The symbol of an item stands where the item is named. -/
theorem from_symbolOf {item : Item} {header : Header} {name : Ident} (isFrom : name.From origin) :
    (symbolOf item header name).From origin := by
  cases item <;> exact some_from isFrom

theorem header_from {item : Item} {header : Header} (isHeader : header? item = some header)
    (isFrom : item.From origin) : HeadFrom origin header.attributes header.name item.span := by
  cases item with
  | function => cases isHeader; exact FunctionDecl.From.toHeadFrom isFrom
  | asm => cases isHeader; exact AsmDecl.From.toHeadFrom isFrom
  | struct => cases isHeader; exact StructDecl.From.toHeadFrom isFrom
  | enum => cases isHeader; exact EnumDecl.From.toHeadFrom isFrom
  | const => cases isHeader; exact ConstDecl.From.toHeadFrom isFrom
  | static => cases isHeader; exact StaticDecl.From.toHeadFrom isFrom
  | typeAlias => cases isHeader; exact AliasDecl.From.toHeadFrom isFrom
  | entry | stray => cases isHeader

/-- A struct and an enumeration get the types of their own declarations. -/
theorem sourced_introduce {item : Item} {header : Header} {name : Ident}
    (isHeader : header? item = some header) (isNamed : header.name = some name)
    (isFrom : item.From origin) :
    (sourced origin).Obeys (introduce item (symbolOf item header name)) := by
  have blank : (sourced origin).Obeys
      (Check.setKnown (symbolOf item header name).id (.ofType none)) :=
    Check.obeys_setKnown (show SymbolType.From origin _ from SymbolType.from_ofType none_from)
  cases item with
  | struct decl =>
    cases isHeader
    have declared : origin.struct name.name decl.span.node :=
      StructDecl.From.declared isFrom name isNamed
    have permitted : (sourced origin).permits (.struct decl.span.node .empty) :=
      List.forall_mem_nil _
    exact .bind (fun _ _ => .single permitted) fun _ =>
      Check.obeys_setKnown (SymbolType.from_ofType (some_from declared))
  | enum decl =>
    cases isHeader
    have permitted : (sourced origin).permits (.enum decl.span.node ⟨.prim .s32, []⟩) := trivial
    exact .bind (fun _ _ => .single permitted) fun _ =>
      Check.obeys_setKnown (SymbolType.from_ofType (some_from trivial))
  | entry | stray => cases isHeader
  | _ =>
    cases isHeader
    exact blank

/-- What is pending comes from the unit. -/
structure Pending.From (origin : Origin) (pending : Pending) : Prop where
  symbol : pending.symbol.From origin
  item : pending.item.From origin

theorem gives_declareGlobal {item : Item} {header : Header} (isHeader : header? item = some header)
    (isFrom : item.From origin) : (sourced origin).Gives (declareGlobal item header)
      fun found => ∀ pending ∈ found, pending.From origin := by
  have head := header_from isHeader isFrom
  unfold declareGlobal
  cases isNamed : header.name with
  | none =>
    exact (Regime.Gives.ofObeys (Check.obeys_report_place head.span rfl)).bind fun _ _ => .pure none_from
  | some name =>
    have nameFrom := head.name name isNamed
    simp only
    split
    · exact (Regime.Gives.ofObeys (Check.obeys_report_place nameFrom rfl)).bind fun _ _ =>
        .pure none_from
    · have symbolFrom : (symbolOf item header name).From origin := from_symbolOf nameFrom
      refine .read fun session holds => ?_
      split
      · rename_i previous found
        have previousFrom : previous.From origin := by
          unfold Table.declareGlobal at found
          split at found
          · rename_i isTaken
            cases found
            exact holds.global? isTaken
          · cases found
        have about : ∀ span ∈ name.span :: previous.site.toList, origin.span span :=
          List.forall_mem_cons.mpr
            ⟨nameFrom, fun span isSite => previousFrom span (Option.mem_toList.mp isSite)⟩
        exact Regime.Gives.bind (.ofObeys (Check.obeys_report about)) (fun _ _ => .pure none_from)
          session holds
      · exact ⟨.refl, none_from⟩
      · rename_i table declared
        rw [globals_of_declareGlobal declared]
        have entered : (sourced origin).GivesAt session (Check.setTable { session.table with
            globals := session.table.globals ++ [symbolOf item header name] }) fun _ => True :=
          ⟨.single (show MaySource origin (.global (symbolOf item header name)) from symbolFrom), trivial⟩
        refine Regime.Gives.behind entered holds fun _ _ => ?_
        refine (Regime.Gives.ofObeys (sourced_introduce isHeader isNamed isFrom)).bind fun _ _ =>
          (Regime.Gives.ofObeys (Check.obeys_say fun _ => trivial)).bind fun _ _ =>
          (Regime.Gives.ofObeys (Check.obeys_recordDecl symbolFrom)).bind fun _ _ => .pure ?_
        exact some_from ⟨symbolFrom, isFrom⟩

theorem gives_collectItem {item : Item} (isFrom : item.From origin) {entry : Option Span}
    (entryFrom : ∀ span ∈ entry, origin.span span) :
    (sourced origin).Gives (collectItem entry item) fun found =>
      (∀ span ∈ found.1, origin.span span) ∧ ∀ pending ∈ found.2, pending.From origin := by
  have isPlace := Item.span_from isFrom
  have refused {finding : Finding} (about : finding.From origin) :
      (sourced origin).Gives (do
        Check.report finding
        return (entry, (none : Option Pending))) fun found =>
          (∀ span ∈ found.1, origin.span span) ∧ ∀ pending ∈ found.2, pending.From origin :=
    (Regime.Gives.ofObeys (Check.obeys_report about)).bind fun _ _ => .pure ⟨entryFrom, none_from⟩
  unfold collectItem
  split
  · rename_i decl
    split
    · rename_i first
      exact refused (List.forall_mem_cons.mpr
        ⟨isPlace, List.forall_mem_singleton.mpr (entryFrom first rfl)⟩)
    · exact .pure ⟨some_from isPlace, none_from⟩
  · exact (Regime.Gives.ofObeys (obeys_skipNestedAll (fun _ => trivial) _)).bind fun _ _ =>
      .pure ⟨entryFrom, none_from⟩
  · exact refused (List.forall_mem_singleton.mpr isPlace)
  · exact refused (List.forall_mem_singleton.mpr isPlace)
  · split
    · rename_i header isHeader
      exact (gives_declareGlobal isHeader isFrom).bind fun _ found => .pure ⟨entryFrom, found⟩
    · exact .pure ⟨entryFrom, none_from⟩

theorem gives_collect : (items : List Item) -> (∀ item ∈ items, item.From origin) ->
    {entry : Option Span} -> (∀ span ∈ entry, origin.span span) ->
    (sourced origin).Gives (collect entry items) fun found => ∀ pending ∈ found, pending.From origin
  | [], _, _, _ => .pure (List.forall_mem_nil _)
  | item :: rest, isFrom, entry, entryFrom => by
    obtain ⟨itemFrom, restFrom⟩ := List.forall_mem_cons.mp isFrom
    refine (gives_collectItem itemFrom entryFrom).bind fun found holds =>
      (gives_collect rest restFrom holds.1).bind fun later others => .pure ?_
    refine List.forall_mem_append.mpr ⟨fun pending isFirst => ?_, others⟩
    exact holds.2 pending (Option.mem_toList.mp isFirst)

/-! ### Aliases -/

theorem sourced_settle (entry : DeclaredAlias) (isFrom : entry.decl.From origin) :
    (sourced origin).Obeys entry.settle := by
  refine .read fun session => ?_
  split
  · exact .pure _
  · split
    · rename_i target written
      exact ((Check.gives_typeOf target (isFrom.target target written)).bind fun type found =>
        Regime.Gives.ofObeys (Check.obeys_setType found)).obeys
    · exact .bind (Check.obeys_report_place isFrom.span rfl) fun _ => Check.obeys_setType trivial

theorem sourced_resolveAlias (all : List DeclaredAlias)
    (isFrom : ∀ entry ∈ all, entry.decl.From origin) (fuel : Nat) (path settled : List SymbolId)
    (entry : DeclaredAlias) (isEntry : entry ∈ all) :
    (sourced origin).Obeys (resolveAlias all fuel path settled entry) := by
  have entryFrom := isFrom entry isEntry
  induction fuel generalizing path settled entry with
  | zero => exact .pure _
  | succ fuel inductionHypothesis =>
    have ident : origin.span entry.ident.span := by
      unfold DeclaredAlias.ident
      cases named : entry.decl.name with
      | none => exact entryFrom.span
      | some name => exact entryFrom.name name named
    unfold resolveAlias
    split
    · exact .bind (Check.obeys_report_place ident rfl) fun _ =>
        .bind (Check.obeys_setType trivial) fun _ => .pure _
    · split
      · exact .pure _
      · refine .bind (.foldlM _ ?_ _) fun _ => .bind (sourced_settle entry entryFrom) fun _ => .pure _
        intro mention _ settled
        refine .bindYields (fun found => ∀ other ∈ found, other ∈ all)
          (obeys_aliasNamed? all mention.name)
          (fun session _ => mem_of_aliasNamed? all mention.name session) fun found isFound => ?_
        cases found with
        | some other =>
          have isOther := isFound other rfl
          exact inductionHypothesis _ _ _ isOther (isFrom other isOther)
        | none => exact .pure _

/-! ### Signatures -/

theorem gives_structFields : (fields : List FieldDecl) -> (∀ field ∈ fields, field.From origin) ->
    (index : Nat) -> {seen : List Ident} -> (∀ name ∈ seen, name.From origin) ->
    (sourced origin).Gives (structFields index seen fields) fun found =>
      ∀ field ∈ found, field.type.From origin
  | [], _, _, _, _ => .pure (List.forall_mem_nil _)
  | field :: rest, isFrom, index, seen, seenFrom => by
    obtain ⟨fieldFrom, restFrom⟩ := List.forall_mem_cons.mp isFrom
    unfold structFields
    split
    · exact (Check.gives_typeOf field.type fieldFrom.type).bind fun _ found =>
        (gives_structFields rest restFrom _ seenFrom).bind fun _ others =>
        .pure (List.forall_mem_cons.mpr ⟨found, others⟩)
    · split
      · rename_i previous isTaken
        have about : ∀ span ∈ [field.name.span, previous.span], origin.span span :=
          List.forall_mem_cons.mpr ⟨fieldFrom.name, List.forall_mem_singleton.mpr
            (seenFrom previous (List.mem_of_find?_eq_some isTaken))⟩
        exact (Regime.Gives.ofObeys (Check.obeys_report about)).bind fun _ _ =>
          gives_structFields rest restFrom _ seenFrom
      · exact (Check.gives_typeOf field.type fieldFrom.type).bind fun _ found =>
          (gives_structFields rest restFrom _
            (List.forall_mem_cons.mpr ⟨fieldFrom.name, seenFrom⟩)).bind fun _ others =>
          .pure (List.forall_mem_cons.mpr ⟨found, others⟩)

theorem gives_enumBase (decl : EnumDecl) (isFrom : decl.From origin) :
    (sourced origin).Gives (enumBase decl) (Ty.From origin) := by
  unfold enumBase
  cases written : decl.base with
  | none => exact .pure trivial
  | some form =>
    have formFrom := isFrom.base form written
    refine (Check.gives_typeOf form formFrom).bind fun base found => ?_
    split
    · exact .pure found
    · simp only
      split
      · exact (Regime.Gives.ofObeys (Check.obeys_report_place (TypeForm.span_from formFrom) rfl)).bind
          fun _ _ => .pure trivial
      · exact .pure trivial

theorem sourced_enumVariants : (variants : List VariantDecl) ->
    (∀ variant ∈ variants, variant.From origin) -> {seen : List Ident} ->
    (∀ name ∈ seen, name.From origin) -> (sourced origin).Obeys (enumVariants seen variants)
  | [], _, _, _ => .pure _
  | variant :: rest, isFrom, seen, seenFrom => by
    obtain ⟨variantFrom, restFrom⟩ := List.forall_mem_cons.mp isFrom
    unfold enumVariants
    split
    · rename_i previous isTaken
      have about : ∀ span ∈ [variant.name.span, previous.span], origin.span span :=
        List.forall_mem_cons.mpr ⟨variantFrom.name, List.forall_mem_singleton.mpr
          (seenFrom previous (List.mem_of_find?_eq_some isTaken))⟩
      exact .bind (Check.obeys_report about) fun _ => sourced_enumVariants rest restFrom seenFrom
    · exact .bind (sourced_enumVariants rest restFrom
        (List.forall_mem_cons.mpr ⟨variantFrom.name, seenFrom⟩)) fun _ => .pure _

theorem sourced_defineType (pending : Pending) (isFrom : pending.item.From origin) :
    (sourced origin).Obeys (defineType pending) := by
  unfold defineType
  split
  · rename_i decl isStruct
    rw [isStruct] at isFrom
    refine ((gives_structFields decl.fields (StructDecl.From.fields isFrom) 0
      (List.forall_mem_nil _)).bind fun fields found => Regime.Gives.ofObeys fun _ _ => ?_).obeys
    exact .single (show MaySource origin
      (.struct decl.span.node ⟨fields, layoutOf decl.attributes⟩) from found)
  · rename_i decl isEnum
    rw [isEnum] at isFrom
    refine ((gives_enumBase decl isFrom).bind fun base found => Regime.Gives.ofObeys
      (.bind (sourced_enumVariants decl.variants (EnumDecl.From.variants isFrom)
        (List.forall_mem_nil _)) fun variants _ _ => ?_)).obeys
    exact .single (show MaySource origin (.enum decl.span.node ⟨base, variants⟩) from found)
  · exact .pure _

theorem from_cutField {body : StructBody} (isFrom : body.From origin) (index : Nat) :
    (cutField body index).From origin := by
  intro field isField
  obtain ⟨place, isPlace, rfl⟩ := List.mem_iff_getElem.mp isField
  simp only [cutField, List.getElem_modify]
  split
  · trivial
  · exact isFrom _ (List.getElem_mem _)

/-- What going through a struct is given: the declaration that is to be reported. -/
theorem gives_visitField {fuel : Nat}
    (visits : ∀ path done (blame : Option Span) name id, (∀ span ∈ blame, origin.span span) →
      (sourced origin).Obeys (visitStruct fuel path done blame name id))
    (path : List TypeId) (name : String) (id : TypeId) (field : StructField × Nat)
    (state : Option Span × List TypeId) (isPlace : ∀ span ∈ state.1, origin.span span) :
    (sourced origin).Gives (visitField fuel path name id state field) fun next =>
      ∀ span ∈ next.1, origin.span span := by
  have cuts : (sourced origin).Obeys (Check.define fun definitions =>
      definitions.setStruct id (cutField (definitions.struct id) field.2)) := fun session holds =>
    .single (show MaySource origin (.struct id (cutField (session.definitions.struct id) field.2))
      from from_cutField (holds.struct id) field.2)
  unfold visitField
  split
  · exact .pure isPlace
  · refine (Regime.Gives.ofObeys (visits _ _ _ _ _ isPlace)).bind fun outcome _ => ?_
    simp only
    split
    · cases blame : state.1 with
      | some span =>
        exact (Regime.Gives.ofObeys (Check.obeys_report_place (isPlace span blame) rfl)).bind fun _ _ =>
          (Regime.Gives.ofObeys cuts).bind fun _ _ => .pure none_from
      | none => exact (Regime.Gives.ofObeys cuts).bind fun _ _ => .pure none_from
    · exact .pure isPlace

theorem sourced_visitStruct (fuel : Nat) (path done : List TypeId) (blame : Option Span)
    (name : String) (id : TypeId) (isPlace : ∀ span ∈ blame, origin.span span) :
    (sourced origin).Obeys (visitStruct fuel path done blame name id) := by
  induction fuel generalizing path done blame name id with
  | zero => exact .pure _
  | succ fuel inductionHypothesis =>
    rw [visitStruct_succ]
    split
    · exact .pure _
    · split
      · exact .pure _
      · refine .read fun session => ?_
        have visited : (sourced origin).Gives
            ((session.definitions.struct id).fields.zipIdx.foldlM
              (visitField fuel path name id) (blame, done))
            fun state => ∀ span ∈ state.1, origin.span span :=
          .foldlM _ (fun field _ state isPlace =>
            gives_visitField inductionHypothesis path name id field state isPlace) isPlace
        exact .bind visited.obeys fun _ => .pure _

theorem sourced_cutRecursion (pending : List Pending)
    (isFrom : ∀ entry ∈ pending, entry.item.From origin) :
    (sourced origin).Obeys (cutRecursion pending) := by
  refine .bind (.foldlM _ ?_ _) fun _ => .pure _
  intro entry isEntry done
  split
  · refine .bind (sourced_visitStruct _ _ _ _ _ _ (some_from ?_)) fun _ => .pure _
    rename_i decl isStruct
    have entryFrom := isFrom entry isEntry
    rw [isStruct] at entryFrom
    exact (StructDecl.From.toHeadFrom entryFrom).span
  · exact .pure _

theorem sourced_functionSignature (symbol : Symbol) {params : List Param}
    {result : Option TypeForm} (isFrom : SignatureFrom origin params result)
    (attributes : List Attribute) :
    (sourced origin).Obeys (functionSignature symbol params result attributes) := by
  refine ((Regime.Gives.mapM params fun param isParam =>
    Check.gives_typeOf param.type (isFrom.params param isParam).type).bind fun types typesFrom =>
    (Check.gives_typeOf? result isFrom.result).bind fun type typeFrom =>
    .ofObeys (Check.obeys_setKnown ⟨some_from ⟨Ty.allFrom_iff.mpr typesFrom, ?_⟩, typesFrom⟩)).obeys
  cases type with
  | none => trivial
  | some type => exact typeFrom type rfl

theorem sourced_valueSignature (symbol : Symbol) : (type : Option TypeForm) ->
    (∀ form ∈ type, form.From origin) -> (sourced origin).Obeys (valueSignature symbol type)
  | some form, isFrom => ((Check.gives_typeOf form (isFrom form rfl)).bind fun _ found =>
      .ofObeys (Check.obeys_setType found)).obeys
  | none, _ => .pure _

theorem sourced_resolveSignature (pending : Pending) (isFrom : pending.item.From origin) :
    (sourced origin).Obeys (resolveSignature pending) := by
  unfold resolveSignature
  split
  · rename_i decl isItem
    rw [isItem] at isFrom
    exact sourced_functionSignature _ (FunctionDecl.From.toSignatureFrom isFrom) _
  · rename_i decl isItem
    rw [isItem] at isFrom
    exact sourced_functionSignature _ (AsmDecl.From.toSignatureFrom isFrom) _
  · rename_i decl isItem
    rw [isItem] at isFrom
    exact sourced_valueSignature _ _ (ConstDecl.From.type isFrom)
  · rename_i decl isItem
    rw [isItem] at isFrom
    exact sourced_valueSignature _ _ (StaticDecl.From.type isFrom)
  · exact .pure _

/-! ### The whole pass -/

/-- What the first pass finds comes from the unit. -/
theorem sourced_walk : (sourced origin).Obeys walk := by
  have intrinsicsFrom : ∀ intrinsic ∈ intrinsics,
      (∀ param ∈ intrinsic.params, param.From origin) ∧ intrinsic.result.From origin := by
    simp [intrinsics, Ty.void]
  refine .bind (sourced_declareIntrinsics 0 intrinsics intrinsicsFrom) fun _ =>
    .readAt fun session holds => ?_
  refine Regime.Gives.obeys (Regime.Gives.bind (gives_collect session.items holds.items none_from)
    fun pending isFrom => .ofObeys ?_) session holds
  refine .bind (.bind (.foldlM _ (fun entry isEntry settled =>
      sourced_resolveAlias _ ?_ _ _ _ entry isEntry) _) fun _ => .pure _) fun _ =>
    .bind (.forM _ fun entry isEntry => sourced_defineType entry (isFrom entry isEntry).item)
      fun _ =>
    .bind (sourced_cutRecursion pending fun entry isEntry => (isFrom entry isEntry).item) fun _ =>
    .forM _ fun entry isEntry => sourced_resolveSignature entry (isFrom entry isEntry).item
  intro other isAlias
  obtain ⟨entry, isEntry, isItem, _⟩ := item_of_aliases isAlias
  have entryFrom := (isFrom entry isEntry).item
  rwa [isItem] at entryFrom

end UnitCheck.Declare
