import UnitCheck.Proofs.Declare.Expanded
import UnitCheck.Proofs.Declare.Founded
import UnitCheck.Proofs.Declare.Globals
import UnitCheck.Proofs.Session.Beside
import UnitCheck.Proofs.Session.Isolation

/-!
# Refusing a function in the first pass

The first pass refuses a function whose name is taken, and takes in what stands in for it: a
function with the same parameters and body, under a name that is used nowhere else, that
returns nothing. `Refused` says that two units differ in such a way. Behind the first pass
one check has reported the refusal, and it owes what the other one has found in the
parameters (`Refused.beside_walk`).
-/

namespace UnitCheck

/-! ### Functions and what stands in for them -/

namespace Item

/-- The item under another name, if it is a function. -/
def rename (name : String) : Item -> Item
  | .function decl => .function { decl with name := decl.name.map (⟨name, ·.span⟩) }
  | .asm decl => .asm { decl with name := decl.name.map (⟨name, ·.span⟩) }
  | other => other

/-- The item without the result that is written for it, if it is a function. -/
def withoutResult : Item -> Item
  | .function decl => .function { decl with result := none }
  | .asm decl => .asm { decl with result := none }
  | other => other

/-- The name under which an item declares a function. -/
def functionName? : Item -> Option Ident
  | .function decl => decl.name
  | .asm decl => decl.name
  | _ => none

/-- The result that is written for a function. -/
def result? : Item -> Option TypeForm
  | .function decl => decl.result
  | .asm decl => decl.result
  | _ => none

/-- No result is written for the function, or the result that is written is `void`. -/
def ReturnsNothing (item : Item) : Prop :=
  item.result? = none ∨ ∃ span, item.result? = some (.named "void" span)

end Item

/-- The item stands in for a function: it has its parameters and its body, goes by another
name, and returns nothing. -/
inductive StandsIn (name : Ident) : Item -> Item -> Prop
  | function {decl : FunctionDecl} {result : Option TypeForm}
    (quiet : result = none ∨ result = decl.result ∧ ∃ span, result = some (.named "void" span)) :
    StandsIn name (.function decl) (.function { decl with name := some name, result := result })
  | asm {decl : AsmDecl} {result : Option TypeForm}
    (quiet : result = none ∨ result = decl.result ∧ ∃ span, result = some (.named "void" span)) :
    StandsIn name (.asm decl) (.asm { decl with name := some name, result := result })

namespace StandsIn

variable {name : Ident} {item stand : Item} (stands : StandsIn name item stand)

include stands

theorem span : stand.span = item.span := by
  cases stands <;> rfl

theorem params : stand.params = item.params := by
  cases stands <;> rfl

/-- No result is written for what stands in, or the same as for the function: none. -/
theorem quiet : stand.result? = none ∨
    stand.result? = item.result? ∧ ∃ span, stand.result? = some (.named "void" span) := by
  cases stands with
  | function quiet => exact quiet
  | asm quiet => exact quiet

/-- What stands in is pending as a function. -/
theorem resolveSignature : ∃ attributes, ∀ symbol, Declare.resolveSignature ⟨symbol, stand⟩ =
      Declare.functionSignature symbol item.params stand.result? attributes := by
  cases stands <;> exact ⟨_, fun _ => rfl⟩

theorem defineType (symbol : Symbol) : Declare.defineType ⟨symbol, stand⟩ = pure () := by
  cases stands <;> rfl

theorem aliases (symbol : Symbol) (ahead behind : List Declare.Pending) :
    Declare.aliases (ahead ++ ⟨symbol, stand⟩ :: behind) = Declare.aliases (ahead ++ behind) := by
  unfold Declare.aliases
  rw [List.filterMap_append, List.filterMap_append, List.filterMap_cons]
  cases stands <;> rfl

theorem structIds (symbol : Symbol) (ahead behind : List Declare.Pending) :
    Declare.structIds (ahead ++ ⟨symbol, stand⟩ :: behind) =
      Declare.structIds (ahead ++ behind) := by
  unfold Declare.structIds
  rw [List.filterMap_append, List.filterMap_append, List.filterMap_cons]
  cases stands <;> rfl

theorem not_struct (decl : StructDecl) : stand ≠ .struct decl := by
  rintro rfl
  cases stands

/-- The written types of the function are on its face. -/
theorem face_of_param : ∀ param ∈ item.params, ∀ node ∈ param.type.nodes, node ∈ item.face := by
  intro param isParam node isNode
  refine List.mem_cons_of_mem _ (List.mem_flatMap.mpr ⟨param.type, ?_, isNode⟩)
  cases stands <;> exact List.mem_append_left _ (List.mem_map.mpr ⟨param, isParam, rfl⟩)

theorem face_of_result : ∀ form ∈ item.result?, ∀ node ∈ form.nodes, node ∈ item.face := by
  intro form isResult node isNode
  refine List.mem_cons_of_mem _ (List.mem_flatMap.mpr ⟨form, ?_, isNode⟩)
  cases stands <;> exact List.mem_append_right _ (Option.mem_toList.mpr isResult)

end StandsIn

/-! ### Declaring the function in one check only -/

namespace Beside

variable {item : Item} {name : String} {ledger : Ledger} {one other : Session}

/-- The function becomes a global. -/
theorem enroll (beside : Beside item name ledger one other) (symbol : Symbol)
    (space : symbol.kind.space = .function) (named : symbol.name = name) :
    Beside item name ledger one (Act.apply other (.global symbol)) where
  agree := by
    obtain ⟨file, options, globals, locals, frames, known, entries⟩ := beside.agree
    refine ⟨file, options, fun asked called calls => ?_, locals, frames, known, entries⟩
    have same := globals asked called calls
    have unasked : (symbol.kind.space = asked && symbol.name = called) = false := by
      rw [space, named]
      by_contra matches'
      simp only [Bool.not_eq_false, Bool.and_eq_true, decide_eq_true_eq] at matches'
      exact calls matches'.1.symm matches'.2.symm
    unfold Table.global? at same ⊢
    simp only [Act.apply, List.find?_append, List.find?_singleton, unasked, same]
    exact Option.or_none.symm
  enclosed := beside.enclosed
  checked := beside.checked
  undeclared := beside.undeclared
  declared := beside.declared
  known := beside.known
  codes := beside.codes

/-- Something is found out about the function. -/
theorem learn (beside : Beside item name ledger one other) (known : SymbolType) :
    Beside item name { ledger with known := known } one
      (Act.apply other (.knows (.node item.span.node) known)) where
  agree := by
    obtain ⟨file, options, globals, locals, frames, same, entries⟩ := beside.agree
    refine ⟨file, options, globals, locals, frames, fun id steady => ?_, entries⟩
    rw [Act.knownOf_apply, if_neg]
    · exact same id steady
    · rintro ⟨⟩
      exact steady _ List.mem_cons_self rfl
  enclosed := beside.enclosed
  checked := beside.checked
  undeclared := beside.undeclared
  declared := beside.declared
  known := by
    rw [Act.knownOf_apply]
    exact if_pos rfl
  codes := beside.codes

/-- The function is declared at its node. -/
theorem enter (beside : Beside item name ledger one other) (symbol : Symbol) :
    Beside item name { ledger with symbol := some symbol } one
      (Act.apply other (.declares item.span.node symbol)) where
  agree := by
    obtain ⟨file, options, globals, locals, frames, known, entries⟩ := beside.agree
    refine ⟨file, options, globals, locals, frames, known, fun node inside => ?_⟩
    rw [Act.entry_apply, if_neg]
    · exact entries node inside
    · rintro ⟨⟩
      exact inside List.mem_cons_self
  enclosed := beside.enclosed
  checked := beside.checked
  undeclared := beside.undeclared
  declared := by
    rw [Act.entry_apply]
    exact congrArg Entry.decl (if_pos rfl)
  known := beside.known
  codes := beside.codes

/-- The function is refused. -/
theorem refuse (beside : Beside item name ledger one other) (finding : Finding) :
    Beside item name { ledger with refused := finding.code :: ledger.refused }
      (Act.apply one (.report finding)) other where
  agree := beside.agree.showsAs ⟨rfl⟩ ⟨rfl⟩
  enclosed := beside.enclosed.showsAs ⟨rfl⟩
  checked := beside.checked
  undeclared := beside.undeclared
  declared := beside.declared
  known := beside.known
  codes := by
    simp only [Session.codes, Act.apply, List.map_append, List.map_cons, List.map_nil,
      List.append_assoc, List.cons_append, List.nil_append]
    exact List.perm_middle.trans (beside.codes.cons _)

end Beside

/-- What is known of a function that returns nothing. -/
def SymbolType.ReturnsNothing (known : SymbolType) : Prop :=
  ∃ params convention variadic, known.type = some (.function params .void convention variadic)

/-! ### Collecting -/

/-- The name is neither declared at top level nor looked up in an expression, and no builtin
function has it. -/
structure UnusedName (name : String) (items : List Item) : Prop where
  intrinsics : ∀ intrinsic ∈ Declare.intrinsics, intrinsic.name ≠ name
  declared : ∀ item ∈ items, ∀ header ∈ Declare.header? item, ∀ ident ∈ header.name,
    ident.name ≠ name
  mentioned : ∀ item ∈ items, ∀ expr ∈ Stmt.exprs item.stmts ++ item.values,
    ∀ part ∈ expr.parts, ∀ ident ∈ part.ownNames, ident.name ≠ name

namespace Declare

variable {name ident : Ident} {item stand : Item} {ledger : Ledger} {one other : Session}

/-- Under a name that is used nowhere nothing is declared. -/
theorem globalNamed?_of_unused {name : String} {items ahead : List Item}
    (unused : UnusedName name items) (inItems : ahead ⊆ items) (space : Namespace) :
    globalNamed? ahead space name = none := by
  refine List.find?_eq_none.mpr fun symbol isOffered => ?_
  have differs : symbol.name ≠ name := by
    obtain isBuiltin | isOffered := List.mem_append.mp isOffered
    · obtain ⟨number, inside, rfl⟩ := List.mem_mapIdx.mp isBuiltin
      exact unused.intrinsics _ (List.getElem_mem inside)
    · obtain ⟨item, isItem, offers⟩ := List.mem_filterMap.mp isOffered
      obtain ⟨header, isHeader, offers⟩ := Option.bind_eq_some_iff.mp offers
      obtain ⟨ident, isNamed, offers⟩ := Option.bind_eq_some_iff.mp offers
      have isSymbol : symbolOf item header ident = symbol := by
        simp only at offers
        split at offers
        · cases offers
        · exact Option.some.inj offers
      rw [← isSymbol, name_symbolOf]
      exact unused.declared item (inItems isItem) header isHeader ident isNamed
  simp [differs]

/-- What is declared among the functions is no type. -/
theorem isType_of_function {kind : SymbolKind} (space : kind.space = .function) :
    kind.isType = false := by
  cases kind <;> first | rfl | cases space

/-- Declaring a function whose name is taken reports that it is. -/
theorem run_declareGlobal_taken {header : Header} {previous : Symbol} {session : Session}
    (isHeader : header? item = some header) (isNamed : header.name = some ident)
    (space : (symbolKind header.kind).space = .function)
    (isTaken : session.table.global? .function ident.name = some previous) :
    (declareGlobal item header).run session =
      (none, Act.apply session
        (.report (.redeclared ident.span previous.site (.symbol ident.name)))) := by
  have outcome := declares_declareGlobal isHeader session
  generalize (declareGlobal item header).run session = result at outcome
  obtain ⟨pending, after⟩ := result
  cases outcome with
  | unnamed isUnnamed => cases isNamed.symm.trans isUnnamed
  | reserved _ _ isType =>
    rw [isType_of_function space] at isType
    cases isType
  | taken other first isOther isFirst =>
    cases isNamed.symm.trans isOther
    rw [space] at isFirst
    cases isTaken.symm.trans isFirst
    rfl
  | enters other _ isOther _ isNew =>
    cases isNamed.symm.trans isOther
    rw [space] at isNew
    cases isTaken.symm.trans isNew

/-- Declaring a function whose name is free enters it and notes its declaration. -/
theorem run_declareGlobal_free (item : Item) {header : Header} {session : Session}
    (isNamed : header.name = some name) (space : (symbolKind header.kind).space = .function)
    (isFree : session.table.global? .function name.name = none) :
    ∃ said, (Act.apply (Act.apply session (.global (symbolOf item header name)))
        (.knows (symbolOf item header name).id (.ofType none))).Alike said ∧
      (declareGlobal item header).run session =
        (some ⟨symbolOf item header name, item⟩,
          Act.apply said (.declares item.span.node (symbolOf item header name))) := by
  obtain ⟨sameName, sameKind⟩ := symbolOf_fields item header name
  have introduced : introduce item (symbolOf item header name) =
      Check.setKnown (symbolOf item header name).id (.ofType none) := by
    unfold introduce
    rw [sameKind]
    cases kind : header.kind <;> simp_all [symbolKind, SymbolKind.space]
  refine ⟨_, (alike_say _ .green ("declared " ++ (symbolKind header.kind).text ++ " " ++
    name.name ++ "\n")).1, ?_⟩
  unfold declareGlobal
  simp only [isNamed, introduced, Symbol.isType, sameKind, isType_of_function space, Bool.false_and]
  rw [if_neg Bool.false_ne_true, StateT.run_bind, StateT.run_get, pure_bind]
  simp only [Table.declareGlobal, sameKind, space, sameName, isFree]
  rfl

/-- One check refuses the function and the other one declares what stands in for it. -/
theorem beside_collectItem (stands : StandsIn name item stand)
    (isNamed : item.functionName? = some ident)
    (taken : (one.table.global? .function ident.name).isSome)
    (free : other.table.global? .function name.name = none)
    (beside : Beside item name.name ledger one other) (entry : Option Span) :
    ∃ symbol, symbol.id = .node item.span.node ∧
      ((collectItem entry item).run one).1 = (entry, none) ∧
      ((collectItem entry stand).run other).1 = (entry, some ⟨symbol, stand⟩) ∧
      Beside item name.name
        ⟨some symbol, .ofType none, "R0002" :: ledger.refused, ledger.owed⟩
        ((collectItem entry item).run one).2 ((collectItem entry stand).run other).2 := by
  obtain ⟨previous, isTaken⟩ := Option.isSome_iff_exists.mp taken
  have declares {header headerOther : Header} (isHeader : header? item = some header)
      (isOther : header? stand = some headerOther) (named : header.name = some ident)
      (namedOther : headerOther.name = some name)
      (space : (symbolKind header.kind).space = .function)
      (spaceOther : (symbolKind headerOther.kind).space = .function) :
      ∃ symbol, symbol.id = .node item.span.node ∧
        ((collectItem entry item).run one).1 = (entry, none) ∧
        ((collectItem entry stand).run other).1 = (entry, some ⟨symbol, stand⟩) ∧
        Beside item name.name
          ⟨some symbol, .ofType none, "R0002" :: ledger.refused, ledger.owed⟩
          ((collectItem entry item).run one).2 ((collectItem entry stand).run other).2 := by
    have refused := run_declareGlobal_taken isHeader named space isTaken
    obtain ⟨said, alike, entered⟩ :=
      run_declareGlobal_free stand namedOther spaceOther free
    rw [collectItem_of_header isHeader, collectItem_of_header isOther, StateT.run_bind,
      StateT.run_bind, refused, entered]
    obtain ⟨sameName, sameKind⟩ := symbolOf_fields stand headerOther name
    have own : (symbolOf stand headerOther name).id = .node item.span.node := by
      rw [id_symbolOf, stands.span]
    refine ⟨symbolOf stand headerOther name, own, rfl, rfl, ?_⟩
    rw [own, ← stands.span] at alike
    have reported := beside.refuse (.redeclared ident.span previous.site (.symbol ident.name))
    have enrolled := reported.enroll (symbolOf stand headerOther name)
      (by rw [sameKind, spaceOther]) sameName
    have learnt := (enrolled.learn (.ofType none)).alike (.refl _) (stands.span ▸ alike)
    have noted := learnt.enter (symbolOf stand headerOther name)
    rw [← stands.span] at noted
    exact noted
  cases stands with
  | function _ => exact declares rfl rfl isNamed rfl rfl rfl
  | asm _ => exact declares rfl rfl isNamed rfl rfl rfl

/-- What is pending in the two checks: in one of them the function is missing. -/
theorem beside_collect (stands : StandsIn name item stand)
    (isNamed : item.functionName? = some ident) (ahead behind : List Item)
    (owned : ∀ other ∈ ahead ++ behind, other.ownNode ≠ [] →
      Owned (.apart item.face name.name) other)
    {done : List Item} (tabled : Tabled done one) (tabledOther : Tabled done other)
    (taken : (globalNamed? (done ++ ahead) .function ident.name).isSome)
    (free : globalNamed? (done ++ ahead) .function name.name = none)
    (beside : Beside item name.name ledger one other) :
    ∃ symbol first later, symbol.id = .node item.span.node ∧
      (∀ pending ∈ first ++ later, OwnedPending (.apart item.face name.name) pending) ∧
      ((collect (done.findSome? entrySpan?) (ahead ++ item :: behind)).run one).1 =
        first ++ later ∧
      ((collect (done.findSome? entrySpan?) (ahead ++ stand :: behind)).run other).1 =
        first ++ ⟨symbol, stand⟩ :: later ∧
      Beside item name.name
        ⟨some symbol, .ofType none, "R0002" :: ledger.refused, ledger.owed⟩
        ((collect (done.findSome? entrySpan?) (ahead ++ item :: behind)).run one).2
        ((collect (done.findSome? entrySpan?) (ahead ++ stand :: behind)).run other).2 := by
  induction ahead generalizing done one other with
  | nil =>
    rw [List.append_nil] at taken free
    obtain ⟨symbol, own, refused, declared, beside⟩ := beside_collectItem stands isNamed
      (by rw [tabled]; exact taken) (by rw [tabledOther]; exact free) beside
      (done.findSome? entrySpan?)
    simp only [List.nil_append] at owned ⊢
    rw [run_collect_cons, run_collect_cons, refused, declared]
    obtain ⟨same, hold, after⟩ := steps_collect mayDeclareAlike_beside behind owned
      (done.findSome? entrySpan?) _ _ beside
    exact ⟨symbol, [], _, own, hold, rfl, congrArg (List.cons _) same.symm, after⟩
  | cons first rest inductionHypothesis =>
    rw [List.append_cons] at taken free
    obtain ⟨firstOwned, restOwned⟩ := List.forall_mem_cons.mp owned
    obtain ⟨same, hold, after⟩ := steps_collectItem mayDeclareAlike_beside
      (done.findSome? entrySpan?) firstOwned _ _ beside
    obtain ⟨entry, admits⟩ := admits_collectItem first tabled
    obtain ⟨-, admitsOther⟩ := admits_collectItem first tabledOther
    obtain ⟨symbol, ahead, later, own, restHold, pending, pendingOther, after⟩ :=
      inductionHypothesis restOwned admits.tabled admitsOther.tabled taken free after
    rw [← entry] at pending pendingOther after
    simp only [List.cons_append]
    rw [run_collect_cons, run_collect_cons, ← same, pending, pendingOther]
    refine ⟨symbol, _, later, own, ?_, (List.append_assoc _ _ _).symm,
      (List.append_assoc _ _ _).symm, after⟩
    rw [List.append_assoc]
    exact List.forall_mem_append.mpr
      ⟨fun entry isEntry => hold entry (Option.mem_toList.mp isEntry), restHold⟩

/-! ### The signature -/

/-- The parameter types are read where the function is declared. -/
theorem beside_paramTypes (params : List Param)
    (within : ∀ param ∈ params, ∀ node ∈ param.type.nodes, node ∈ item.face)
    (beside : Beside item name.name ledger one other) :
    ((params.mapM fun param => Check.typeOf param.type).run other).1 =
        params.map (·.type.meaning other.named) ∧
      Beside item name.name
        { ledger with owed := ledger.owed ++ params.flatMap (other.misses ·.type) } one
        ((params.mapM fun param => Check.typeOf param.type).run other).2 := by
  induction params generalizing ledger other with
  | nil =>
    rw [List.flatMap_nil, List.append_nil]
    exact ⟨rfl, beside⟩
  | cons param rest inductionHypothesis =>
    obtain ⟨isWithin, restWithin⟩ := List.forall_mem_cons.mp within
    have yields := Check.typeOf_yields param.type other
    have names := NamesAs.of_reads (Check.reads_typeOf param.type other)
    have lent := beside.lend (glosses_typeOf isWithin other) (codes_typeOf param.type other)
    obtain ⟨types, later⟩ := inductionHypothesis restWithin lent
    rw [names.named] at types
    simp only [names.misses, List.append_assoc] at later
    rw [List.mapM_cons, List.map_cons, ← yields, ← types]
    exact ⟨rfl, later⟩

/-- Reading that a function has no result finds nothing. -/
theorem beside_result (result : Option TypeForm)
    (quiet : result = none ∨ result = item.result? ∧ ∃ span, result = some (.named "void" span))
    (within : ∀ form ∈ item.result?, ∀ node ∈ form.nodes, node ∈ item.face)
    (beside : Beside item name.name ledger one other) :
    ((Check.typeOf? result).run other).1.getD .void = .void ∧
      Beside item name.name ledger one ((Check.typeOf? result).run other).2 := by
  obtain rfl | ⟨isResult, span, rfl⟩ := quiet
  · exact ⟨rfl, beside⟩
  · have lent := beside.lend (glosses_typeOf (within _ isResult.symm) other)
      (codes_typeOf (.named "void" span) other)
    have silent : other.misses (.named "void" span) = [] := rfl
    rw [silent, List.append_nil] at lent
    exact ⟨Check.typeOf_yields (.named "void" span) other, lent⟩

/-- Where the function is declared, it is found to return nothing. -/
theorem beside_signature (stands : StandsIn name item stand) {symbol : Symbol}
    (own : symbol.id = .node item.span.node) (beside : Beside item name.name ledger one other) :
    ∃ known : SymbolType, known.ReturnsNothing ∧
      known.params = item.params.map (·.type.meaning other.named) ∧
      Beside item name.name
        { ledger with
          known := known
          owed := ledger.owed ++ item.params.flatMap (other.misses ·.type) }
        one (other.after (resolveSignature ⟨symbol, stand⟩)) := by
  obtain ⟨attributes, signature⟩ := stands.resolveSignature
  obtain ⟨types, lent⟩ := beside_paramTypes item.params stands.face_of_param beside
  obtain ⟨void, read⟩ := beside_result stand.result? stands.quiet stands.face_of_result lent
  have outcome : other.after (functionSignature symbol item.params stand.result? attributes) =
      Act.apply
        ((Check.typeOf? stand.result?).run
          ((item.params.mapM fun param => Check.typeOf param.type).run other).2).2
        (.knows symbol.id ⟨some (.function
          ((item.params.mapM fun param => Check.typeOf param.type).run other).1
          (((Check.typeOf? stand.result?).run
            ((item.params.mapM fun param => Check.typeOf param.type).run other).2).1.getD .void)
          (conventionOf attributes) (hasAttribute attributes "ignore")),
          ((item.params.mapM fun param => Check.typeOf param.type).run other).1,
          hasAttribute attributes "ignore"⟩) := rfl
  rw [void, types, own] at outcome
  rw [signature, outcome]
  exact ⟨_, ⟨_, _, _, rfl⟩, rfl, read.learn _⟩

/-! ### The first pass -/

/-- Reading the globals gives what is pending behind the types. -/
theorem run_draft {items : List Item} (session : Session) (isUnit : session.items = items) :
    let collected := (collect none items).run (session.after (declareIntrinsics 0 intrinsics))
    draft.run session = (collected.1, collected.2.after (do
      resolveAliases (aliases collected.1)
      collected.1.forM defineType)) := by
  have same : ((declareIntrinsics 0 intrinsics).run session).2.items = items :=
    (obeys_declareIntrinsics mayDeclare_free.mayCollect 0 intrinsics session trivial).items.trans
      isUnit
  intro collected
  unfold draft
  rw [StateT.run_bind]
  simp only [collected, Session.after] at same ⊢
  rw [← same]
  rfl

/-- Behind the types names mean what the items declare. -/
theorem means_draft {unit : Module} {options : Options}
    (distinct : (unit.items.flatMap Item.sites).Nodup)
    (start : (Session.start (some unit) options).Alike one) :
    Means unit.items (draft.run one).2 ∧ ∀ pending ∈ (draft.run one).1,
      pending.item ∈ unit.items ∧ pending.symbol.id = .node pending.item.span.node := by
  have isUnit : one.items = unit.items := start.items
  obtain ⟨gathered, lists⟩ := collects_collect unit.items none (gathered_intrinsics start) distinct
  have pendings := id_of_collect unit.items none (one.after (declareIntrinsics 0 intrinsics))
  rw [run_draft one isUnit]
  generalize (collect none unit.items).run (one.after (declareIntrinsics 0 intrinsics)) =
    collected at gathered lists pendings ⊢
  have register : Register unit.items (aliases collected.1) := lists.register distinct
  obtain ⟨settled, progress, -⟩ := progress_resolveAliases register gathered
  have defines : (finishing unit.items).Obeys (collected.1.forM defineType) :=
    .forM _ fun entry _ => obeys_defineType mayDefine_finishing entry fun _ _ => trivial
  exact ⟨(progress.finish register (defines _ trivial)).means, pendings⟩

/-- What comes behind the types leaves names as they are. -/
theorem namesAs_finishing {items : List Item} {before after : Session}
    (means : Means items before) (trace : Trace (finishing items).permits before after) :
    NamesAs before after := by
  refine ⟨fun name => by rw [table_finishing trace], fun name symbol found => ?_⟩
  have types := means.types name
  rw [found, Option.map_some, eq_comm, Option.map_eq_some_iff] at types
  obtain ⟨item, meant, isId⟩ := types
  rw [← isId, knownOf_finishing meant trace]

/-- Wherever signatures are read, names stand for what they do behind the first pass. -/
theorem namesAs_walk {unit : Module} {options : Options} {ahead behind : List Pending}
    (distinct : (unit.items.flatMap Item.sites).Nodup)
    (start : (Session.start (some unit) options).Alike one)
    (pending : (draft.run one).1 = ahead ++ behind) :
    NamesAs (((draft.run one).2.after (cutRecursion (ahead ++ behind))).after
      (ahead.forM resolveSignature)) (one.after walk) := by
  obtain ⟨means, pendings⟩ := means_draft distinct start
  rw [after_walk_draft, pending]
  rw [pending] at pendings
  have signs (waiting : List Pending) (within : waiting ⊆ ahead ++ behind) :
      (finishing unit.items).Obeys (do
        cutRecursion (ahead ++ behind)
        waiting.forM resolveSignature) :=
    .bind (obeys_cutRecursion mayDefine_finishing _) fun _ =>
      .forM _ fun entry isEntry => obeys_resolveSignature mayDefine_finishing.toMayInspect entry
        (mayLearn_finishing distinct (pendings entry (within isEntry)).1
          (pendings entry (within isEntry)).2) fun _ _ => trivial
  have here := signs ahead (List.subset_append_left _ _) (draft.run one).2 trivial
  have there := signs (ahead ++ behind) (List.Subset.refl _) (draft.run one).2 trivial
  exact (namesAs_finishing means here).symm.trans (namesAs_finishing means there)

end Declare

/-- A unit declares a function whose name is taken behind some items, and another unit has
something else in its place, under a name that is not used. -/
structure Refused (name : Ident) (before after : List Item) (item stand : Item) : Prop where
  distinct : ((before ++ item :: after).flatMap Item.sites).Nodup
  stands : StandsIn name item stand
  taken : ∃ ident, item.functionName? = some ident ∧
    (Declare.globalNamed? before .function ident.name).isSome
  unused : UnusedName name.name (before ++ item :: after)

namespace Refused

open Declare

variable {name : Ident} {before after : List Item} {item stand : Item}
  (refused : Refused name before after item stand)

include refused

theorem face_subset_sites : item.face ⊆ item.sites := by
  intro node isFace
  have own : item.span.node ∈ item.ownNode := by
    cases refused.stands <;> exact List.mem_cons_self
  rw [Item.sites_eq]
  obtain rfl | isForm := List.mem_cons.mp isFace
  · exact List.mem_append_left _ own
  · exact List.mem_append_right _ (List.mem_append_right _ isForm)

/-- Other items have no node on the face of the function. -/
theorem apart {other : Item} (isOther : other ∈ before ++ after) :
    ∀ node ∈ other.sites, node ∉ item.face := by
  intro node isSite isFace
  have moved := (List.perm_middle.flatMap_right Item.sites).nodup_iff.mp refused.distinct
  rw [List.flatMap_cons] at moved
  exact (List.nodup_append.mp moved).2.2 node (refused.face_subset_sites isFace) node
    (List.mem_flatMap.mpr ⟨other, isOther, isSite⟩) rfl

theorem distinctOther : ((before ++ stand :: after).flatMap Item.sites).Nodup := by
  have forms : List.Sublist (stand.forms.flatMap TypeForm.nodes)
      (item.forms.flatMap TypeForm.nodes) := by
    obtain quiet | ⟨quiet, -⟩ := refused.stands.quiet <;> cases refused.stands <;>
      simp_all [Item.forms, Item.result?]
  have shorter : List.Sublist stand.sites item.sites := by
    unfold Item.sites
    cases refused.stands <;> exact (List.Sublist.refl _).append forms
  refine refused.distinct.sublist ?_
  rw [List.flatMap_append, List.flatMap_append, List.flatMap_cons, List.flatMap_cons]
  exact (List.Sublist.refl _).append (shorter.append (List.Sublist.refl _))

theorem owned : ∀ other ∈ before ++ after, other.ownNode ≠ [] →
    Owned (.apart item.face name.name) other := by
  intro other isOther declares
  have isOwn : other.span.node ∈ other.ownNode := by
    cases other <;> simp [Item.ownNode] at declares ⊢
  have apart := refused.apart isOther
  rw [Item.sites_eq] at apart
  refine ⟨apart _ (List.mem_append_left _ isOwn), apart _ (List.mem_append_left _ isOwn),
    fun node isForm => apart node ?_, fun header isHeader ident isNamed => ?_⟩
  · exact List.mem_append_right _ (List.mem_append_right _ isForm)
  · exact refused.unused.declared other (subset_insert _ _ _ isOther) header isHeader ident isNamed

variable {unit unitOther : Module} {options : Options} {one other : Session}
  (isUnit : unit.items = before ++ item :: after)
  (isUnitOther : unitOther.items = before ++ stand :: after)
  (sameFile : unit.file = unitOther.file)
  (start : (Session.start (some unit) options).Alike one)
  (startOther : (Session.start (some unitOther) options).Alike other)

omit refused in
include sameFile start startOther in
/-- Before the first pass the function is unknown to either check. -/
theorem beside_start : Beside item name.name ⟨none, .ofType none, [], []⟩ one other where
  agree := agree_start start startOther sameFile _
  enclosed := enclosed_start start _
  checked := by
    rw [start.same, startOther.same]
    rfl
  undeclared := by
    rw [start.same]
    rfl
  declared := by
    rw [startOther.same]
    rfl
  known := by
    rw [startOther.same]
    rfl
  codes := by
    rw [start.same, startOther.same]
    exact List.Perm.refl _

include isUnit isUnitOther sameFile start startOther

/-- Behind the types, the function is missing from what is pending in one of the checks. -/
theorem beside_draft : ∃ symbol ahead behind, symbol.id = .node item.span.node ∧
    (∀ pending ∈ ahead ++ behind, OwnedPending (.apart item.face name.name) pending) ∧
    (draft.run one).1 = ahead ++ behind ∧
    (draft.run other).1 = ahead ++ ⟨symbol, stand⟩ :: behind ∧
    Beside item name.name ⟨some symbol, .ofType none, ["R0002"], []⟩
      (draft.run one).2 (draft.run other).2 := by
  obtain ⟨ident, isNamed, taken⟩ := refused.taken
  have free := globalNamed?_of_unused refused.unused (List.subset_append_left before _) .function
  have tabled {unit : Module} {session : Session}
      (start : (Session.start (some unit) options).Alike session) :
      Tabled [] (session.after (declareIntrinsics 0 intrinsics)) := by
    rw [start.same]
    exact fun _ _ => rfl
  obtain ⟨-, -, started⟩ := steps_declareIntrinsics mayDeclareAlike_beside 0 intrinsics
    (fun _ => id) refused.unused.intrinsics one other (beside_start sameFile start startOther)
  obtain ⟨symbol, ahead, behind, own, owned, pending, pendingOther, beside⟩ :=
    beside_collect refused.stands isNamed before after refused.owned (tabled start)
      (tabled startOther) taken free started
  rw [List.findSome?_nil] at pending pendingOther beside
  have defines : (Pairing.beside item name.name ⟨some symbol, .ofType none, ["R0002"], []⟩).Steps
      (do
        resolveAliases (aliases (ahead ++ behind))
        (ahead ++ behind).forM defineType) fun _ => True :=
    .bind (steps_resolveAliases _ (ownedAlias_of_mem owned)) fun _ _ =>
      .forM _ fun entry isEntry => steps_defineType (owned entry isEntry)
  have skipped : (ahead ++ ⟨symbol, stand⟩ :: behind).forM defineType =
      (ahead ++ behind).forM defineType := by
    have none : (⟨symbol, stand⟩ :: behind : List Pending).forM defineType =
        behind.forM defineType := by
      rw [List.forM, refused.stands.defineType, pure_bind]
    rw [Check.forM_append, Check.forM_append, none]
  rw [run_draft one (start.items.trans isUnit),
    run_draft other (startOther.items.trans isUnitOther)]
  refine ⟨symbol, ahead, behind, own, owned, pending, pendingOther, ?_⟩
  simp only [pending, pendingOther, refused.stands.aliases, skipped]
  exact beside.inStep defines

omit isUnit isUnitOther sameFile start in
/-- Going over the structs, it makes no difference that the function is pending. -/
theorem beside_cutRecursion {symbol : Symbol} {ahead behind : List Pending} {ledger : Ledger}
    (pendingOther : (draft.run other).1 = ahead ++ ⟨symbol, stand⟩ :: behind)
    (owned : ∀ pending ∈ ahead ++ behind, OwnedPending (.apart item.face name.name) pending)
    (beside : Beside item name.name ledger (draft.run one).2 (draft.run other).2) :
    Beside item name.name ledger ((draft.run one).2.after (cutRecursion (ahead ++ behind)))
      ((draft.run other).2.after (cutRecursion (ahead ++ ⟨symbol, stand⟩ :: behind))) := by
  have blank : Drafted (fun _ => False) other := by
    obtain ⟨listed, integers, silent⟩ := blank_start (some unitOther) options
    rw [startOther.same]
    exact ⟨listed, integers, silent⟩
  have drafted := drafted_draft blank
  rw [pendingOther, refused.stands.structIds] at drafted
  have inStep : (Pairing.beside item name.name ledger).Steps (cutRecursion (ahead ++ behind))
      fun _ => True := steps_cutRecursion (fun _ => id) _ owned
  rw [cutRecursion_skip refused.stands.not_struct fun outer inner contains => ?_]
  · exact beside.inStep inStep
  · obtain ⟨field, isField, -⟩ := contains
    exact drafted.listed outer (List.ne_nil_of_mem isField)

/-- Behind the first pass the function is known to return nothing where it is declared. -/
theorem beside_walk : ∃ (symbol : Symbol) (known : SymbolType),
    symbol.id = .node item.span.node ∧ known.ReturnsNothing ∧
      known.params = item.params.map (·.type.meaning (other.after Declare.walk).named) ∧
      Beside item name.name ⟨some symbol, known, ["R0002"],
        item.params.flatMap ((other.after Declare.walk).misses ·.type)⟩
        (one.after Declare.walk) (other.after Declare.walk) := by
  obtain ⟨symbol, ahead, behind, own, owned, pending, pendingOther, beside⟩ :=
    refused.beside_draft isUnit isUnitOther sameFile start startOther
  have steps (ledger : Ledger) (waiting : List Pending)
      (owned : ∀ pending ∈ waiting, OwnedPending (.apart item.face name.name) pending) :
      (Pairing.beside item name.name ledger).Steps (waiting.forM resolveSignature)
        fun _ => True :=
    .forM _ fun entry isEntry => steps_resolveSignature (owned entry isEntry)
  obtain ⟨aheadOwned, behindOwned⟩ := List.forall_mem_append.mp owned
  have cut := refused.beside_cutRecursion startOther pendingOther owned beside
  have first := cut.inStep (steps _ ahead aheadOwned)
  obtain ⟨known, nothing, params, signed⟩ := beside_signature refused.stands own first
  have last := signed.inStep (steps _ behind behindOwned)
  have names := namesAs_walk (isUnitOther ▸ refused.distinctOther) startOther pendingOther
  rw [names.named, names.misses]
  refine ⟨symbol, known, own, nothing, params, ?_⟩
  rw [after_walk_draft, after_walk_draft, pending, pendingOther, Check.forM_append,
    Check.forM_append, Session.after_bind, Session.after_bind]
  exact last

end Refused
end UnitCheck
