import UnitCheck.Proofs.Session.Passes
import UnitCheck.Proofs.Typing.Closed

/-!
# Types of expressions form derivations

What typing records for an expression agrees with the rules at every expression
inside it, whatever context it is typed in. The induction follows the walk: each
form of expression is secured from its operands, and whatever is promised of types
passes from the operands to the form.
-/

namespace UnitCheck

namespace Expr

/-- Whether the expression is the name of an enumeration. -/
def namesEnum (refs : FactLog Symbol) : Expr -> Bool
  | .name ident =>
    match refs.find? ident.span.node with
    | some symbol => symbol.kind = .enum
    | none => false
  | _ => false

mutual

/-- The names that an expression reads as values. The name of an enumeration in front of
a variant is none, and neither is the name of a call. -/
def reads (refs : FactLog Symbol) : Expr -> List Ident
  | .name ident => [ident]
  | .binary _ left right _ => reads refs left ++ reads refs right
  | .unary _ operand _ => reads refs operand
  | .call _ args _ => readsAll refs args
  | .callValue function args _ => reads refs function ++ readsAll refs args
  | .field base _ _ => if base.namesEnum refs then [] else reads refs base
  | .index base position _ => reads refs base ++ reads refs position
  | .cast _ operand _ => reads refs operand
  | .array _ items _ => readsAll refs items
  | .addressOf operand _ => reads refs operand
  | .load _ operand _ => reads refs operand
  | .literal _ | .alloc _ _ | .bad _ => []

/-- The names that several expressions read as values. -/
def readsAll (refs : FactLog Symbol) : List Expr -> List Ident
  | [] => []
  | expr :: rest => reads refs expr ++ readsAll refs rest

end
end Expr

namespace Typing.Stage

variable {stage : Stage} {path ready : List NodeId} {given : Session -> Prop}
  {demand : Demand}

/-! ### What expressions rely on -/

/-- What is recorded for a written type is good. -/
def FormOk (stage : Stage) (form : TypeForm) : Prop :=
  ∃ type, stage.start.facts.forms.find? form.node = some type ∧ stage.good type

/-- A symbol has a good type when it is read, or has none where that may be. -/
structure Readable (stage : Stage) (ready : List NodeId) (symbol : Symbol) : Prop where
  good : ∀ type, stage.fits symbol.id type → stage.good type
  known : stage.good .unknown ∨
    (∃ node ∈ ready, stage.isDeclared node = true ∧ symbol.id = .node node) ∨
    (stage.start.knownOf symbol.id).type.isSome ∨
    ∃ global ∈ stage.globals, symbol.id = .node global.node

/-- The name of a call has a symbol that can be read. -/
def CalleeOk (stage : Stage) (ready : List NodeId) (name : Ident) : Prop :=
  match stage.start.facts.refs.find? name.span.node with
  | some symbol => stage.Readable ready symbol
  | none => stage.good .unknown

/-- A name that is read as a value is no type and has a symbol that can be read. -/
def ValueOk (stage : Stage) (ready : List NodeId) (name : Ident) : Prop :=
  match stage.start.facts.refs.find? name.span.node with
  | some symbol => if symbol.isType then stage.good .unknown else stage.Readable ready symbol
  | none => stage.good .unknown

/-- Where a name in front of a field is that of an enumeration, its type is known. -/
def EnumOk (stage : Stage) (name : Ident) : Prop :=
  ∀ symbol, stage.start.facts.refs.find? name.span.node = some symbol → symbol.kind = .enum →
    (∀ type, stage.fits symbol.id type → stage.good type) ∧
      (stage.good .unknown ∨ ∀ session, Extends stage.start session →
        ∃ enumName id, (session.knownOf symbol.id).type = some (.enum enumName id))

/-- What an expression by itself relies on. -/
def OwnOk (stage : Stage) (ready : List NodeId) : Expr -> Prop
  | .call callee _ _ => stage.CalleeOk ready callee
  | .field (.name name) _ _ => stage.EnumOk name
  | .bad _ => stage.good .unknown
  | _ => True

/-- What expressions with these parts and these names rely on. -/
structure Supports (stage : Stage) (ready : List NodeId) (parts : List Expr)
    (reads : List Ident) : Prop where
  forms : ∀ part ∈ parts, ∀ form ∈ part.ownForms, stage.FormOk form
  own : ∀ part ∈ parts, stage.OwnOk ready part
  values : ∀ name ∈ reads, stage.ValueOk ready name

theorem supports_cons {part : Expr} {parts : List Expr} {reads : List Ident} :
    stage.Supports ready (part :: parts) reads ↔
      ((∀ form ∈ part.ownForms, stage.FormOk form) ∧ stage.OwnOk ready part) ∧
        stage.Supports ready parts reads := by
  constructor
  · intro supports
    refine ⟨⟨supports.forms part List.mem_cons_self, supports.own part List.mem_cons_self⟩,
      ?_, ?_, supports.values⟩
    · exact fun other inside => supports.forms other (List.mem_cons_of_mem part inside)
    · exact fun other inside => supports.own other (List.mem_cons_of_mem part inside)
  · rintro ⟨⟨forms, own⟩, rest⟩
    exact ⟨List.forall_mem_cons.mpr ⟨forms, rest.forms⟩,
      List.forall_mem_cons.mpr ⟨own, rest.own⟩, rest.values⟩

theorem supports_append {first second : List Expr} {reads others : List Ident} :
    stage.Supports ready (first ++ second) (reads ++ others) ↔
      stage.Supports ready first reads ∧ stage.Supports ready second others := by
  constructor
  · rintro ⟨forms, own, values⟩
    rw [List.forall_mem_append] at forms own values
    exact ⟨⟨forms.1, own.1, values.1⟩, ⟨forms.2, own.2, values.2⟩⟩
  · rintro ⟨one, two⟩
    exact ⟨List.forall_mem_append.mpr ⟨one.forms, two.forms⟩,
      List.forall_mem_append.mpr ⟨one.own, two.own⟩,
      List.forall_mem_append.mpr ⟨one.values, two.values⟩⟩

/-- What an expression relies on. -/
def Relies (stage : Stage) (ready : List NodeId) (expr : Expr) : Prop :=
  stage.Supports ready expr.parts (expr.reads stage.start.facts.refs)

/-- What several expressions rely on. -/
def ReliesAll (stage : Stage) (ready : List NodeId) (exprs : List Expr) : Prop :=
  stage.Supports ready (Expr.partsAll exprs) (Expr.readsAll stage.start.facts.refs exprs)

/-- A context expects a good type, if it expects any. -/
def Wants (stage : Stage) (expected : Option Ty) : Prop := ∀ hint ∈ expected, stage.good hint

/-! ### Symbols -/

/-- What is found when a symbol is read: a good type, which is known of the symbol. -/
structure Read (stage : Stage) (symbol : Symbol) (after final : Session) (type : Ty) : Prop where
  good : stage.good type
  noted : type = .unknown ∨ ∃ known, (symbol.id, known) ∈ final.known ∧ known.type = some type
  stays : type = .unknown ∨ (after.knownOf symbol.id).type = some type

/-- A symbol without a type that typing can find one for. -/
structure Demandable (stage : Stage) (symbol : Symbol) : Prop where
  good : ∀ type, stage.fits symbol.id type → stage.good type
  found : stage.good .unknown ∨ ∃ global ∈ stage.globals, symbol.id = .node global.node

/-- The demand for types of symbols is secure. -/
def Meets (stage : Stage) (path ready : List NodeId) (demand : Demand) : Prop :=
  ∀ symbol, stage.Secures path ready (fun _ => stage.Demandable symbol) [] (demand symbol)
    (stage.Read symbol)

/-- What is known of a symbol has been noted. -/
theorem noted_of_known {session : Session} {id : SymbolId} {type : Ty}
    (known : (session.knownOf id).type = some type) :
    ∃ noted, (id, noted) ∈ session.known ∧ noted.type = some type := by
  unfold Session.knownOf at known
  cases found : session.known.lookup id with
  | none =>
    rw [found] at known
    cases known
  | some noted =>
    rw [found] at known
    exact ⟨noted, mem_of_lookup found, known⟩

/-- A symbol that is readable and has no type yet can be demanded. -/
theorem demandable_of_readable {session : Session} {symbol : Symbol}
    (sound : stage.Sound session) (isReady : stage.Ready ready session)
    (readable : stage.Readable ready symbol)
    (unknown : (session.knownOf symbol.id).type = none) : stage.Demandable symbol := by
  refine ⟨readable.good, ?_⟩
  have absent : ¬(session.knownOf symbol.id).type.isSome := by
    rw [unknown]
    exact Bool.false_ne_true
  obtain good | ⟨node, inside, isDeclared, same⟩ | known | isGlobal := readable.known
  · exact .inl good
  · rw [same] at absent
    exact absurd (isReady node inside isDeclared) absent
  · exact absurd (sound.reached.learnt _ known) absent
  · exact .inr isGlobal

theorem secures_symbolType (meets : stage.Meets path ready demand) (symbol : Symbol) :
    stage.Secures path ready (fun _ => stage.Readable ready symbol) []
      (symbolType demand symbol) (stage.Read symbol) := by
  refine .read fun seen => ?_
  cases known : (seen.knownOf symbol.id).type with
  | some type =>
    refine .stay ?_
    rintro session final sound ⟨rfl, readable⟩ further
    obtain ⟨noted, isNoted, isType⟩ := noted_of_known known
    exact ⟨readable.good type (sound.known _ _ _ isNoted isType),
      .inr ⟨noted, further.known.subset isNoted, isType⟩, .inr known⟩
  | none =>
    refine (meets symbol).provided ?_
    rintro session sound isReady ⟨rfl, readable⟩
    exact demandable_of_readable sound isReady readable known

/-- A type that is known is what is read. -/
theorem secures_knownType (meets : stage.Meets path ready demand) (symbol : Symbol) (type : Ty) :
    stage.Secures path ready (fun session => (session.knownOf symbol.id).type = some type) []
      (symbolType demand symbol) fun _ _ result => result = type where
  grows := obeys_symbolType (fun other => (meets other).grows) symbol
  secure session sound _ known _ := by
    have same : (symbolType demand symbol).run session = (type, session) := by
      unfold symbolType
      rw [StateT.run_bind, StateT.run_get, pure_bind, known]
      rfl
    rw [same]
    exact ⟨sound.refl_advances, fun _ _ => rfl⟩

/-- What is recorded for a name that is read as a value. -/
theorem secures_nameType (meets : stage.Meets path ready demand) (name : Ident) :
    stage.Secures path ready (fun _ => stage.ValueOk ready name) [] (nameType demand name)
      fun _ final type => stage.good type ∧
        ExprRule final (stage.Has final) (.name name) type := by
  refine .read fun seen => ?_
  cases found : seen.facts.refs.find? name.span.node with
  | none =>
    refine .stay ?_
    rintro session final sound ⟨rfl, value⟩ further
    rw [sound.reached.refs] at found
    simp only [ValueOk, found] at value
    exact ⟨value, .inl rfl⟩
  | some symbol =>
    cases isType : symbol.isType with
    | true =>
      simp only [isType, if_true]
      refine .stay ?_
      rintro session final sound ⟨rfl, value⟩ further
      rw [sound.reached.refs] at found
      simp only [ValueOk, found, isType, if_true] at value
      exact ⟨value, .inl rfl⟩
    | false =>
      simp only [isType, Bool.false_eq_true, if_false]
      refine ((secures_symbolType meets symbol).provided ?_).mono (fun _ => Nat.le_refl _) ?_
      · rintro session sound _ ⟨rfl, value⟩
        rw [sound.reached.refs] at found
        simpa only [ValueOk, found, isType, Bool.false_eq_true, if_false] using value
      · rintro before after final type sound ⟨rfl, _⟩ soundAfter - further ⟨good, noted, _⟩
        refine ⟨good, noted.imp_right fun ⟨known, isKnown, same⟩ => ?_⟩
        have refs : final.facts.refs = before.facts.refs :=
          (soundAfter.reached.trans further).refs.trans sound.reached.refs.symm
        exact ⟨symbol, known, by rw [refs, found], isKnown, same⟩

theorem secures_checkLiteral (closed : stage.Closed) (literal : Literal) (expected : Option Ty)
    (negated : Bool) :
    stage.Secures path ready (fun _ => stage.Wants expected) []
      (checkLiteral literal expected negated)
      fun _ final type => stage.good type ∧ LiteralRule final literal type := by
  refine .read fun seen => (secures_accept objects_literalType).mono (fun _ => Nat.le_refl _) ?_
  rintro before after final type sound ⟨rfl, wanted⟩ soundAfter - further judged
  refine ⟨closed.literal wanted judged, expected, negated, ?_⟩
  have options : final.options = before.options :=
    (soundAfter.reached.trans further).options.trans sound.reached.options.symm
  rwa [options]

/-- The type recorded for a written type, which has been resolved before. -/
theorem secures_recordedType (form : TypeForm) :
    stage.Secures path ready (fun _ => stage.FormOk form) [] (Check.recordedType form)
      fun _ final type => stage.good type ∧
        final.facts.forms.find? form.node = some type where
  grows := obeys_recordedType (.inr (mayResolve_free _))
  secure session sound _ formOk quiet := by
    obtain ⟨type, isRecorded, good⟩ := formOk
    have same : (Check.recordedType form).run session = (type, session) := by
      unfold Check.recordedType
      rw [StateT.run_bind, StateT.run_get, pure_bind, sound.reached.forms, isRecorded]
      rfl
    rw [same]
    refine ⟨sound.refl_advances, fun final further => ⟨good, ?_⟩⟩
    rw [further.forms, sound.reached.forms, isRecorded]

/-! ### Callees and fields -/

/-- What a symbol of this type invokes, with good types only. -/
structure Invoked (stage : Stage) (symbol : Symbol) (session : Session) (callee : Callee)
    (type : Ty) : Prop where
  known : (session.knownOf symbol.id).type = some type
  invokes : Invokes session symbol type callee
  good : stage.good type
  result : stage.good callee.result
  params : ∀ param ∈ callee.params, stage.good param

theorem invokes_mono {before after : Session} {symbol : Symbol} {type : Ty} {callee : Callee}
    (invokes : Invokes before symbol type callee) (ext : Extends before after) :
    Invokes after symbol type callee := by
  unfold Invokes at invokes ⊢
  rwa [ext.definitions, ext.variadic]

/-- What a call by name invokes, by the type that is known of the name. -/
theorem secures_calleeOf (closed : stage.Closed) (meets : stage.Meets path ready demand)
    (symbol : Symbol) :
    stage.Secures path ready (fun _ => stage.Readable ready symbol) [] (calleeOf demand symbol)
      fun after _ result => ∀ callee ∈ result, ∃ type, stage.Invoked symbol after callee type := by
  refine .read fun seen => ?_
  simp only
  split
  · rename_i isStruct
    cases known : (seen.knownOf symbol.id).type with
    | none => exact .stay fun _ _ _ _ _ _ impossible => by cases impossible
    | some type =>
      cases type with
      | struct name id =>
        refine .stay ?_
        rintro session final sound ⟨rfl, readable⟩ further callee isCallee
        cases isCallee
        obtain ⟨noted, isNoted, isType⟩ := noted_of_known known
        have good := readable.good _ (sound.known _ _ _ isNoted isType)
        refine ⟨_, known, ?_, good, good, ?_⟩
        · rw [Invokes, if_pos isStruct]
          exact ⟨name, id, rfl, rfl⟩
        · rw [sound.reached.definitions]
          exact List.forall_mem_map.mpr fun field isField => closed.fields name id good field isField
      | _ => exact .stay fun _ _ _ _ _ _ impossible => by cases impossible
  · rename_i notStruct
    split
    · exact .stay fun _ _ _ _ _ _ impossible => by cases impossible
    · refine ((secures_symbolType meets symbol).provided fun _ _ _ held => held.2).andThen
        fun type => ?_
      split
      · rename_i params result convention variadic isFunction
        refine .stay ?_
        rintro session final sound ⟨⟨earlier, soundEarlier, ⟨rfl, _⟩, _⟩, read⟩ further callee
          isCallee
        cases isCallee
        obtain ⟨goodResult, goodParams⟩ := closed.function type _ _ _ _ read.good isFunction
        refine ⟨type, ?_, ?_, read.good, goodResult, goodParams⟩
        · obtain unknown | stays := read.stays
          · rw [unknown] at isFunction
            cases isFunction
          · exact stays
        · rw [Invokes, if_neg notStruct]
          refine ⟨params, result, convention, variadic, isFunction, ?_⟩
          rw [sound.reached.variadic, soundEarlier.reached.variadic]
      · exact .stay fun _ _ _ _ _ _ impossible => by cases impossible

/-- A path behind the name of an enumeration is one of its variants. -/
theorem secures_chosenVariant (enumName : String) (id : TypeId) (found variants : List String)
    (span : Span) :
    stage.Secures path ready given [] (chosenVariant enumName id found variants span)
      fun _ _ type => type = .enum enumName id ∧
        ∃ variant, variants = [variant] ∧ variant ∈ found := by
  have complain {goal : Session -> Session -> Ty -> Prop} :
      stage.Secures path ready given [] (do
        Check.report (.unknownVariant span enumName variants found)
        return .unknown : Check Ty) goal :=
    (secures_report rfl).refused fun _ => .pure _
  unfold chosenVariant
  split
  · rename_i variant
    split
    · rename_i isVariant
      exact .stay fun _ _ _ _ _ => ⟨rfl, variant, rfl, by simpa using isVariant⟩
    · exact complain
  · exact complain

/-- The variant of an enumeration that a name stands for. -/
theorem secures_variantType {symbol : Symbol} {name : Ident} (isOk : stage.EnumOk name)
    (isRef : stage.start.facts.refs.find? name.span.node = some symbol)
    (isEnum : symbol.kind = .enum) (variants : List String) (span : Span) :
    stage.Secures path ready given [name.span.node] (variantType symbol name variants span)
      fun _ final type => stage.good type ∧ stage.PartRule final (.name name) ∧
        VariantRule final (stage.Has final) (.name name) variants type := by
  obtain ⟨good, isKnown⟩ := isOk symbol isRef isEnum
  have named {final : Session} (sound : Extends stage.start final) :
      NamesEnum final (.name name) symbol := ⟨name, rfl, by rw [sound.refs, isRef], isEnum⟩
  have unknown {session final : Session} (sound : stage.Sound session)
      (further : Extends session final)
      (absent : ∀ enumName id, (session.knownOf symbol.id).type ≠ some (.enum enumName id)) :
      stage.good .unknown ∧ stage.PartRule final (.name name) ∧
        VariantRule final (stage.Has final) (.name name) variants .unknown := by
    obtain goodUnknown | found := isKnown
    · exact ⟨goodUnknown, .inr ⟨goodUnknown, symbol, named (sound.reached.trans further)⟩, .inl rfl⟩
    · obtain ⟨enumName, id, isKnown⟩ := found session sound.reached
      exact absurd isKnown (absent enumName id)
  refine .read fun seen => ?_
  cases known : (seen.knownOf symbol.id).type with
  | none =>
    refine (Secures.stay ?_).mono (fun _ => Nat.zero_le _) fun _ _ _ _ _ _ _ _ _ held => held
    rintro session final sound ⟨rfl, -⟩ further
    exact unknown sound further fun _ _ => by simp [known]
  | some type =>
    cases type with
    | enum enumName id =>
      refine ((secures_recordExpr name.span.node _).provided ?_).bind
        (fun _ => secures_chosenVariant enumName id _ variants span) |>.mono
        (fun _ => Nat.le_refl _) ?_
      · rintro session sound - ⟨rfl, -⟩
        obtain ⟨noted, isNoted, isType⟩ := noted_of_known known
        exact good _ (sound.known _ _ _ isNoted isType)
      · rintro before after final _ sound ⟨rfl, -⟩ - ext further
          ⟨_, _, has, rfl, variant, rfl, isVariant⟩
        have whole := ext.trans further
        obtain ⟨noted, isNoted, isType⟩ := noted_of_known known
        refine ⟨has.2, .inl ⟨_, has, .inr ⟨symbol, noted, ?_, whole.known.subset isNoted, isType⟩⟩,
          .inr ⟨enumName, id, ?_⟩⟩
        · rw [whole.refs, sound.reached.refs, isRef]
        · rw [whole.definitions]
          split at isVariant
          · rename_i body isBody
            exact ⟨body, variant, has, rfl, isBody, rfl, isVariant⟩
          · cases isVariant
    | _ =>
      refine (Secures.stay ?_).mono (fun _ => Nat.zero_le _) fun _ _ _ _ _ _ _ _ _ held => held
      rintro session final sound ⟨rfl, -⟩ further
      exact unknown sound further fun _ _ => by simp [known]

/-- Whether a base is the name of an enumeration is read off the references. -/
theorem secures_enumBase? (base : Expr) :
    stage.Secures path ready given [] (enumBase? base) fun _ _ result =>
      match result with
      | some (symbol, name) => base = .name name ∧
          stage.start.facts.refs.find? name.span.node = some symbol ∧ symbol.kind = .enum
      | none => base.namesEnum stage.start.facts.refs = false := by
  unfold enumBase?
  split
  · rename_i name
    refine .read fun seen => ?_
    cases found : seen.facts.refs.find? name.span.node with
    | none =>
      refine .stay ?_
      rintro session final sound ⟨rfl, -⟩ -
      rw [sound.reached.refs] at found
      simp [Expr.namesEnum, found]
    | some symbol =>
      refine .stay ?_
      rintro session final sound ⟨rfl, -⟩ -
      rw [sound.reached.refs] at found
      by_cases isEnum : symbol.kind = .enum
      · simp [isEnum, found]
      · simp [Expr.namesEnum, isEnum, found]
  · rename_i other
    refine .stay fun _ _ _ _ _ => ?_
    cases base with
    | name ident => exact absurd rfl (other ident)
    | _ => rfl

/-- The field that a path from a value of a good type leads to. -/
theorem secures_fieldType (closed : stage.Closed) (base : Ty) (fields : List String)
    (span : Span) :
    stage.Secures path ready (fun _ => stage.good base) [] (fieldType base fields span)
      fun _ final type => stage.good type ∧
        if base.isUnknown then type = .unknown
        else ∃ steps, Member.walk final.definitions final.options.derefMode base fields =
          (.ok type, steps) := by
  unfold fieldType
  split
  · rename_i unknown
    exact .stay fun _ _ _ good _ => ⟨closed.unknown base good unknown, rfl⟩
  · refine .read fun seen => ?_
    split
    · rename_i type steps walked
      refine (secures_recordMembers span.node steps).andThen fun _ => .stay ?_
      rintro session final sound ⟨⟨earlier, soundEarlier, ⟨rfl, good⟩, ext⟩, -⟩ further
      have whole := ext.trans further
      rw [← whole.definitions, ← whole.options] at walked
      refine ⟨?_, steps, walked⟩
      rw [(sound.reached.trans further).definitions] at walked
      exact closed.member fields good walked
    · rename_i error _ _
      exact (secures_report (Finding.isFatal_fieldAccess span error)).refused fun _ => .pure _

/-- The elements of an array, which all have types, are compared with the element type. -/
theorem secures_compareItems (element : Ty) (items : List Expr) :
    stage.Secures path ready
      (fun session => ∀ item ∈ items, ∃ type, stage.Has session item.node type) []
      (compareItems element items)
      fun _ final _ => ∀ item ∈ items, Fits (stage.Has final) item element := by
  induction items with
  | nil => exact .stay fun _ _ _ _ _ _ impossible => by cases impossible
  | cons item rest inductionHypothesis =>
    refine .read fun seen => ?_
    refine ((secures_tell objects_mismatch).bind fun _ => inductionHypothesis.provided ?_).mono
      (fun _ => Nat.le_refl _) ?_
    · rintro session - - ⟨⟨earlier, -, ⟨rfl, typed⟩, ext⟩, -⟩ other isOther
      obtain ⟨type, has⟩ := typed other (List.mem_cons_of_mem item isOther)
      exact ⟨type, has.mono ext⟩
    · rintro before after final _ sound ⟨rfl, typed⟩ - ext further ⟨_, _, silent, others⟩
      refine List.forall_mem_cons.mpr ⟨?_, others⟩
      obtain ⟨type, has⟩ := typed item List.mem_cons_self
      obtain ⟨found, isFound, recorded⟩ := has.find?
      rw [isFound, Option.getD_some] at silent
      exact ⟨found, ⟨(ext.trans further).exprs.subset recorded, sound.typed _ _ recorded⟩,
        allowed_of_mismatch silent⟩

end Typing.Stage
end UnitCheck
