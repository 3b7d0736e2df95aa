import UnitCheck.Proofs.Typing.Assigned

/-!
# Targets of assignments

The target of an assignment should be a place that may be written: the path to it starts at a
binding that is declared with `mut`, or it goes through a pointer. And nothing that the
target is a part of by value should be constant. Both are judged at every assignment, and
each judgement has a hole. A path that starts at a temporary value counts as writable. And
of the types along the path only the outermost qualifier of the last one is looked at.
-/

namespace UnitCheck

/-- The finding refuses an assignment to the target at a span. -/
def Finding.Refuses (place : Span) : Finding -> Prop
  | .notAssignable span | .constTarget span => span = place
  | .constantTarget span _ | .immutableTarget span _ => span = place
  | _ => False

/-- What refuses an assignment is fatal. -/
theorem Finding.isFatal_of_refuses {finding : Finding} {place : Span}
    (refuses : finding.Refuses place) : finding.isFatal = true := by
  cases finding <;> first | rfl | cases refuses

/-- The expression that a path of field and index accesses starts from. -/
def Expr.origin : Expr -> Expr
  | .field base _ _ => base.origin
  | .index base _ _ => base.origin
  | other => other

/-- A qualifier of the type makes it constant. -/
def Ty.isConstant : Ty -> Bool
  | .const _ => true
  | .mutable inner => inner.isConstant
  | _ => false

/-- The outermost qualifier of the type makes it constant. -/
def Ty.isConst : Ty -> Bool
  | .const _ => true
  | _ => false

namespace Typing

/-! ### Places -/

section Places

variable (session : Session)

/-- The check has refused the assignment to the target. -/
def Refused (target : Expr) : Prop := ∃ finding ∈ session.findings, finding.Refuses target.span

/-- The last access of a path goes through a pointer, or through a `mut` that is looked
through like one. -/
def crossesPointer : Expr -> Bool
  | .field base path _ =>
    match session.facts.exprs.find? base.node with
    | some type =>
      (Member.walk session.definitions session.options.derefMode type path).2.any (·.deref)
    | none => false
  | .index base _ _ =>
    match session.facts.exprs.find? base.node with
    | some type => type.isPointer
    | none => false
  | _ => false

/-- The path to a place starts at a binding declared with `mut`, or goes through a pointer. -/
inductive Writable : Expr -> Prop where
  | binding {name : Ident} {symbol : Symbol}
      (bound : session.facts.refs.find? name.span.node = some symbol)
      (isVariable : needsMut symbol.kind = true) (isMutable : symbol.isMutable = true) :
      Writable (.name name)
  | pointer {access : Expr} (crosses : crossesPointer session access = true) : Writable access
  | field {base : Expr} {path : List String} {span : Span} (writable : Writable base) :
      Writable (.field base path span)
  | index {base position : Expr} {span : Span} (writable : Writable base) :
      Writable (.index base position span)

/-- The path to the expression starts at a binding of a kind. -/
def StartsAt (ofKind : SymbolKind -> Prop) (expr : Expr) : Prop :=
  ∃ name symbol, expr.origin = .name name ∧
    session.facts.refs.find? name.span.node = some symbol ∧ ofKind symbol.kind

/-- The expression is no field and no element of a temporary value, and it is resolved. -/
def Anchored : Expr -> Prop
  | .field base _ _ | .index base _ _ => StartsAt session (isMemoryKind · = true) base
  | .name name => (session.facts.refs.find? name.span.node).isSome = true
  | .bad _ => False
  | _ => True

/-- An expression is another one or, by value, a part of it. -/
inductive PartOf : Expr -> Expr -> Prop where
  | self (whole : Expr) : PartOf whole whole
  | field {base whole : Expr} {path : List String} {span : Span} (part : PartOf base whole)
      (byValue : crossesPointer session (.field base path span) = false) :
      PartOf (.field base path span) whole
  | index {base position whole : Expr} {span : Span} (part : PartOf base whole)
      (byValue : crossesPointer session (.index base position span) = false) :
      PartOf (.index base position span) whole

/-- Something that the expression is a part of is constant. -/
def InConstant (expr : Expr) : Prop :=
  ∃ whole type, PartOf session expr whole ∧ Recorded session whole.node type ∧
    type.isConstant = true

end Places

/-! ### What is not refused -/

section Judgement

variable {session : Session}

/-- An assignment is refused, or nothing stands in its way. -/
theorem Judges.refused_or_allowed {target : Expr} (judges : Judges session target) :
    Refused session target ∨ ∃ type, Recorded session target.node type ∧
      mutability session.facts target type = .allowed := by
  obtain ⟨type, recorded, reported⟩ := judges.found
  cases judged : mutability session.facts target type with
  | allowed => exact .inr ⟨type, recorded, judged⟩
  | notPlace | constType | constant | immutable =>
    rw [judged] at reported
    exact .inl ⟨_, reported _ rfl, rfl⟩

/-- What may be assigned is a place without a constant type whose binding permits it. -/
theorem of_mutability_allowed {facts : Facts} {target : Expr} {type : Ty}
    (allowed : mutability facts target type = .allowed) :
    isAddressable facts target = true ∧ (∀ inner, type ≠ .const inner) ∧
      rootMutability (assignRoot facts target).1 (assignRoot facts target).2 = .allowed := by
  unfold mutability at allowed
  split at allowed
  · cases allowed
  · rename_i addressable
    split at allowed
    · cases allowed
    · rename_i notConst
      exact ⟨by simpa using addressable, notConst, allowed⟩

/-- A binding permits an assignment when it is no constant and the path goes through a pointer
or the binding is mutable. -/
theorem of_rootMutability_allowed {symbol : Symbol} {through : Bool}
    (allowed : rootMutability (some symbol) through = .allowed) :
    symbol.kind ≠ .constant ∧
      (through = true ∨ (needsMut symbol.kind = true → symbol.isMutable = true)) := by
  unfold rootMutability at allowed
  simp only at allowed
  split at allowed
  · cases allowed
  · rename_i notConstant
    refine ⟨notConstant, ?_⟩
    cases through with
    | true => exact .inl rfl
    | false =>
      refine .inr fun needs => ?_
      cases isMutable : symbol.isMutable with
      | true => rfl
      | false => simp [needs, isMutable] at allowed

/-- The path to a place starts from the symbol of its origin. -/
theorem assignRoot_origin {facts : Facts} {name : Ident} : (expr : Expr) ->
    expr.origin = .name name -> (assignRoot facts expr).1 = facts.refs.find? name.span.node
  | .name _, starts => by
    cases starts
    rfl
  | .field base _ _, starts => assignRoot_origin base starts
  | .index base _ _, starts => assignRoot_origin base starts
  | .literal _, starts | .binary _ _ _ _, starts | .unary _ _ _, starts | .call _ _ _, starts
  | .callValue _ _ _, starts | .cast _ _ _, starts | .array _ _ _, starts | .addressOf _ _, starts
  | .load _ _ _, starts | .alloc _ _, starts | .bad _, starts => by cases starts

/-- A path that goes through a pointer leads to a place that may be written. -/
theorem writable_of_through : (expr : Expr) -> PathNoted session expr ->
    (assignRoot session.facts expr).2 = true -> Writable session expr
  | .field base path span, noted, through => by
    simp only [assignRoot, Bool.or_eq_true] at through
    obtain through | hops := through
    · exact .field (writable_of_through base noted.1 through)
    · cases walked : session.facts.members.find? span.node with
      | none =>
        rw [walked] at hops
        cases hops
      | some steps =>
        obtain ⟨type, found, recorded, walk⟩ := noted.2 steps walked
        refine .pointer ?_
        unfold Recorded at recorded
        simp only [crossesPointer, recorded, walk]
        simpa [walked] using hops
  | .index base position span, noted, through => by
    simp only [assignRoot, Bool.or_eq_true] at through
    obtain through | pointed := through
    · exact .index (writable_of_through base noted through)
    · refine .pointer ?_
      unfold crossesPointer
      cases recorded : session.facts.exprs.find? base.node with
      | none =>
        rw [recorded] at pointed
        cases pointed
      | some type => simpa [recorded] using pointed
  | .name _, _, through | .literal _, _, through | .binary _ _ _ _, _, through
  | .unary _ _ _, _, through | .call _ _ _, _, through | .callValue _ _ _, _, through
  | .cast _ _ _, _, through | .array _ _ _, _, through | .addressOf _ _, _, through
  | .load _ _ _, _, through | .alloc _ _, _, through | .bad _, _, through => by cases through

/-- A path that starts at a mutable binding leads to a place that may be written. -/
theorem writable_of_mutable {name : Ident} {symbol : Symbol}
    (bound : session.facts.refs.find? name.span.node = some symbol)
    (isVariable : needsMut symbol.kind = true) (isMutable : symbol.isMutable = true) :
    (expr : Expr) -> expr.origin = .name name -> Writable session expr
  | .name _, starts => by
    cases starts
    exact .binding bound isVariable isMutable
  | .field base _ _, starts => .field (writable_of_mutable bound isVariable isMutable base starts)
  | .index base _ _, starts => .index (writable_of_mutable bound isVariable isMutable base starts)
  | .literal _, starts | .binary _ _ _ _, starts | .unary _ _ _, starts | .call _ _ _, starts
  | .callValue _ _ _, starts | .cast _ _ _, starts | .array _ _ _, starts | .addressOf _ _, starts
  | .load _ _ _, starts | .alloc _ _, starts | .bad _, starts => by cases starts

/-- What denotes memory without being a constant is a variable. -/
theorem needsMut_of_isMemoryKind {kind : SymbolKind} (isMemory : isMemoryKind kind = true)
    (notConstant : kind ≠ .constant) : needsMut kind = true := by
  cases kind <;> first | rfl | exact absurd rfl notConstant | cases isMemory

/-- An addressable place that is anchored starts at a binding. -/
theorem startsAt_of_anchored {target : Expr} (anchored : Anchored session target)
    (addressable : isAddressable session.facts target = true) :
    StartsAt session (isMemoryKind · = true) target := by
  cases target with
  | field base path span | index base position span => exact anchored
  | name name =>
    obtain ⟨symbol, bound⟩ := Option.isSome_iff_exists.mp anchored
    simp only [isAddressable, bound] at addressable
    exact ⟨name, symbol, rfl, bound, addressable⟩
  | bad span => exact anchored.elim
  | _ => cases addressable

end Judgement

/-- Code is generated from no unit with an assignment that is refused. -/
theorem not_refused_of_canGenerate {session : Session} (accepted : session.canGenerate = true)
    (target : Expr) : ¬Refused session target := by
  rintro ⟨finding, isFound, refuses⟩
  have noErrors : session.bag.hasErrors = false := by
    unfold Session.canGenerate at accepted
    simp only [Bool.and_eq_true, Bool.not_eq_true'] at accepted
    exact accepted.1
  have quiet := (Session.quiet_iff session).mp noErrors finding isFound
  cases quiet.symm.trans (Finding.isFatal_of_refuses refuses)

section Targets

variable {file text : String} {unit : Module} {item : Item} {target value : Expr} {span : Span}

/-! ### Where an assignment may write -/

/-- The target of every assignment that is not refused may be written, unless it is a field or
an element of a temporary value or is not resolved. -/
theorem writable_of_anchored (read : Module.decode file text = .ok unit) (options : Options)
    (isItem : item ∈ unit.items) (isPart : .assign target value span ∈ Stmt.partsAll item.body)
    (anchored : Anchored (Session.check (some unit) options) target) :
    Refused (Session.check (some unit) options) target ∨
      Writable (Session.check (some unit) options) target := by
  have judges := judges_of_decode read options isItem isPart
  refine judges.refused_or_allowed.imp_right fun ⟨type, recorded, allowed⟩ => ?_
  obtain ⟨addressable, -, permitted⟩ := of_mutability_allowed allowed
  obtain ⟨name, symbol, starts, bound, isMemory⟩ := startsAt_of_anchored anchored addressable
  rw [assignRoot_origin target starts, bound] at permitted
  obtain ⟨notConstant, through | isMutable⟩ := of_rootMutability_allowed permitted
  · exact writable_of_through target judges.noted through
  · have isVariable := needsMut_of_isMemoryKind isMemory notConstant
    exact writable_of_mutable bound isVariable (isMutable isVariable) target starts

/-- A function without a result whose body is one statement. -/
def procedure (name : Ident) (params : List Param) (result : Span) (stmt : Stmt)
    (body decl : Span) : Item :=
  .function ⟨[], some name, params, some (.named "void" result), some ⟨[stmt], body⟩, decl⟩

/-- A struct with one field. -/
def fieldStruct : Item :=
  .struct ⟨[], some ⟨"P", .ofLine 8 9⟩,
    [⟨⟨"x", .ofLine 11 12⟩, .named "s32" (.ofLine 13 16), .ofLine 10 17⟩], .ofLine 0 18⟩

/-- The field behind a pointer. -/
def pointedField : Expr := .field (.name ⟨"p", .ofLine 59 60⟩) ["x"] (.ofLine 56 63)

/-- A unit that assigns to the field. -/
def pointedFieldUnit : Module :=
  ⟨"unit", [fieldStruct, procedure ⟨"f", .ofLine 23 24⟩
    [⟨⟨"p", .ofLine 27 28⟩, .pointer (.named "P" (.ofLine 34 35)) (.ofLine 29 36), false,
      .ofLine 26 37⟩] (.ofLine 39 43)
    (.assign pointedField (.literal ⟨.integer, "1", .ofLine 64 65⟩) (.ofLine 51 66))
    (.ofLine 44 67) (.ofLine 19 68)], some (.ofLine 0 68)⟩

/-- The field may be written although its pointer is not declared with `mut`. -/
theorem writable_of_anchored_pointer :
    Module.decode "unit" "(struct P (x s32)) (fn f ((p (ptr P))) void (block (set (. p x) 1)))" =
        .ok pointedFieldUnit ∧
      Anchored (Session.check (some pointedFieldUnit) .standard) pointedField ∧
      Writable (Session.check (some pointedFieldUnit) .standard) pointedField := by
  have read : Module.decode "unit"
      "(struct P (x s32)) (fn f ((p (ptr P))) void (block (set (. p x) 1)))" =
        .ok pointedFieldUnit := Module.decode_chars (by cbv)
  have accepted : (Session.check (some pointedFieldUnit) .standard).canGenerate = true := by
    decide +kernel
  have bound : ((Session.check (some pointedFieldUnit) .standard).facts.refs.find? 59).map
      (isMemoryKind ·.kind) = some true := by decide +kernel
  obtain ⟨symbol, found, isMemory⟩ := Option.map_eq_some_iff.mp bound
  have anchored : Anchored (Session.check (some pointedFieldUnit) .standard) pointedField :=
    ⟨_, symbol, rfl, found, isMemory⟩
  refine ⟨read, anchored, ?_⟩
  exact (writable_of_anchored read .standard (.tail _ (.head _)) (.head _) anchored).resolve_left
    (not_refused_of_canGenerate accepted _)

/-- Code may be generated from a unit that assigns to a target. -/
def AcceptsTarget (unit : Module) (target : Expr) : Prop :=
  (∃ item ∈ unit.items, ∃ value span, .assign target value span ∈ Stmt.partsAll item.body) ∧
    (Session.check (some unit) .standard).canGenerate = true

/-- An element of an array literal. -/
def literalElement : Expr :=
  .index (.array none [.literal ⟨.integer, "1", .ofLine 38 39⟩, .literal ⟨.integer, "2", .ofLine 40 41⟩]
    (.ofLine 33 42)) (.literal ⟨.integer, "0", .ofLine 43 44⟩) (.ofLine 26 45)

/-- A unit that assigns to the element. -/
def literalElementUnit : Module :=
  ⟨"unit", [procedure ⟨"f", .ofLine 4 5⟩ [] (.ofLine 9 13)
    (.assign literalElement (.literal ⟨.integer, "3", .ofLine 46 47⟩) (.ofLine 21 48))
    (.ofLine 14 49) (.ofLine 0 50)], some (.ofLine 0 50)⟩

/-- A field of the result of a call. -/
def resultField : Expr := .field (.call ⟨"mk", .ofLine 95 97⟩ [] (.ofLine 89 98)) ["x"] (.ofLine 86 101)

/-- A unit that assigns to the field. -/
def resultFieldUnit : Module :=
  ⟨"unit", [fieldStruct,
    .function ⟨[], some ⟨"mk", .ofLine 23 25⟩, [], some (.named "P" (.ofLine 29 30)),
      some ⟨[.ret (some (.call ⟨"P", .ofLine 52 53⟩ [.literal ⟨.integer, "1", .ofLine 54 55⟩]
        (.ofLine 46 56))) (.ofLine 38 57)], .ofLine 31 58⟩, .ofLine 19 59⟩,
    procedure ⟨"f", .ofLine 64 65⟩ [] (.ofLine 69 73)
      (.assign resultField (.literal ⟨.integer, "2", .ofLine 102 103⟩) (.ofLine 81 104))
      (.ofLine 74 105) (.ofLine 60 106)], some (.ofLine 0 106)⟩

/-- Code may be generated from units that assign to parts of temporary values: to an element of
an array literal, and to a field of the result of a call. -/
theorem temporaries_assigned :
    (Module.decode "unit" "(fn f () void (block (set (index (arr 1 2) 0) 3)))" =
        .ok literalElementUnit ∧
      AcceptsTarget literalElementUnit literalElement ∧
      ¬Writable (Session.check (some literalElementUnit) .standard) literalElement) ∧
    Module.decode "unit" ("(struct P (x s32)) (fn mk () P (block (return (call P 1)))) " ++
        "(fn f () void (block (set (. (call mk) x) 2)))") = .ok resultFieldUnit ∧
      AcceptsTarget resultFieldUnit resultField ∧
      ¬Writable (Session.check (some resultFieldUnit) .standard) resultField := by
  have byElement : crossesPointer (Session.check (some literalElementUnit) .standard) literalElement =
      false := by decide +kernel
  have byField : crossesPointer (Session.check (some resultFieldUnit) .standard) resultField =
      false := by decide +kernel
  refine ⟨⟨Module.decode_chars (by cbv), ⟨⟨_, .head _, _, _, .head _⟩, by decide +kernel⟩,
    fun writable => ?_⟩, by cbv, ⟨⟨_, .tail _ (.tail _ (.head _)), _, _, .head _⟩,
    by decide +kernel⟩, fun writable => ?_⟩
  · cases writable with
    | pointer crosses => cases byElement.symm.trans crosses
    | index base =>
      cases base with
      | pointer crosses => cases crosses
  · cases writable with
    | pointer crosses => cases byField.symm.trans crosses
    | field base =>
      cases base with
      | pointer crosses => cases crosses

/-! ### What an assignment may change -/

/-- Nothing that the target of an assignment is a part of is constant unless the assignment is
refused, provided that a constant type shows at the target itself. Nor does the path start
at a constant. -/
theorem not_inConstant_of_shown (read : Module.decode file text = .ok unit) (options : Options)
    (isItem : item ∈ unit.items) (isPart : .assign target value span ∈ Stmt.partsAll item.body)
    (shown : InConstant (Session.check (some unit) options) target →
      ∃ type, Recorded (Session.check (some unit) options) target.node type ∧ type.isConst = true) :
    Refused (Session.check (some unit) options) target ∨
      ¬InConstant (Session.check (some unit) options) target ∧
        ¬StartsAt (Session.check (some unit) options) (· = .constant) target := by
  have judges := judges_of_decode read options isItem isPart
  refine judges.refused_or_allowed.imp_right fun ⟨type, recorded, allowed⟩ => ?_
  obtain ⟨-, notConst, permitted⟩ := of_mutability_allowed allowed
  refine ⟨fun inConstant => ?_, fun ⟨name, symbol, starts, bound, isConstant⟩ => ?_⟩
  · obtain ⟨other, found, isConst⟩ := shown inConstant
    cases recorded.symm.trans found
    cases type <;> first | exact notConst _ rfl | cases isConst
  · rw [assignRoot_origin target starts, bound] at permitted
    exact (of_rootMutability_allowed permitted).1 isConstant

/-- The parameter of a constant type. -/
def constParam : Expr := .name ⟨"p", .ofLine 45 46⟩

/-- A unit that assigns to the parameter. -/
def constParamUnit : Module :=
  ⟨"unit", [procedure ⟨"f", .ofLine 4 5⟩
    [⟨⟨"p", .ofLine 12 13⟩, .const (.named "s32" (.ofLine 21 24)) (.ofLine 14 25), true,
      .ofLine 7 26⟩] (.ofLine 28 32)
    (.assign constParam (.literal ⟨.integer, "1", .ofLine 47 48⟩) (.ofLine 40 49))
    (.ofLine 33 50) (.ofLine 0 51)], some (.ofLine 0 51)⟩

/-- The constant type shows at the parameter, so the assignment is refused. -/
theorem not_inConstant_of_shown_param :
    Module.decode "unit" "(fn f ((mut p (const s32))) void (block (set p 1)))" =
        .ok constParamUnit ∧
      InConstant (Session.check (some constParamUnit) .standard) constParam ∧
      Refused (Session.check (some constParamUnit) .standard) constParam := by
  have read : Module.decode "unit" "(fn f ((mut p (const s32))) void (block (set p 1)))" =
      .ok constParamUnit := Module.decode_chars (by cbv)
  have observed : ((Session.check (some constParamUnit) .standard).facts.exprs.find? 45).map
      (fun type => (type.isConst, type.isConstant)) = some (true, true) := by
    decide +kernel
  obtain ⟨type, recorded, same⟩ := Option.map_eq_some_iff.mp observed
  obtain ⟨isConst, isConstant⟩ := Prod.mk.inj same
  have inConstant : InConstant (Session.check (some constParamUnit) .standard) constParam :=
    ⟨constParam, type, .self _, recorded, isConstant⟩
  refine ⟨read, inConstant, ?_⟩
  exact (not_inConstant_of_shown read .standard (.head _) (.head _)
    fun _ => ⟨type, recorded, isConst⟩).resolve_right fun accepted => accepted.1 inConstant

/-- A field of a parameter of a constant type. -/
def constParamField : Expr := .field (.name ⟨"p", .ofLine 65 66⟩) ["x"] (.ofLine 62 69)

/-- A unit that assigns to the field. -/
def constParamFieldUnit : Module :=
  ⟨"unit", [fieldStruct, procedure ⟨"f", .ofLine 23 24⟩
    [⟨⟨"p", .ofLine 31 32⟩, .const (.named "P" (.ofLine 40 41)) (.ofLine 33 42), true,
      .ofLine 26 43⟩] (.ofLine 45 49)
    (.assign constParamField (.literal ⟨.integer, "1", .ofLine 70 71⟩) (.ofLine 57 72))
    (.ofLine 50 73) (.ofLine 19 74)], some (.ofLine 0 74)⟩

/-- A parameter with a constant type below `mut`. -/
def coveredParam : Expr := .name ⟨"a", .ofLine 51 52⟩

/-- A unit that assigns to the parameter. -/
def coveredParamUnit : Module :=
  ⟨"unit", [procedure ⟨"f", .ofLine 4 5⟩
    [⟨⟨"a", .ofLine 12 13⟩, .mutable (.const (.named "s32" (.ofLine 26 29)) (.ofLine 19 30))
      (.ofLine 14 31), true, .ofLine 7 32⟩] (.ofLine 34 38)
    (.assign coveredParam (.literal ⟨.integer, "1", .ofLine 53 54⟩) (.ofLine 46 55))
    (.ofLine 39 56) (.ofLine 0 57)], some (.ofLine 0 57)⟩

/-- Code may be generated from units that assign to something constant: to a field of a
constant struct, and to a parameter whose type is constant below `mut`. -/
theorem constants_assigned :
    (Module.decode "unit" "(struct P (x s32)) (fn f ((mut p (const P))) void (block (set (. p x) 1)))" =
        .ok constParamFieldUnit ∧
      AcceptsTarget constParamFieldUnit constParamField ∧
      InConstant (Session.check (some constParamFieldUnit) .standard) constParamField) ∧
    Module.decode "unit" "(fn f ((mut a (mut (const s32)))) void (block (set a 1)))" =
        .ok coveredParamUnit ∧
      AcceptsTarget coveredParamUnit coveredParam ∧
      InConstant (Session.check (some coveredParamUnit) .standard) coveredParam := by
  have ofStruct : ((Session.check (some constParamFieldUnit) .standard).facts.exprs.find? 65).map
      Ty.isConstant = some true := by decide +kernel
  have ofParam : ((Session.check (some coveredParamUnit) .standard).facts.exprs.find? 51).map
      Ty.isConstant = some true := by decide +kernel
  obtain ⟨struct, hasStruct, structConstant⟩ := Option.map_eq_some_iff.mp ofStruct
  obtain ⟨covered, hasCovered, coveredConstant⟩ := Option.map_eq_some_iff.mp ofParam
  have byValue : crossesPointer (Session.check (some constParamFieldUnit) .standard)
      constParamField = false := by decide +kernel
  refine ⟨⟨Module.decode_chars (by cbv), ⟨⟨_, .tail _ (.head _), _, _, .head _⟩,
    by decide +kernel⟩, _, struct, .field (.self _) byValue, hasStruct, structConstant⟩,
    Module.decode_chars (by cbv), ⟨⟨_, .head _, _, _, .head _⟩, by decide +kernel⟩, _, covered,
    .self _, hasCovered, coveredConstant⟩

end Targets

end Typing
end UnitCheck
