import UnitCheck.Proofs.Finding.Places
import UnitCheck.Proofs.Tree.Numerals
import UnitCheck.Proofs.Typing.Honest
import UnitCheck.Proofs.Typing.Silence
import UnitCheck.Proofs.Typing.Tour

/-!
# Types of integer literals

What an integer literal is typed as depends on its value and on what is wanted where it stands,
and it is said to overflow just where its type does not hold its value. This is shown for each
visit of a literal and then for the whole pass: what is recorded for a literal and what is said
about its value come from the one visit in its place, negated just where a minus stands right in
front of it.
-/

namespace UnitCheck

/-- The integer type holds the value, in two's complement when it is signed. -/
def Prim.Holds (name : Prim) (value : Int) : Prop :=
  if name.isSigned then -(2 : Int) ^ (name.bits - 1) ≤ value ∧ value < (2 : Int) ^ (name.bits - 1)
  else 0 ≤ value ∧ value < (2 : Int) ^ name.bits

namespace Typing

/-- The type is an integer type that does not hold the value. -/
def Overflows (type : Ty) (value : Int) : Prop :=
  ∃ name, type = .prim name ∧ (name.isSigned = true ∨ name.isUnsigned = true) ∧ ¬name.Holds value

/-- The type that an integer literal aims at where a type is wanted. -/
inductive Aims (usual : Ty) : Option Ty -> Ty -> Prop where
  | wanted {type : Ty} (isNumber : type.isInteger = true ∨ type.isFloat = true) :
      Aims usual (some type) type.unwrap
  | usual {expected : Option Ty}
      (noNumber : ∀ type ∈ expected, type.isInteger = false ∧ type.isFloat = false) :
      Aims usual expected usual

/-- An integer value has this type where a type is wanted: the type it aims at, or the signed
one of the same width when a negative value aims at an unsigned type. -/
def IntegerRule (usual : Ty) (expected : Option Ty) (value : Int) (type : Ty) : Prop :=
  ∃ target, Aims usual expected target ∧
    if value < 0 ∧ target.isUnsigned = true then
      ∃ unsigned signed, target = .prim unsigned ∧ type = .prim signed ∧ signed.isSigned = true ∧
        signed.bits = unsigned.bits
    else type = target

/-- Something is said about the value of the literal at this place. -/
def Overflown (findings : List Finding) (span : Span) : Prop :=
  ∃ finding ∈ findings, finding.code = "T0015" ∧ span ∈ finding.spans

/-! ### The type of a value -/

section Values

variable {usual type : Ty} {expected : Option Ty} {value : Int}

theorem prim_of_isPrim {property : Prim -> Bool} (isPrim : type.isPrim property = true) :
    ∃ name, type.unwrap = .prim name ∧ property name = true := by
  unfold Ty.isPrim Ty.prim? at isPrim
  split at isPrim
  · rename_i name unwraps
    exact ⟨name, unwraps, isPrim⟩
  · cases isPrim

theorem aims_integerTarget (usual : Ty) (expected : Option Ty) :
    Aims usual expected (integerTarget usual expected) := by
  unfold integerTarget
  split
  · rename_i type
    split
    · rename_i isNumber
      exact .wanted (by simpa using isNumber)
    · rename_i noNumber
      refine .usual fun other isOther => ?_
      cases isOther
      simpa using noNumber
  · exact .usual fun _ impossible => by cases impossible

/-- What is aimed at is an integer or a float without qualifiers. -/
theorem Aims.prim {name : Prim} (usual : name.isSigned = true ∨ name.isUnsigned = true)
    {target : Ty} (aims : Aims (.prim name) expected target) :
    ∃ found, target = .prim found ∧
      (found.isSigned = true ∨ found.isUnsigned = true ∨ found.isFloat = true) := by
  cases aims with
  | usual _ => exact ⟨name, rfl, usual.imp_right .inl⟩
  | wanted isNumber =>
    obtain integer | float := isNumber
    · obtain signed | unsigned := Bool.or_eq_true_iff.mp integer
      · obtain ⟨found, unwraps, isSigned⟩ := prim_of_isPrim signed
        exact ⟨found, unwraps, .inl isSigned⟩
      · obtain ⟨found, unwraps, isUnsigned⟩ := prim_of_isPrim unsigned
        exact ⟨found, unwraps, .inr (.inl isUnsigned)⟩
    · obtain ⟨found, unwraps, isFloat⟩ := prim_of_isPrim float
      exact ⟨found, unwraps, .inr (.inr isFloat)⟩

/-- A word of the width of an integer type represents what the type holds. -/
theorem fits_iff_holds {name : Prim} (isInteger : name.isSigned = true ∨ name.isUnsigned = true) :
    Numeral.fits value name.bits name.isSigned = true ↔ name.Holds value := by
  have wide : name.bits ≠ 0 := by
    cases name <;> simp_all [Prim.bits, Prim.isSigned, Prim.isUnsigned]
  have power (exponent : Nat) : (Numeral.power 2 exponent : Int) = 2 ^ exponent := by
    simp [Numeral.power]
  unfold Numeral.fits Prim.Holds
  rw [if_neg wide]
  split
  · rw [Bool.and_eq_true, decide_eq_true_eq, decide_eq_true_eq, power]
  · rw [Bool.and_eq_true, decide_eq_true_eq, decide_eq_true_eq, power]

/-- The signed type as wide as an unsigned one. -/
theorem toSigned_prim {name : Prim} (isUnsigned : name.isUnsigned = true) :
    (Ty.prim name).toSigned = .prim name.toSigned ∧ name.toSigned.isSigned = true ∧
      name.toSigned.bits = name.bits := by
  cases name with
  | u8 | u16 | u32 | u64 => exact ⟨rfl, rfl, rfl⟩
  | _ => cases isUnsigned

theorem isUnsigned_prim (name : Prim) : (Ty.prim name).isUnsigned = name.isUnsigned := rfl

theorem not_integer_of_isFloat {name : Prim} (isFloat : name.isFloat = true) :
    ¬(name.isSigned = true ∨ name.isUnsigned = true) := by
  cases name with
  | f32 | f64 => simp [Prim.isSigned, Prim.isUnsigned]
  | _ => cases isFloat

/-- A value that aims at an integer type gets it, or its signed counterpart. -/
theorem settleSign_rule (value : Int) {name : Prim}
    (isInteger : name.isSigned = true ∨ name.isUnsigned = true)
    (aims : Aims usual expected (.prim name)) :
    IntegerRule usual expected value (settleSign value (.prim name)) ∧
      ∃ settled, settleSign value (.prim name) = .prim settled ∧
        (settled.isSigned = true ∨ settled.isUnsigned = true) := by
  unfold settleSign
  rw [isUnsigned_prim]
  by_cases narrows : value < 0 ∧ name.isUnsigned = true
  · obtain ⟨same, isSigned, asWide⟩ := toSigned_prim narrows.2
    have taken : (decide (value < 0) && name.isUnsigned) = true := by simp [narrows]
    rw [if_pos taken, same]
    refine ⟨⟨_, aims, ?_⟩, _, rfl, .inl isSigned⟩
    rw [if_pos (by simpa [isUnsigned_prim] using narrows)]
    exact ⟨name, _, rfl, rfl, isSigned, asWide⟩
  · have skipped : ¬(decide (value < 0) && name.isUnsigned) = true := by simpa using narrows
    rw [if_neg skipped]
    refine ⟨⟨_, aims, ?_⟩, name, rfl, isInteger⟩
    rw [if_neg (by simpa [isUnsigned_prim] using narrows)]

/-- Something is said about a value of an integer type just where the type does not hold it. -/
theorem overflow_iff {span : Span} {name : Prim}
    (isInteger : name.isSigned = true ∨ name.isUnsigned = true) :
    (overflow? span value (.prim name)).isSome = true ↔ Overflows (.prim name) value := by
  have said : (overflow? span value (.prim name)).isSome = true ↔ ¬name.Holds value := by
    rw [← fits_iff_holds isInteger]
    change (if Numeral.fits value name.bits name.isSigned = true then none
      else some (Finding.literalOverflow span value name)).isSome = true ↔ _
    split <;> simp_all
  rw [said]
  constructor
  · exact fun overflows => ⟨name, rfl, isInteger, overflows⟩
  · rintro ⟨_, same, -, overflows⟩
    cases same
    exact overflows

/-- An integer literal has the type that its value and its place ask for, and something is said
about it just where this type does not hold the value. -/
theorem integerType_rule {usual : Prim} (isUsual : usual.isSigned = true ∨ usual.isUnsigned = true)
    {literal : Literal} {magnitude : Int} (spelled : Numeral.integer? literal.text = some magnitude)
    (expected : Option Ty) (negated : Bool) :
    let value := if negated then -magnitude else magnitude
    let judged := integerType (.prim usual) literal expected negated
    IntegerRule (.prim usual) expected value judged.1 ∧
      (judged.2.isSome = true ↔ Overflows judged.1 value) := by
  intro value judged
  have aims := aims_integerTarget (.prim usual) expected
  obtain ⟨name, isPrim, kind⟩ := aims.prim isUsual
  rw [isPrim] at aims
  have shape : judged = if name.isFloat then (.prim name, none)
      else (settleSign value (.prim name),
        overflow? literal.span value (settleSign value (.prim name))) := by
    simp only [judged, integerType, isPrim, spelled]
    rfl
  rw [shape]
  cases isFloat : name.isFloat with
  | true =>
    have notInteger := not_integer_of_isFloat isFloat
    refine ⟨⟨_, aims, ?_⟩, ?_⟩
    · rw [if_neg (fun narrows => notInteger (.inr narrows.2))]
      rfl
    · simp only [if_true, Option.isSome_none, Bool.false_eq_true, false_iff]
      rintro ⟨_, same, isInteger, -⟩
      cases same
      exact notInteger isInteger
  | false =>
    have isInteger : name.isSigned = true ∨ name.isUnsigned = true := by
      rw [isFloat] at kind
      simpa using kind
    obtain ⟨rule, settled, same, isSettled⟩ := settleSign_rule value isInteger aims
    rw [if_neg Bool.false_ne_true]
    refine ⟨rule, ?_⟩
    rw [same]
    exact overflow_iff isSettled

theorem told_of_overflow {span : Span} {finding : Finding}
    (said : finding ∈ overflow? span value type) :
    finding.isOverflow = true ∧ finding.spans = [span] := by
  unfold overflow? at said
  split at said
  · cases said
  · split at said
    · cases said
    · cases said
      exact ⟨rfl, rfl⟩

/-- What is said about a literal is about its value and about its place. -/
theorem told_of_literalType {literal : Literal} {negated : Bool} {finding : Finding}
    (said : finding ∈ (literalType usual literal expected negated).2) :
    finding.isOverflow = true ∧ finding.spans = [literal.span] := by
  unfold literalType at said
  split at said
  · unfold integerType at said
    simp only at said
    split at said
    · cases said
    · split at said
      · cases said
        exact ⟨rfl, rfl⟩
      · exact told_of_overflow said
  · split at said <;> cases said
  · cases said
  · cases said
  · cases said
  · split at said <;> cases said

end Values

/-! ### What is kept while a unit is typed -/

section Booking

variable {base session : Session} {α : Type} {nodes : List NodeId} {steps : Check α}

/-- The literals of the unit, each with whether it is the operand of a minus. -/
abbrev literals (base : Session) : List (Literal × Bool) := base.items.flatMap Item.literals

/-- No literal of the unit has this node. -/
def Aside (base : Session) (node : NodeId) : Prop :=
  ∀ entry ∈ literals base, entry.1.span.node ≠ node

/-- What is found for a literal in its place where a type is wanted. -/
abbrev judged (base : Session) (entry : Literal × Bool) (expected : Option Ty) : Judged :=
  literalType base.options.integerType entry.1 expected entry.2

/-- What typing has added tells of each literal what is found for it in its place, and tells
nothing else of the values of literals. -/
structure Books (base session : Session) (new : List (NodeId × Ty)) (found : List Finding) :
    Prop where
  items : session.items = base.items
  options : session.options = base.options
  exprs : session.facts.exprs = new ++ base.facts.exprs
  findings : session.findings = base.findings ++ found
  typed : ∀ entry ∈ literals base, ∀ type, (entry.1.span.node, type) ∈ new →
    ∃ expected, (judged base entry expected).1 = type ∧
      ∀ finding ∈ (judged base entry expected).2, finding ∈ found
  said : ∀ finding ∈ found, finding.isOverflow = true → ∃ entry ∈ literals base, ∃ expected,
    (entry.1.span.node, (judged base entry expected).1) ∈ new ∧
      (judged base entry expected).2 = some finding

/-- A walk may do all but type literals and speak of their values. -/
def sidelined (base : Session) : Regime where
  holds _ := True
  permits
    | .report finding => finding.isOverflow = false
    | .typed node _ => Aside base node
    | _ => True
  stable _ _ _ _ := trivial

variable {new : List (NodeId × Ty)} {found : List Finding}

/-- A type is recorded that no literal has. -/
theorem Books.record (books : Books base session new found) {node : NodeId}
    (aside : Aside base node) (type : Ty) :
    Books base (Act.apply session (.typed node type)) ((node, type) :: new) found where
  items := books.items
  options := books.options
  exprs := congrArg ((node, type) :: ·) books.exprs
  findings := books.findings
  typed entry isEntry other isNew := by
    obtain same | earlier := List.mem_cons.mp isNew
    · exact absurd (congrArg Prod.fst same) (aside entry isEntry)
    · exact books.typed entry isEntry other earlier
  said finding isFound isOverflow := by
    obtain ⟨entry, isEntry, expected, isNew, same⟩ := books.said finding isFound isOverflow
    exact ⟨entry, isEntry, expected, List.mem_cons_of_mem _ isNew, same⟩

/-- Something else is said. -/
theorem Books.report (books : Books base session new found) {finding : Finding}
    (other : finding.isOverflow = false) :
    Books base (Act.apply session (.report finding)) new (found ++ [finding]) where
  items := books.items
  options := books.options
  exprs := books.exprs
  findings := by
    change session.findings ++ [finding] = _
    rw [books.findings, List.append_assoc]
  typed entry isEntry type isNew := by
    obtain ⟨expected, same, told⟩ := books.typed entry isEntry type isNew
    exact ⟨expected, same, fun said isSaid => List.mem_append_left _ (told said isSaid)⟩
  said said isFound isOverflow := by
    obtain earlier | last := List.mem_append.mp isFound
    · exact books.said said earlier isOverflow
    · obtain rfl := List.mem_singleton.mp last
      rw [other] at isOverflow
      cases isOverflow

/-- The books stay in order when a literal is not touched. -/
theorem Books.act (books : Books base session new found) {act : Act}
    (permitted : (sidelined base).permits act) :
    ∃ new found, Books base (Act.apply session act) new found := by
  cases act with
  | report finding => exact ⟨_, _, books.report permitted⟩
  | typed node type => exact ⟨_, _, books.record permitted type⟩
  | _ => exact ⟨new, found, books.items, books.options, books.exprs, books.findings, books.typed, books.said⟩

/-- The books are kept; this costs nothing. -/
def booking (base : Session) : Budget where
  holds session := ∃ new found, Books base session new found
  pays _ _ _ := True
  nothing _ := trivial
  trans _ _ := trivial
  mono _ _ := trivial

theorem booking_free {more : List NodeId} (keeps : (booking base).Keeps nodes steps) :
    (booking base).Keeps more steps :=
  fun session books => ⟨(keeps session books).1, trivial⟩

theorem booking_sidelined (obeys : (sidelined base).Obeys steps) :
    (booking base).Keeps nodes steps :=
  booking_free (.of_obeys obeys (fun _ _ => trivial) fun _ _ permitted ⟨_, _, books⟩ =>
    ⟨books.act permitted, trivial⟩)

/-- A visit of a literal says what is to be said and records the type. -/
theorem run_literal (literal : Literal) (expected : Option Ty) (negated : Bool)
    (session : Session) :
    (checkLiteral literal expected negated >>= record literal.span.node).run session =
      let judged := literalType session.options.integerType literal expected negated
      (judged.1, Act.apply (session.noting judged.2.toList)
        (.typed literal.span.node judged.1)) := by
  have outcome : (checkLiteral literal expected negated >>= record literal.span.node).run session =
      (accept (literalType session.options.integerType literal expected negated) >>=
        record literal.span.node).run session := rfl
  rw [outcome]
  generalize literalType session.options.integerType literal expected negated = judged
  obtain ⟨type, said⟩ := judged
  cases said with
  | some finding => rfl
  | none =>
    change _ = (type, Act.apply (session.noting []) (.typed literal.span.node type))
    rw [Session.noting_nil]
    rfl

/-- The unit, in which its literals stand in their places and everything else is aside. -/
def spelling (base : Session) : Grounds where
  name := Aside base
  plain := Aside base
  value _ := True
  form _ := True
  literal literal negated := (literal, negated) ∈ literals base

section Pass

variable (distinct : (base.items.flatMap Item.sites).Nodup)

include distinct

/-- Two literals of the unit have one node only if they are the same in the same place. -/
theorem literal_unique
    {one other : Literal × Bool} (isOne : one ∈ literals base) (isOther : other ∈ literals base)
    (same : one.1.span.node = other.1.span.node) : one = other := by
  have visited {entry : Literal × Bool} (isEntry : entry ∈ literals base) :
      ∃ part ∈ base.items.flatMap Item.visits, entry ∈ part.ownLiterals := by
    obtain ⟨item, isItem, isLiteral⟩ := List.mem_flatMap.mp isEntry
    obtain ⟨part, isPart, isOwn⟩ := List.mem_flatMap.mp isLiteral
    exact ⟨part, List.mem_flatMap.mpr ⟨item, isItem, isPart⟩, isOwn⟩
  obtain ⟨part, isPart, isOwn⟩ := visited isOne
  obtain ⟨_, isOtherPart, isOtherOwn⟩ := visited isOther
  obtain rfl := Item.eq_of_mem_nodes (Item.nodup_visits distinct) isPart isOtherPart
    (Expr.node_mem_ownVisited isOwn) (same ▸ Expr.node_mem_ownVisited isOtherOwn)
  exact Expr.ownLiterals_unique isOwn isOtherOwn

/-- A literal is typed in its place. -/
theorem Books.literal (books : Books base session new found) {entry : Literal × Bool}
    (isEntry : entry ∈ literals base) (expected : Option Ty) :
    Books base (Act.apply (session.noting (judged base entry expected).2.toList)
        (.typed entry.1.span.node (judged base entry expected).1))
      ((entry.1.span.node, (judged base entry expected).1) :: new)
      (found ++ (judged base entry expected).2.toList) where
  items := books.items
  options := books.options
  exprs := congrArg (_ :: ·) books.exprs
  findings := by
    change session.findings ++ _ = _
    rw [books.findings, List.append_assoc]
  typed other isOther type isNew := by
    obtain same | earlier := List.mem_cons.mp isNew
    · obtain rfl := literal_unique distinct isOther isEntry (congrArg Prod.fst same)
      exact ⟨expected, (congrArg Prod.snd same).symm, fun finding isSaid =>
        List.mem_append_right _ (Option.mem_toList.mpr isSaid)⟩
    · obtain ⟨wanted, same, told⟩ := books.typed other isOther type earlier
      exact ⟨wanted, same, fun finding isSaid => List.mem_append_left _ (told finding isSaid)⟩
  said finding isFound isOverflow := by
    obtain earlier | last := List.mem_append.mp isFound
    · obtain ⟨other, isOther, wanted, isNew, same⟩ := books.said finding earlier isOverflow
      exact ⟨other, isOther, wanted, List.mem_cons_of_mem _ isNew, same⟩
    · exact ⟨entry, isEntry, expected, List.mem_cons_self, Option.mem_toList.mp last⟩

theorem booking_literal {literal : Literal}
    {negated : Bool} (isLiteral : (literal, negated) ∈ literals base) (expected : Option Ty) :
    (booking base).Keeps nodes
      (checkLiteral literal expected negated >>= record literal.span.node) := by
  rintro session ⟨new, found, books⟩
  have kept := books.literal distinct isLiteral expected
  unfold judged at kept
  rw [← books.options] at kept
  rw [run_literal]
  exact ⟨⟨_, _, kept⟩, trivial⟩

/-- The expressions of the unit are taken in. -/
theorem takes_spelling {item : Item}
    (isItem : item ∈ base.items) {expr : Expr} (isTop : expr ∈ item.tops) :
    (spelling base).Takes expr.visits := by
  intro part isPart
  have inItem : part ∈ item.visits := List.mem_flatMap.mpr ⟨expr, isTop, isPart⟩
  have inUnit : part ∈ base.items.flatMap Item.visits := List.mem_flatMap.mpr ⟨item, isItem, inItem⟩
  have visited := Item.nodup_visits distinct
  -- a literal with a node of the part is typed with the part
  have own {node : NodeId} (inPart : node ∈ part.ownVisited) {entry : Literal × Bool}
      (isEntry : entry ∈ literals base) (same : entry.1.span.node = node) :
      entry ∈ part.ownLiterals := by
    obtain ⟨other, isOther, isLiteral⟩ := List.mem_flatMap.mp isEntry
    obtain ⟨otherPart, isOtherPart, isOwn⟩ := List.mem_flatMap.mp isLiteral
    obtain rfl := Item.eq_of_mem_nodes visited inUnit
      (List.mem_flatMap.mpr ⟨other, isOther, isOtherPart⟩) inPart
      (same ▸ Expr.node_mem_ownVisited isOwn)
    exact isOwn
  refine ⟨fun name isName entry isEntry same => ?_, fun notLiteral node isPlain entry isEntry same =>
    ?_, fun _ _ => trivial, fun entry isOwn => ?_⟩
  · have isOwn := own (Expr.name_mem_ownVisited isName) isEntry same
    cases part with
    | name | call => cases isOwn
    | _ => cases isName
  · cases part with
    | literal value => cases notLiteral
    | unary op operand span =>
      obtain rfl := List.mem_singleton.mp isPlain
      have apart := (List.nodup_flatMap.mp visited).1 _ inUnit
      obtain ⟨literal, isJoined, rfl⟩ :=
        List.mem_map.mp (own List.mem_cons_self isEntry same)
      have inTail : literal.span.node ∈ (joined? op operand).toList.map (·.span.node) :=
        List.mem_map_of_mem isJoined
      rw [show literal.span.node = span.node from same] at inTail
      exact (List.nodup_cons.mp apart).1 inTail
    | name => cases isPlain
    | call callee args span =>
      obtain rfl := List.mem_singleton.mp isPlain
      cases own (List.mem_cons_of_mem _ List.mem_cons_self) isEntry same
    | _ =>
      obtain rfl := List.mem_singleton.mp isPlain
      cases own List.mem_cons_self isEntry same
  · exact List.mem_flatMap.mpr ⟨item, isItem, List.mem_flatMap.mpr ⟨part, inItem, isOwn⟩⟩

theorem takesItem_spelling {item : Item}
    (isItem : item ∈ base.items) : (spelling base).TakesItem item where
  body part isPart := ⟨fun _ _ => trivial, fun _ _ => trivial, fun _ isExpr =>
    takes_spelling distinct isItem
      (List.mem_append_left _ (List.mem_flatMap.mpr ⟨part, isPart, isExpr⟩))⟩
  values _ isValue := takes_spelling distinct isItem (List.mem_append_right _ isValue)

/-- Where demands keep the books, the steps of typing do. -/
theorem allows_booking {demand : Demand}
    (free : ∀ symbol, (booking base).Keeps [] (demand symbol)) :
    Allows (booking base) (spelling base) demand := by
  have typed {node : NodeId} (aside : Aside base node) (type : Ty) :
      (booking base).Keeps [node] (Check.recordExpr node type) :=
    booking_sidelined (Check.obeys_recordExpr aside)
  exact {
    report finding other := booking_sidelined (Check.obeys_report other)
    hops node steps := booking_sidelined (Check.obeys_recordMembers trivial)
    form form _ := booking_sidelined (obeys_readType
      ⟨fun _ => rfl, fun _ _ _ => trivial, fun _ _ _ => trivial⟩)
    settle node type _ := booking_sidelined (obeys_setDeclType (fun _ _ _ _ _ => trivial) type)
    plain node type aside := typed aside type
    literal literal negated expected isLiteral := booking_literal distinct isLiteral expected
    name name aside := .behind (keeps_nameType free name) fun type =>
      .ahead (typed aside type) fun _ => .pure _
    calls node symbol _ _ := keeps_calleeOf free symbol
    callee node symbol aside _ := .behind (keeps_symbolType free symbol) (typed aside)
    variant node symbol type aside _ _ := typed aside type }

/-- Typing a global keeps the books, whatever globals are being typed. -/
theorem booking_checkGlobal (fuel : Nat)
    (path : List NodeId) (global : Global) (isGlobal : global ∈ globals base.items) :
    (booking base).Keeps [] (checkGlobal (globals base.items) fuel path global) := by
  induction fuel generalizing path global with
  | zero => exact .pure _
  | succ fuel inductionHypothesis =>
    unfold checkGlobal
    refine .read fun session _ => ?_
    dsimp only
    split
    · exact keeps_declType _
    · split
      · exact booking_sidelined (.bind (Check.obeys_report rfl) fun _ =>
          .bind (obeys_setDeclType (fun _ _ _ _ _ => trivial) _) fun _ => .pure _)
      · have allows := allows_booking distinct
          (keeps_answer (inductionHypothesis (global.node :: path)))
        obtain ⟨item, isItem, -, values⟩ := item_of_global isGlobal
        have taken : (spelling base).TakesBinding global.form global.value :=
          ⟨fun _ _ => trivial, fun value isValue =>
            takes_spelling distinct isItem (List.mem_append_right _ (values value isValue))⟩
        have marks : (booking base).Keeps [] (markChecked global.node) :=
          booking_sidelined fun _ _ => Trace.refl.step (.checked _) trivial
        rw [Global.check_eq]
        refine booking_free (.ahead (.ahead (keeps_given allows taken) fun type =>
          keeps_settled allows trivial type) fun _ => .ahead marks fun _ => .pure _)

/-- The walk keeps the books. -/
theorem booking_walk : (booking base).Keeps nodes walk := by
  rintro session ⟨new, found, books⟩
  let start : Session := { session with checked := [] }
  have opened : Books base start new found :=
    ⟨books.items, books.options, books.exprs, books.findings, books.typed, books.said⟩
  have rounds := keeps_rounds
    (allows_booking distinct (keeps_answer (booking_checkGlobal distinct _ _)))
    (fun item isItem => takesItem_spelling distinct isItem)
    (fun item isItem global declares => booking_checkGlobal distinct _ _ _
      (List.mem_filterMap.mpr ⟨item, isItem, declares⟩)) start ⟨_, _, opened⟩
  have outcome : (walk.run session).2 = ((do
      start.items.forM (checkGlobalItem (globals start.items))
      start.items.forM (checkBodyItem (globals start.items)) : Check Unit).run start).2 := rfl
  rw [outcome, opened.items]
  exact ⟨rounds.1, trivial⟩

/-- The third pass keeps the books, whether or not it may start. -/
theorem books_pass : ∃ new found, Books base (base.after pass) new found := by
  have refusal (earlier : Pass) :
      (booking base).Keeps [] (Check.report (.passTooEarly .typeCheck earlier)) :=
    booking_sidelined (Check.obeys_report rfl)
  have require : (booking base).Keeps [] (Check.require .typeCheck) :=
    .read fun session _ => .behind (booking_free (.forM _ fun earlier _ => refusal earlier))
      fun _ => .pure _
  have complete : (booking base).Keeps [] (Check.complete .typeCheck) := by
    refine .read fun seen booked => ?_
    obtain ⟨new, found, books⟩ := booked
    split
    · exact .behind (fun _ _ => ⟨⟨new, found, books.items, books.options, books.exprs,
        books.findings, books.typed, books.said⟩, trivial⟩) fun _ =>
          booking_sidelined (Check.obeys_say fun _ => trivial)
    · exact booking_sidelined (Check.obeys_report rfl)
  have whole : (booking base).Keeps [] pass := by
    refine .behind require fun isReady => ?_
    split
    · exact .behind (booking_walk distinct) fun _ => complete
    · exact .pure _
  have opened : Books base base [] [] := by
    refine ⟨rfl, rfl, rfl, (List.append_nil _).symm, ?_, ?_⟩
    · exact fun _ _ _ impossible => by cases impossible
    · exact fun _ impossible => by cases impossible
  exact (whole base ⟨_, _, opened⟩).1

end Pass

/-! ### Integer literals -/

/-- Types a literal in its place: by itself, or together with the minus in front of it. -/
def visitLiteral (demand : Demand) (literal : Literal) (negated : Bool) (span : Span)
    (expected : Option Ty) : Check Ty :=
  if negated then checkExpr demand (.unary .negate (.literal literal) span) expected
  else checkExpr demand (.literal literal) expected

theorem literalType_integer {literal : Literal} (isInteger : literal.kind = .integer) (usual : Ty)
    (expected : Option Ty) (negated : Bool) :
    literalType usual literal expected negated = integerType usual literal expected negated := by
  unfold literalType
  rw [isInteger]

/-- A visit of an integer literal records its type and says what is to be said. -/
theorem run_visitLiteral (demand : Demand) {literal : Literal}
    (isInteger : literal.kind = .integer) (negated : Bool) (span : Span) (expected : Option Ty) (seen : Session) :
    let judged := integerType seen.options.integerType literal expected negated
    let after := ((visitLiteral demand literal negated span expected).run seen).2
    after.facts.exprs.find? literal.span.node = some judged.1 ∧
      after.findings = seen.findings ++ judged.2.toList := by
  intro judged after
  have visited := run_literal literal expected negated seen
  rw [literalType_integer isInteger] at visited
  cases negated with
  | false =>
    have outcome : after = Act.apply (seen.noting judged.2.toList)
        (.typed literal.span.node judged.1) := by
      change ((checkExpr demand (.literal literal) expected).run seen).2 = _
      unfold checkExpr
      exact congrArg Prod.snd visited
    rw [outcome]
    exact ⟨List.lookup_cons_self, rfl⟩
  | true =>
    have isJoined : joined? .negate (.literal literal) = some literal := by
      simp [joined?, negatedLiteral?, isInteger]
    have outcome : after = Act.apply (Act.apply (seen.noting judged.2.toList)
        (.typed literal.span.node judged.1)) (.typed span.node judged.1) := by
      change ((checkExpr demand (.unary .negate (.literal literal) span) expected).run seen).2 = _
      rw [checkExpr_negated isJoined, StateT.run_bind, visited]
      rfl
    rw [outcome]
    refine ⟨?_, rfl⟩
    change List.lookup literal.span.node ((span.node, judged.1) ::
      (literal.span.node, judged.1) :: seen.facts.exprs) = some judged.1
    rw [List.lookup_cons, List.lookup_cons_self]
    split <;> rfl

/-- Findings about the values of integer literals have a code of their own. -/
theorem code_iff_isOverflow (finding : Finding) :
    finding.code = "T0015" ↔ finding.isOverflow = true := by
  unfold Finding.code
  cases finding with
  | fieldAccess span problem =>
    simp only [Finding.diagnostic, Finding.fieldAccessDiagnostic]
    split <;> simp [Finding.error, Finding.isOverflow]
  | missingInitializer span what =>
    cases what <;>
      simp [Finding.diagnostic, Finding.missingInitializerDiagnostic, Finding.error,
        Finding.isOverflow]
  | duplicateTerminator span what =>
    cases what <;>
      simp [Finding.diagnostic, Terminator.code, Finding.error, Finding.isOverflow]
  | _ => simp [Finding.diagnostic, Finding.error, Finding.bug, Finding.isOverflow]

theorem overflown_said {usual : Ty} {literal : Literal} {expected : Option Ty} {negated : Bool} :
    Overflown (literalType usual literal expected negated).2.toList literal.span ↔
      (literalType usual literal expected negated).2.isSome = true := by
  constructor
  · rintro ⟨finding, isSaid, -⟩
    exact Option.isSome_iff_exists.mpr ⟨finding, Option.mem_toList.mp isSaid⟩
  · intro said
    obtain ⟨finding, isSaid⟩ := Option.isSome_iff_exists.mp said
    obtain ⟨isOverflow, place⟩ := told_of_literalType isSaid
    refine ⟨finding, Option.mem_toList.mpr isSaid, (code_iff_isOverflow finding).mpr isOverflow, ?_⟩
    rw [place]
    exact List.mem_singleton_self _

/-- The integer that validated options choose is one of the integer types. -/
theorem usual_of_validate {given : GivenOptions} {options : Options}
    (valid : given.validate = .ok options) :
    ∃ usual : Prim, usual.text = options.defaultInt ∧ options.integerType = .prim usual ∧
      (usual.isSigned = true ∨ usual.isUnsigned = true) := by
  have isName : options.defaultInt ∈ Options.integerNames := by
    unfold GivenOptions.validate at valid
    split at valid
    · cases valid
    · rename_i name chosen
      have isName : name ∈ Options.integerNames := by
        unfold Options.choose? at chosen
        split at chosen
        · cases chosen
        · split at chosen
          · rename_i isChoice
            cases chosen
            simpa using isChoice
          · split at chosen
            · cases chosen
              decide
            · cases chosen
      split at valid
      · cases valid
      · split at valid
        · cases valid
        · dsimp only at valid
          split at valid
          · cases valid
            exact isName
          · split_ifs at valid <;> cases valid <;> exact isName
  have every : ∀ name ∈ Options.integerNames, ∃ usual, Prim.ofName? name = some usual ∧
      usual.text = name ∧ (usual.isSigned = true ∨ usual.isUnsigned = true) := by
    decide
  obtain ⟨usual, found, isText, isInteger⟩ := every _ isName
  refine ⟨usual, isText, ?_, isInteger⟩
  rw [Options.integerType, found]
  rfl

/-- Every integer literal of a decoded unit spells an integer. Whenever it is typed in its place,
by itself or together with the minus in front of it, it gets the type that its value and the type
wanted there ask for, and something is said about it just where that type does not hold the
value. The third pass records nothing else for it and says nothing else about its value. -/
theorem integer_literals_typed {file text : String} {unit : Module}
    (read : Module.decode file text = .ok unit) {given : GivenOptions} {options : Options}
    (valid : given.validate = .ok options) {session : Session} (inUnit : session.items = unit.items)
    (configured : session.options = options) :
    ∃ usual : Prim, usual.text = options.defaultInt ∧
    ∃ new found, (session.after pass).facts.exprs = new ++ session.facts.exprs ∧
      (session.after pass).findings = session.findings ++ found ∧
      ∀ item ∈ unit.items, ∀ literal negated, (literal, negated) ∈ item.literals →
        literal.kind = .integer →
        ∃ spelled, Numeral.Denotes literal.text spelled ∧
          let value := if negated then -spelled else spelled
          (∀ demand span expected seen, seen.options = options →
            let after := ((visitLiteral demand literal negated span expected).run seen).2
            ∃ type told, after.facts.exprs.find? literal.span.node = some type ∧
              after.findings = seen.findings ++ told ∧
              IntegerRule (.prim usual) expected value type ∧
              (Overflown told literal.span ↔ Overflows type value)) ∧
          (∀ type, (literal.span.node, type) ∈ new →
            (session.after pass).facts.exprs.find? literal.span.node = some type ∧
            ∃ expected, IntegerRule (.prim usual) expected value type) ∧
          (Overflown found literal.span ↔
            ∃ type, (literal.span.node, type) ∈ new ∧ Overflows type value) := by
  have distinct : (session.items.flatMap Item.sites).Nodup := inUnit ▸ Module.nodup_sites read
  obtain ⟨usual, isText, isUsual, isInteger⟩ := usual_of_validate valid
  obtain ⟨new, found, books⟩ := books_pass distinct
  refine ⟨usual, isText, new, found, books.exprs, books.findings, ?_⟩
  intro item isItem literal negated isLiteral isKind
  obtain ⟨spelled, isSpelled, denotes⟩ :=
    Module.denotes_of_decode read isItem (Item.literal_mem_exprs isLiteral) isKind
  have isEntry : (literal, negated) ∈ literals session :=
    List.mem_flatMap.mpr ⟨item, inUnit ▸ isItem, isLiteral⟩
  have rule (expected : Option Ty) := integerType_rule isInteger isSpelled expected negated
  have same (expected : Option Ty) : judged session (literal, negated) expected =
      integerType (.prim usual) literal expected negated := by
    unfold judged
    rw [literalType_integer isKind, configured, isUsual]
  refine ⟨spelled, denotes, ?_, ?_, ?_⟩
  · intro demand span expected seen sameOptions
    obtain ⟨isFound, told⟩ := run_visitLiteral demand isKind negated span expected seen
    rw [sameOptions, isUsual] at isFound told
    refine ⟨_, _, isFound, told, (rule expected).1, ?_⟩
    rw [← (rule expected).2, ← literalType_integer isKind]
    exact overflown_said
  · intro type isNew
    obtain ⟨recorded, adds, -, isLast⟩ := added_by_pass distinct
    obtain rfl := List.append_cancel_right (books.exprs.symm.trans adds)
    refine ⟨isLast _ _ isNew, ?_⟩
    obtain ⟨expected, typed, -⟩ := books.typed _ isEntry type isNew
    rw [same] at typed
    exact ⟨expected, typed ▸ (rule expected).1⟩
  · constructor
    · rintro ⟨finding, isFound, isCode, isPlace⟩
      obtain ⟨entry, isOther, expected, isNew, isSaid⟩ :=
        books.said finding isFound ((code_iff_isOverflow finding).mp isCode)
      -- the finding is about a literal at this place, and there is no other one
      rw [(told_of_literalType isSaid).2, List.mem_singleton] at isPlace
      obtain rfl := literal_unique distinct isOther isEntry (congrArg Span.node isPlace.symm)
      rw [same] at isNew isSaid
      exact ⟨_, isNew, (rule expected).2.mp (Option.isSome_of_mem isSaid)⟩
    · rintro ⟨type, isNew, overflows⟩
      obtain ⟨expected, typed, told⟩ := books.typed _ isEntry type isNew
      rw [same] at typed
      have said := (rule expected).2.mpr (typed ▸ overflows)
      rw [← same] at said
      obtain ⟨finding, isSaid, isCode, isPlace⟩ := overflown_said.mpr said
      exact ⟨finding, told finding (Option.mem_toList.mp isSaid), isCode, isPlace⟩

/-- A unit with a constant whose value is one too large for its type. -/
def tooWideUnit : Module :=
  ⟨"unit", [.const ⟨[], some ⟨"a", .ofLine 7 8⟩, some (.named "u8" (.ofLine 9 11)),
    some (.literal ⟨.integer, "256", .ofLine 12 15⟩), .ofLine 0 16⟩], some (.ofLine 0 16)⟩

/-- Its value is said to overflow just where the type it gets does not hold it. -/
theorem integer_literals_typed_tooWide :
    let session := Session.ahead (some tooWideUnit) .standard .typeCheck
    Module.decode "unit" "(const a u8 256)" = .ok tooWideUnit ∧
      Options.standard.given.validate = .ok .standard ∧
      (Session.check (some tooWideUnit) .standard).bag.codes = ["T0015"] ∧
      ∃ new found spelled, (session.after pass).facts.exprs = new ++ session.facts.exprs ∧
        (session.after pass).findings = session.findings ++ found ∧
        Numeral.Denotes "256" spelled ∧
        (Overflown found (.ofLine 12 15) ↔ ∃ type, (12, type) ∈ new ∧ Overflows type spelled) := by
  have read : Module.decode "unit" "(const a u8 256)" = .ok tooWideUnit :=
    Module.decode_chars (by cbv)
  have valid : Options.standard.given.validate = .ok .standard := by decide +kernel
  have codes : (Session.check (some tooWideUnit) .standard).bag.codes = ["T0015"] := by
    decide +kernel
  have items := items_ahead (some tooWideUnit) .standard .typeCheck
  have configured := options_ahead (some tooWideUnit) .standard .typeCheck
  obtain ⟨_, -, new, found, exprs, findings, typed⟩ :=
    integer_literals_typed read valid items configured
  obtain ⟨spelled, denotes, -, -, told⟩ :=
    typed _ List.mem_cons_self ⟨.integer, "256", .ofLine 12 15⟩ false List.mem_cons_self rfl
  exact ⟨read, valid, codes, new, found, spelled, exprs, findings, denotes, told⟩

end Booking
end Typing
end UnitCheck
