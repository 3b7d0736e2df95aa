import UnitCheck.Proofs.Session.Quiet
import UnitCheck.Proofs.Typing.Frame
import UnitCheck.Proofs.Typing.Rules

/-!
# Walks that secure what they record

A typing walk of a unit without errors only adds to the session: types of
expressions, and types of the values whose declarations it passes. `Secures` says
of a walk that it does so, that it charges every node it types to the nodes it was
given, and that something holds of every session that extends the one it ends in.
Walks are put together by `Secures.bind`.

What is promised of types is a parameter, `Stage.good`, so that one pass over the
walks serves statements about any types and statements about types without unknown
parts.
-/

namespace UnitCheck.Typing

/-- The nodes of the values that an item declares, by itself or in its body. -/
def valueNodes (item : Item) : List NodeId :=
  (global? item).toList.map Global.node ++ (Stmt.partsAll item.body).flatMap Stmt.ownValues

/-- What a typing walk may do to a session: it records types of expressions and settles
types of values, and keeps everything else. -/
structure Extends (before after : Session) : Prop where
  unit : after.unit = before.unit
  options : after.options = before.options
  definitions : after.definitions = before.definitions
  refs : after.facts.refs = before.facts.refs
  forms : after.facts.forms = before.facts.forms
  decls : after.facts.decls = before.facts.decls
  exprs : before.facts.exprs <:+ after.facts.exprs
  known : before.known <:+ after.known
  learnt : ∀ id, (before.knownOf id).type.isSome → (after.knownOf id).type.isSome
  variadic : ∀ id, (after.knownOf id).variadic = (before.knownOf id).variadic
  others : ∀ id, (∀ item ∈ before.items, ∀ node ∈ valueNodes item, id ≠ .node node) →
    after.knownOf id = before.knownOf id

namespace Extends

variable {before middle after session : Session}

theorem refl : Extends session session :=
  ⟨rfl, rfl, rfl, rfl, rfl, rfl, List.suffix_refl _, List.suffix_refl _, fun _ known => known,
    fun _ => rfl, fun _ _ => rfl⟩

theorem items (ext : Extends before after) : after.items = before.items := by
  unfold Session.items
  rw [ext.unit]

theorem trans (first : Extends before middle) (second : Extends middle after) :
    Extends before after where
  unit := second.unit.trans first.unit
  options := second.options.trans first.options
  definitions := second.definitions.trans first.definitions
  refs := second.refs.trans first.refs
  forms := second.forms.trans first.forms
  decls := second.decls.trans first.decls
  exprs := first.exprs.trans second.exprs
  known := first.known.trans second.known
  learnt id isKnown := second.learnt id (first.learnt id isKnown)
  variadic id := (second.variadic id).trans (first.variadic id)
  others id other := by
    rw [second.others id (by rwa [first.items]), first.others id other]

/-- A finding changes nothing that counts. -/
theorem report (finding : Finding) : Extends session (Act.apply session (.report finding)) :=
  ⟨rfl, rfl, rfl, rfl, rfl, rfl, List.suffix_refl _, List.suffix_refl _, fun _ known => known,
    fun _ => rfl, fun _ _ => rfl⟩

theorem typed (node : NodeId) (type : Ty) :
    Extends session (Act.apply session (.typed node type)) :=
  ⟨rfl, rfl, rfl, rfl, rfl, rfl, List.suffix_cons _ _, List.suffix_refl _, fun _ known => known,
    fun _ => rfl, fun _ _ => rfl⟩

theorem hops (node : NodeId) (steps : List MemberStep) :
    Extends session (Act.apply session (.hops node steps)) :=
  ⟨rfl, rfl, rfl, rfl, rfl, rfl, List.suffix_refl _, List.suffix_refl _, fun _ known => known,
    fun _ => rfl, fun _ _ => rfl⟩

theorem checked (node : NodeId) : Extends session (Act.apply session (.checked node)) :=
  ⟨rfl, rfl, rfl, rfl, rfl, rfl, List.suffix_refl _, List.suffix_refl _, fun _ known => known,
    fun _ => rfl, fun _ _ => rfl⟩

end Extends

/-- What is known after the type of a symbol has been settled. -/
theorem knownOf_settles (session : Session) (id other : SymbolId) (type : Ty) :
    (Act.apply session (.settles id type)).knownOf other =
      if other = id then { session.knownOf id with type := some type }
      else session.knownOf other := by
  unfold Session.knownOf Act.apply
  simp only [List.lookup_cons]
  by_cases same : other = id
  · simp [same, Session.knownOf]
  · rw [if_neg same, beq_false_of_ne same]

/-- Settling the type of a value extends the session. -/
theorem Extends.settles {session : Session} {item : Item} {node : NodeId}
    (isItem : item ∈ session.items) (isValue : node ∈ valueNodes item) (type : Ty) :
    Extends session (Act.apply session (.settles (.node node) type)) where
  unit := rfl
  options := rfl
  definitions := rfl
  refs := rfl
  forms := rfl
  decls := rfl
  exprs := List.suffix_refl _
  known := List.suffix_cons _ _
  learnt id isKnown := by
    rw [knownOf_settles]
    split
    · rfl
    · exact isKnown
  variadic id := by
    rw [knownOf_settles]
    split
    · rename_i same
      rw [same]
    · rfl
  others id other := by
    rw [knownOf_settles, if_neg (other item isItem node isValue)]

/-! ### Stages -/

/-- What typing starts from and what is promised of types. -/
structure Stage where
  start : Session
  /-- Promised of every type that is recorded. -/
  good : Ty -> Prop
  /-- Promised of every type that a symbol gets. -/
  fits : SymbolId -> Ty -> Prop

namespace Stage

variable (stage : Stage)

/-- The globals of the unit. -/
def globals : List Global := Typing.globals stage.start.items

/-- A good type is recorded for a node. -/
def Has (session : Session) (node : NodeId) (type : Ty) : Prop :=
  (node, type) ∈ session.facts.exprs ∧ stage.good type

/-- The name of an enumeration is no value and need not have a type where the unknown
type is good. -/
def PartRule (session : Session) (part : Expr) : Prop :=
  (∃ type, stage.Has session part.node type ∧ ExprRule session (stage.Has session) part type) ∨
    stage.good .unknown ∧ ∃ symbol, NamesEnum session part symbol

/-- The types of an expression and of all expressions inside it form a derivation. -/
def Derived (session : Session) (expr : Expr) : Prop :=
  ∀ part ∈ expr.parts, stage.PartRule session part

/-- The initializer of a binding, if there is one, is derived and allowed. -/
def Bound (session : Session) (form : Option TypeForm) (value : Option Expr) : Prop :=
  BindingRule session (stage.Has session) form value ∧ ∀ expr ∈ value, stage.Derived session expr

/-- A declaration is recorded for the node. -/
def isDeclared (node : NodeId) : Bool := (stage.start.facts.decls.find? node).isSome

/-- The values declared at these nodes are ready to be read: they have types. -/
def Ready (ready : List NodeId) (session : Session) : Prop :=
  ∀ node ∈ ready, stage.isDeclared node = true → (session.knownOf (.node node)).type.isSome

/-- A session that typing has reached without an error. -/
structure Sound (session : Session) : Prop where
  reached : Extends stage.start session
  known : ∀ id known type, (id, known) ∈ session.known → known.type = some type →
    stage.fits id type
  typed : ∀ node type, (node, type) ∈ session.facts.exprs → stage.good type
  checked : ∀ global ∈ stage.globals, global.node ∈ session.checked →
    (session.knownOf (.node global.node)).type.isSome ∧
      ∀ final, Extends session final → stage.Bound final global.form global.value

/-- The nodes of a global's initializer. -/
def globalNodes (global : Global) : List NodeId := global.value.toList.flatMap Expr.nodes

/-- The globals that are neither typed nor being typed. -/
def open_ (path : List NodeId) (session : Session) : List Global :=
  stage.globals.filter fun global =>
    !session.checked.contains global.node && !path.contains global.node

/-- How often a node has been typed, or will be with the globals still open. -/
def weight (path : List NodeId) (session : Session) (node : NodeId) : Nat :=
  (session.facts.exprs.map Prod.fst).count node +
    ((stage.open_ path session).flatMap globalNodes).count node

/-- A walk has gone from one session to another, typing no node that it is not given. -/
structure Advances (path slots : List NodeId) (before after : Session) : Prop where
  ext : Extends before after
  sound : stage.Sound after
  charged : ∀ node, stage.weight path after node ≤ stage.weight path before node + slots.count node

variable {stage}

theorem Ready.mono {ready : List NodeId} {before after : Session} (isReady : stage.Ready ready before)
    (ext : Extends before after) : stage.Ready ready after :=
  fun node inside isDeclared => ext.learnt _ (isReady node inside isDeclared)

theorem Has.mono {before after : Session} {node : NodeId} {type : Ty}
    (has : stage.Has before node type) (ext : Extends before after) :
    stage.Has after node type :=
  ⟨ext.exprs.subset has.1, has.2⟩

/-- Some type counts for a node that a type is recorded for. -/
theorem Has.find? {session : Session} {node : NodeId} {type : Ty}
    (has : stage.Has session node type) :
    ∃ found, session.facts.exprs.find? node = some found ∧
      (node, found) ∈ session.facts.exprs := by
  cases looked : session.facts.exprs.find? node with
  | none => simpa using List.lookup_eq_none_iff.mp looked _ has.1
  | some found => exact ⟨found, rfl, mem_of_lookup looked⟩

theorem Sound.refl_advances {path : List NodeId} {session : Session} (sound : stage.Sound session) :
    stage.Advances path [] session session :=
  ⟨.refl, sound, fun _ => Nat.le_add_right _ _⟩

theorem Advances.trans {path first second : List NodeId} {before middle after : Session}
    (one : stage.Advances path first before middle)
    (two : stage.Advances path second middle after) :
    stage.Advances path (first ++ second) before after where
  ext := one.ext.trans two.ext
  sound := two.sound
  charged node := by
    have counted := two.charged node
    have earlier := one.charged node
    rw [List.count_append]
    omega

theorem Advances.slots_mono {path slots others : List NodeId} {before after : Session}
    (advances : stage.Advances path slots before after)
    (fewer : ∀ node, slots.count node ≤ others.count node) :
    stage.Advances path others before after :=
  ⟨advances.ext, advances.sound, fun node =>
    Nat.le_trans (advances.charged node) (Nat.add_le_add_left (fewer node) _)⟩

/-- What keeps the types and the typed globals stays sound. -/
theorem Sound.step {before after : Session} (sound : stage.Sound before)
    (ext : Extends before after) (exprs : after.facts.exprs = before.facts.exprs)
    (known : after.known = before.known) (checked : after.checked = before.checked) :
    stage.Sound after where
  reached := sound.reached.trans ext
  known := by
    rw [known]
    exact sound.known
  typed := by
    rw [exprs]
    exact sound.typed
  checked global isGlobal isChecked := by
    rw [checked] at isChecked
    obtain ⟨isKnown, bound⟩ := sound.checked global isGlobal isChecked
    exact ⟨ext.learnt _ isKnown, fun final further => bound final (ext.trans further)⟩

/-- Recording a good type is sound. -/
theorem Sound.record {session : Session} {node : NodeId} {type : Ty}
    (sound : stage.Sound session) (good : stage.good type) :
    stage.Sound (Act.apply session (.typed node type)) where
  reached := sound.reached.trans (Extends.typed node type)
  known := sound.known
  typed other found isTyped := by
    obtain same | earlier := List.mem_cons.mp isTyped
    · cases same
      exact good
    · exact sound.typed other found earlier
  checked global isGlobal isChecked := by
    obtain ⟨isKnown, bound⟩ := sound.checked global isGlobal isChecked
    exact ⟨isKnown, fun final further => bound final ((Extends.typed node type).trans further)⟩

/-! ### Secure walks -/

variable {α β : Type}

/-- From this session the walk, when it ends quiet, has typed no node that it was not
given, and leaves a session after which the postcondition holds: of the session itself,
of any session that extends it, and of the result. -/
def SecuresAt (stage : Stage) (path slots : List NodeId) (session : Session) (walk : Check α)
    (post : Session -> Session -> α -> Prop) : Prop :=
  (walk.run session).2.Quiet →
    stage.Advances path slots session (walk.run session).2 ∧
      ∀ final, Extends (walk.run session).2 final →
        post (walk.run session).2 final (walk.run session).1

/-- The walk is secure from every sound session in which some symbols are ready and what
is given holds. -/
structure Secures (stage : Stage) (path ready : List NodeId) (given : Session -> Prop)
    (slots : List NodeId) (walk : Check α) (post : Session -> Session -> α -> Prop) : Prop where
  grows : Regime.free.Obeys walk
  secure : ∀ session, stage.Sound session → stage.Ready ready session → given session →
    stage.SecuresAt path slots session walk post

/-- What a walk may rely on behind another one: what was given to that one, earlier on, and
what it has left. -/
def Behind (stage : Stage) (given : Session -> Prop) (post : Session -> Session -> α -> Prop)
    (value : α) (session : Session) : Prop :=
  (∃ earlier, stage.Sound earlier ∧ given earlier ∧ Extends earlier session) ∧
    post session session value

variable {path ready becomes slots others : List NodeId} {given : Session -> Prop}
  {walk : Check α} {next : α -> Check β} {post : Session -> Session -> α -> Prop}
  {postNext : α -> Session -> Session -> β -> Prop}

/-- A walk only ever adds findings. -/
theorem findings_grow (grows : Regime.free.Obeys walk) (session : Session) :
    session.findings <+: (walk.run session).2.findings :=
  (grows session trivial).findings

/-- A secure walk may be followed by one that is secure where it ends, and where more
symbols may have become ready. -/
theorem Secures.bindReady (first : stage.Secures path ready given slots walk post)
    (second : ∀ value, stage.Secures path becomes (stage.Behind given post value) others
      (next value) (postNext value))
    (turns : ∀ after value, stage.Ready ready after → post after after value →
      stage.Ready becomes after) :
    stage.Secures path ready given (slots ++ others) (walk >>= next) fun after final result =>
      ∃ middle value, post middle final value ∧ postNext value after final result where
  grows := .bind first.grows fun value => (second value).grows
  secure session sound isReady given quiet := by
    have quietMiddle := quiet.of_prefix
      (findings_grow (second (walk.run session).1).grows (walk.run session).2)
    obtain ⟨one, held⟩ := first.secure session sound isReady given quietMiddle
    have holds := held _ .refl
    obtain ⟨two, heldNext⟩ := (second _).secure _ one.sound
      (turns _ _ (isReady.mono one.ext) holds) ⟨⟨session, sound, given, one.ext⟩, holds⟩ quiet
    exact ⟨one.trans two, fun final further =>
      ⟨_, _, held final (two.ext.trans further), heldNext final further⟩⟩

/-- Secure walks are secure one behind the other. -/
theorem Secures.bind (first : stage.Secures path ready given slots walk post)
    (second : ∀ value, stage.Secures path ready (stage.Behind given post value) others
      (next value) (postNext value)) :
    stage.Secures path ready given (slots ++ others) (walk >>= next) fun after final result =>
      ∃ middle value, post middle final value ∧ postNext value after final result :=
  first.bindReady second fun _ _ isReady _ => isReady

/-- More may be given to a secure walk. -/
theorem Secures.provided {more : Session -> Prop}
    (secures : stage.Secures path ready given slots walk post)
    (gives : ∀ session, stage.Sound session → stage.Ready ready session → more session →
      given session) :
    stage.Secures path ready more slots walk post :=
  ⟨secures.grows, fun session sound isReady held =>
    secures.secure session sound isReady (gives session sound isReady held)⟩

/-- Less may be said of a secure walk, and more nodes given to it. -/
theorem Secures.mono {weaker : Session -> Session -> α -> Prop}
    (secures : stage.Secures path ready given slots walk post)
    (fewer : ∀ node, slots.count node ≤ others.count node)
    (weaken : ∀ before after final value, stage.Sound before → given before →
      stage.Sound after → Extends before after → Extends after final → post after final value →
      weaker after final value) :
    stage.Secures path ready given others walk weaker where
  grows := secures.grows
  secure session sound isReady held quiet := by
    obtain ⟨advances, holds⟩ := secures.secure session sound isReady held quiet
    exact ⟨advances.slots_mono fewer, fun final further =>
      weaken session _ final _ sound held advances.sound advances.ext further
        (holds final further)⟩

/-- Secure walks are secure one behind the other; nothing else is said of the first. -/
theorem Secures.andThen {goal : Session -> Session -> β -> Prop}
    (first : stage.Secures path ready given slots walk post)
    (second : ∀ value, stage.Secures path ready (stage.Behind given post value) others
      (next value) goal) :
    stage.Secures path ready given (slots ++ others) (walk >>= next) goal := by
  refine (first.bind second).mono (fun _ => Nat.le_refl _) ?_
  rintro _ _ _ _ - - - - - ⟨_, _, _, held⟩
  exact held

/-- Behind a walk that never ends quiet anything may be said. -/
theorem Secures.refused {goal : Session -> Session -> β -> Prop}
    (first : stage.Secures path ready given slots walk fun _ _ _ => False)
    (grows : ∀ value, Regime.free.Obeys (next value)) :
    stage.Secures path ready given others (walk >>= next) goal where
  grows := .bind first.grows grows
  secure session sound isReady given quiet := by
    have quietMiddle := quiet.of_prefix
      (findings_grow (grows (walk.run session).1) (walk.run session).2)
    exact ((first.secure session sound isReady given quietMiddle).2 _ .refl).elim

/-- A walk that does nothing, where the postcondition holds already. -/
theorem Secures.stay {value : α} (holds : ∀ session final, stage.Sound session →
    given session → Extends session final → post session final value) :
    stage.Secures path ready given [] (pure value) post where
  grows := .pure value
  secure session sound _ held _ :=
    ⟨sound.refl_advances, fun final further => holds session final sound held further⟩

theorem Secures.pure (value : α) :
    stage.Secures path ready given [] (pure value) fun _ _ result => result = value :=
  .stay fun _ _ _ _ _ => rfl

/-- A fact that follows from what is given may be used. -/
theorem Secures.assume {fact : Prop} (grows : Regime.free.Obeys walk)
    (holds : ∀ session, given session → fact)
    (secures : fact → stage.Secures path ready given slots walk post) :
    stage.Secures path ready given slots walk post :=
  ⟨grows, fun session sound isReady held =>
    (secures (holds session held)).secure session sound isReady held⟩

/-- What is given may be chosen before the walk. -/
theorem Secures.choose {ι : Type} [Inhabited ι] {chosen : ι -> Session -> Prop}
    (gives : ∀ session, given session → ∃ index, chosen index session)
    (secures : ∀ index, stage.Secures path ready (chosen index) slots walk post) :
    stage.Secures path ready given slots walk post where
  grows := (secures default).grows
  secure session sound isReady held := by
    obtain ⟨index, isChosen⟩ := gives session held
    exact (secures index).secure session sound isReady isChosen

/-- A walk that looks at the session first. -/
theorem Secures.read {rest : Session -> Check α}
    (secures : ∀ seen, stage.Secures path ready (fun session => session = seen ∧ given session)
      slots (rest seen) post) :
    stage.Secures path ready given slots (get >>= rest) post where
  grows := .read fun seen => (secures seen).grows
  secure session sound isReady held :=
    (secures session).secure session sound isReady ⟨rfl, held⟩

/-- Behind a fatal finding anything may be said. -/
theorem secures_report {finding : Finding} {goal : Session -> Session -> Unit -> Prop}
    (fatal : finding.isFatal = true) :
    stage.Secures path ready given [] (Check.report finding) goal where
  grows := Check.obeys_report trivial
  secure _ _ _ _ quiet := absurd quiet (Session.not_quiet_report fatal)

/-- An act that only adds facts about fields is free. -/
theorem secures_recordMembers (node : NodeId) (steps : List MemberStep) :
    stage.Secures path ready given [] (Check.recordMembers node steps) fun _ _ _ => True where
  grows := Check.obeys_recordMembers trivial
  secure _ sound _ _ _ := by
    refine ⟨⟨Extends.hops node steps, sound.step (Extends.hops node steps) rfl rfl rfl, ?_⟩,
      fun _ _ => trivial⟩
    exact fun _ => Nat.le_add_right _ _

/-- Recording a good type charges its node. -/
theorem secures_recordExpr (node : NodeId) (type : Ty) :
    stage.Secures path ready (fun _ => stage.good type) [node] (Check.recordExpr node type)
      fun _ final _ => stage.Has final node type where
  grows := Check.obeys_recordExpr trivial
  secure session sound _ good _ := by
    refine ⟨⟨Extends.typed node type, sound.record good, ?_⟩,
      fun final further => ⟨further.exprs.subset List.mem_cons_self, good⟩⟩
    intro other
    change ((node :: session.facts.exprs.map Prod.fst).count other +
      ((stage.open_ path session).flatMap globalNodes).count other) ≤ _
    unfold weight
    rw [List.count_cons, List.count_cons, List.count_nil]
    omega

theorem secures_record (node : NodeId) (type : Ty) :
    stage.Secures path ready (fun _ => stage.good type) [node] (record node type)
      fun _ final result => result = type ∧ stage.Has final node type :=
  ((secures_recordExpr node type).bind fun _ => .pure type).mono
    (fun _ => Nat.le_of_eq (by simp)) fun _ _ _ _ _ _ _ _ _ ⟨_, _, has, same⟩ => ⟨same, has⟩

/-- What may be said is an objection, so nothing is said. -/
theorem secures_tell {finding : Option Finding}
    (objects : ∀ found ∈ finding, found.isObjection = true) :
    stage.Secures path ready given [] (tell finding) fun _ _ _ => finding = none := by
  cases finding with
  | none => exact (Secures.pure ()).mono (fun _ => Nat.le_refl _) fun _ _ _ _ _ _ _ _ _ _ => rfl
  | some found =>
    exact secures_report (Finding.isFatal_of_isObjection (objects found rfl))

theorem secures_accept {judged : Judged}
    (objects : ∀ found ∈ judged.2, found.isObjection = true) :
    stage.Secures path ready given [] (accept judged)
      fun _ _ result => judged = (result, none) :=
  ((secures_tell objects).bind fun _ => .pure judged.1).mono (fun _ => Nat.le_refl _)
    fun _ _ _ _ _ _ _ _ _ ⟨_, _, silent, same⟩ => by rw [same, ← silent]

/-- The type that a walk finds is recorded when it is good. -/
theorem Secures.recorded {walk : Check Ty} {post : Session -> Session -> Ty -> Prop}
    (first : stage.Secures path ready given slots walk post)
    (good : ∀ type session, stage.Behind given post type session → stage.good type)
    (node : NodeId) :
    stage.Secures path ready given (slots ++ [node]) (walk >>= record node)
      fun _ final type => (∃ middle, post middle final type) ∧ stage.Has final node type := by
  refine (first.bind fun type => (secures_record node type).provided
    fun session _ _ behind => good type session behind).mono (fun _ => Nat.le_refl _) ?_
  rintro _ _ final _ - - - - - ⟨middle, type, held, rfl, has⟩
  exact ⟨⟨middle, held⟩, has⟩

/-- In front of the rest of a walk something fatal is reported unless it is in order. -/
theorem Secures.unless {complains : Prop} [Decidable complains] {finding : Finding}
    {rest : Check α} (fatal : finding.isFatal = true)
    (secures : stage.Secures path ready (fun session => given session ∧ ¬complains) slots rest
      post) :
    stage.Secures path ready given slots
      (if complains then do
        Check.report finding
        rest
      else rest) post := by
  split
  · exact (secures_report fatal).refused fun _ => secures.grows
  · rename_i fine
    exact secures.provided fun _ _ _ held => ⟨held, fine⟩

end Stage

end UnitCheck.Typing
