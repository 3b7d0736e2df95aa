import UnitCheck.Proofs.Declare.Collected
import UnitCheck.Proofs.Declare.Globals
import UnitCheck.Proofs.Declare.TopLevel
import UnitCheck.Proofs.Session.Script

/-!
# Globals are declared in any order

Declaring some items succeeds when every one of them can be declared, no two want the same
name in one namespace and at most one is the entrypoint. Nothing of this depends on the
order of the items, and neither does what is left behind: each item writes to its own node.
-/

namespace UnitCheck

/-- Sessions that differ in bookkeeping still do after the same acts. -/
theorem Session.Alike.replay {before after : Session} (alike : before.Alike after)
    (acts : List Act) : (before.replay acts).Alike (after.replay acts) := by
  induction acts generalizing before after with
  | nil => exact alike
  | cons act rest inductionHypothesis =>
    refine inductionHypothesis ?_
    rw [alike.same]
    cases act <;> exact ⟨rfl⟩



namespace Declare

/-- The global that an item makes pending when it is declared. -/
def pendingOf? (item : Item) : Option Pending := do
  let header <- header? item
  let name <- header.name
  return ⟨symbolOf item header name, item⟩

/-- The name that a pending global takes, with the namespace. -/
def Pending.place (pending : Pending) : Namespace × String :=
  (pending.symbol.kind.space, pending.symbol.name)

/-- The type of a builtin cannot be declared again. -/
def Pending.isReserved (pending : Pending) : Bool :=
  pending.symbol.isType && Prim.isReserved pending.symbol.name

/-- An item that is accepted unless another one is in its way. -/
def Declarable : Item -> Prop
  | .entry _ => True
  | .stray (.block _ _) => True
  | .stray _ => False
  | item => ∃ pending ∈ pendingOf? item, pending.isReserved = false

/-- Giving a global the type it has ahead of its signature. -/
def introduceActs (item : Item) (symbol : Symbol) : List Act :=
  match symbol.kind with
  | .struct =>
    [.struct item.span.node .empty,
      .knows symbol.id (.ofType (some (.struct symbol.name item.span.node)))]
  | .enum =>
    [.enum item.span.node ⟨.prim .s32, []⟩,
      .knows symbol.id (.ofType (some (.enum symbol.name item.span.node)))]
  | _ => [.knows symbol.id (.ofType none)]

/-- Declaring a global. -/
def Pending.acts (pending : Pending) : List Act :=
  .global pending.symbol :: introduceActs pending.item pending.symbol ++
    [.declares pending.item.span.node pending.symbol]

/-- Declaring what an item declares. -/
def gatherActs (item : Item) : List Act := (pendingOf? item).toList.flatMap Pending.acts

/-! ### One item -/

section Item

variable {item : Item} {header : Header} {session : Session} {entry : Option Span}

theorem run_introduce (item : Item) (symbol : Symbol) (session : Session) :
    (introduce item symbol).run session = ((), session.replay (introduceActs item symbol)) := by
  unfold introduce introduceActs
  cases symbol.kind <;> rfl

/-- A global whose name is free is declared. -/
theorem run_declareGlobal {pending : Pending} (declares : header? item = some header)
    (isPending : pending ∈ pendingOf? item) (usable : pending.isReserved = false)
    (free : session.table.global? pending.place.1 pending.place.2 = none) :
    ∃ after, (declareGlobal item header).run session = (some pending, after) ∧
      (session.replay pending.acts).Alike after := by
  unfold pendingOf? at isPending
  rw [declares] at isPending
  cases named : header.name with
  | none =>
    simp [named] at isPending
  | some name =>
    have same : pending = ⟨symbolOf item header name, item⟩ := by
      simpa [named, eq_comm] using isPending
    subst same
    have declared : session.table.declareGlobal (symbolOf item header name) =
        .ok { session.table with globals := session.table.globals ++ [symbolOf item header name] } := by
      unfold Table.declareGlobal
      simp only [Pending.place] at free
      rw [free]
    have usable : ¬((symbolOf item header name).isType &&
        Prim.isReserved (symbolOf item header name).name) = true := by
      simpa [Pending.isReserved] using usable
    have run : (declareGlobal item header).run session = (do
        introduce item (symbolOf item header name)
        Check.say .green ("declared " ++ (symbolOf item header name).kind.text ++ " " ++
          (symbolOf item header name).name ++ "\n")
        Check.recordDecl item.span.node (symbolOf item header name)
        return some (⟨symbolOf item header name, item⟩ : Pending) : Check (Option Pending)).run
          (Act.apply session (.global (symbolOf item header name))) := by
      unfold declareGlobal
      simp only [named, if_neg usable]
      rw [StateT.run_bind]
      simp only [StateT.run_get, pure_bind, declared]
      rfl
    rw [run, StateT.run_bind, run_introduce]
    refine ⟨_, rfl, ?_⟩
    unfold Pending.acts
    rw [List.cons_append, Session.replay_cons, Session.replay_append]
    exact (alike_say _ _ _).1.replay [.declares item.span.node (symbolOf item header name)]

/-- A global that is declared quietly has a usable name that was free. -/
theorem free_of_declareGlobal (declares : header? item = some header)
    (quiet : ((declareGlobal item header).run session).2.Quiet) :
    ∃ pending ∈ pendingOf? item, pending.isReserved = false ∧
      session.table.global? pending.place.1 pending.place.2 = none := by
  have refused {finding : Finding} {start : Session} (fatal : finding.isFatal = true)
      (quiet : ((Check.report finding >>= fun _ => pure (none : Option Pending)).run start).2.Quiet) :
      False :=
    Session.not_quiet_report fatal quiet
  unfold declareGlobal at quiet
  cases named : header.name with
  | none =>
    rw [named] at quiet
    exact (refused rfl quiet).elim
  | some name =>
    refine ⟨⟨symbolOf item header name, item⟩, by simp [pendingOf?, declares, named], ?_⟩
    simp only [named] at quiet
    split at quiet
    · exact (refused rfl quiet).elim
    · rename_i usable
      refine ⟨by simpa [Pending.isReserved] using usable, ?_⟩
      rw [StateT.run_bind] at quiet
      simp only [StateT.run_get, pure_bind] at quiet
      cases taken : session.table.global? (symbolOf item header name).kind.space
          (symbolOf item header name).name with
      | none => exact taken
      | some previous =>
        unfold Table.declareGlobal at quiet
        rw [taken] at quiet
        exact (refused rfl quiet).elim

/-- An item that can be declared and finds its name free and no other entrypoint is
declared. -/
theorem run_collectItem (declarable : Declarable item)
    (only : ∀ span ∈ entrySpan? item, entry = none)
    (free : ∀ pending ∈ pendingOf? item,
      session.table.global? pending.place.1 pending.place.2 = none) :
    ∃ after, (collectItem entry item).run session =
        ((entry <|> entrySpan? item, pendingOf? item), after) ∧
      (session.replay (gatherActs item)).Alike after := by
  have declared (header : Header) (declares : header? item = some header)
      (isOk : ∃ pending ∈ pendingOf? item, pending.isReserved = false) :
      ∃ after, (do return (entry, <- declareGlobal item header) : Check _).run session =
          ((entry, pendingOf? item), after) ∧
        (session.replay (gatherActs item)).Alike after := by
    obtain ⟨pending, isPending, usable⟩ := isOk
    obtain ⟨after, run, alike⟩ := run_declareGlobal declares isPending usable
      (free pending isPending)
    refine ⟨after, ?_, ?_⟩
    · rw [StateT.run_bind, run, Option.mem_def.mp isPending]
      rfl
    · unfold gatherActs
      rw [Option.mem_def.mp isPending]
      simpa using alike
  cases item with
  | entry decl =>
    cases only decl.span rfl
    exact ⟨session, rfl, .refl _⟩
  | stray stmt =>
    cases stmt with
    | block body span =>
      refine ⟨((skipNestedAll body).run session).2, ?_, alike_skipNestedAll body session⟩
      cases entry <;> rfl
    | _ => exact declarable.elim
  | _ =>
    cases entry <;> exact declared _ rfl declarable

/-- An item that is declared quietly can be declared and found its name free and no other
entrypoint. -/
theorem declarable_of_collectItem (quiet : ((collectItem entry item).run session).2.Quiet) :
    Declarable item ∧ (∀ span ∈ entrySpan? item, entry = none) ∧
      ∀ pending ∈ pendingOf? item,
        session.table.global? pending.place.1 pending.place.2 = none := by
  have declared (header : Header) (declares : header? item = some header)
      (quiet : ((declareGlobal item header).run session).2.Quiet) :
      (∃ pending ∈ pendingOf? item, pending.isReserved = false) ∧
        ∀ pending ∈ pendingOf? item,
          session.table.global? pending.place.1 pending.place.2 = none := by
    obtain ⟨pending, isPending, usable, free⟩ := free_of_declareGlobal declares quiet
    refine ⟨⟨pending, isPending, usable⟩, fun other isOther => ?_⟩
    cases Option.mem_unique isPending isOther
    exact free
  have refused {finding : Finding} {α : Type} {value : α} (fatal : finding.isFatal = true)
      (quiet : ((Check.report finding >>= fun _ => pure value).run session).2.Quiet) : False :=
    Session.not_quiet_report fatal quiet
  have none {α : Type} {property : α -> Prop} : ∀ value ∈ (none : Option α), property value :=
    fun _ impossible => by cases impossible
  cases item with
  | entry decl =>
    cases entry with
    | none => exact ⟨trivial, fun _ _ => rfl, none⟩
    | some first => exact (refused rfl quiet).elim
  | stray stmt =>
    cases stmt with
    | block body span => exact ⟨trivial, none, none⟩
    | _ => exact (refused rfl quiet).elim
  | _ =>
    obtain ⟨isOk, free⟩ := declared _ rfl quiet
    exact ⟨isOk, none, free⟩

end Item

/-! ### Several items -/

/-- Items that can be declared behind others, whatever their order. `taken` says which
names are taken, `entry` is the entrypoint met so far. -/
structure Gathers (entry : Option Span) (taken : Namespace × String -> Prop)
    (items : List Item) : Prop where
  declarable : ∀ item ∈ items, Declarable item
  entries : (entry.toList ++ items.filterMap entrySpan?).length ≤ 1
  distinct : ((items.filterMap pendingOf?).map Pending.place).Nodup
  free : ∀ pending ∈ items.filterMap pendingOf?, ¬taken pending.place

/-- Nothing of it depends on the order. -/
theorem Gathers.perm {entry : Option Span} {taken : Namespace × String -> Prop}
    {items others : List Item} (gathers : Gathers entry taken items)
    (perm : items.Perm others) : Gathers entry taken others where
  declarable item isItem := gathers.declarable item (perm.mem_iff.mpr isItem)
  entries := by
    have same := (perm.filterMap entrySpan?).length_eq
    have few := gathers.entries
    rw [List.length_append] at few ⊢
    omega
  distinct := ((perm.filterMap pendingOf?).map Pending.place).nodup_iff.mp gathers.distinct
  free pending isPending :=
    gathers.free pending ((perm.filterMap pendingOf?).mem_iff.mpr isPending)

/-- The first of some items is declared ahead of the others. -/
theorem gathers_cons {entry : Option Span} {taken : Namespace × String -> Prop} {item : Item}
    {rest : List Item} : Gathers entry taken (item :: rest) ↔
      (Declarable item ∧ (∀ span ∈ entrySpan? item, entry = none) ∧
        ∀ pending ∈ pendingOf? item, ¬taken pending.place) ∧
      Gathers (entry <|> entrySpan? item)
        (fun place => taken place ∨ ∃ pending ∈ pendingOf? item, pending.place = place) rest := by
  have entries : (entry.toList ++ (item :: rest).filterMap entrySpan?).length ≤ 1 ↔
      (∀ span ∈ entrySpan? item, entry = none) ∧
        ((entry <|> entrySpan? item).toList ++ rest.filterMap entrySpan?).length ≤ 1 := by
    rw [List.filterMap_cons]
    cases entry <;> cases entrySpan? item <;> simp
  have places : ((item :: rest).filterMap pendingOf?).map Pending.place =
      (pendingOf? item).toList.map Pending.place ++
        (rest.filterMap pendingOf?).map Pending.place := by
    rw [List.filterMap_cons]
    cases pendingOf? item <;> simp
  constructor
  · rintro ⟨declarable, few, distinct, free⟩
    obtain ⟨only, few⟩ := entries.mp few
    rw [places, List.nodup_append] at distinct
    have first : ∀ pending ∈ pendingOf? item, pending ∈ (item :: rest).filterMap pendingOf? :=
      fun pending isPending => List.mem_filterMap.mpr ⟨item, List.mem_cons_self, isPending⟩
    refine ⟨⟨declarable item List.mem_cons_self, only, fun pending isPending =>
      free pending (first pending isPending)⟩, ⟨fun other isOther =>
        declarable other (List.mem_cons_of_mem _ isOther), few, distinct.2.1, ?_⟩⟩
    rintro other isOther (isTaken | ⟨pending, isPending, same⟩)
    · refine free other ?_ isTaken
      obtain ⟨later, isLater, found⟩ := List.mem_filterMap.mp isOther
      exact List.mem_filterMap.mpr ⟨later, List.mem_cons_of_mem _ isLater, found⟩
    · refine distinct.2.2 _ (List.mem_map_of_mem (Option.mem_toList.mpr isPending)) _
        (List.mem_map_of_mem isOther) same
  · rintro ⟨⟨declarable, only, free⟩, others, few, distinct, freeOthers⟩
    refine ⟨List.forall_mem_cons.mpr ⟨declarable, others⟩, entries.mpr ⟨only, few⟩, ?_, ?_⟩
    · rw [places, List.nodup_append]
      refine ⟨?_, distinct, ?_⟩
      · cases pendingOf? item <;> simp
      · intro place isFirst other isOther same
        subst same
        obtain ⟨pending, isPending, rfl⟩ := List.mem_map.mp isFirst
        obtain ⟨later, isLater, sameAgain⟩ := List.mem_map.mp isOther
        exact freeOthers later isLater
          (.inr ⟨pending, Option.mem_toList.mp isPending, sameAgain.symm⟩)
    · intro pending isPending
      obtain ⟨other, isOther, found⟩ := List.mem_filterMap.mp isPending
      obtain rfl | isLater := List.mem_cons.mp isOther
      · exact free pending found
      · exact fun isTaken =>
          freeOthers pending (List.mem_filterMap.mpr ⟨other, isLater, found⟩) (.inl isTaken)

/-- The names that are taken in a session. -/
def Taken (session : Session) (place : Namespace × String) : Prop :=
  session.table.global? place.1 place.2 ≠ none

/-- Declaring an item adds its symbol to the table. -/
theorem globals_gatherActs (item : Item) :
    (gatherActs item).filterMap Act.global? = (pendingOf? item).toList.map (·.symbol) := by
  unfold gatherActs
  cases pendingOf? item with
  | none => rfl
  | some pending =>
    simp only [Option.toList_some, List.flatMap_singleton, List.map_singleton]
    unfold Pending.acts introduceActs
    cases pending.symbol.kind <;> rfl

/-- Behind an item its name is taken as well. -/
theorem taken_gatherActs (session : Session) (item : Item) :
    Taken (session.replay (gatherActs item)) =
      fun place => Taken session place ∨ ∃ pending ∈ pendingOf? item, pending.place = place := by
  funext place
  obtain ⟨space, name⟩ := place
  refine propext ?_
  unfold Taken Table.global?
  rw [Session.globals_replay, globals_gatherActs, List.find?_append]
  cases pendingOf? item with
  | none => simp
  | some pending =>
    cases session.table.globals.find? fun symbol =>
        decide (symbol.kind.space = space) && decide (symbol.name = name) <;>
      simp [Pending.place, List.find?_singleton]

theorem Taken.of_alike {before after : Session} (alike : before.Alike after) :
    Taken after = Taken before := by
  unfold Taken
  rw [alike.table]

/-- Items that can be declared are declared one behind the other. -/
theorem run_collect {items : List Item} {entry : Option Span} {session : Session}
    (gathers : Gathers entry (Taken session) items) :
    ∃ after, (collect entry items).run session = (items.filterMap pendingOf?, after) ∧
      (session.replay (items.flatMap gatherActs)).Alike after := by
  induction items generalizing entry session with
  | nil => exact ⟨session, rfl, .refl _⟩
  | cons item rest inductionHypothesis =>
    obtain ⟨⟨declarable, only, free⟩, others⟩ := gathers_cons.mp gathers
    obtain ⟨middle, run, alike⟩ := run_collectItem declarable only
      fun pending isPending => Classical.not_not.mp (free pending isPending)
    rw [← taken_gatherActs, ← Taken.of_alike alike] at others
    obtain ⟨after, runRest, alikeRest⟩ := inductionHypothesis others
    refine ⟨after, ?_, ?_⟩
    · have shape : (collect entry (item :: rest)).run session =
          (((collectItem entry item).run session).1.2.toList ++
            ((collect ((collectItem entry item).run session).1.1 rest).run
              ((collectItem entry item).run session).2).1,
          ((collect ((collectItem entry item).run session).1.1 rest).run
            ((collectItem entry item).run session).2).2) := rfl
      rw [shape, run, runRest, List.filterMap_cons]
      cases pendingOf? item <;> rfl
    · rw [List.flatMap_cons, Session.replay_append]
      exact (alike.replay _).trans alikeRest

/-- Items that are declared quietly can be declared. -/
theorem gathers_of_collect {items : List Item} {entry : Option Span} {session : Session}
    (quiet : ((collect entry items).run session).2.Quiet) :
    Gathers entry (Taken session) items := by
  induction items generalizing entry session with
  | nil => exact ⟨List.forall_mem_nil _, by cases entry <;> simp, List.nodup_nil, List.forall_mem_nil _⟩
  | cons item rest inductionHypothesis =>
    have shape : ((collect entry (item :: rest)).run session).2 =
        ((collect ((collectItem entry item).run session).1.1 rest).run
          ((collectItem entry item).run session).2).2 := rfl
    rw [shape] at quiet
    have quietItem := quiet.of_prefix (obeys_collect mayDeclare_free.mayCollect rest _ _ trivial).findings
    obtain ⟨declarable, only, free⟩ := declarable_of_collectItem quietItem
    obtain ⟨middle, run, alike⟩ := run_collectItem declarable only free
    rw [run] at quiet
    have others := inductionHypothesis quiet
    rw [Taken.of_alike alike, taken_gatherActs] at others
    exact gathers_cons.mpr
      ⟨⟨declarable, only, fun pending isPending => Classical.not_not.mpr (free pending isPending)⟩, others⟩

end Declare
end UnitCheck
