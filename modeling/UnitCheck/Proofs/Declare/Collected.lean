import UnitCheck.Proofs.Resolve.Written

/-!
# What a quiet first pass leaves

Where declaring ends without an error, every declaration of the unit is recorded
at its node and has been waited for, and the written types of constants and
statics have their meanings.
-/

namespace UnitCheck

/-- Items of globals declare something. -/
theorem header?_of_global {item : Item} {global : Typing.Global}
    (isGlobal : Typing.global? item = some global) : (Declare.header? item).isSome := by
  cases item with
  | const _ | static _ => rfl
  | _ => cases isGlobal

/-- The item of a global stands at the node of the global. -/
theorem node_of_global {item : Item} {global : Typing.Global}
    (isGlobal : Typing.global? item = some global) : item.span.node = global.node := by
  cases item with
  | const _ | static _ =>
    cases isGlobal
    rfl
  | _ => cases isGlobal

/-- The node of an item that declares a global is that of the global. -/
theorem ownNode_of_global {item : Item} {global : Typing.Global}
    (declares : Typing.global? item = some global) : item.ownNode = [global.node] := by
  cases item with
  | const _ | static _ =>
    cases declares
    rfl
  | _ => cases declares

/-- A declaration is recorded at the node. -/
def Declared (node : NodeId) (session : Session) : Prop :=
  (session.facts.decls.find? node).isSome

/-- A declaration may be replaced but is never lost. -/
theorem lasting_declared (node : NodeId) : Lasting (Declared node) := by
  intro act session holds
  cases act with
  | declares other symbol =>
    change (List.lookup node ((other, symbol) :: session.facts.decls)).isSome
    rw [List.lookup_cons]
    split
    · rfl
    · exact holds
  | _ => exact holds

theorem Declared.of_facts {node : NodeId} {before after : Session}
    (declared : Declared node before) (same : after.facts = before.facts) : Declared node after := by
  unfold Declared
  rw [same]
  exact declared

namespace Declare

/-- What is left when an item has been declared: its declaration, and the item is pending. -/
structure Collected (item : Item) (session : Session) (pending : List Pending) : Prop where
  declared : Declared item.span.node session
  pending : ∃ entry ∈ pending, entry.item = item

theorem ensures_recordDecl (node : NodeId) (symbol : Symbol) {pre : Session -> Prop} :
    Ensures pre (Check.recordDecl node symbol) fun session _ => Declared node session := by
  refine ⟨Check.obeys_recordDecl trivial, fun session _ _ => ?_⟩
  change (List.lookup node ((node, symbol) :: session.facts.decls)).isSome
  rw [List.lookup_cons_self]
  rfl

theorem ensures_declareGlobal (item : Item) (header : Header) :
    Ensures (fun _ => True) (declareGlobal item header)
      fun session pending => Collected item session pending.toList := by
  refine ⟨obeys_declareGlobal mayDeclare_free.mayCollect item header, fun session _ quiet => ?_⟩
  have refused {finding : Finding} {start : Session} (fatal : finding.isFatal = true)
      (quiet : ((Check.report finding >>= fun _ => pure (none : Option Pending)).run start).2.Quiet) :
      False :=
    Session.not_quiet_report fatal quiet
  unfold declareGlobal at quiet ⊢
  cases isNamed : header.name with
  | none =>
    rw [isNamed] at quiet
    exact (refused rfl quiet).elim
  | some name =>
    simp only [isNamed] at quiet ⊢
    split at quiet
    · exact (refused rfl quiet).elim
    · rename_i usable
      rw [if_neg usable]
      rw [StateT.run_bind] at quiet ⊢
      simp only [StateT.run_get, pure_bind] at quiet ⊢
      split at quiet
      · exact (refused rfl quiet).elim
      · rename_i error isOther declared
        unfold Table.declareGlobal at declared
        split at declared
        · cases declared
          exact absurd rfl (isOther _ _)
        · cases declared
      · rename_i table declared
        have rest : Ensures (fun _ => True) (do
            introduce item (symbolOf item header name)
            Check.say .green ("declared " ++ (symbolOf item header name).kind.text ++ " " ++
              (symbolOf item header name).name ++ "\n")
            Check.recordDecl item.span.node (symbolOf item header name)
            return some ⟨symbolOf item header name, item⟩)
            fun session pending => Collected item session pending.toList :=
          (Ensures.ofObeys (obeys_introduce mayDeclare_free.mayCollect item _)).bind fun _ =>
            (Ensures.ofObeys (Check.obeys_say fun _ => trivial)).bind fun _ =>
            (ensures_recordDecl _ _).bind fun _ => .stay fun _ declared =>
              ⟨declared, _, List.mem_cons_self, rfl⟩
        exact rest.ensures _ trivial quiet

theorem ensures_collectItem (entry : Option Span) (item : Item) :
    Ensures (fun _ => True) (collectItem entry item) fun session outcome =>
      (header? item).isSome → Collected item session outcome.2.toList := by
  cases found : header? item with
  | none =>
    refine (Ensures.ofObeys (obeys_collectItem mayDeclare_free.mayCollect entry item)).mono
      (fun _ holds => holds) fun _ _ _ isSome => ?_
    cases isSome
  | some header =>
    have same : collectItem entry item = (do return (entry, <- declareGlobal item header)) := by
      cases item <;> simp_all [collectItem, header?]
    rw [same]
    exact (ensures_declareGlobal item header).bind fun _ => .stay fun _ holds _ => holds

theorem Collected.mono {item : Item} {session : Session} {pending others : List Pending}
    (collected : Collected item session pending) (more : pending ⊆ others) :
    Collected item session others := by
  obtain ⟨entry, isEntry, same⟩ := collected.pending
  exact ⟨collected.declared, entry, more isEntry, same⟩

/-- What is left when items have been declared. -/
theorem ensures_collect (items : List Item) (entry : Option Span) :
    Ensures (fun _ => True) (collect entry items) fun session pending =>
      ∀ item ∈ items, (header? item).isSome → Collected item session pending := by
  induction items generalizing entry with
  | nil => exact .stay fun _ _ => List.forall_mem_nil _
  | cons item rest inductionHypothesis =>
    unfold collect
    refine (ensures_collectItem entry item).bind fun outcome => ?_
    -- what the first item has left stays while the others are declared
    have stays : Lasting fun session =>
        (header? item).isSome → Collected item session outcome.2.toList :=
      fun act session holds isSome =>
        ⟨lasting_declared _ act session (holds isSome).declared, (holds isSome).pending⟩
    refine (((inductionHypothesis outcome.1).keep stays).mono (fun _ holds => ⟨trivial, holds⟩)
      fun _ _ holds => holds).bind fun others => .stay fun session holds => ?_
    refine List.forall_mem_cons.mpr ⟨fun isSome => ?_, fun other isOther isSome => ?_⟩
    · exact (holds.2 isSome).mono (List.subset_append_left _ _)
    · exact (holds.1 other isOther isSome).mono (List.subset_append_right _ _)

/-- Constants and statics with a written type have that type's meaning. -/
theorem ensures_resolveSignature (pending : Pending) :
    Ensures (fun _ => True) (resolveSignature pending) fun session _ =>
      ∀ global ∈ Typing.global? pending.item, Written global.form.toList session := by
  have value (symbol : Symbol) (form : Option TypeForm) :
      Ensures (fun _ => True) (valueSignature symbol form)
        fun session _ => Written form.toList session := by
    cases form with
    | none => exact .stay fun _ _ => written_nil
    | some form =>
      refine ((Check.ensures_typeOf form).andThen (lasting_written _) fun type =>
        .ofObeys (Check.obeys_setType trivial)).mono (fun _ holds => holds) fun _ _ holds => holds.1
  have grows := obeys_resolveSignature mayDeclare_free.mayDefine.toMayInspect pending
    (fun _ => mayDeclare_free.mayLearn _) fun _ _ => trivial
  unfold resolveSignature at grows ⊢
  cases isItem : pending.item with
  | const decl =>
    exact (value pending.symbol decl.type).mono (fun _ holds => holds) fun _ _ holds global same => by
      cases same
      exact holds
  | static decl =>
    exact (value pending.symbol decl.type).mono (fun _ holds => holds) fun _ _ holds global same => by
      cases same
      exact holds
  | _ =>
    rw [isItem] at grows
    exact (Ensures.ofObeys grows).mono (fun _ holds => holds) fun _ _ _ global same => by cases same

/-- The written types of the constants and statics that are pending have their meanings. -/
theorem ensures_resolveSignatures (pending : List Pending) :
    Ensures (fun _ => True) (resolveSignatures pending) fun session _ => ∀ entry ∈ pending,
      ∀ global ∈ Typing.global? entry.item, Written global.form.toList session := by
  have lasting (entry : Pending) : Lasting fun session =>
      ∀ global ∈ Typing.global? entry.item, Written global.form.toList session :=
    fun act session holds global isGlobal => lasting_written _ act session (holds global isGlobal)
  refine .mono ((Ensures.ofObeys (obeys_resolveAliases mayDeclare_free.mayResolveAliases _
      (fun _ _ => mayDeclare_free.mayLearn _) ?_)).bind fun _ =>
    (Ensures.ofObeys (.forM _ fun entry _ =>
      obeys_defineType mayDeclare_free.mayDefine entry ?_)).bind fun _ =>
    (Ensures.ofObeys (obeys_cutRecursion mayDeclare_free.mayDefine pending)).bind fun _ =>
    .forM pending lasting fun entry _ => ensures_resolveSignature entry)
    (fun _ _ => trivial) fun _ _ holds => holds
  · exact fun _ _ _ _ => trivial
  · exact fun _ _ => trivial

/-- A quiet first pass has declared every item that declares something, and the written
types of constants and statics have their meanings. -/
theorem collected_walk {session : Session} (quiet : (session.after walk).Quiet) :
    ∀ item ∈ session.items, (header? item).isSome →
      Declared item.span.node (session.after walk) ∧
        ∀ global ∈ Typing.global? item, Written global.form.toList (session.after walk) := by
  have ensures (items : List Item) : Ensures (fun _ => True) (do
      let pending <- collect none items
      resolveSignatures pending) fun after _ => ∀ item ∈ items, (header? item).isSome →
        Declared item.span.node after ∧
          ∀ global ∈ Typing.global? item, Written global.form.toList after := by
    refine (ensures_collect items none).bind fun pending => ?_
    have stays : Lasting fun session => ∀ item ∈ items, (header? item).isSome →
        Collected item session pending := fun act session holds item isItem isSome =>
      ⟨lasting_declared _ act session (holds item isItem isSome).declared,
        (holds item isItem isSome).pending⟩
    refine ((ensures_resolveSignatures pending).keep stays).mono (fun _ holds => ⟨trivial, holds⟩) ?_
    rintro after _ ⟨written, collected⟩ item isItem isSome
    obtain ⟨declared, entry, isEntry, rfl⟩ := collected item isItem isSome
    exact ⟨declared, written entry isEntry⟩
  have items : ((declareIntrinsics 0 intrinsics).run session).2.items = session.items :=
    (obeys_declareIntrinsics mayDeclare_free.mayCollect 0 intrinsics session trivial).items
  have split : session.after walk = ((do
      let pending <- collect none session.items
      resolveSignatures pending : Check Unit).run
        ((declareIntrinsics 0 intrinsics).run session).2).2 := by
    rw [← items, Session.after, walk, StateT.run_bind]
    generalize (declareIntrinsics 0 intrinsics).run session = started
    rfl
  rw [split] at quiet ⊢
  exact (ensures session.items).ensures _ trivial quiet

end Declare
end UnitCheck
