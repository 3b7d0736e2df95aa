import Mathlib.Algebra.Module.Submodule.Lattice
import Mathlib.Data.List.Perm.Subperm
import Mathlib.Data.List.Permutation
import UnitCheck.Proofs.Declare.Aliases
import UnitCheck.Proofs.Session.Lockstep
import UnitCheck.Proofs.Tree.Distinct

/-!
# The types of aliases

Behind the first pass every declared alias has a type. A cyclic alias has been reported just
where the graph of aliases has a cycle, and an alias from which no cycle can be reached has
the full expansion of its target as its type, in whatever order the unit declares its types.
-/

namespace UnitCheck

/-- The type that a name has been found to stand for. -/
def Session.nameType? (session : Session) (name : String) : Option Ty :=
  (session.table.resolveType? name).bind fun symbol => (session.knownOf symbol.id).type

/-- The code of cyclic aliases is used for nothing else. -/
theorem Finding.code_diagnostic_iff (finding : Finding) (file : String) :
    (finding.diagnostic file).code = "F0003" ↔ finding.isCyclicAlias = true := by
  cases finding with
  | fieldAccess span problem =>
    simp only [diagnostic, fieldAccessDiagnostic]
    split <;> simp [error, isCyclicAlias]
  | missingInitializer span what =>
    cases what <;> simp [diagnostic, missingInitializerDiagnostic, error, isCyclicAlias]
  | duplicateTerminator span what =>
    cases what <;> simp [diagnostic, Terminator.code, error, isCyclicAlias]
  | _ => simp [diagnostic, error, bug, isCyclicAlias]

namespace Declare

variable {items : List Item} {all : List DeclaredAlias} {before after : Session}

/-! ### Behind the aliases -/

/-- What is done behind the aliases: the table stays, nothing is found out about types that
are declared, and no cycle is reported. -/
def finishing (items : List Item) : Regime where
  holds _ := True
  permits
    | .report finding => finding.isCyclicAlias = false
    | .knows id _ | .settles id _ => ∀ name item, typeNamed? items name = some item →
      id ≠ .node item.span.node
    | .global _ | .locals _ _ => False
    | _ => True
  stable _ _ _ _ := trivial

theorem mayDefine_finishing : MayDefine (finishing items) fun _ => True where
  unknownType _ := rfl
  written _ _ _ := trivial
  refers _ _ _ := trivial
  report _ _ isOther _ := isOther
  recursion finding isRecursion := by
    change finding.isCyclicAlias = false
    cases finding <;> first | rfl | cases isRecursion
  struct _ _ := trivial
  enum _ _ := trivial

/-- What is pending is an item with the symbol of its node. -/
theorem id_of_collectItem (entry : Option Span) (item : Item) (session : Session) :
    ∀ pending ∈ ((collectItem entry item).run session).1.2,
      pending.item = item ∧ pending.symbol.id = .node item.span.node := by
  intro pending isPending
  refine ⟨item_of_collectItem entry item session pending isPending, ?_⟩
  unfold collectItem at isPending
  split at isPending
  · split at isPending <;> cases isPending
  · cases isPending
  · cases isPending
  · cases isPending
  · split at isPending
    · rename_i header isHeader
      have outcome := declares_declareGlobal isHeader session
      change pending ∈ ((declareGlobal item header).run session).1 at isPending
      generalize (declareGlobal item header).run session = result at outcome isPending
      obtain ⟨found, between⟩ := result
      cases outcome with
      | enters name _ isNamed =>
        cases isPending
        exact id_symbolOf item header name
      | _ => cases isPending
    · cases isPending

theorem id_of_collect (rest : List Item) (entry : Option Span) (session : Session) :
    ∀ pending ∈ ((collect entry rest).run session).1,
      pending.item ∈ rest ∧ pending.symbol.id = .node pending.item.span.node := by
  induction rest generalizing entry session with
  | nil => exact List.forall_mem_nil _
  | cons item rest inductionHypothesis =>
    intro pending isPending
    change pending ∈ ((collectItem entry item).run session).1.2.toList ++
      ((collect ((collectItem entry item).run session).1.1 rest).run
        ((collectItem entry item).run session).2).1 at isPending
    obtain isFirst | isLater := List.mem_append.mp isPending
    · obtain ⟨rfl, own⟩ := id_of_collectItem entry item session pending (Option.mem_toList.mp isFirst)
      exact ⟨List.mem_cons_self, own⟩
    · obtain ⟨isItem, own⟩ := inductionHypothesis _ _ pending isLater
      exact ⟨List.mem_cons_of_mem _ isItem, own⟩

/-- What is signed stands at a node of its own. -/
theorem node_mem_sites_of_isSigned {item : Item} (isSigned : item.isSigned = true) :
    item.span.node ∈ item.sites := by
  cases item with
  | function | asm | const | static => simp [Item.sites, Item.ownNode, Item.span]
  | _ => cases isSigned

/-- A function or a value has a node that no type is declared at. -/
theorem mayLearn_finishing (distinct : (items.flatMap Item.sites).Nodup) {pending : Pending}
    (isItem : pending.item ∈ items) (own : pending.symbol.id = .node pending.item.span.node)
    (isSigned : pending.item.isSigned = true) : MayLearn (finishing items) pending.symbol.id := by
  have apart (name : String) (item : Item) (means : typeNamed? items name = some item) :
      pending.symbol.id ≠ .node item.span.node := by
    intro same
    obtain ⟨isDeclared, declares⟩ := declares_of_typeNamed? means
    have node : pending.item.span.node = item.span.node := SymbolId.node.inj (own.symm.trans same)
    have sameItem : pending.item = item := Item.eq_of_mem_nodes distinct isItem isDeclared
      (node_mem_sites_of_isSigned isSigned)
      (node ▸ Item.node_mem_sites_of_declaresType declares)
    rw [sameItem] at isSigned
    have named := (Item.declaresType_iff.mp declares).1
    cases item <;> first | cases named | cases isSigned
  exact ⟨fun _ => apart, fun _ => apart⟩

/-- What follows the aliases leaves what is known of declared types. -/
theorem knownOf_finishing {name : String} {item : Item} (means : typeNamed? items name = some item)
    (trace : Trace (finishing items).permits before after) :
    after.knownOf (.node item.span.node) = before.knownOf (.node item.span.node) := by
  have kept (act : Act) (session : Session) (permitted : (finishing items).permits act) :
      (act.apply session).knownOf (.node item.span.node) =
        session.knownOf (.node item.span.node) := by
    rw [Act.knownOf_apply]
    cases act with
    | knows id _ => exact if_neg fun same => permitted name item means (Option.some.inj same)
    | settles id _ => exact if_neg fun same => permitted name item means (Option.some.inj same)
    | _ => rfl
  exact @Trace.keeps _ _ _ trace _ (·.knownOf (.node item.span.node)) kept

theorem table_finishing (trace : Trace (finishing items).permits before after) :
    after.table = before.table :=
  trace.keeps fun act _ permitted => by
    cases act <;> first | rfl | exact permitted.elim

/-- What follows the aliases leaves them as they are. -/
theorem Progress.finish {settled : List SymbolId} (progress : Progress items all settled before)
    (register : Register items all) (trace : Trace (finishing items).permits before after) :
    Progress items all settled after := by
  refine progress.congr register (table_finishing trace)
    (fun name item means => knownOf_finishing means trace) ?_
  · have kept (act : Act) (session : Session) (permitted : (finishing items).permits act)
        (earlier : session.ReportsCycle → before.ReportsCycle)
        (reported : (act.apply session).ReportsCycle) : before.ReportsCycle := by
      cases act with
      | report finding =>
        refine earlier ((reportsCycle_report.mp reported).resolve_right fun isCycle => ?_)
        rw [show finding.isCyclicAlias = false from permitted] at isCycle
        cases isCycle
      | _ => exact earlier reported
    exact ⟨trace.preserves kept id,
      fun ⟨finding, isFinding, isCycle⟩ => ⟨finding, trace.findings.subset isFinding, isCycle⟩⟩

/-! ### The first pass -/

/-- The intrinsics are no types. -/
theorem gathered_intrinsics {unit : Option Module} {options : Options} {session : Session}
    (alike : (Session.start unit options).Alike session) :
    Gathered [] (session.after (declareIntrinsics 0 intrinsics)) := by
  rw [alike.same]
  refine gathered_nil rfl (fun symbol isGlobal => ?_) ?_
  · have functions : (((Session.start unit options).after
        (declareIntrinsics 0 intrinsics)).table.globals.all (·.kind.space ≠ .type)) = true := rfl
    simpa using List.all_eq_true.mp functions symbol isGlobal
  · rintro ⟨finding, isFinding, -⟩
    cases isFinding

/-- The first pass settles all declared aliases. -/
theorem progress_declared {unit : Module} (distinct : (unit.items.flatMap Item.sites).Nodup)
    (options : Options) : ∃ all settled, Register unit.items all ∧
      Progress unit.items all settled ((Session.start (some unit) options).step .declare) ∧
      ∀ entry ∈ all, entry.symbol.id ∈ settled := by
  have started : (Session.start (some unit) options).Alike (.start (some unit) options) := ⟨rfl⟩
  obtain ⟨gathered, lists⟩ := collects_collect unit.items none (gathered_intrinsics started) distinct
  have pendings := id_of_collect unit.items none
    ((Session.start (some unit) options).after (declareIntrinsics 0 intrinsics))
  have isUnit : (Session.start (some unit) options).items = unit.items := rfl
  have split := after_walk_eq _ isUnit
  generalize (collect none unit.items).run ((Session.start (some unit) options).after
    (declareIntrinsics 0 intrinsics)) = collected at gathered lists pendings split
  obtain ⟨pending, middle⟩ := collected
  have register : Register unit.items (aliases pending) := lists.register distinct
  obtain ⟨settled, progress, all⟩ := progress_resolveAliases register gathered
  have finish : (finishing unit.items).Obeys (do
      pending.forM defineType
      cutRecursion pending
      pending.forM resolveSignature) :=
    .bind (.forM _ fun entry _ => obeys_defineType mayDefine_finishing entry fun _ _ => trivial)
      fun _ => .bind (obeys_cutRecursion mayDefine_finishing pending) fun _ =>
      .forM _ fun entry isEntry => obeys_resolveSignature mayDefine_finishing.toMayInspect entry
        (mayLearn_finishing distinct (pendings entry isEntry).1 (pendings entry isEntry).2)
        fun _ _ => trivial
  have finished := progress.finish register (finish _ trivial)
  have ready : (Session.start (some unit) options).passes.missing .declare = [] := rfl
  have alike := (run_pass ready rfl).1
  rw [Pass.walk_declare, split] at alike
  refine ⟨_, settled, register, finished.congr register alike.table (fun _ _ _ => ?_) ?_, all⟩
  · unfold Session.knownOf Session.step
    exact congrArg (fun known => (List.lookup _ known).getD (.ofType none)) alike.known
  · unfold Session.ReportsCycle
    rw [show ((Session.start (some unit) options).step .declare).findings = _ from alike.findings]
    rfl

/-- A name that means a declared type has the type known of the declaration. -/
theorem Means.nameType?_eq {session : Session} {name : String} {item : Item}
    (means : Means items session) (meant : typeNamed? items name = some item) :
    session.nameType? name = (session.knownOf (.node item.span.node)).type := by
  have types := means.types name
  rw [meant, Option.map_some, Option.map_eq_some_iff] at types
  obtain ⟨symbol, resolved, id⟩ := types
  rw [Session.nameType?, resolved, Option.bind_some, id]

/-- Whether a cycle is reported shows in the diagnostics. -/
theorem reportsCycle_iff_code (session : Session) :
    session.ReportsCycle ↔ ∃ diagnostic ∈ session.bag.diagnostics, diagnostic.code = "F0003" := by
  simp only [Session.ReportsCycle, Session.bag, List.mem_map, exists_exists_and_eq_and,
    Finding.code_diagnostic_iff]

variable {file text : String} {unit : Module}

/-- Behind the first pass over a decoded unit, with its items in any order, every declared
alias has a type. A cyclic alias is reported just where along the names in targets an alias
comes back to itself. An alias from which no such alias can be reached has the full expansion
of its target as its type. -/
theorem aliases_expand (read : Module.decode file text = .ok unit) (items : List Item)
    (order : items.Perm unit.items) (options : Options) :
    let session := (Session.start (some { unit with items := items }) options).step .declare
    (∀ name, IsAlias items name → (session.nameType? name).isSome) ∧
      ((∃ diagnostic ∈ session.bag.diagnostics, diagnostic.code = "F0003") ↔
        ∃ name, AliasCycle items name) ∧
      ∀ name decl target, typeNamed? items name = some (.typeAlias decl) →
        decl.target = some target → Unwinds items name →
        ∃ type, session.nameType? name = some type ∧
          ∀ other, Expands items target other ↔ other = type := by
  intro session
  have distinct : (items.flatMap Item.sites).Nodup :=
    (order.flatMap_right Item.sites).nodup_iff.mpr (Module.nodup_sites read)
  obtain ⟨all, settled, register, progress, isSettled⟩ :=
    @progress_declared { unit with items := items } distinct options
  have known {name : String} {decl : AliasDecl}
      (means : typeNamed? items name = some (.typeAlias decl)) : ∃ entry ∈ all,
        entry.symbol.name = name ∧
          session.nameType? name = (session.knownOf entry.symbol.id).type := by
    obtain ⟨entry, isEntry, rfl⟩ := register.complete name decl means
    refine ⟨entry, isEntry, rfl, ?_⟩
    rw [progress.means.nameType?_eq (register.sound entry isEntry), register.node entry isEntry]
    rfl
  refine ⟨fun name ⟨decl, means⟩ => ?_, ?_, fun name decl target means isTarget unwinds => ?_⟩
  · obtain ⟨entry, isEntry, -, same⟩ := known means
    rw [same]
    exact progress.typed entry isEntry (isSettled entry isEntry)
  · rw [← reportsCycle_iff_code]
    refine ⟨progress.blamed, fun ⟨name, cycle⟩ => ?_⟩
    by_contra silent
    -- without a report the settled aliases, and so all of them, are in order
    obtain ⟨other, mentions, -⟩ := Relation.TransGen.head'_iff.mp cycle
    obtain ⟨decl, target, means, -⟩ := mentions
    obtain ⟨entry, isEntry, rfl⟩ := register.complete name decl means
    exact (progress.ordered silent).not_cycle register isEntry (isSettled entry isEntry) cycle
  · obtain ⟨entry, isEntry, rfl, same⟩ := known means
    obtain ⟨type, isType, expands⟩ :=
      progress.expanded entry isEntry (isSettled entry isEntry) unwinds
    have target := expands.target means isTarget
    refine ⟨type, same.trans isType, fun other => ⟨fun expandsOther => ?_, ?_⟩⟩
    · exact expandsOther.unique target
    · rintro rfl
      exact target

/-- A unit with an alias that names another one, which is declared behind it. -/
def chainUnit : Module :=
  ⟨"unit", [
    .typeAlias ⟨[], some ⟨"A", .ofLine 6 7⟩,
      some (.pointer (.named "B" (.ofLine 13 14)) (.ofLine 8 15)), .ofLine 0 16⟩,
    .typeAlias ⟨[], some ⟨"B", .ofLine 23 24⟩, some (.named "s32" (.ofLine 25 28)),
      .ofLine 17 29⟩], some (.ofLine 0 29)⟩

/-- With the declarations in the other order as well, no cycle is reported, and the type of
the first alias is the expansion of its target: a pointer to an integer. -/
theorem aliases_expand_chain :
    Module.decode "unit" "(type A (ptr B)) (type B s32)" = .ok chainUnit ∧
      let session := (Session.start
        (some { chainUnit with items := chainUnit.items.reverse }) .standard).step .declare
      (¬∃ diagnostic ∈ session.bag.diagnostics, diagnostic.code = "F0003") ∧
        Unwinds chainUnit.items.reverse "A" ∧
        session.nameType? "A" = some (.pointer (.prim .s32)) ∧
        Expands chainUnit.items.reverse (.pointer (.named "B" (.ofLine 13 14)) (.ofLine 8 15))
          (.pointer (.prim .s32)) := by
  have read : Module.decode "unit" "(type A (ptr B)) (type B s32)" = .ok chainUnit :=
    Module.decode_chars (by cbv)
  obtain ⟨-, cycles, expand⟩ :=
    aliases_expand read chainUnit.items.reverse (List.reverse_perm _) .standard
  have quiet : ¬∃ diagnostic ∈ ((Session.start
      (some { chainUnit with items := chainUnit.items.reverse }) .standard).step
        .declare).bag.diagnostics, diagnostic.code = "F0003" := by
    decide +kernel
  have unwinds : Unwinds chainUnit.items.reverse "A" :=
    fun other _ cycle => quiet (cycles.mpr ⟨other, cycle⟩)
  have isType : ((Session.start (some { chainUnit with items := chainUnit.items.reverse })
      .standard).step .declare).nameType? "A" = some (.pointer (.prim .s32)) := by
    decide +kernel
  obtain ⟨type, same, expands⟩ := expand "A" _ _ rfl rfl unwinds
  cases isType.symm.trans same
  exact ⟨read, quiet, unwinds, isType, (expands _).mpr rfl⟩

end Declare
end UnitCheck
