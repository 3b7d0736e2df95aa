import UnitCheck.Proofs.Resolve.Lockstep
import UnitCheck.Proofs.Session.Spelling
import UnitCheck.Proofs.Typing.Isolation

/-!
# Checks of a unit in two spellings

Every pass over a unit and over the same unit respelled stays in step: from sessions that
keep the same for all nodes of the unit and whose findings bear the same stamps it ends in
such sessions. Where only literals are respelled whose spelling nobody looks at, the checks
therefore end with the same codes and with the same types for all nodes.
-/

namespace UnitCheck

open Finding (stamps stamps_append stamps_flatMap)

/-- What checking a unit looks at, meets and writes to: the nodes of its items. -/
def Outlook.unit (items : List Item) : Outlook where
  inside node := node ∈ items.flatMap Item.sites
  visible node := node ∈ items.flatMap Item.sites
  owns node := node ∈ items.flatMap Item.sites
  steady _ := True
  inside_of_visible _ := id
  inside_of_owns _ := id
  steady_of_owns _ _ := trivial

/-- The sessions of a unit in two spellings keep the same for all its nodes, and what has
been found in them bears the same stamps. -/
structure Respelt (items : List Item) (one other : Session) : Prop where
  agree : Agree (.unit items) one other
  enclosed : Enclosed (.unit items) one
  checked : one.checked = other.checked
  stamps : stamps one.findings = stamps other.findings

namespace Respelt

variable {items : List Item} {one other after last : Session}

theorem act {act : Act} (respelt : Respelt items one other)
    (permitted : (Outlook.unit items).Permits act) :
    Respelt items (act.apply one) (act.apply other) where
  agree := respelt.agree.act permitted
  enclosed := respelt.enclosed.act permitted
  checked := by
    cases act <;> first | exact respelt.checked | exact permitted.elim
  stamps := by
    cases act with
    | report finding => simp only [Act.apply, stamps_append, respelt.stamps]
    | _ => exact respelt.stamps

/-- What happens between walks does not show. -/
theorem alike (respelt : Respelt items one other) (shown : one.Alike after)
    (shownOther : other.Alike last) : Respelt items after last where
  agree := respelt.agree.showsAs shown.showsAs shownOther.showsAs
  enclosed := respelt.enclosed.showsAs shown.showsAs
  checked := by
    rw [shown.same, shownOther.same]
    exact respelt.checked
  stamps := by
    rw [shown.findings, shownOther.findings]
    exact respelt.stamps

/-- The nodes of the unit have the same types. -/
theorem exprs (respelt : Respelt items one other) {node : NodeId}
    (isSite : node ∈ items.flatMap Item.sites) :
    one.facts.exprs.find? node = other.facts.exprs.find? node :=
  congrArg Entry.expr (respelt.agree.entries node isSite)

/-- Both sessions find something more that bears the same stamps. -/
theorem report (respelt : Respelt items one other) {found foundOther : List Finding}
    (same : Finding.stamps found = Finding.stamps foundOther) :
    Respelt items { one with findings := one.findings ++ found }
      { other with findings := other.findings ++ foundOther } where
  agree := respelt.agree.showsAs ⟨rfl⟩ ⟨rfl⟩
  enclosed := respelt.enclosed.showsAs ⟨rfl⟩
  checked := respelt.checked
  stamps := by
    rw [stamps_append, stamps_append, respelt.stamps, same]

end Respelt

/-- The sessions of a unit in two spellings. -/
def Pairing.respelt (items : List Item) : Pairing (.unit items) where
  alike := Respelt items
  agree respelt := respelt.agree
  enclosed respelt := respelt.enclosed
  act respelt permitted := respelt.act permitted

section Pairing

variable {base : Module}

/-- A choice of literals of the unit is tolerated. -/
theorem Respelling.tolerates (respelling : Respelling base) :
    (Pairing.respelt base.items).Tolerates respelling.spell where
  anchored := respelling.anchored
  report {one other finding found} respelt same _ := by
    have stamps : Finding.stamps [finding] = Finding.stamps [found] := congrArg ([·]) same
    exact respelt.report stamps
  number {one other value spelling} type respelt isSpelled := by
    have apart := respelling.fresh value spelling isSpelled
    refine ⟨⟨respelt.agree.file, respelt.agree.options, respelt.agree.globals,
      respelt.agree.locals, respelt.agree.frames, respelt.agree.known, fun node inside => ?_⟩,
      respelt.enclosed, respelt.checked, respelt.stamps⟩
    rw [Act.entry_apply, if_neg, respelt.agree.entries node inside]
    rintro ⟨⟩
    exact apart inside

theorem counts_respelt (items : List Item) : (Pairing.respelt items).Counts where
  checked respelt node := by rw [respelt.checked]
  mark node respelt :=
    ⟨respelt.agree.showsAs ⟨rfl⟩ ⟨rfl⟩, respelt.enclosed.showsAs ⟨rfl⟩,
      congrArg (node :: ·) respelt.checked, respelt.stamps⟩

theorem mayDeclareAlike_respelt (items : List Item) :
    Declare.MayDeclareAlike (Pairing.respelt items) where
  global symbol respelt proper :=
    ⟨respelt.agree.global symbol, respelt.enclosed.global proper, respelt.checked, respelt.stamps⟩
  builtin number known respelt within :=
    ⟨respelt.agree.builtin number known, respelt.enclosed.builtin number within, respelt.checked,
      respelt.stamps⟩

end Pairing

/-! ### Declaring -/

namespace Declare

variable {outlook : Outlook} {pairing : Pairing outlook} {spell : Literal -> Option Spelling}

section Collect

variable (tolerates : pairing.Tolerates spell)

include tolerates

/-- A stray statement is refused in either spelling, though it may end elsewhere. -/
theorem respelled_collectStray (entry : Option Span) (stmt : Stmt) :
    pairing.InStep
      (Prod.map id (Option.map (Pending.change (Item.respell spell))) <$>
        collectItem entry (.stray stmt))
      (collectItem entry (.stray (stmt.respell spell)))
      fun found => ∀ pending ∈ found.2, OwnedPending outlook pending := by
  have nothing : ∀ pending ∈ (none : Option Pending), OwnedPending outlook pending :=
    fun _ impossible => by cases impossible
  have refused : pairing.InStep (Check.report (.malformed stmt.span .notDeclaration))
      (Check.report (.malformed (stmt.respell spell).span .notDeclaration)) fun _ => True := by
    intro one other alike
    refine ⟨rfl, trivial, tolerates.report alike rfl fun isNone => ?_⟩
    rw [isNone, Stmt.respell_none]
  cases stmt with
  | block body span =>
    simp only [Stmt.respell, collectItem, skipNestedAll_respell, map_bind, map_pure]
    exact .bind (steps_skipNestedAll body) fun _ _ => .pure nothing
  | bad span =>
    simp only [Stmt.respell, collectItem, map_bind, map_pure]
    exact .bind (Pairing.steps_report _) fun _ _ => .pure nothing
  | _ =>
    simp only [Stmt.respell] at refused
    simp only [Stmt.respell, collectItem, map_bind, map_pure]
    exact .bind refused fun _ _ => .pure nothing

variable (may : MayDeclareAlike pairing)

include may

theorem respelled_collectItem (entry : Option Span) {item : Item}
    (owned : item.ownNode ≠ [] → Owned outlook item) :
    pairing.InStep
      (Prod.map id (Option.map (Pending.change (Item.respell spell))) <$>
        collectItem entry item)
      (collectItem entry (item.respell spell))
      fun found => ∀ pending ∈ found.2, OwnedPending outlook pending := by
  have respelled : item.ownNode ≠ [] → Owned outlook (item.respell spell) := by
    intro declares
    obtain ⟨visible, owns, forms, called⟩ := owned declares
    cases item <;> first | exact ⟨visible, owns, forms, called⟩ | exact (declares rfl).elim
  have declared {header : Header} (declares : header? item = some header) :
      pairing.InStep
        (Prod.map id (Option.map (Pending.change (Item.respell spell))) <$>
          collectItem entry item)
        (collectItem entry (item.respell spell))
        fun found => ∀ pending ∈ found.2, OwnedPending outlook pending := by
    rw [← collectItem_change unseen_respell declares]
    refine steps_collectItem may entry fun _ => respelled ?_
    cases item <;> cases declares <;> exact List.cons_ne_nil _ _
  cases item with
  | stray stmt => exact respelled_collectStray tolerates entry stmt
  | entry decl =>
    simp only [Item.respell, collectItem]
    cases entry with
    | none => exact .pure fun _ impossible => by cases impossible
    | some first =>
      simp only [map_bind, map_pure]
      exact .bind (Pairing.steps_report _) fun _ _ => .pure fun _ impossible => by cases impossible
  | _ => exact declared rfl

theorem respelled_collect (items : List Item)
    (owned : ∀ item ∈ items, item.ownNode ≠ [] → Owned outlook item) (entry : Option Span) :
    pairing.InStep
      (List.map (Pending.change (Item.respell spell)) <$> collect entry items)
      (collect entry (items.map (Item.respell spell)))
      fun found => ∀ pending ∈ found, OwnedPending outlook pending := by
  induction items generalizing entry with
  | nil => exact .pure (List.forall_mem_nil _)
  | cons item rest inductionHypothesis =>
    obtain ⟨itemOwned, restOwned⟩ := List.forall_mem_cons.mp owned
    have later := inductionHypothesis restOwned
    have first := respelled_collectItem tolerates may entry itemOwned
    have split : List.map (Pending.change (Item.respell spell)) <$>
        collect entry (item :: rest) = (do
          let found <- Prod.map id (Option.map (Pending.change (Item.respell spell))) <$>
            collectItem entry item
          let others <- List.map (Pending.change (Item.respell spell)) <$>
            collect found.1 rest
          return found.2.toList ++ others) := by
      simp only [collect, bind_map_left, map_bind, map_pure, List.map_append, Option.toList_map,
        Prod.map, id]
    rw [split]
    refine .bind first fun found holds => .bind (later found.1) fun others othersHold =>
      .pure (List.forall_mem_append.mpr ⟨fun pending isPending => ?_, othersHold⟩)
    exact holds pending (Option.mem_toList.mp isPending)

/-- Declaring the items of a unit stays in step with declaring them respelled. -/
theorem respelled_walkOver (items : List Item)
    (owned : ∀ item ∈ items, item.ownNode ≠ [] → Owned outlook item)
    (called : ∀ intrinsic ∈ intrinsics, outlook.calls intrinsic.name)
    (ownsVisible : ∀ id, outlook.visible id → outlook.owns id) :
    pairing.InStep (walkOver items) (walkOver (items.map (Item.respell spell)))
      fun _ => True := by
  have changed : walkOver items = (do
      declareIntrinsics 0 intrinsics
      resolveSignatures (<- List.map (Pending.change (Item.respell spell)) <$>
        collect none items)) := by
    unfold walkOver
    simp only [bind_map_left, resolveSignatures_change unseen_respell]
  rw [changed]
  exact .bind (steps_declareIntrinsics may 0 intrinsics (fun _ => id) called) fun _ _ =>
    .bind (respelled_collect tolerates may items owned none) fun pending owned =>
    steps_resolveSignatures ownsVisible pending owned

end Collect
end Declare

/-! ### The passes -/

namespace Respelling

variable {base : Module} (respelling : Respelling base)

/-- The unit in the other spelling. -/
def other : Module := base.respell respelling.spell

theorem items_other : respelling.other.items = base.items.map (Item.respell respelling.spell) :=
  rfl

omit respelling in
theorem site_of_mem {item : Item} (isItem : item ∈ base.items) {node : NodeId}
    (isSite : node ∈ item.sites) : node ∈ base.items.flatMap Item.sites :=
  List.mem_flatMap.mpr ⟨item, isItem, isSite⟩

omit respelling in
theorem own_of_mem {item : Item} (isItem : item ∈ base.items) :
    (Outlook.unit base.items).Anchors item := by
  intro node isOwn
  refine ⟨site_of_mem isItem ?_, trivial⟩
  rw [Item.sites_eq]
  exact List.mem_append_left _ isOwn

omit respelling in
theorem inner_of_mem {item : Item} (isItem : item ∈ base.items) :
    ∀ node ∈ item.inner, (Outlook.unit base.items).owns node := by
  intro node isInner
  refine site_of_mem isItem ?_
  rw [Item.sites_eq]
  exact List.mem_append_right _ isInner

section Walks

variable {one last : Session} (isUnit : one.items = base.items)
  (isOther : last.items = respelling.other.items) (respelt : Respelt base.items one last)

include isUnit isOther respelt

theorem declare : Respelt base.items (one.after Declare.walk) (last.after Declare.walk) := by
  have owned : ∀ item ∈ base.items, item.ownNode ≠ [] →
      Declare.Owned (Outlook.unit base.items) item := by
    intro item isItem declares
    have isOwn : item.span.node ∈ item.ownNode := by
      cases item <;> simp [Item.ownNode] at declares ⊢
    have isSite := (own_of_mem isItem _ isOwn).1
    refine ⟨isSite, isSite, fun node isForm => inner_of_mem isItem node ?_, fun _ _ _ _ => trivial⟩
    exact List.mem_append_right _ isForm
  have inStep := Declare.respelled_walkOver respelling.tolerates
    (mayDeclareAlike_respelt base.items) base.items owned (fun _ _ => trivial) fun _ => id
  rw [Declare.after_walk, Declare.after_walk, Declare.walkOver_bare, Declare.walkOver_bare, isUnit,
    isOther]
  exact (inStep one last respelt).2.2

theorem scope : Respelt base.items (one.after Resolve.walk) (last.after Resolve.walk) := by
  have same : base.items.forM Resolve.resolveItem =
      respelling.other.items.forM Resolve.resolveItem := by
    have mapped : respelling.other.items.forM Resolve.resolveItem =
        base.items.forM (Resolve.resolveItem ∘ Item.respell respelling.spell) :=
      List.forM_map (m := Check)
    have unseen : Resolve.resolveItem ∘ Item.respell respelling.spell = Resolve.resolveItem :=
      funext Resolve.resolveItem_respell
    rw [mapped, unseen]
  have inStep : (Pairing.respelt base.items).Steps (do
      base.items.forM Resolve.resolveItem
      let depth := (<- get).table.depth
      if depth ≠ 0 then Check.report (.scopesLeftOpen depth)) fun _ => True :=
    .bind (.forM _ fun item isItem => Resolve.steps_resolveItem trivial item (own_of_mem isItem)
      (fun node isLocal => inner_of_mem isItem node (item.locals_subset_inner isLocal))
      (inner_of_mem isItem) fun _ _ _ _ _ _ => ⟨trivial, fun _ => trivial⟩) fun _ _ => Resolve.steps_closing
  have walks (session : Session) : session.after Resolve.walk = session.after (do
      session.items.forM Resolve.resolveItem
      let depth := (<- get).table.depth
      if depth ≠ 0 then Check.report (.scopesLeftOpen depth)) := rfl
  rw [walks, walks, isUnit, isOther, ← same]
  exact (inStep one last respelt).2.2

omit isUnit isOther in
/-- Typing the globals and then the bodies stays in step. -/
theorem typeItems :
    Respelt base.items
      ((one.after (Typing.typeGlobals base.items)).after (Typing.typeBodies base.items))
      ((last.after (Typing.typeGlobals respelling.other.items)).after
        (Typing.typeBodies respelling.other.items)) := by
  have owned : ∀ global ∈ Typing.globals base.items,
      Typing.OwnedGlobal (Outlook.unit base.items) global := by
    intro global isGlobal
    obtain ⟨item, isItem, declares⟩ := List.mem_filterMap.mp isGlobal
    exact .of_item declares fun _ => site_of_mem isItem
  have spares : ∀ global ∈ Typing.globals base.items, ∀ expr ∈ global.value,
      expr.Spares respelling.spell := by
    intro global isGlobal expr isValue
    obtain ⟨item, isItem, declares⟩ := List.mem_filterMap.mp isGlobal
    refine (respelling.spares item isItem).value ?_
    cases item <;> cases declares <;> exact Option.mem_toList.mpr isValue
  have steady (symbol : Symbol) (_ : (Outlook.unit base.items).Proper symbol) :
      (Outlook.unit base.items).steady symbol.id := trivial
  have mapped (visit : Item -> Check Unit) :
      respelling.other.items.forM visit = base.items.forM (visit ∘ Item.respell respelling.spell) :=
    List.forM_map (m := Check)
  have founds {item : Item} (isItem : item ∈ base.items) :
      ∀ node ∈ item.founds, (Outlook.unit base.items).owns node := by
    intro node isFound
    exact site_of_mem isItem (Item.of_mem_founds isFound).1
  have globals : (Pairing.respelt base.items).InStep (Typing.typeGlobals base.items)
      (Typing.typeGlobals respelling.other.items) fun _ => True := by
    unfold Typing.typeGlobals
    rw [mapped, respelling.items_other, Typing.globals_respell]
    exact .forM _ fun item isItem =>
      Typing.respelled_checkGlobalItem (counts_respelt base.items) respelling.tolerates owned steady
        spares item (fun global declares => List.mem_filterMap.mpr ⟨item, isItem, declares⟩)
        (own_of_mem isItem) (founds isItem) (respelling.spares item isItem)
  have bodies : (Pairing.respelt base.items).InStep (Typing.typeBodies base.items)
      (Typing.typeBodies respelling.other.items) fun _ => True := by
    unfold Typing.typeBodies
    rw [mapped, respelling.items_other, Typing.globals_respell]
    exact .forM _ fun item isItem =>
      Typing.respelled_checkBodyItem (counts_respelt base.items) respelling.tolerates owned steady
        spares item (own_of_mem isItem) (inner_of_mem isItem) (respelling.spares item isItem)
  exact (bodies _ _ (globals one last respelt).2.2).2.2

theorem typeCheck : Respelt base.items (one.after Typing.walk) (last.after Typing.walk) := by
  rw [Typing.after_walk, Typing.after_walk, isUnit, isOther]
  exact respelling.typeItems
    ⟨respelt.agree.showsAs ⟨rfl⟩ ⟨rfl⟩, respelt.enclosed.showsAs ⟨rfl⟩, rfl, respelt.stamps⟩

theorem attributes :
    Respelt base.items (one.after Pass.attributes.walk) (last.after Pass.attributes.walk) := by
  rw [after_attributes, after_attributes, isUnit, isOther, respelling.items_other]
  refine respelt.report ?_
  simp only [List.flatMap_map, Attributes.itemFindings_respell]

theorem lint : Respelt base.items (one.after Pass.lint.walk) (last.after Pass.lint.walk) := by
  have anchored := respelling.anchored
  have atItem : ∀ item ∈ base.items,
      stamps (Lint.itemFindings one (Lint.viewOf one) item) =
        stamps (Lint.itemFindings last (Lint.viewOf last) (item.respell respelling.spell)) := by
    intro item isItem
    rw [Lint.stamps_itemFindings anchored]
    exact congrArg stamps (Lint.itemFindings_congr respelt.agree respelt.enclosed item
      (own_of_mem isItem) (inner_of_mem isItem))
  have astray : stamps (Lint.stmtsFindings (Lint.viewOf one) .outside (Lint.strays base.items)) =
      stamps (Lint.stmtsFindings (Lint.viewOf last) .outside
        (Lint.strays respelling.other.items)) := by
    rw [respelling.items_other, Lint.strays_respell, Lint.stamps_stmtsFindings anchored]
    refine congrArg stamps (Lint.strayFindings_congr respelt.agree.options base.items
      fun stmt isStray node isSite => respelt.agree.entries node (site_of_mem isStray ?_))
    have inStmts : node ∈ Stmt.sitesAll (Item.stray stmt).stmts := by
      simpa [Item.stmts] using isSite
    simp only [Item.sites, List.mem_append, inStmts, or_true, true_or]
  rw [after_lint, after_lint]
  refine respelt.report ?_
  rw [Lint.findings_eq, Lint.findings_eq, isUnit, isOther, stamps_append, stamps_append, astray,
    respelling.items_other, stamps_flatMap, stamps_flatMap, List.flatMap_map,
    List.flatMap_congr atItem]

end Walks

/-- The start of a check does not depend on the spelling. -/
theorem start {options : Options} {one last : Session}
    (begins : (Session.start (some base) options).Alike one)
    (beginsOther : (Session.start (some respelling.other) options).Alike last) :
    Respelt base.items one last where
  agree := Declare.agree_start begins beginsOther rfl _
  enclosed := Declare.enclosed_start begins _
  checked := by
    rw [begins.same, beginsOther.same]
    rfl
  stamps := by
    rw [begins.findings, beginsOther.findings]
    rfl

/-- Behind all passes the same is kept for all nodes of the unit, and what has been found
bears the same stamps. -/
theorem check (options : Options) :
    Respelt base.items (Session.check (some base) options)
      (Session.check (some respelling.other) options) := by
  obtain ⟨start, scope, typeCheck, attributes, lint, last, -⟩ := check_walks (some base) options
  obtain ⟨startOther, scopeOther, typeCheckOther, attributesOther, lintOther, lastOther, -⟩ :=
    check_walks (some respelling.other) options
  have isUnit (pass : Pass) : (Session.ahead (some base) options pass).items = base.items :=
    items_ahead (some base) options pass
  have isOther (pass : Pass) : (Session.ahead (some respelling.other) options pass).items =
      respelling.other.items := items_ahead (some respelling.other) options pass
  have declared := respelling.declare (isUnit .declare) (isOther .declare)
    (respelling.start start startOther)
  have resolved := respelling.scope (isUnit .scope) (isOther .scope)
    (declared.alike scope scopeOther)
  have typed := respelling.typeCheck (isUnit .typeCheck) (isOther .typeCheck)
    (resolved.alike typeCheck typeCheckOther)
  have attributed := respelling.attributes (isUnit .attributes) (isOther .attributes)
    (typed.alike attributes attributesOther)
  exact (respelling.lint (isUnit .lint) (isOther .lint)
    (attributed.alike lint lintOther)).alike last lastOther

end Respelling

/-- The codes of what has been found. -/
def Session.codes (session : Session) : List String := session.findings.map Finding.code

/-- The codes of a check are those of its findings. -/
theorem Session.codes_bag (session : Session) : session.bag.codes = session.codes := by
  unfold Session.bag Bag.codes Session.codes
  rw [List.map_map]
  exact List.map_congr_left fun finding _ => finding.code_diagnostic session.file

/-- A negative integer may be written as one literal or with a minus in front of a number,
unless its spelling is looked at: the check ends with the same codes and with the same types
for all nodes of the unit. -/
theorem codes_other (base : Module) (respelling : Respelling base) (options : Options) :
    (Session.check (some respelling.other) options).bag.codes =
        (Session.check (some base) options).bag.codes ∧
      ∀ node ∈ base.items.flatMap Item.sites,
        (Session.check (some respelling.other) options).facts.exprs.find? node =
          (Session.check (some base) options).facts.exprs.find? node := by
  have respelt := respelling.check options
  refine ⟨?_, fun node isSite => ?_⟩
  · have same := congrArg (List.map Prod.snd) respelt.stamps.symm
    rw [stamps, stamps, List.map_map, List.map_map] at same
    rw [Session.codes_bag, Session.codes_bag]
    exact same
  · exact (respelt.exprs isSite).symm

/-! ### One literal -/

/-- Writes the literal at a place with a minus in front. -/
def spellAt (place form number : Span) (literal : Literal) : Option Spelling :=
  if literal.span = place then some ⟨form, number⟩ else none

theorem spellAt_eq_some {place form number : Span} {literal : Literal} {spelling : Spelling}
    (isSpelled : spellAt place form number literal = some spelling) :
    literal.span = place ∧ spelling = ⟨form, number⟩ := by
  unfold spellAt at isSpelled
  split at isSpelled
  · rename_i same
    cases isSpelled
    exact ⟨same, rfl⟩
  · cases isSpelled

/-- Writes one literal of a unit with a minus in front. -/
def Respelling.single (base : Module) (place form number : Span) (anchored : form.node = place.node)
    (fresh : number.node ∉ base.items.flatMap Item.sites)
    (spares : ∀ item ∈ base.items, ∀ expr ∈ item.exprs, ∀ literal ∈ expr.fixed,
      literal.span ≠ place) : Respelling base where
  spell := spellAt place form number
  anchored literal spelling isSpelled := by
    obtain ⟨same, rfl⟩ := spellAt_eq_some isSpelled
    rw [same]
    exact anchored
  fresh literal spelling isSpelled := by
    obtain ⟨-, rfl⟩ := spellAt_eq_some isSpelled
    exact fresh
  spares item isItem expr isExpr literal isFixed :=
    if_neg (spares item isItem expr isExpr literal isFixed)

/-- A unit with a constant whose value does not fit its type, with room behind it. -/
def tooLowUnit : Module :=
  ⟨"unit", [.const ⟨[], some ⟨"a", .ofLine 7 8⟩, some (.named "s8" (.ofLine 9 11)),
    some (.literal ⟨.integer, "-200", .ofLine 12 16⟩), .ofLine 0 20⟩], some (.ofLine 0 20)⟩

/-- The value is written with a minus in front. -/
def tooLowRespelling : Respelling tooLowUnit :=
  .single tooLowUnit (.ofLine 12 16) (.ofLine 12 19) (.ofLine 15 18) rfl (by decide) (by decide)

/-- In either spelling the value is said to overflow, and its type is the same. -/
theorem codes_other_tooLow :
    Module.decode "unit" "(const a s8 -200   )" = .ok tooLowUnit ∧
      Module.decode "unit" "(const a s8 (- 200))" = .ok tooLowRespelling.other ∧
      (Session.check (some tooLowUnit) .standard).bag.codes = ["T0015"] ∧
      (Session.check (some tooLowRespelling.other) .standard).bag.codes = ["T0015"] ∧
      ((Session.check (some tooLowRespelling.other) .standard).facts.exprs.find? 12).map
        Ty.render = some "s8" := by
  have read : Module.decode "unit" "(const a s8 -200   )" = .ok tooLowUnit :=
    Module.decode_chars (by cbv)
  have readOther : Module.decode "unit" "(const a s8 (- 200))" = .ok tooLowRespelling.other :=
    Module.decode_chars (by cbv)
  have codes : (Session.check (some tooLowUnit) .standard).bag.codes = ["T0015"] ∧
      ((Session.check (some tooLowUnit) .standard).facts.exprs.find? 12).map Ty.render =
        some "s8" := by
    decide +kernel
  obtain ⟨sameCodes, sameTypes⟩ := codes_other tooLowUnit tooLowRespelling .standard
  exact ⟨read, readOther, codes.1, sameCodes.trans codes.1,
    (congrArg (Option.map Ty.render) (sameTypes 12 (by decide))).trans codes.2⟩

/-- A unit that reads an array at a negative place, with room behind it. -/
def negativeIndexUnit : Module :=
  ⟨"unit", [.const ⟨[], some ⟨"b", .ofLine 7 8⟩, none, some (.index
    (.array none [.literal ⟨.integer, "1", .ofLine 23 24⟩, .literal ⟨.integer, "2", .ofLine 25 26⟩]
      (.ofLine 18 27))
    (.literal ⟨.integer, "-1", .ofLine 28 30⟩) (.ofLine 11 34)), .ofLine 0 35⟩],
    some (.ofLine 0 35)⟩

/-- The place is said to be out of bounds only where it is written as one literal. -/
theorem negative_index_unreported :
    let other := negativeIndexUnit.respell
      (spellAt (.ofLine 28 30) (.ofLine 28 33) (.ofLine 31 32))
    Module.decode "unit" "(const b _ (index (arr 1 2) -1   ))" = .ok negativeIndexUnit ∧
      Module.decode "unit" "(const b _ (index (arr 1 2) (- 1)))" = .ok other ∧
      (Session.check (some negativeIndexUnit) .standard).bag.codes = ["T0016"] ∧
      (Session.check (some other) .standard).bag.codes = [] := by
  refine ⟨?_, ?_, ?_, ?_⟩
  · exact Module.decode_chars (by cbv)
  · exact Module.decode_chars (by cbv)
  · decide +kernel
  · decide +kernel

end UnitCheck
