import UnitCheck.Proofs.Typing.Respelling

/-!
# Globals and bodies in two spellings

A global is the same global in either spelling, so going through the globals of a unit and
going through them respelled stays in step, and so does typing the bodies behind them.
-/

namespace UnitCheck

variable {outlook : Outlook} {pairing : Pairing outlook} {spell : Literal -> Option Spelling}

/-- Paired sessions have gone through the same globals, and stay paired when both go through
another one. -/
structure Pairing.Counts (pairing : Pairing outlook) : Prop where
  checked : ∀ {one other}, pairing.alike one other →
    ∀ node, one.checked.contains node = other.checked.contains node
  mark : ∀ {one other} node, pairing.alike one other →
    pairing.alike (Act.apply one (.checked node)) (Act.apply other (.checked node))

/-- The nodes of an item that are typed ahead of all bodies. -/
def Item.founds : Item -> List NodeId
  | .const decl => (Item.const decl).sites
  | .static decl => (Item.static decl).sites
  | .enum decl => (Item.enum decl).sites
  | _ => []

namespace Typing

variable {first second : Demand}

namespace Global

/-- The global with its value respelled. -/
def respell (spell : Literal -> Option Spelling) : Global -> Global
  | .const decl => .const (decl.respell spell)
  | .static decl => .static (decl.respell spell)

@[simp] theorem span_respell (global : Global) : (global.respell spell).span = global.span := by
  cases global <;> rfl

@[simp] theorem node_respell (global : Global) : (global.respell spell).node = global.node :=
  congrArg Span.node (span_respell global)

theorem respell_none (global : Global) : global.respell (fun _ => none) = global := by
  cases global with
  | const decl => exact congrArg Global.const decl.respell_none
  | static decl => exact congrArg Global.static decl.respell_none

/-- Where no literal is named the globals stay. -/
theorem map_respell_none (all : List Global) :
    all.map (respell fun _ => none) = all := by
  have same : respell (fun _ => none) = id := funext respell_none
  rw [same, List.map_id]

end Global

theorem global?_respell (item : Item) :
    global? (item.respell spell) = (global? item).map (Global.respell spell) := by
  cases item <;> rfl

/-- The globals of a respelled unit are its globals respelled. -/
theorem globals_respell (items : List Item) :
    globals (items.map (Item.respell spell)) = (globals items).map (Global.respell spell) := by
  unfold globals
  rw [List.filterMap_map, List.map_filterMap]
  exact List.filterMap_congr fun item _ => global?_respell item

/-- In either spelling a symbol stands for the same global. -/
theorem find?_respell (symbol : Symbol) (all : List Global) :
    (all.map (Global.respell spell)).find? (fun other => symbol.id = .node other.node) =
      (all.find? fun other => symbol.id = .node other.node).map (Global.respell spell) := by
  rw [List.find?_map]
  congr 2
  funext global
  exact congrArg (fun node => decide (symbol.id = .node node)) global.node_respell

section Items

variable (tolerates : pairing.Tolerates spell) (answers : AnswerAlike pairing first second)

include tolerates answers

theorem respelled_globalCheck (global : Global) (owned : outlook.owns global.node)
    (formOwned : ∀ node ∈ global.form.toList.flatMap TypeForm.nodes, outlook.owns node)
    (valueOwned : ∀ node ∈ global.value.toList.flatMap Expr.sites, outlook.owns node)
    (spares : ∀ expr ∈ global.value, expr.Spares spell) :
    pairing.InStep (global.check first) ((global.respell spell).check second) outlook.Holds := by
  cases global with
  | const decl =>
    exact respelled_checkConst tolerates answers decl owned formOwned valueOwned spares
  | static decl =>
    exact respelled_checkStatic tolerates answers decl owned formOwned valueOwned spares

theorem respelled_checkVariants {base : Ty} (holds : outlook.Holds base)
    (variants : List VariantDecl)
    (owned : ∀ node ∈ (variants.filterMap (·.value)).flatMap Expr.sites, outlook.owns node)
    (spares : ∀ expr ∈ variants.filterMap (·.value), expr.Spares spell) :
    pairing.InStep (checkVariants first base variants)
      (checkVariants second base (variants.map (VariantDecl.respell spell))) fun _ => True := by
  induction variants with
  | nil => exact .pure trivial
  | cons variant rest inductionHypothesis =>
    rw [List.map_cons]
    unfold checkVariants VariantDecl.respell
    cases written : variant.value with
    | none =>
      simp only [List.filterMap_cons, written] at owned spares
      exact inductionHypothesis owned spares
    | some value =>
      simp only [List.filterMap_cons, written, List.flatMap_cons, List.forall_mem_append] at owned
      simp only [List.filterMap_cons, written, List.forall_mem_cons] at spares
      exact .bind (respelled_checkExpr tolerates answers value owned.1 spares.1 _
          (holds_some holds)) fun _ _ =>
        .bind (respelled_mismatch tolerates value _ _) fun _ _ =>
        inductionHypothesis owned.2 spares.2

/-- The values of an enumeration are typed in step. -/
theorem respelled_checkValues (item : Item) (own : outlook.Anchors item)
    (owned : ∀ node ∈ item.inner, outlook.owns node) (spares : item.Spares spell) :
    pairing.InStep (checkValues first item) (checkValues second (item.respell spell))
      fun _ => True := by
  cases item with
  | enum decl =>
    have self := own decl.span.node List.mem_cons_self
    refine .bind (steps_enumValueType self.1 self.2) fun base holds =>
      respelled_checkVariants tolerates answers holds decl.variants (fun node isNode => ?_)
        fun _ => spares.value
    have isSite : node ∈ (Item.enum decl).values.flatMap Expr.sites := isNode
    refine owned node ?_
    simp only [Item.inner, List.mem_append, isSite, or_true, true_or]
  | _ => exact .pure trivial

/-- The body of an item is typed in step. -/
theorem respelled_checkBody (item : Item) (own : outlook.Anchors item)
    (owned : ∀ node ∈ item.inner, outlook.owns node) (spares : item.Spares spell) :
    pairing.InStep (checkBody first item) (checkBody second (item.respell spell))
      fun _ => True := by
  have stmtsOwned : ∀ node ∈ Stmt.sitesAll item.stmts, outlook.owns node := by
    intro node isNode
    refine owned node ?_
    simp only [Item.inner, List.mem_append, isNode, or_true, true_or]
  have stmtsSpared : ∀ stmt ∈ item.body, stmt.Spares spell := fun _ => spares.stmt
  cases item with
  | function decl =>
    have self := own decl.span.node List.mem_cons_self
    simp only [checkBody, Item.respell]
    cases written : decl.body with
    | none => exact .pure trivial
    | some body =>
      simp only [Item.stmts, Item.body, written] at stmtsOwned stmtsSpared
      exact .bind (steps_resultType self.1 self.2) fun _ holds =>
        respelled_checkStmts tolerates answers holds body.stmts stmtsOwned stmtsSpared
  | entry decl =>
    exact respelled_checkStmts tolerates answers (holds_prim _) decl.body.stmts stmtsOwned
      stmtsSpared
  | _ => exact .pure trivial

omit tolerates in
theorem inStep_checkBody (item : Item) (own : outlook.Anchors item)
    (owned : ∀ node ∈ item.inner, outlook.owns node) :
    pairing.InStep (checkBody first item) (checkBody second item) fun _ => True := by
  have inStep := respelled_checkBody .plain answers item own owned item.spares_none
  rwa [Item.respell_none] at inStep

end Items

/-! ### Going through the globals -/

section Globals

variable (counts : pairing.Counts) (tolerates : pairing.Tolerates spell) {all : List Global}
  (owned : ∀ global ∈ all, OwnedGlobal outlook global)
  (steady : ∀ symbol, outlook.Proper symbol → outlook.steady symbol.id)
  (spares : ∀ global ∈ all, ∀ expr ∈ global.value, expr.Spares spell)

include counts in
theorem steps_markChecked (node : NodeId) : pairing.Steps (markChecked node) fun _ => True :=
  fun _ _ alike => ⟨rfl, trivial, counts.mark node alike⟩

include counts tolerates owned steady spares

/-- A global is gone through in step. -/
theorem respelled_checkGlobal (fuel : Nat) (path : List NodeId) (global : Global)
    (isGlobal : global ∈ all) :
    pairing.InStep (checkGlobal all fuel path global)
      (checkGlobal (all.map (Global.respell spell)) fuel path (global.respell spell))
      outlook.Holds := by
  induction fuel generalizing path global with
  | zero => exact .pure (holds_prim _)
  | succ fuel inductionHypothesis =>
    have own := owned global isGlobal
    unfold checkGlobal
    simp only [Global.node_respell, Global.span_respell]
    refine .read fun one other alike => ?_
    rw [← counts.checked alike]
    split
    · exact steps_declType (outlook.inside_of_owns _ own.node) (outlook.steady_of_owns _ own.node)
        one other alike
    · split
      · exact (Pairing.InStep.bind (Pairing.steps_report _) fun _ _ =>
          .bind (steps_setDeclType own.node (holds_prim _)) fun _ _ => .pure (holds_prim _))
          one other alike
      · refine (Pairing.InStep.bind (respelled_globalCheck tolerates (answerAlike_of steady ?_)
          global own.node own.form own.value (spares global isGlobal)) fun type holds =>
          .bind (steps_markChecked counts _) fun _ _ => .pure holds) one other alike
        intro symbol proper
        simp only [find?_respell]
        cases found : all.find? fun other => symbol.id = .node other.node with
        | some met => exact inductionHypothesis _ met (List.mem_of_find?_eq_some found)
        | none => exact .pure (holds_prim _)

theorem respelled_demandGlobal (symbol : Symbol) :
    pairing.InStep (demandGlobal all symbol)
      (demandGlobal (all.map (Global.respell spell)) symbol) outlook.Holds := by
  unfold demandGlobal
  rw [find?_respell, List.length_map]
  cases found : all.find? fun other => symbol.id = .node other.node with
  | some met =>
    exact respelled_checkGlobal counts tolerates owned steady spares _ _ met
      (List.mem_of_find?_eq_some found)
  | none => exact .pure (holds_prim _)

/-- At each item the first round stays in step. -/
theorem respelled_checkGlobalItem (item : Item)
    (isGlobal : ∀ global ∈ global? item, global ∈ all) (own : outlook.Anchors item)
    (inner : ∀ node ∈ item.founds, outlook.owns node) (spared : item.Spares spell) :
    pairing.InStep (checkGlobalItem all item)
      (checkGlobalItem (all.map (Global.respell spell)) (item.respell spell)) fun _ => True := by
  have typed (global : Global) (declares : global ∈ global? item) :
      pairing.InStep (do let _ <- checkGlobal all (all.length + 1) [] global)
        (do
          let _ <- checkGlobal (all.map (Global.respell spell))
            ((all.map (Global.respell spell)).length + 1) [] (global.respell spell))
        fun _ => True := by
    rw [List.length_map]
    exact .bind (respelled_checkGlobal counts tolerates owned steady spares _ _ _
      (isGlobal global declares)) fun _ _ => .pure trivial
  cases item with
  | const decl => exact typed (.const decl) rfl
  | static decl => exact typed (.static decl) rfl
  | enum decl =>
    have self := own decl.span.node List.mem_cons_self
    rw [checkGlobalItem_eq all rfl, checkGlobalItem_eq _ rfl]
    refine respelled_checkValues tolerates (answerAlike_of steady fun symbol _ =>
      respelled_demandGlobal counts tolerates owned steady spares symbol) (.enum decl) own
      (fun node isInner => ?_) spared
    have isSite : node ∈ (Item.enum decl).sites := by
      rw [Item.sites_eq]
      exact List.mem_append_right _ isInner
    exact inner node isSite
  | _ => exact .pure trivial

/-- At each item the second round stays in step. -/
theorem respelled_checkBodyItem (item : Item) (own : outlook.Anchors item)
    (inner : ∀ node ∈ item.inner, outlook.owns node) (spared : item.Spares spell) :
    pairing.InStep (checkBodyItem all item)
      (checkBodyItem (all.map (Global.respell spell)) (item.respell spell)) fun _ => True := by
  rw [checkBodyItem_eq, checkBodyItem_eq]
  exact respelled_checkBody tolerates (answerAlike_of steady fun symbol _ =>
    respelled_demandGlobal counts tolerates owned steady spares symbol) item own inner spared

end Globals

end Typing
end UnitCheck
