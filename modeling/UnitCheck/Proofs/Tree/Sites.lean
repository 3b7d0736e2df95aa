import Mathlib.Data.List.Perm.Basic
import Mathlib.Data.List.Perm.Subperm
import UnitCheck.Proofs.Tree.Parts

/-!
# The sites of a unit

All nodes that anything is recorded for: those of expressions and declarations, and
those of written types.
-/

namespace UnitCheck

/-- The stretch of a text of one line between two columns. -/
def Span.ofLine (first last : Nat) : Span := ⟨⟨1, first + 1, first⟩, ⟨1, last + 1, last⟩⟩

namespace TypeForm

mutual

/-- The nodes of a written type and of all written types inside it. -/
def nodes : TypeForm -> List NodeId
  | .named _ span | .opaquePointer span | .address span => [span.node]
  | .pointer inner span | .array inner span | .fixedArray inner _ span | .const inner span
  | .mutable inner span => span.node :: nodes inner
  | .function params result _ span => span.node :: (nodesAll params ++ nodes result)

/-- The nodes of several written types. -/
def nodesAll : List TypeForm -> List NodeId
  | [] => []
  | form :: rest => nodes form ++ nodesAll rest

end

theorem node_mem_nodes (form : TypeForm) : form.node ∈ form.nodes := by
  cases form <;> simp [nodes, node, span]

end TypeForm

namespace Expr

/-- The nodes of the expression itself and of its written types. -/
def ownSites (expr : Expr) : List NodeId :=
  expr.ownNodes ++ expr.ownForms.flatMap TypeForm.nodes

/-- The nodes of an expression, written types included. -/
def sites (expr : Expr) : List NodeId := expr.parts.flatMap ownSites

/-- The nodes of several expressions, written types included. -/
def sitesAll (exprs : List Expr) : List NodeId := (partsAll exprs).flatMap ownSites

section Sites

attribute [local simp] parts partsAll ownSites ownNodes ownForms node Expr.span sites sitesAll

variable (left right : Expr) (args : List Expr) (type : TypeForm) (span : Span)

@[simp] theorem sites_literal (value : Literal) :
    (literal value).sites = [value.span.node] := rfl

@[simp] theorem sites_name (ident : Ident) : (name ident).sites = [ident.span.node] := rfl

@[simp] theorem sites_binary (op : BinaryOp) :
    (binary op left right span).sites = span.node :: (left.sites ++ right.sites) := by
  simp

@[simp] theorem sites_unary (op : UnaryOp) :
    (unary op left span).sites = span.node :: left.sites := by
  simp

@[simp] theorem sites_call (callee : Ident) :
    (call callee args span).sites = callee.span.node :: span.node :: sitesAll args := by
  simp

@[simp] theorem sites_callValue :
    (callValue left args span).sites = span.node :: (left.sites ++ sitesAll args) := by
  simp

@[simp] theorem sites_field (path : List String) :
    (field left path span).sites = span.node :: left.sites := by
  simp

@[simp] theorem sites_index :
    (index left right span).sites = span.node :: (left.sites ++ right.sites) := by
  simp

@[simp] theorem sites_cast :
    (cast type left span).sites = span.node :: (type.nodes ++ left.sites) := by
  simp

@[simp] theorem sites_array (element : Option TypeForm) :
    (array element args span).sites =
      span.node :: (element.toList.flatMap TypeForm.nodes ++ sitesAll args) := by
  simp

@[simp] theorem sites_addressOf : (addressOf left span).sites = span.node :: left.sites := by
  simp

@[simp] theorem sites_load :
    (load type left span).sites = span.node :: (type.nodes ++ left.sites) := by
  simp

@[simp] theorem sites_alloc : (alloc type span).sites = span.node :: type.nodes := by
  simp

@[simp] theorem sites_bad : (bad span).sites = [span.node] := rfl

@[simp] theorem sitesAll_nil : sitesAll [] = [] := rfl

@[simp] theorem sitesAll_cons : sitesAll (left :: args) = left.sites ++ sitesAll args := by
  simp

/-- The nodes of several expressions are the nodes of each. -/
theorem sitesAll_eq (exprs : List Expr) : sitesAll exprs = exprs.flatMap sites := by
  induction exprs with
  | nil => rfl
  | cons expr rest inductionHypothesis =>
    rw [sitesAll_cons, inductionHypothesis, List.flatMap_cons]

end Sites

theorem node_mem_sites (expr : Expr) : expr.node ∈ expr.sites := by
  cases expr <;> simp [node, Expr.span]

/-- The node of an expression inside another one is among the nodes of that one. -/
theorem node_mem_sites_of_part {expr part : Expr} (isPart : part ∈ expr.parts) :
    part.node ∈ expr.sites := by
  refine List.mem_flatMap.mpr ⟨part, isPart, List.mem_append_left _ ?_⟩
  cases part <;> simp [ownNodes, node, Expr.span]

end Expr

namespace Stmt

/-- The written types that the statement holds by itself. -/
def allForms : Stmt -> List TypeForm
  | .struct decl => decl.fields.map (·.type)
  | other => other.ownForms

/-- The nodes of the statement itself, written types included. -/
def ownSites (stmt : Stmt) : List NodeId :=
  stmt.ownDecls ++ stmt.ownExprs.flatMap Expr.sites ++ stmt.allForms.flatMap TypeForm.nodes

/-- The nodes of a statement, written types included. -/
def sites (stmt : Stmt) : List NodeId := stmt.parts.flatMap ownSites

/-- The nodes of several statements, written types included. -/
def sitesAll (body : List Stmt) : List NodeId := (partsAll body).flatMap ownSites

section Sites

attribute [local simp] parts parts? partsAll ownSites ownDecls ownValues ownExprs allForms ownForms
  sites sitesAll

variable (body : List Stmt) (test : Expr) (bodySpan span : Span)

@[simp] theorem sites_block : (block body span).sites = sitesAll body := by
  simp

@[simp] theorem sites_cond (otherwise : Option Stmt) :
    (cond test body bodySpan otherwise span).sites =
      test.sites ++ sitesAll body ++ otherwise.toList.flatMap sites := by
  cases otherwise <;>
    simp

@[simp] theorem sites_whileLoop :
    (whileLoop test body bodySpan span).sites = test.sites ++ sitesAll body := by
  simp

@[simp] theorem sites_loop : (loop body bodySpan span).sites = sitesAll body := by
  simp

@[simp] theorem sites_forLoop (first : Option Stmt) (test : Option Expr) (after : Option Stmt) :
    (forLoop first test after body bodySpan span).sites =
      test.toList.flatMap Expr.sites ++ first.toList.flatMap sites ++
        after.toList.flatMap sites ++ sitesAll body := by
  cases first <;> cases after <;>
    simp

/-- A statement that holds no other has no nodes but its own. -/
theorem sites_of_isLeaf {stmt : Stmt} (leaf : stmt.isLeaf = true) :
    stmt.sites = stmt.ownSites := by
  rw [sites, parts_of_isLeaf leaf, List.flatMap_singleton]

@[simp] theorem sitesAll_nil : sitesAll [] = [] := rfl

@[simp] theorem sitesAll_cons (stmt : Stmt) :
    sitesAll (stmt :: body) = stmt.sites ++ sitesAll body := by
  simp

end Sites

/-- The nodes of an expression that a statement holds are among the nodes of the statement. -/
theorem sites_subset_of_ownExpr {stmt part : Stmt} (isPart : part ∈ stmt.parts) {expr : Expr}
    (isOwn : expr ∈ part.ownExprs) : expr.sites ⊆ stmt.sites := by
  intro node isSite
  refine List.mem_flatMap.mpr ⟨part, isPart, List.mem_append_left _ (List.mem_append_right _ ?_)⟩
  exact List.mem_flatMap.mpr ⟨expr, isOwn, isSite⟩

end Stmt

namespace Item

/-- The written types in the signature of an item. -/
def forms : Item -> List TypeForm
  | .function decl => decl.params.map (·.type) ++ decl.result.toList
  | .asm decl => decl.params.map (·.type) ++ decl.result.toList
  | .struct decl => decl.fields.map (·.type)
  | .enum decl => decl.base.toList
  | .const decl => decl.type.toList
  | .static decl => decl.type.toList
  | .typeAlias decl => decl.target.toList
  | .entry _ | .stray _ => []

/-- The nodes of an item, written types included. -/
def sites (item : Item) : List NodeId :=
  item.ownNode ++ item.params.map (·.span.node) ++ Stmt.sitesAll item.stmts ++
    item.values.flatMap Expr.sites ++ item.forms.flatMap TypeForm.nodes

/-- The nodes of an item behind its own. -/
def inner (item : Item) : List NodeId :=
  item.params.map (·.span.node) ++ Stmt.sitesAll item.stmts ++
    item.values.flatMap Expr.sites ++ item.forms.flatMap TypeForm.nodes

theorem sites_eq (item : Item) : item.sites = item.ownNode ++ item.inner := by
  simp [sites, inner]

theorem inner_subset_sites (item : Item) : item.inner ⊆ item.sites := by
  rw [sites_eq]
  exact List.subset_append_right _ _

/-! ### Distinct nodes -/

/-- Shorter pieces make a shorter list. -/
theorem sublist_flatMap {α : Type} {shorter longer : α -> List NodeId} (values : List α)
    (sublist : ∀ value, List.Sublist (shorter value) (longer value)) :
    List.Sublist (values.flatMap shorter) (values.flatMap longer) := by
  induction values with
  | nil => exact List.Sublist.refl _
  | cons value rest inductionHypothesis =>
    rw [List.flatMap_cons, List.flatMap_cons]
    exact (sublist value).append inductionHypothesis

theorem nodes_sublist_sites (expr : Expr) : List.Sublist expr.nodes expr.sites :=
  sublist_flatMap _ fun _ => List.sublist_append_left _ _

theorem slots_sublist_sites (item : Item) : List.Sublist item.slots item.sites := by
  refine List.Sublist.trans ?_ (List.sublist_append_left _ _)
  refine ((List.Sublist.refl _).append (sublist_flatMap _ fun stmt => ?_)).append
    (sublist_flatMap _ nodes_sublist_sites)
  refine List.Sublist.trans ?_ (List.sublist_append_left _ _)
  exact (List.Sublist.refl _).append (sublist_flatMap _ nodes_sublist_sites)

/-- Where no two nodes coincide, a node belongs to one of several things only. -/
theorem eq_of_mem_nodes {α : Type} {items : List α} {item other : α} {node : NodeId}
    {nodes : α -> List NodeId} (distinct : (items.flatMap nodes).Nodup)
    (isItem : item ∈ items) (isOther : other ∈ items) (inItem : node ∈ nodes item)
    (inOther : node ∈ nodes other) : item = other := by
  induction items with
  | nil => cases isItem
  | cons first rest inductionHypothesis =>
    rw [List.flatMap_cons, List.nodup_append] at distinct
    obtain ⟨-, distinctRest, apart⟩ := distinct
    have clash {later : α} (isLater : later ∈ rest) (inFirst : node ∈ nodes first)
        (inLater : node ∈ nodes later) : False :=
      apart node inFirst node (List.mem_flatMap.mpr ⟨later, isLater, inLater⟩) rfl
    obtain rfl | itemLater := List.mem_cons.mp isItem
    · obtain rfl | otherLater := List.mem_cons.mp isOther
      · rfl
      · exact (clash otherLater inItem inOther).elim
    · obtain rfl | otherLater := List.mem_cons.mp isOther
      · exact (clash itemLater inOther inItem).elim
      · exact inductionHypothesis distinctRest itemLater otherLater

variable {items : List Item} {item : Item}

theorem nodup_sites_of_mem (distinct : (items.flatMap sites).Nodup) (isItem : item ∈ items) :
    item.sites.Nodup :=
  (List.pairwise_flatMap.mp distinct).1 item isItem

end Item

/-!
### Nodes of names and other nodes

The nodes in an item are, besides others, those of the names that are looked up in its
expressions, those of its other expressions, those of its written types and those of the
values that it declares. Where no two nodes coincide, no node is of two of these kinds.
-/

namespace Expr

/-- The nodes that get a type with the expression itself and are not those of names. -/
def ownPlain : Expr -> List NodeId
  | .name _ => []
  | other => [other.node]

/-- The nodes of the names that are looked up in an expression. -/
def nameNodes (expr : Expr) : List NodeId :=
  expr.parts.flatMap fun part => part.ownNames.map (·.span.node)

/-- The nodes that get a type in an expression and are not those of names. -/
def plainNodes (expr : Expr) : List NodeId := expr.parts.flatMap ownPlain

/-- The nodes of the written types in an expression. -/
def formNodes (expr : Expr) : List NodeId :=
  expr.parts.flatMap fun part => part.ownForms.flatMap TypeForm.nodes

/-- The nodes in an expression are of one of the three kinds. -/
theorem perm_sites (expr : Expr) :
    (expr.nameNodes ++ (expr.plainNodes ++ expr.formNodes)).Perm expr.sites := by
  have own (part : Expr) : part.ownSites.Perm (part.ownNames.map (·.span.node) ++
      (part.ownPlain ++ part.ownForms.flatMap TypeForm.nodes)) := by
    cases part <;> rfl
  refine List.Perm.trans ?_ (List.Perm.flatMap_left expr.parts fun part _ => (own part).symm)
  exact ((List.flatMap_append_perm _ _ _).append_left _).trans (List.flatMap_append_perm _ _ _)

end Expr

namespace Stmt

/-- The nodes of the values that statements declare. -/
def valueNodes (body : List Stmt) : List NodeId := (partsAll body).flatMap ownValues

/-- The nodes of the written types of values that statements declare. -/
def formNodes (body : List Stmt) : List NodeId :=
  (partsAll body).flatMap fun part => part.ownForms.flatMap TypeForm.nodes

/-- The nodes in statements are, besides others, those of their values, of their expressions
and of the written types of their values. -/
theorem subperm_sitesAll (body : List Stmt) :
    (valueNodes body ++ ((exprs body).flatMap Expr.sites ++ formNodes body)).Subperm
      (sitesAll body) := by
  have own (part : Stmt) : List.Sublist (part.ownValues ++ (part.ownExprs.flatMap Expr.sites ++
      part.ownForms.flatMap TypeForm.nodes)) part.ownSites := by
    unfold ownSites
    rw [← List.append_assoc]
    refine List.Sublist.append (List.Sublist.append ?_ (List.Sublist.refl _)) ?_
    · cases part <;> first | exact List.Sublist.refl _ | exact List.nil_sublist _
    · cases part <;> first | exact List.Sublist.refl _ | exact List.nil_sublist _
  have flat : (exprs body).flatMap Expr.sites =
      (partsAll body).flatMap fun part => part.ownExprs.flatMap Expr.sites :=
    List.flatMap_assoc
  rw [flat]
  refine List.Perm.subperm ?_ |>.trans (Item.sublist_flatMap (partsAll body) own).subperm
  exact ((List.flatMap_append_perm _ _ _).append_left _).trans (List.flatMap_append_perm _ _ _)

end Stmt

namespace Item

/-- The expressions of an item that get types, without the expressions inside these. -/
def tops (item : Item) : List Expr := Stmt.exprs item.body ++ item.values

/-- The nodes of the names that are looked up in the expressions of an item. -/
def nameNodes (item : Item) : List NodeId := item.tops.flatMap Expr.nameNodes

/-- The nodes that get a type in the expressions of an item and are not those of names. -/
def plainNodes (item : Item) : List NodeId := item.tops.flatMap Expr.plainNodes

/-- The nodes of the written types of an item that typing may ask for. -/
def formNodes (item : Item) : List NodeId :=
  item.tops.flatMap Expr.formNodes ++
    (Stmt.formNodes item.body ++ item.forms.flatMap TypeForm.nodes)

/-- The nodes of an item by their kinds. -/
def kinds (item : Item) : List NodeId :=
  item.nameNodes ++ (item.plainNodes ++ (item.formNodes ++
    (Stmt.valueNodes item.body ++ item.ownNode)))

/-- Nothing is of two kinds at once, unless two nodes coincide. -/
theorem kinds_subperm_sites (item : Item) : item.kinds.Subperm item.sites := by
  refine List.subperm_ext_iff.mpr fun node _ => ?_
  have exprs : (item.nameNodes ++ (item.plainNodes ++ item.tops.flatMap Expr.formNodes)).Perm
      (item.tops.flatMap Expr.sites) := by
    refine List.Perm.trans ?_ (List.Perm.flatMap_left item.tops fun expr _ => expr.perm_sites)
    exact ((List.flatMap_append_perm _ _ _).append_left _).trans (List.flatMap_append_perm _ _ _)
  have inExprs := exprs.count_eq node
  have inBody := (Stmt.subperm_sitesAll item.body).count_le node
  have astray : (Stmt.sitesAll item.body).count node ≤ (Stmt.sitesAll item.stmts).count node := by
    cases item with
    | stray => exact Nat.zero_le _
    | _ => exact Nat.le_refl _
  simp only [kinds, formNodes, sites, tops, List.flatMap_append, List.count_append] at *
  omega

/-- Where no two nodes of a unit coincide, its nodes of different kinds are apart. -/
theorem nodup_kinds {items : List Item} (distinct : (items.flatMap sites).Nodup) :
    (items.flatMap nameNodes ++ (items.flatMap plainNodes ++ (items.flatMap formNodes ++
      (items.flatMap (Stmt.valueNodes ·.body) ++ items.flatMap ownNode)))).Nodup := by
  have together : (items.flatMap kinds).Nodup := by
    obtain ⟨within, apart⟩ := List.pairwise_flatMap.mp distinct
    refine List.pairwise_flatMap.mpr ⟨fun item isItem => ?_, apart.imp ?_⟩
    · obtain ⟨_, perm, isSublist⟩ := item.kinds_subperm_sites
      exact perm.nodup_iff.mp ((within item isItem).sublist isSublist)
    · intro one other apart node inOne last inOther
      exact apart node (one.kinds_subperm_sites.subset inOne) last
        (other.kinds_subperm_sites.subset inOther)
  refine (List.Perm.nodup_iff ?_).mpr together
  refine List.Perm.trans ?_ (List.flatMap_append_perm items _ _)
  refine List.Perm.append_left _ (List.Perm.trans ?_ (List.flatMap_append_perm items _ _))
  refine List.Perm.append_left _ (List.Perm.trans ?_ (List.flatMap_append_perm items _ _))
  exact List.Perm.append_left _ (List.flatMap_append_perm items _ _)

end Item

/-! ### Parts of an item -/

namespace Expr

/-- Expressions are among the parts of them all. -/
theorem mem_partsAll {exprs : List Expr} {expr : Expr} (isExpr : expr ∈ exprs) :
    expr ∈ partsAll exprs := by
  rw [partsAll_eq]
  exact List.mem_flatMap.mpr ⟨expr, isExpr, expr.self_mem_parts⟩

theorem node_mem_ownNodes (expr : Expr) : expr.node ∈ expr.ownNodes := by
  cases expr <;> simp [ownNodes, node, span]

end Expr

namespace Item

variable {item : Item}

theorem partsAll_body_subset (item : Item) :
    Stmt.partsAll item.body ⊆ Stmt.partsAll item.stmts := by
  cases item with
  | stray stmt => exact List.nil_subset _
  | _ => exact List.Subset.refl _

/-- The parts of the expressions of an item are expressions of the item. -/
theorem mem_exprs_of_part {expr part : Expr} (isExpr : expr ∈ item.exprs)
    (isPart : part ∈ expr.parts) : part ∈ item.exprs := by
  obtain ⟨whole, isWhole, isInside⟩ := List.mem_flatMap.mp isExpr
  exact List.mem_flatMap.mpr ⟨whole, isWhole, whole.parts_subset_of_part expr isInside isPart⟩

/-- The expressions of an item stand at its nodes. -/
theorem mem_sites_of_exprs {expr : Expr} (isExpr : expr ∈ item.exprs) {node : NodeId}
    (isNode : node ∈ expr.ownNodes) : node ∈ item.sites := by
  obtain ⟨whole, isWhole, isPart⟩ := List.mem_flatMap.mp isExpr
  have isSite : node ∈ whole.sites :=
    List.mem_flatMap.mpr ⟨expr, isPart, List.mem_append_left _ isNode⟩
  obtain inBody | isValue := List.mem_append.mp isWhole
  · obtain ⟨stmt, isStmt, isOwn⟩ := List.mem_flatMap.mp inBody
    have inside : node ∈ Stmt.sitesAll item.stmts := List.mem_flatMap.mpr
      ⟨stmt, item.partsAll_body_subset isStmt, List.mem_append_left _
        (List.mem_append_right _ (List.mem_flatMap.mpr ⟨whole, isOwn, isSite⟩))⟩
    simp [sites, inside]
  · have inside : node ∈ item.values.flatMap Expr.sites :=
      List.mem_flatMap.mpr ⟨whole, isValue, isSite⟩
    simp only [sites, List.mem_append]
    exact .inl (.inr inside)

/-- The written types that a statement of the body holds stand at nodes of the item. -/
theorem mem_sites_of_form {stmt : Stmt} (isStmt : stmt ∈ Stmt.partsAll item.body)
    {form : TypeForm} (isForm : form ∈ stmt.allForms) : form.node ∈ item.sites := by
  have inside : form.node ∈ Stmt.sitesAll item.stmts := List.mem_flatMap.mpr
    ⟨stmt, item.partsAll_body_subset isStmt, List.mem_append_right _
      (List.mem_flatMap.mpr ⟨form, isForm, form.node_mem_nodes⟩)⟩
  simp [sites, inside]

/-- An expression that a statement of the body holds is one of the item. -/
theorem mem_exprs_of_stmt {stmt : Stmt} (isStmt : stmt ∈ Stmt.partsAll item.body) {expr : Expr}
    (isOwn : expr ∈ stmt.ownExprs) : expr ∈ item.exprs :=
  List.mem_flatMap.mpr ⟨expr, List.mem_append_left _ (List.mem_flatMap.mpr ⟨stmt, isStmt, isOwn⟩),
    expr.self_mem_parts⟩

theorem mem_exprs_of_value {expr : Expr} (isValue : expr ∈ item.values) : expr ∈ item.exprs :=
  List.mem_flatMap.mpr ⟨expr, List.mem_append_right _ isValue, expr.self_mem_parts⟩

theorem mem_sites_of_own_form {form : TypeForm} (isForm : form ∈ item.forms) :
    form.node ∈ item.sites :=
  List.mem_append_right _ (List.mem_flatMap.mpr ⟨form, isForm, form.node_mem_nodes⟩)

end Item

end UnitCheck
