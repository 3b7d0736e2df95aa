import Mathlib.Algebra.Module.Submodule.Lattice
import Mathlib.Data.List.Perm.Subperm
import Mathlib.Data.List.Permutation
import UnitCheck.Proofs.Attribute.Regular
import UnitCheck.Proofs.Session.Passes
import UnitCheck.Proofs.Tree.Distinct

/-!
# Which declarations are judged

The fourth pass judges each declaration of a unit once, at top level and in bodies, but for
those in the clauses of `for` loops: it looks into the bodies of loops only.
-/

namespace UnitCheck

open Attributes (Declaration)

namespace Stmt

/-- The declaration that a statement is. -/
def ownDeclaration : Stmt -> List Declaration
  | .const decl => [⟨.constant, decl.attributes, decl.span, none⟩]
  | .struct decl => [⟨.struct, decl.attributes, decl.span, none⟩]
  | _ => []

mutual

/-- The statement and all statements inside it, but for those in clauses of loops. -/
def plain : Stmt -> List Stmt
  | .block body span => .block body span :: plainAll body
  | .cond test body bodySpan otherwise span =>
    .cond test body bodySpan otherwise span :: (plainAll body ++ plain? otherwise)
  | .whileLoop test body bodySpan span => .whileLoop test body bodySpan span :: plainAll body
  | .loop body bodySpan span => .loop body bodySpan span :: plainAll body
  | .forLoop first test after body bodySpan span =>
    .forLoop first test after body bodySpan span :: plainAll body
  | other => [other]

/-- `plain` for a statement that may be missing. -/
def plain? : Option Stmt -> List Stmt
  | none => []
  | some stmt => plain stmt

/-- `plain` for several statements. -/
def plainAll : List Stmt -> List Stmt
  | [] => []
  | stmt :: rest => plain stmt ++ plainAll rest

end

mutual

/-- The statements in the clauses of the loops in a statement, with all statements inside
these. -/
def inClauses : Stmt -> List Stmt
  | .block body _ | .whileLoop _ body _ _ | .loop body _ _ => inClausesAll body
  | .cond _ body _ otherwise _ => inClausesAll body ++ inClauses? otherwise
  | .forLoop first _ after body _ _ => parts? first ++ parts? after ++ inClausesAll body
  | _ => []

/-- `inClauses` for a statement that may be missing. -/
def inClauses? : Option Stmt -> List Stmt
  | none => []
  | some stmt => inClauses stmt

/-- `inClauses` for several statements. -/
def inClausesAll : List Stmt -> List Stmt
  | [] => []
  | stmt :: rest => inClauses stmt ++ inClausesAll rest

end

/-- Two lists taken apart are together what they are one by one. -/
theorem perm_apart {α : Type} (one other first second : List α) :
    (one ++ first ++ (other ++ second)).Perm (one ++ other ++ (first ++ second)) := by
  rw [List.append_assoc, List.append_assoc]
  exact (List.perm_append_comm_assoc first other second).append_left one

mutual

/-- A statement inside another one stands in a clause of a loop or not. -/
theorem perm_parts : (stmt : Stmt) -> (stmt.plain ++ stmt.inClauses).Perm stmt.parts
  | .block body _ | .whileLoop _ body _ _ | .loop body _ _ => by
    unfold plain inClauses parts
    exact (perm_partsAll body).cons _
  | .cond _ body _ otherwise _ => by
    unfold plain inClauses parts
    refine List.Perm.cons _ ?_
    exact (perm_apart _ _ _ _).trans ((perm_partsAll body).append (perm_parts? otherwise))
  | .forLoop first _ after body _ _ => by
    unfold plain inClauses parts
    refine List.Perm.cons _ ?_
    refine (List.perm_append_comm_assoc _ _ _).trans ?_
    exact (perm_partsAll body).append_left _
  | .expr _ | .letIn _ | .instr _ | .const _ | .struct _ | .assign _ _ _ | .write _ _ _ | .ret _ _
  | .brk _ | .cont _ | .bad _ => .refl _

/-- `perm_parts` for a statement that may be missing. -/
theorem perm_parts? : (stmt : Option Stmt) -> (plain? stmt ++ inClauses? stmt).Perm (parts? stmt)
  | none => .refl _
  | some stmt => perm_parts stmt

/-- `perm_parts` for several statements. -/
theorem perm_partsAll : (body : List Stmt) ->
    (plainAll body ++ inClausesAll body).Perm (partsAll body)
  | [] => .refl _
  | stmt :: rest => (perm_apart _ _ _ _).trans ((perm_parts stmt).append (perm_partsAll rest))

end

end Stmt

namespace Attributes

mutual

/-- What is said about the declarations in a statement is said about those in no clause. -/
theorem stmtFindings_eq : (stmt : Stmt) ->
    stmtFindings stmt = (stmt.plain.flatMap Stmt.ownDeclaration).flatMap Declaration.findings
  | .block body _ | .whileLoop _ body _ _ | .loop body _ _ | .forLoop _ _ _ body _ _ => by
    unfold stmtFindings Stmt.plain
    exact stmtsFindings_eq body
  | .cond _ body _ otherwise _ => by
    unfold stmtFindings Stmt.plain
    rw [stmtsFindings_eq body, stmtFindings?_eq otherwise]
    simp only [List.flatMap_cons, List.flatMap_append]
    rfl
  | .const _ | .struct _ => by
    exact (List.append_nil _).symm
  | .expr _ | .letIn _ | .instr _ | .assign _ _ _ | .write _ _ _ | .ret _ _
  | .brk _ | .cont _ | .bad _ => rfl

/-- `stmtFindings_eq` for a statement that may be missing. -/
theorem stmtFindings?_eq : (stmt : Option Stmt) -> stmtFindings? stmt =
    ((Stmt.plain? stmt).flatMap Stmt.ownDeclaration).flatMap Declaration.findings
  | none => rfl
  | some stmt => stmtFindings_eq stmt

/-- `stmtFindings_eq` for several statements. -/
theorem stmtsFindings_eq : (body : List Stmt) -> stmtsFindings body =
    ((Stmt.plainAll body).flatMap Stmt.ownDeclaration).flatMap Declaration.findings
  | [] => rfl
  | stmt :: rest => by
    unfold stmtsFindings Stmt.plainAll
    rw [stmtFindings_eq stmt, stmtsFindings_eq rest, List.flatMap_append, List.flatMap_append]

end

end Attributes

namespace Item

/-- The declaration that an item is. -/
def ownDeclaration : Item -> List Declaration
  | .function decl => [⟨.function, decl.attributes, decl.span, some decl⟩]
  | .asm decl => [⟨.asmFunction, decl.attributes, decl.span, none⟩]
  | .entry decl => [⟨.entrypoint, decl.attributes, decl.span, none⟩]
  | .struct decl => [⟨.struct, decl.attributes, decl.span, none⟩]
  | .enum decl => [⟨.enum, decl.attributes, decl.span, none⟩]
  | .const decl => [⟨.constant, decl.attributes, decl.span, none⟩]
  | .static decl => [⟨.static, decl.attributes, decl.span, none⟩]
  | .typeAlias decl => [⟨.typeAlias, decl.attributes, decl.span, none⟩]
  | .stray _ => []

/-- The declarations of an item: its own and those in its statements, at any depth. -/
def declarations (item : Item) : List Declaration :=
  item.ownDeclaration ++ (Stmt.partsAll item.stmts).flatMap Stmt.ownDeclaration

/-- The declarations of an item that stand in no clause of a loop. -/
def plainDeclarations (item : Item) : List Declaration :=
  item.ownDeclaration ++ (Stmt.plainAll item.stmts).flatMap Stmt.ownDeclaration

/-- The declarations of an item that stand in clauses of loops. -/
def clauseDeclarations (item : Item) : List Declaration :=
  (Stmt.inClausesAll item.stmts).flatMap Stmt.ownDeclaration

theorem perm_declarations (item : Item) :
    (item.plainDeclarations ++ item.clauseDeclarations).Perm item.declarations := by
  unfold plainDeclarations clauseDeclarations declarations
  rw [List.append_assoc, ← List.flatMap_append]
  exact ((Stmt.perm_partsAll item.stmts).flatMap_right _).append_left _

/-- The declarations of an item stand at nodes of its own. -/
theorem nodes_declarations_sublist (item : Item) :
    List.Sublist (item.declarations.map (·.span.node)) item.sites := by
  have own (stmt : Stmt) :
      List.Sublist (stmt.ownDeclaration.map (·.span.node)) stmt.ownSites := by
    refine List.Sublist.trans ?_
      ((List.sublist_append_left _ _).trans (List.sublist_append_left _ _))
    cases stmt <;> first | exact List.Sublist.refl _ | exact List.nil_sublist _
  have head : List.Sublist (item.ownDeclaration.map (·.span.node))
      (item.ownNode ++ item.params.map (·.span.node)) := by
    refine List.Sublist.trans ?_ (List.sublist_append_left _ _)
    cases item <;> exact List.Sublist.refl _
  unfold declarations sites
  rw [List.map_append, List.map_flatMap]
  refine (head.append (sublist_flatMap _ own)).trans ?_
  exact (List.sublist_append_left _ _).trans (List.sublist_append_left _ _)

end Item

namespace Module

/-- All declarations of a unit. -/
def declarations (unit : Module) : List Declaration := unit.items.flatMap Item.declarations

/-- The declarations of a unit that stand in no clause of a loop. -/
def plainDeclarations (unit : Module) : List Declaration :=
  unit.items.flatMap Item.plainDeclarations

/-- The declarations of a unit that stand in clauses of loops. -/
def clauseDeclarations (unit : Module) : List Declaration :=
  unit.items.flatMap Item.clauseDeclarations

theorem perm_declarations (unit : Module) :
    (unit.plainDeclarations ++ unit.clauseDeclarations).Perm unit.declarations :=
  (List.flatMap_append_perm _ _ _).trans
    (List.Perm.flatMap_left _ fun item _ => item.perm_declarations)

/-- In a decoded unit no two declarations stand at one node. -/
theorem nodup_declarations {file text : String} {unit : Module}
    (read : Module.decode file text = .ok unit) :
    (unit.declarations.map (·.span.node)).Nodup := by
  unfold declarations
  rw [List.map_flatMap]
  exact (nodup_sites read).sublist (Item.sublist_flatMap _ Item.nodes_declarations_sublist)

end Module

namespace Attributes

/-- What is said about the declarations of an item is said about those in no clause. -/
theorem itemFindings_eq (item : Item) :
    itemFindings item = item.plainDeclarations.flatMap Declaration.findings := by
  have parts : itemFindings item =
      item.ownDeclaration.flatMap Declaration.findings ++ stmtsFindings item.stmts := by
    cases item with
    | function decl =>
      cases body : decl.body <;>
        simp [itemFindings, Item.ownDeclaration, Item.stmts, Item.body, Declaration.findings,
          stmtsFindings, body]
    | _ =>
      simp [itemFindings, Item.ownDeclaration, Item.stmts, Item.body, Declaration.findings,
        stmtsFindings]
  rw [parts, Item.plainDeclarations, List.flatMap_append, stmtsFindings_eq]

/-- In a decoded unit the fourth pass judges each declaration once, in the order in which
they are written, except for those that stand in clauses of loops. -/
theorem declarations_judged_once {file text : String} {unit : Module}
    (read : Module.decode file text = .ok unit) :
    (unit.declarations.map (·.span.node)).Nodup ∧
    (unit.plainDeclarations ++ unit.clauseDeclarations).Perm unit.declarations ∧
    (∀ session : Session, session.items = unit.items →
      (session.after Pass.attributes.walk).findings =
        session.findings ++ unit.plainDeclarations.flatMap Declaration.findings) ∧
    ∀ options : Options, ∃ before behind, (Session.check (some unit) options).findings =
      before ++ unit.plainDeclarations.flatMap Declaration.findings ++ behind := by
  have judged : unit.items.flatMap itemFindings =
      unit.plainDeclarations.flatMap Declaration.findings := by
    unfold Module.plainDeclarations
    rw [List.flatMap_assoc]
    exact List.flatMap_congr fun item _ => itemFindings_eq item
  refine ⟨Module.nodup_declarations read, unit.perm_declarations, ?_, ?_⟩
  · intro session isUnit
    rw [after_attributes, isUnit, judged]
  · intro options
    have items : (Session.ahead (some unit) options .attributes).items = unit.items :=
      items_ahead (some unit) options .attributes
    obtain ⟨-, -, -, -, attributes, lint, -⟩ := check_walks (some unit) options
    have reported := lint.findings
    have ahead := attributes.findings
    rw [after_lint] at reported
    rw [after_attributes, items, judged] at ahead
    refine ⟨(Session.ahead (some unit) options .attributes).findings,
      Lint.findings (.ahead (some unit) options .lint), ?_⟩
    simp only [reported, ahead]

/-- A constant with an attribute for structs. -/
def heapConstant : ConstDecl where
  attributes := [⟨"heap", none, .ofLine 26 31⟩]
  name := some ⟨"K", .ofLine 32 33⟩
  type := some (.named "u8" (.ofLine 34 36))
  value := some (.literal ⟨.integer, "1", .ofLine 37 38⟩)
  span := .ofLine 19 39

/-- An entrypoint with the constant in the first clause of its loop. -/
def clauseEntry : EntryDecl where
  attributes := []
  body := ⟨[.forLoop (some (.const heapConstant)) none none [] (.ofLine 44 51) (.ofLine 14 52)],
    .ofLine 7 53⟩
  span := .ofLine 0 54

/-- A unit with this entrypoint. -/
def clauseUnit : Module := ⟨"unit", [.entry clauseEntry], some (.ofLine 0 54)⟩

theorem decode_clauseUnit :
    Module.decode "unit" "(entry (block (for (const @heap K u8 1) _ _ (block))))" =
      .ok clauseUnit :=
  Module.decode_chars (by cbv)

/-- Of the two declarations of the unit the entrypoint is judged. -/
theorem declarations_judged_once_entry :
    clauseUnit.plainDeclarations = [⟨.entrypoint, [], .ofLine 0 54, none⟩] ∧
      (clauseUnit.plainDeclarations ++ clauseUnit.clauseDeclarations).Perm
        clauseUnit.declarations ∧
      ∃ before behind, (Session.check (some clauseUnit) .standard).findings =
        before ++ clauseUnit.plainDeclarations.flatMap Declaration.findings ++ behind := by
  obtain ⟨-, perm, -, reported⟩ := declarations_judged_once decode_clauseUnit
  exact ⟨rfl, perm, reported .standard⟩

/-- The constant in the clause is to be reported, but nothing is found in the unit. -/
theorem clause_declaration_unjudged :
    Module.decode "unit" "(entry (block (for (const @heap K u8 1) _ _ (block))))" =
        .ok clauseUnit ∧
      (∃ declaration ∈ clauseUnit.declarations,
        declaration.findings.map Finding.code = ["A0001"]) ∧
      (Session.check (some clauseUnit) .standard).findings = [] := by
  refine ⟨decode_clauseUnit, ?_, by decide +kernel⟩
  exact ⟨⟨.constant, heapConstant.attributes, heapConstant.span, none⟩,
    List.mem_cons_of_mem _ List.mem_cons_self, by decide +kernel⟩

end Attributes

end UnitCheck
