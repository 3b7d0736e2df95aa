import UnitCheck.Lint.Unit
import UnitCheck.Proofs.Flow.Steps
import UnitCheck.Proofs.Session.Origin

/-!
# What is said about control flow comes from the unit

Misplaced statements and instructions are reported where they stand. The blocks of a flow
graph have the places of the statements that they are built from, so the branches of a
function that can end without its result have places of the unit as well.
-/

namespace UnitCheck

variable {origin : Origin}

/-! ### Flow graphs -/

namespace Flow

/-- The blocks of the graph have places of the unit. -/
def Graph.From (origin : Origin) (graph : Graph) : Prop :=
  ∀ block ∈ graph.blocks, ∀ place ∈ block.place, origin.span place

mutual

/-- What blocks may belong to has places of the unit. -/
theorem owners_from : (stmt : Stmt) -> stmt.From origin ->
    ∀ owner ∈ owners stmt, ∀ place ∈ owner.1, origin.span place
  | .block body _, isFrom => ownersAll_from body isFrom.2
  | .cond _ body bodySpan otherwise span, isFrom => by
    obtain ⟨isPlace, isBodyPlace, -, bodyFrom, otherwiseFrom⟩ := isFrom
    simp only [owners, List.forall_mem_cons, List.forall_mem_append]
    exact ⟨some_from isBodyPlace, ownersAll_from body bodyFrom,
      ownersElse_from otherwise otherwiseFrom, some_from isPlace, List.forall_mem_nil _⟩
  | .whileLoop _ body bodySpan span, ⟨isPlace, isBodyPlace, _, bodyFrom⟩
  | .loop body bodySpan span, ⟨isPlace, isBodyPlace, bodyFrom⟩
  | .forLoop _ _ _ body bodySpan span, ⟨isPlace, isBodyPlace, _, _, _, bodyFrom⟩ => by
    simp only [owners, List.forall_mem_cons]
    exact ⟨some_from isPlace, some_from isBodyPlace, some_from isPlace,
      ownersAll_from body bodyFrom⟩
  | .ret _ _, _ | .brk _, _ | .cont _, _ | .expr _, _ | .letIn _, _ | .instr _, _ | .const _, _
  | .struct _, _ | .assign _ _ _, _ | .write _ _ _, _ | .bad _, _ => List.forall_mem_nil _

theorem ownersElse_from : (otherwise : Option Stmt) -> Stmt.From? origin otherwise ->
    ∀ owner ∈ ownersElse otherwise, ∀ place ∈ owner.1, origin.span place
  | none, _ => List.forall_mem_nil _
  | some otherwise, isFrom => List.forall_mem_cons.mpr
    ⟨some_from (Stmt.span_from isFrom), owners_from otherwise isFrom⟩

theorem ownersAll_from : (body : List Stmt) -> Stmt.AllFrom origin body ->
    ∀ owner ∈ ownersAll body, ∀ place ∈ owner.1, origin.span place
  | [], _ => List.forall_mem_nil _
  | stmt :: rest, isFrom => List.forall_mem_append.mpr
    ⟨owners_from stmt isFrom.1, ownersAll_from rest isFrom.2⟩

end

/-- The blocks of the flow graph of a body have places of the unit. -/
theorem from_graph {body : Body} (bodyFrom : body.From origin) {place : Span}
    (isPlace : origin.span place) : (graph (some body) place).From origin := by
  obtain ⟨new, among, same⟩ := owners_graph body place
  have all : ∀ owner ∈ (graph (some body) place).blocks.map Block.owner, ∀ place ∈ owner.1,
      origin.span place := by
    rw [same]
    exact List.forall_mem_cons.mpr ⟨some_from isPlace, List.forall_mem_cons.mpr ⟨none_from,
      fun owner isOwner => ownersAll_from _ bodyFrom.stmts owner (among.subset isOwner)⟩⟩
  exact List.forall_mem_map.mp all

end Flow

/-! ### Placement -/

namespace Lint

variable (view : View)

theorem from_requireBody (site : Site) {span : Span} (isPlace : origin.span span)
    (instruction : String) :
    ∀ finding ∈ requireBody site span instruction, finding.From origin := by
  unfold requireBody
  split
  · exact List.forall_mem_nil _
  · exact List.forall_mem_singleton.mpr (Finding.from_place isPlace rfl)

theorem from_addressFindings {span : Span} (isPlace : origin.span span) {operand : Expr}
    (isFrom : operand.From origin) :
    ∀ finding ∈ addressFindings view span operand, finding.From origin := by
  unfold addressFindings
  split
  · split
    · exact List.forall_mem_singleton.mpr (List.forall_mem_cons.mpr
        ⟨isPlace, List.forall_mem_singleton.mpr (Expr.span_from isFrom)⟩)
    · exact List.forall_mem_nil _
  · exact List.forall_mem_nil _

mutual

theorem from_exprFindings : (expr : Expr) -> expr.From origin -> (site : Site) ->
    ∀ finding ∈ exprFindings view site expr, finding.From origin
  | .addressOf operand span, isFrom, site => by
    unfold exprFindings
    split
    · exact List.forall_mem_append.mpr
        ⟨from_addressFindings view isFrom.1 isFrom.2, from_exprFindings operand isFrom.2 site⟩
    · exact from_requireBody site isFrom.1 _
  | .load _ operand span, isFrom, site => by
    unfold exprFindings
    split
    · exact from_exprFindings operand isFrom.2.2 site
    · exact from_requireBody site isFrom.1 _
  | .alloc _ span, isFrom, site => from_requireBody site isFrom.1 _
  | .binary _ left right _, isFrom, site | .index left right _, isFrom, site =>
    List.forall_mem_append.mpr
      ⟨from_exprFindings left isFrom.2.1 site, from_exprFindings right isFrom.2.2 site⟩
  | .unary _ operand _, isFrom, site | .field operand _ _, isFrom, site =>
    from_exprFindings operand isFrom.2 site
  | .call _ args _, isFrom, site => from_exprsFindings args isFrom.2.2 site
  | .callValue function args _, isFrom, site => List.forall_mem_append.mpr
    ⟨from_exprFindings function isFrom.2.1 site, from_exprsFindings args isFrom.2.2 site⟩
  | .cast _ operand _, isFrom, site => from_exprFindings operand isFrom.2.2 site
  | .array _ items _, isFrom, site => from_exprsFindings items isFrom.2.2 site
  | .literal _, _, _ | .name _, _, _ | .bad _, _, _ => List.forall_mem_nil _

theorem from_exprsFindings : (exprs : List Expr) -> Expr.AllFrom origin exprs -> (site : Site) ->
    ∀ finding ∈ exprsFindings view site exprs, finding.From origin
  | [], _, _ => List.forall_mem_nil _
  | expr :: rest, isFrom, site => List.forall_mem_append.mpr
    ⟨from_exprFindings expr isFrom.1 site, from_exprsFindings rest isFrom.2 site⟩

end

theorem from_exprFindings? (expr : Option Expr) (isFrom : ∀ found ∈ expr, found.From origin)
    (site : Site) : ∀ finding ∈ exprFindings? view site expr, finding.From origin := by
  cases expr with
  | none => exact List.forall_mem_nil _
  | some expr => exact from_exprFindings view expr (isFrom expr rfl) site

theorem from_deadFindings (strict : Bool) (closer : Terminator) (body : List Stmt)
    (isFrom : ∀ stmt ∈ body, stmt.From origin) :
    ∀ finding ∈ deadFindings strict closer body, finding.From origin := by
  induction body with
  | nil => exact List.forall_mem_nil _
  | cons stmt rest inductionHypothesis =>
    obtain ⟨stmtFrom, restFrom⟩ := List.forall_mem_cons.mp isFrom
    unfold deadFindings
    split
    · exact List.forall_mem_cons.mpr ⟨Finding.from_place (Stmt.span_from stmtFrom) rfl,
        List.forall_mem_map.mpr fun later isLater =>
          Finding.from_place (Stmt.span_from (restFrom later isLater)) rfl⟩
    · exact List.forall_mem_cons.mpr ⟨Finding.from_place (Stmt.span_from stmtFrom) rfl,
        inductionHypothesis restFrom⟩

mutual

theorem from_stmtFindings : (stmt : Stmt) -> stmt.From origin -> (site : Site) ->
    ∀ finding ∈ stmtFindings view site stmt, finding.From origin
  | .ret value span, isFrom, site => by
    refine List.forall_mem_append.mpr ⟨from_exprFindings? view value isFrom.2 site, ?_⟩
    split
    · exact List.forall_mem_nil _
    · exact List.forall_mem_singleton.mpr (Finding.from_place isFrom.1 rfl)
  | .brk span, isFrom, site | .cont span, isFrom, site => by
    unfold stmtFindings
    split
    · exact List.forall_mem_nil _
    · exact List.forall_mem_singleton.mpr (Finding.from_place isFrom rfl)
  | .block body _, isFrom, site => from_stmtsFindings body isFrom.2 site
  | .cond test body _ otherwise _, isFrom, site => by
    obtain ⟨-, -, testFrom, bodyFrom, otherwiseFrom⟩ := isFrom
    exact List.forall_mem_append.mpr ⟨List.forall_mem_append.mpr
      ⟨from_exprFindings view test testFrom site, from_stmtsFindings body bodyFrom site⟩,
      from_stmtFindings? otherwise otherwiseFrom site⟩
  | .whileLoop test body _ _, isFrom, site => by
    obtain ⟨-, -, testFrom, bodyFrom⟩ := isFrom
    exact List.forall_mem_append.mpr
      ⟨from_exprFindings view test testFrom site, from_stmtsFindings body bodyFrom site.loop⟩
  | .loop body _ _, isFrom, site => from_stmtsFindings body isFrom.2.2 site.loop
  | .forLoop first test after body _ _, isFrom, site => by
    obtain ⟨-, -, firstFrom, testFrom, afterFrom, bodyFrom⟩ := isFrom
    exact List.forall_mem_append.mpr ⟨List.forall_mem_append.mpr ⟨List.forall_mem_append.mpr
      ⟨from_stmtFindings? first firstFrom site, from_exprFindings? view test testFrom site⟩,
      from_stmtFindings? after afterFrom site.loop⟩, from_stmtsFindings body bodyFrom site.loop⟩
  | .expr value, isFrom, site => from_exprFindings view value isFrom site
  | .letIn binding, isFrom, site =>
    from_exprFindings? view _ (BindingDecl.From.value isFrom) site
  | .const decl, isFrom, site => from_exprFindings? view _ (ConstDecl.From.value isFrom) .outside
  | .assign target value _, isFrom, site => List.forall_mem_append.mpr
    ⟨from_exprFindings view target isFrom.2.1 site, from_exprFindings view value isFrom.2.2 site⟩
  | .instr binding, isFrom, site => List.forall_mem_append.mpr
    ⟨from_requireBody site (BindingDecl.From.span isFrom) _,
      from_exprFindings? view _ (BindingDecl.From.value isFrom) site⟩
  | .write target value span, isFrom, site => List.forall_mem_append.mpr
    ⟨List.forall_mem_append.mpr
      ⟨from_requireBody site isFrom.1 _, from_exprFindings view target isFrom.2.1 site⟩,
      from_exprFindings view value isFrom.2.2 site⟩
  | .struct _, _, _ | .bad _, _, _ => List.forall_mem_nil _

theorem from_stmtFindings? : (stmt : Option Stmt) -> Stmt.From? origin stmt -> (site : Site) ->
    ∀ finding ∈ stmtFindings? view site stmt, finding.From origin
  | none, _, _ => List.forall_mem_nil _
  | some stmt, isFrom, site => from_stmtFindings stmt isFrom site

theorem from_stmtsFindings : (stmts : List Stmt) -> Stmt.AllFrom origin stmts -> (site : Site) ->
    ∀ finding ∈ stmtsFindings view site stmts, finding.From origin
  | [], _, _ => List.forall_mem_nil _
  | stmt :: rest, isFrom, site => by
    refine List.forall_mem_append.mpr ⟨from_stmtFindings stmt isFrom.1 site, ?_⟩
    split
    · exact from_deadFindings _ _ rest (Stmt.allFrom_iff.mp isFrom.2)
    · exact from_stmtsFindings rest isFrom.2 site

end

/-! ### Items -/

/-- What is said about a missing result is about the function and about its branches. -/
theorem from_missingReturn? (session : Session) {decl : FunctionDecl} (isFrom : decl.From origin)
    {body : Body} (bodyFrom : body.From origin) :
    ∀ finding ∈ missingReturn? session decl body, finding.From origin := by
  unfold missingReturn?
  split
  · exact none_from
  · simp only
    split
    · exact none_from
    · refine some_from (List.forall_mem_cons.mpr ⟨?_, ?_⟩)
      · split
        · exact isFrom.name _ ‹_›
        · exact isFrom.span
      · refine List.forall_mem_map.mpr fun branch isBranch => ?_
        obtain ⟨block, isMissing, isPlaced⟩ := List.mem_filterMap.mp isBranch
        have placeFrom := Flow.from_graph bodyFrom isFrom.span block (List.mem_of_mem_filter isMissing)
        split at isPlaced
        · cases isPlaced
          exact placeFrom _ ‹_›
        · cases isPlaced

theorem from_itemFindings (session : Session) {item : Item} (isFrom : item.From origin) :
    ∀ finding ∈ itemFindings session view item, finding.From origin := by
  cases item with
  | function decl =>
    have bodyFrom := FunctionDecl.From.body isFrom
    unfold itemFindings
    simp only
    split
    · have found := bodyFrom _ ‹_›
      refine List.forall_mem_append.mpr
        ⟨from_stmtsFindings view _ found.stmts .body, fun finding isMissing => ?_⟩
      exact from_missingReturn? session isFrom found finding (Option.mem_toList.mp isMissing)
    · exact List.forall_mem_nil _
  | entry decl => exact from_stmtsFindings view _ (EntryDecl.From.body isFrom).stmts .body
  | const decl => exact from_exprFindings? view _ (ConstDecl.From.value isFrom) .outside
  | static decl => exact from_exprFindings? view _ (StaticDecl.From.value isFrom) .outside
  | enum decl =>
    refine List.forall_mem_flatMap.mpr fun variant isVariant => ?_
    exact from_exprFindings? view _ (EnumDecl.From.variants isFrom variant isVariant).value .outside
  | asm | struct | typeAlias | stray => exact List.forall_mem_nil _

/-- Everything said about the control flow of a unit is about places in it. -/
theorem from_findings {session : Session} (itemsFrom : ∀ item ∈ session.items, item.From origin) :
    ∀ finding ∈ findings session, finding.From origin := by
  refine List.forall_mem_append.mpr ⟨List.forall_mem_flatMap.mpr fun item isItem =>
    from_itemFindings _ session (itemsFrom item isItem), ?_⟩
  refine from_stmtsFindings _ _ (Stmt.allFrom_iff.mpr fun stmt isStray => ?_) .outside
  obtain ⟨item, isItem, isStmt⟩ := List.mem_filterMap.mp isStray
  have itemFrom := itemsFrom item isItem
  cases item with
  | stray other =>
    cases isStmt
    exact itemFrom
  | _ => cases isStmt

end Lint
end UnitCheck
