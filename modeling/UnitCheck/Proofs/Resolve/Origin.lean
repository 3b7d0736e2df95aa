import UnitCheck.Proofs.Declare.Origin
import UnitCheck.Proofs.Resolve.Frame

/-!
# What resolving finds comes from the unit

Locals stand where bodies declare them, names refer to symbols of the table, and the types
of what is bound are those of written types or of structs in bodies.
-/

namespace UnitCheck.Resolve

variable {origin : Origin}

/-! ### Frames and locals -/

theorem sourced_beginScope : (sourced origin).Obeys beginScope :=
  fun session holds => .single (show MaySource origin (.locals session.table.locals
    (session.table.locals.length :: session.table.frames)) from holds.locals)

theorem sourced_endScope {span : Span} (isPlace : origin.span span) :
    (sourced origin).Obeys (endScope span) := by
  refine .readAt fun session holds => ?_
  cases closed : session.table.endScope with
  | error _ => exact Check.obeys_report_place isPlace rfl session holds
  | ok table =>
    unfold Table.endScope at closed
    split at closed
    · cases closed
    · rename_i start outer _
      cases closed
      exact .single (show MaySource origin (.locals (session.table.locals.drop
        (session.table.locals.length - start)) outer)
        from fun symbol isLocal => holds.locals symbol (List.mem_of_mem_drop isLocal))

/-- A name that is taken is that of a symbol that stands at a place. -/
theorem gives_bindLocal {node : NodeId} {symbol : Symbol} {known : SymbolType}
    (symbolFrom : symbol.From origin) (knownFrom : known.From origin) :
    (sourced origin).Gives (bindLocal node symbol known) fun outcome =>
      ∀ name previous, outcome = some (.duplicate name previous) → previous.From origin := by
  refine .read fun session holds => ?_
  cases declared : session.table.declareLocal symbol with
  | error problem =>
    refine Regime.Gives.pure ?_ session holds
    rintro name previous ⟨⟩
    unfold Table.declareLocal at declared
    split at declared
    · cases declared
    · split at declared
      · rename_i isTaken
        cases declared
        exact holds.locals _ (List.mem_of_mem_take (List.mem_of_find?_eq_some isTaken))
      · cases declared
  | ok table =>
    have placed : (sourced origin).GivesAt session (Check.setTable table) fun _ => True := by
      refine ⟨?_, trivial⟩
      unfold Table.declareLocal at declared
      split at declared
      · cases declared
      · split at declared
        · cases declared
        · cases declared
          exact .single (show MaySource origin
            (.locals (symbol :: session.table.locals) session.table.frames)
            from List.forall_mem_cons.mpr ⟨symbolFrom, holds.locals⟩)
    refine Regime.Gives.behind placed holds fun _ _ =>
      .bind (.ofObeys (Check.obeys_setKnown knownFrom)) fun _ _ =>
      .bind (.ofObeys (Check.obeys_recordDecl symbolFrom)) fun _ _ => .pure ?_
    rintro name previous ⟨⟩

theorem sourced_declareLocal {node : NodeId} {name : Ident} {symbol : Symbol} {known : SymbolType}
    (nameFrom : name.From origin) (symbolFrom : symbol.From origin) (knownFrom : known.From origin) :
    (sourced origin).Obeys (declareLocal node name symbol known) := by
  refine Regime.Gives.obeys ((gives_bindLocal symbolFrom knownFrom).bind fun outcome taken =>
    .ofObeys ?_)
  split
  · exact .pure _
  · exact Check.obeys_report (Finding.from_symbol nameFrom (taken _ _ rfl) rfl)
  · exact Check.obeys_report_place nameFrom rfl

/-! ### Expressions -/

theorem sourced_resolveName {name : Ident} (isFrom : name.From origin) :
    (sourced origin).Obeys (resolveName name) := by
  refine .readAt fun session holds => ?_
  cases found : session.table.resolve? name.name with
  | some symbol =>
    exact Regime.Obeys.bind (Check.obeys_recordRef (holds.resolve? found)) (fun _ => .pure _) session
      holds
  | none =>
    exact Regime.Obeys.bind (Check.obeys_report_place isFrom rfl) (fun _ => .pure _) session holds

theorem sourced_resolveValue {name : Ident} (isFrom : name.From origin) :
    (sourced origin).Obeys (resolveValue name) := by
  refine .bind (sourced_resolveName isFrom) fun found => ?_
  cases found with
  | none => exact .pure _
  | some symbol =>
    simp only
    split
    · exact Check.obeys_report_place isFrom rfl
    · exact .pure _

theorem sourced_resolveCallee {name : Ident} (isFrom : name.From origin) :
    (sourced origin).Obeys (resolveCallee name) := by
  refine .readAt fun session holds => ?_
  simp only
  split
  · rename_i symbol found
    refine Check.obeys_recordRef ?_ session holds
    simp only [Option.orElse_eq_orElse, Option.orElse_eq_or, Option.or_eq_some_iff] at found
    obtain isFunction | ⟨-, isType⟩ := found
    · exact holds.global? isFunction
    · exact holds.resolveType? isType
  · exact Regime.Obeys.bind (sourced_resolveName isFrom) (fun _ => .pure _) session holds

theorem gives_enumNamed? (name : Ident) : (sourced origin).Gives (enumNamed? name) fun found =>
    ∀ symbol ∈ found, symbol.From origin := by
  refine .read fun session holds => ?_
  cases found : session.table.resolve? name.name with
  | none => exact Regime.Gives.pure none_from session holds
  | some symbol =>
    refine Regime.Gives.pure ?_ session holds
    split
    · exact some_from (holds.resolve? found)
    · exact none_from

theorem sourced_resolveType {form : TypeForm} (isFrom : form.From origin) :
    (sourced origin).Obeys (resolveType form) :=
  .bind (Check.gives_typeOf form isFrom).obeys fun _ => .pure _

mutual

theorem sourced_resolveExpr : (expr : Expr) -> expr.From origin ->
    (sourced origin).Obeys (resolveExpr expr)
  | .literal _, _ | .bad _, _ => by
    unfold resolveExpr
    exact .pure _
  | .name name, isFrom => by
    unfold resolveExpr
    exact sourced_resolveValue isFrom
  | .binary _ left right _, isFrom | .index left right _, isFrom => by
    unfold resolveExpr
    exact .bind (sourced_resolveExpr left isFrom.2.1) fun _ => sourced_resolveExpr right isFrom.2.2
  | .unary _ operand _, isFrom | .addressOf operand _, isFrom => by
    unfold resolveExpr
    exact sourced_resolveExpr operand isFrom.2
  | .call callee args _, isFrom => by
    unfold resolveExpr
    exact .bind (sourced_resolveCallee isFrom.2.1) fun _ => sourced_resolveExprs args isFrom.2.2
  | .callValue function args _, isFrom => by
    unfold resolveExpr
    exact .bind (sourced_resolveExpr function isFrom.2.1) fun _ =>
      sourced_resolveExprs args isFrom.2.2
  | .field base path span, isFrom => by
    unfold resolveExpr
    split
    · rename_i name
      refine Regime.Gives.obeys ((gives_enumNamed? name).bind fun found foundFrom => .ofObeys ?_)
      cases found with
      | some symbol => exact Check.obeys_recordRef (foundFrom symbol rfl)
      | none => exact sourced_resolveValue isFrom.2
    · exact sourced_resolveExpr base isFrom.2
  | .cast type operand _, isFrom => by
    unfold resolveExpr
    exact .bind (sourced_resolveExpr operand isFrom.2.2) fun _ => sourced_resolveType isFrom.2.1
  | .array element items _, isFrom => by
    unfold resolveExpr
    cases element with
    | some type =>
      exact .bind (sourced_resolveType (isFrom.2.1 type rfl)) fun _ =>
        sourced_resolveExprs items isFrom.2.2
    | none => exact sourced_resolveExprs items isFrom.2.2
  | .load type operand _, isFrom => by
    unfold resolveExpr
    exact .bind (sourced_resolveType isFrom.2.1) fun _ => sourced_resolveExpr operand isFrom.2.2
  | .alloc type _, isFrom => by
    unfold resolveExpr
    exact sourced_resolveType isFrom.2

theorem sourced_resolveExprs : (exprs : List Expr) -> Expr.AllFrom origin exprs ->
    (sourced origin).Obeys (resolveExprs exprs)
  | [], _ => by
    unfold resolveExprs
    exact .pure _
  | expr :: rest, isFrom => by
    unfold resolveExprs
    exact .bind (sourced_resolveExpr expr isFrom.1) fun _ => sourced_resolveExprs rest isFrom.2

end

theorem sourced_resolveExpr? : (expr : Option Expr) -> (∀ found ∈ expr, found.From origin) ->
    (sourced origin).Obeys (resolveExpr? expr)
  | none, _ => .pure _
  | some expr, isFrom => sourced_resolveExpr expr (isFrom expr rfl)

/-! ### Declarations inside bodies -/

theorem sourced_resolveBinding (kind : SymbolKind) {binding : BindingDecl}
    (isFrom : binding.From origin) : (sourced origin).Obeys (resolveBinding kind binding) :=
  .bind (sourced_resolveExpr? _ isFrom.value) fun _ => Regime.Gives.obeys
    ((Check.gives_typeOf? _ isFrom.type).bind fun _ typeFrom => .ofObeys
      (sourced_declareLocal isFrom.name (some_from isFrom.name) (SymbolType.from_ofType typeFrom)))

theorem sourced_resolveConst {decl : ConstDecl} (isFrom : decl.From origin) :
    (sourced origin).Obeys (resolveConst decl) := by
  refine .bind (sourced_resolveExpr? _ isFrom.value) fun _ => Regime.Gives.obeys
    ((Check.gives_typeOf? _ isFrom.type).bind fun _ typeFrom => .ofObeys ?_)
  cases named : decl.name with
  | none => exact .pure _
  | some name =>
    have nameFrom := isFrom.name name named
    exact sourced_declareLocal nameFrom (some_from nameFrom) (SymbolType.from_ofType typeFrom)

theorem gives_localFields : (fields : List FieldDecl) -> (∀ field ∈ fields, field.From origin) ->
    (index : Nat) -> (sourced origin).Gives (localFields index fields) fun found =>
      ∀ field ∈ found, field.type.From origin
  | [], _, _ => .pure (List.forall_mem_nil _)
  | field :: rest, isFrom, index => by
    obtain ⟨fieldFrom, restFrom⟩ := List.forall_mem_cons.mp isFrom
    exact (Check.gives_typeOf field.type fieldFrom.type).bind fun _ found =>
      (gives_localFields rest restFrom _).bind fun _ others =>
      .pure (List.forall_mem_cons.mpr ⟨found, others⟩)

theorem sourced_resolveStruct {decl : StructDecl} (isFrom : decl.From origin) :
    (sourced origin).Obeys (resolveStruct decl) := by
  unfold resolveStruct
  cases named : decl.name with
  | none => exact .pure _
  | some name =>
    have nameFrom := isFrom.name name named
    refine .bind (sourced_declareLocal nameFrom (some_from nameFrom) (SymbolType.from_ofType
      (some_from (isFrom.declared name named)))) fun _ => Regime.Gives.obeys
      ((gives_localFields decl.fields isFrom.fields 0).bind fun fields found => .ofObeys ?_)
    exact fun _ _ => .single (show MaySource origin (.struct decl.span.node
      ⟨fields, if decl.attributes.any (·.name = "packed") then .packed else .padded⟩) from found)

/-! ### Statements -/

mutual

theorem sourced_resolveStmt : (stmt : Stmt) -> stmt.From origin ->
    (sourced origin).Obeys (resolveStmt stmt)
  | .block body span, isFrom => by
    unfold resolveStmt
    exact .bind sourced_beginScope fun _ => .bind (sourced_resolveStmts body isFrom.2) fun _ =>
      sourced_endScope isFrom.1
  | .expr value, isFrom => by
    unfold resolveStmt
    exact sourced_resolveExpr value isFrom
  | .letIn binding, isFrom | .instr binding, isFrom => by
    unfold resolveStmt
    exact sourced_resolveBinding _ isFrom
  | .const decl, isFrom => by
    unfold resolveStmt
    exact sourced_resolveConst isFrom
  | .struct decl, isFrom => by
    unfold resolveStmt
    exact sourced_resolveStruct isFrom
  | .assign target value _, isFrom | .write target value _, isFrom => by
    unfold resolveStmt
    exact .bind (sourced_resolveExpr target isFrom.2.1) fun _ => sourced_resolveExpr value isFrom.2.2
  | .cond test body bodySpan otherwise _, isFrom => by
    obtain ⟨-, bodyPlace, testFrom, bodyFrom, otherwiseFrom⟩ := isFrom
    unfold resolveStmt
    exact .bind (sourced_resolveExpr test testFrom) fun _ => .bind sourced_beginScope fun _ =>
      .bind (sourced_resolveStmts body bodyFrom) fun _ =>
      .bind (sourced_endScope bodyPlace) fun _ => sourced_resolveStmt? otherwise otherwiseFrom
  | .whileLoop test body bodySpan _, isFrom => by
    obtain ⟨-, bodyPlace, testFrom, bodyFrom⟩ := isFrom
    unfold resolveStmt
    exact .bind (sourced_resolveExpr test testFrom) fun _ => .bind sourced_beginScope fun _ =>
      .bind (sourced_resolveStmts body bodyFrom) fun _ => sourced_endScope bodyPlace
  | .loop body bodySpan _, isFrom => by
    obtain ⟨-, bodyPlace, bodyFrom⟩ := isFrom
    unfold resolveStmt
    exact .bind sourced_beginScope fun _ => .bind (sourced_resolveStmts body bodyFrom) fun _ =>
      sourced_endScope bodyPlace
  | .forLoop first test after body bodySpan span, isFrom => by
    obtain ⟨isPlace, bodyPlace, firstFrom, testFrom, afterFrom, bodyFrom⟩ := isFrom
    unfold resolveStmt
    exact .bind sourced_beginScope fun _ => .bind (sourced_resolveStmt? first firstFrom) fun _ =>
      .bind (sourced_resolveExpr? test testFrom) fun _ =>
      .bind (sourced_resolveStmt? after afterFrom) fun _ => .bind sourced_beginScope fun _ =>
      .bind (sourced_resolveStmts body bodyFrom) fun _ =>
      .bind (sourced_endScope bodyPlace) fun _ => sourced_endScope isPlace
  | .ret value _, isFrom => by
    unfold resolveStmt
    exact sourced_resolveExpr? value isFrom.2
  | .brk _, _ | .cont _, _ | .bad _, _ => by
    unfold resolveStmt
    exact .pure _

theorem sourced_resolveStmt? : (stmt : Option Stmt) -> Stmt.From? origin stmt ->
    (sourced origin).Obeys (resolveStmt? stmt)
  | none, _ => by
    unfold resolveStmt?
    exact .pure _
  | some stmt, isFrom => by
    unfold resolveStmt?
    exact sourced_resolveStmt stmt isFrom

theorem sourced_resolveStmts : (stmts : List Stmt) -> Stmt.AllFrom origin stmts ->
    (sourced origin).Obeys (resolveStmts stmts)
  | [], _ => by
    unfold resolveStmts
    exact .pure _
  | stmt :: rest, isFrom => by
    unfold resolveStmts
    exact .bind (sourced_resolveStmt stmt isFrom.1) fun _ => sourced_resolveStmts rest isFrom.2

end

/-! ### Items -/

theorem sourced_declareParam {param : Param} (isFrom : param.From origin) {type : Ty}
    (typeFrom : type.From origin) : (sourced origin).Obeys (declareParam param type) := by
  have symbolFrom : Symbol.From origin
      { Symbol.plain (.node param.span.node) param.name.name .parameter (some param.name.span) with
        isMutable := param.isMutable } := some_from isFrom.name
  refine Regime.Gives.obeys ((gives_bindLocal symbolFrom
    (SymbolType.from_ofType (some_from typeFrom))).bind fun outcome taken => .ofObeys ?_)
  split
  · exact .pure _
  · exact Check.obeys_report (Finding.from_symbol isFrom.name (taken _ _ rfl) rfl)
  · exact Check.obeys_report_place isFrom.name rfl

theorem sourced_resolveParams : (params : List Param) -> (∀ param ∈ params, param.From origin) ->
    (types : List Ty) -> (∀ type ∈ types, type.From origin) ->
    (sourced origin).Obeys (resolveParams types params)
  | [], _, _, _ => .pure _
  | param :: rest, isFrom, types, typesFrom => by
    obtain ⟨paramFrom, restFrom⟩ := List.forall_mem_cons.mp isFrom
    have given : (sourced origin).Gives (types.head?.elim (Check.typeOf param.type) pure)
        (Ty.From origin) := by
      cases types with
      | nil => exact Check.gives_typeOf param.type paramFrom.type
      | cons type others => exact .pure (List.forall_mem_cons.mp typesFrom).1
    rw [resolveParams_cons]
    refine Regime.Gives.obeys (given.bind fun type typeFrom => .ofObeys ?_)
    exact .bind (sourced_declareParam paramFrom typeFrom) fun _ => sourced_resolveParams rest
      restFrom _ fun other isOther => typesFrom other (List.mem_of_mem_tail isOther)

theorem sourced_resolveFunction {span : Span} (isPlace : origin.span span) {params : List Param}
    (paramsFrom : ∀ param ∈ params, param.From origin) {body : Option Body}
    (bodyFrom : ∀ found ∈ body, found.From origin) :
    (sourced origin).Obeys (resolveFunction span params body) := by
  have walked : (sourced origin).Obeys (resolveStmts (body.elim [] Body.stmts)) := by
    cases body with
    | none => exact .pure _
    | some body => exact sourced_resolveStmts body.stmts (bodyFrom body rfl).stmts
  rw [resolveFunction_eq]
  refine .readAt fun session holds => Regime.Obeys.bind sourced_beginScope (fun _ =>
    .bind (sourced_resolveParams params paramsFrom _ ?_) fun _ => .bind walked fun _ =>
    sourced_endScope isPlace) session holds
  cases session.facts.decls.find? span.node with
  | none => exact List.forall_mem_nil _
  | some symbol => exact (holds.knownOf symbol.id).params

theorem sourced_resolveItem (item : Item) (isFrom : item.From origin) :
    (sourced origin).Obeys (resolveItem item) := by
  cases item with
  | function decl =>
    exact sourced_resolveFunction (FunctionDecl.From.toHeadFrom isFrom).span
      (FunctionDecl.From.toSignatureFrom isFrom).params (FunctionDecl.From.body isFrom)
  | asm decl =>
    exact sourced_resolveFunction (AsmDecl.From.toHeadFrom isFrom).span
      (AsmDecl.From.toSignatureFrom isFrom).params none_from
  | entry decl =>
    have bodyFrom := EntryDecl.From.body isFrom
    exact sourced_resolveStmt (.block decl.body.stmts decl.body.span) ⟨bodyFrom.span, bodyFrom.stmts⟩
  | const decl => exact sourced_resolveExpr? decl.value (ConstDecl.From.value isFrom)
  | static decl => exact sourced_resolveExpr? decl.value (StaticDecl.From.value isFrom)
  | enum decl =>
    exact .forM _ fun variant isVariant =>
      sourced_resolveExpr? variant.value (EnumDecl.From.variants isFrom variant isVariant).value
  | struct | typeAlias => exact .pure _
  | stray stmt => exact sourced_resolveStmt stmt isFrom

/-- What the second pass finds comes from the unit. -/
theorem sourced_walk : (sourced origin).Obeys walk := by
  refine .readAt fun session holds => ?_
  refine Regime.Obeys.bind (.forM _ fun item isItem =>
    sourced_resolveItem item (holds.items item isItem)) (fun _ => .read fun later => ?_) session holds
  simp only
  split
  · exact Check.obeys_report (List.forall_mem_nil _)
  · exact .pure _

end UnitCheck.Resolve
