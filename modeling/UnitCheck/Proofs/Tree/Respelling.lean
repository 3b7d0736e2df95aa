import UnitCheck.Proofs.Numeral.Integers
import UnitCheck.Proofs.Tree.Sites

/-!
# Two spellings of negative integers

A negative integer is written as one literal or as a minus in front of a literal without a
sign. Respelling writes some of the former as the latter. The form with the minus starts
where the literal did and so keeps its node; the number in it gets a node of its own.
-/

namespace UnitCheck

/-- Where the form with the minus is written, and where the number in it. -/
structure Spelling where
  form : Span
  number : Span

/-- Every form starts where its literal did. -/
def Anchored (spell : Literal -> Option Spelling) : Prop :=
  ∀ value spelling, spell value = some spelling → spelling.form.node = value.span.node

/-- What is written behind the minus of an integer literal, if it has one. -/
def Literal.behindMinus? (literal : Literal) : Option String :=
  match literal.kind, literal.text.toList with
  | .integer, '-' :: digits =>
    if Numeral.isInteger literal.text then some (String.ofList digits) else none
  | _, _ => none

/-- Behind the sign of an integer stands no other. -/
theorem Numeral.splitSign_of_isInteger {digits : List Char}
    (isInteger : Numeral.isIntegerChars ('-' :: digits) = true) :
    Numeral.splitSign digits = (false, digits) := by
  unfold Numeral.isIntegerChars at isInteger
  cases digits with
  | nil => rfl
  | cons first rest =>
    by_cases isMinus : first = '-'
    · rw [isMinus] at isInteger
      cases isInteger
    · unfold Numeral.splitSign
      split
      · rename_i same
        exact absurd (List.cons.inj same).1 isMinus
      · rfl

/-- Behind the minus stands an integer with the opposite value. -/
theorem Literal.integer?_behindMinus {literal : Literal} {digits : String}
    (behind : literal.behindMinus? = some digits) :
    literal.kind = .integer ∧ ∃ magnitude, Numeral.integer? digits = some magnitude ∧
      Numeral.integer? literal.text = some (-magnitude) := by
  unfold behindMinus? at behind
  split at behind
  · rename_i digits isKind spelled
    split at behind
    · rename_i isInteger
      cases behind
      have unsigned : Numeral.isIntegerChars ('-' :: digits) = true := by
        rw [← spelled]
        exact isInteger
      have sign := Numeral.splitSign_of_isInteger unsigned
      have same : Numeral.isIntegerChars digits = Numeral.isIntegerChars ('-' :: digits) := by
        unfold Numeral.isIntegerChars
        rw [sign]
        rfl
      have opposite : Numeral.integerValue ('-' :: digits) = -Numeral.integerValue digits := by
        unfold Numeral.integerValue
        rw [sign]
        rfl
      refine ⟨isKind, Numeral.integerValue digits, ?_, ?_⟩
      · simp [Numeral.integer?_eq, Numeral.isInteger, same, unsigned]
      · simp [Numeral.integer?_eq, isInteger, spelled, opposite]
    · cases behind
  · cases behind

namespace Expr

variable (spell : Literal -> Option Spelling)

mutual

/-- The expression with those of its negative integers that `spell` names written with a
minus in front. -/
def respell : Expr -> Expr
  | .literal value =>
    match value.behindMinus?, spell value with
    | some digits, some spelling =>
      .unary .negate (.literal ⟨.integer, digits, spelling.number⟩) spelling.form
    | _, _ => .literal value
  | .name ident => .name ident
  | .binary op left right span => .binary op (respell left) (respell right) span
  | .unary op operand span => .unary op (respell operand) span
  | .call callee args span => .call callee (respellAll args) span
  | .callValue function args span => .callValue (respell function) (respellAll args) span
  | .field base path span => .field (respell base) path span
  | .index base position span => .index (respell base) (respell position) span
  | .cast type operand span => .cast type (respell operand) span
  | .array element items span => .array element (respellAll items) span
  | .addressOf operand span => .addressOf (respell operand) span
  | .load type operand span => .load type (respell operand) span
  | .alloc type span => .alloc type span
  | .bad span => .bad span

/-- `respell` on several expressions. -/
def respellAll : List Expr -> List Expr
  | [] => []
  | expr :: rest => respell expr :: respellAll rest

end

/-- The literal whose spelling the expression itself looks at: the position of an index, and
a literal behind a minus. -/
def fixed : Expr -> List Literal
  | .index _ (.literal value) _ => [value]
  | .unary .negate (.literal value) _ => [value]
  | _ => []

variable {spell}

variable (spell) in
/-- A literal is respelled as a minus in front of a number, or it stays. -/
theorem respell_literal (value : Literal) :
    (literal value).respell spell = literal value ∨
      ∃ digits spelling, value.behindMinus? = some digits ∧ spell value = some spelling ∧
        (literal value).respell spell =
          unary .negate (literal ⟨.integer, digits, spelling.number⟩) spelling.form := by
  unfold respell
  split
  · rename_i digits spelling behind isSpelled
    exact .inr ⟨digits, spelling, behind, isSpelled, rfl⟩
  · exact .inl rfl

/-- A literal that is not named stays. -/
theorem respell_of_spared {value : Literal} (spared : spell value = none) :
    (literal value).respell spell = literal value := by
  obtain stays | ⟨_, _, _, isSpelled, _⟩ := respell_literal spell value
  · exact stays
  · rw [spared] at isSpelled
    cases isSpelled

/-- Expressions keep their nodes. -/
theorem node_respell (anchored : Anchored spell) (expr : Expr) :
    (expr.respell spell).node = expr.node := by
  cases expr with
  | literal value =>
    obtain stays | ⟨digits, spelling, _, isSpelled, same⟩ := respell_literal spell value
    · rw [stays]
    · rw [same]
      exact anchored value spelling isSpelled
  | _ => rfl

/-- What still takes its type from the context does so in either spelling. -/
@[simp] theorem isUntypedLiteral_respell :
    (expr : Expr) -> (expr.respell spell).isUntypedLiteral = expr.isUntypedLiteral
  | .literal value => by
    obtain stays | ⟨digits, spelling, behind, _, same⟩ := respell_literal spell value
    · rw [stays]
    · have isInteger := (Literal.integer?_behindMinus behind).1
      rw [same]
      simp [isUntypedLiteral, isInteger]
  | .unary .negate operand _ => isUntypedLiteral_respell operand
  | .unary .not _ _ | .unary .complement _ _ | .name _ | .binary _ _ _ _ | .call _ _ _
  | .callValue _ _ _ | .field _ _ _ | .index _ _ _ | .cast _ _ _ | .array _ _ _
  | .addressOf _ _ | .load _ _ _ | .alloc _ _ | .bad _ => rfl

/-- No literal is named whose spelling is looked at inside the expression. -/
def Spares (spell : Literal -> Option Spelling) (expr : Expr) : Prop :=
  ∀ part ∈ expr.parts, ∀ value ∈ part.fixed, spell value = none

section Spares

variable {left right : Expr} {args : List Expr} {type : TypeForm} {span : Span}

/-- An expression that looks at no spelling itself leaves it to its operands. -/
theorem spares_iff {expr : Expr} {rest : List Expr} (parts : expr.parts = expr :: rest)
    (fixed : expr.fixed = []) : expr.Spares spell ↔
      ∀ part ∈ rest, ∀ value ∈ part.fixed, spell value = none := by
  unfold Spares
  rw [parts, List.forall_mem_cons, fixed]
  exact and_iff_right (List.forall_mem_nil _)

theorem spares_all : (∀ part ∈ partsAll args, ∀ value ∈ part.fixed, spell value = none) ↔
    ∀ arg ∈ args, arg.Spares spell := by
  rw [partsAll_eq, List.forall_mem_flatMap]
  rfl

@[simp] theorem spares_binary {op : BinaryOp} :
    (binary op left right span).Spares spell ↔ left.Spares spell ∧ right.Spares spell :=
  (spares_iff rfl rfl).trans List.forall_mem_append

@[simp] theorem spares_unary {op : UnaryOp} : (unary op left span).Spares spell ↔
    (∀ value ∈ (unary op left span).fixed, spell value = none) ∧ left.Spares spell :=
  List.forall_mem_cons

@[simp] theorem spares_call {callee : Ident} :
    (call callee args span).Spares spell ↔ ∀ arg ∈ args, arg.Spares spell :=
  (spares_iff rfl rfl).trans spares_all

@[simp] theorem spares_callValue :
    (callValue left args span).Spares spell ↔
      left.Spares spell ∧ ∀ arg ∈ args, arg.Spares spell :=
  (spares_iff rfl rfl).trans (List.forall_mem_append.trans (and_congr Iff.rfl spares_all))

@[simp] theorem spares_field {path : List String} :
    (field left path span).Spares spell ↔ left.Spares spell :=
  spares_iff rfl rfl

@[simp] theorem spares_index : (index left right span).Spares spell ↔
    (∀ value ∈ (index left right span).fixed, spell value = none) ∧
      left.Spares spell ∧ right.Spares spell :=
  List.forall_mem_cons.trans (and_congr Iff.rfl List.forall_mem_append)

@[simp] theorem spares_cast : (cast type left span).Spares spell ↔ left.Spares spell :=
  spares_iff rfl rfl

@[simp] theorem spares_array {element : Option TypeForm} :
    (array element args span).Spares spell ↔ ∀ arg ∈ args, arg.Spares spell :=
  (spares_iff rfl rfl).trans spares_all

@[simp] theorem spares_addressOf : (addressOf left span).Spares spell ↔ left.Spares spell :=
  spares_iff rfl rfl

@[simp] theorem spares_load : (load type left span).Spares spell ↔ left.Spares spell :=
  spares_iff rfl rfl

end Spares

mutual

/-- Where no literal is named the expression stays. -/
@[simp] theorem respell_none : (expr : Expr) -> expr.respell (fun _ => none) = expr
  | .literal value => respell_of_spared rfl
  | .name _ | .alloc _ _ | .bad _ => by
    unfold respell
    rfl
  | .binary _ left right _ | .index left right _ => by
    unfold respell
    rw [respell_none left, respell_none right]
  | .unary _ operand _ | .field operand _ _ | .cast _ operand _ | .addressOf operand _
  | .load _ operand _ => by
    unfold respell
    rw [respell_none operand]
  | .call _ args _ | .array _ args _ => by
    unfold respell
    rw [respellAll_none args]
  | .callValue function args _ => by
    unfold respell
    rw [respell_none function, respellAll_none args]

theorem respellAll_none : (exprs : List Expr) -> respellAll (fun _ => none) exprs = exprs
  | [] => rfl
  | expr :: rest => by
    unfold respellAll
    rw [respell_none expr, respellAll_none rest]

end

/-- Where no literal is named the value stays, if there is one. -/
@[simp] theorem map_respell_none (value : Option Expr) :
    value.map (respell fun _ => none) = value := by
  cases value with
  | none => rfl
  | some expr => exact congrArg some (respell_none expr)

theorem spares_none (expr : Expr) : expr.Spares fun _ => none := fun _ _ _ _ => rfl

@[simp] theorem length_respellAll (exprs : List Expr) :
    (respellAll spell exprs).length = exprs.length := by
  induction exprs with
  | nil => rfl
  | cons expr rest inductionHypothesis =>
    unfold respellAll
    rw [List.length_cons, List.length_cons, inductionHypothesis]

end Expr

/-! ### Statements and items -/

section Respell

variable (spell : Literal -> Option Spelling)

/-- The binding with its value respelled. -/
def BindingDecl.respell (binding : BindingDecl) : BindingDecl :=
  { binding with value := binding.value.map (Expr.respell spell) }

/-- The constant with its value respelled. -/
def ConstDecl.respell (decl : ConstDecl) : ConstDecl :=
  { decl with value := decl.value.map (Expr.respell spell) }

@[simp] theorem BindingDecl.respell_none (binding : BindingDecl) :
    binding.respell (fun _ => none) = binding := by
  unfold respell
  rw [Expr.map_respell_none]

@[simp] theorem ConstDecl.respell_none (decl : ConstDecl) :
    decl.respell (fun _ => none) = decl := by
  unfold respell
  rw [Expr.map_respell_none]

/-- The static with its value respelled. -/
def StaticDecl.respell (decl : StaticDecl) : StaticDecl :=
  { decl with value := decl.value.map (Expr.respell spell) }

/-- The variant with its value respelled. -/
def VariantDecl.respell (variant : VariantDecl) : VariantDecl :=
  { variant with value := variant.value.map (Expr.respell spell) }

namespace Stmt

mutual

/-- The statement with its expressions respelled. -/
def respell : Stmt -> Stmt
  | .block body span => .block (respellAll body) span
  | .expr value => .expr (value.respell spell)
  | .letIn binding => .letIn (binding.respell spell)
  | .instr binding => .instr (binding.respell spell)
  | .const decl => .const (decl.respell spell)
  | .struct decl => .struct decl
  | .assign target value span => .assign (target.respell spell) (value.respell spell) span
  | .write target value span => .write (target.respell spell) (value.respell spell) span
  | .cond test body bodySpan otherwise span =>
    .cond (test.respell spell) (respellAll body) bodySpan (respell? otherwise) span
  | .whileLoop test body bodySpan span =>
    .whileLoop (test.respell spell) (respellAll body) bodySpan span
  | .loop body bodySpan span => .loop (respellAll body) bodySpan span
  | .forLoop first test after body bodySpan span =>
    .forLoop (respell? first) (test.map (Expr.respell spell)) (respell? after)
      (respellAll body) bodySpan span
  | .ret value span => .ret (value.map (Expr.respell spell)) span
  | .brk span => .brk span
  | .cont span => .cont span
  | .bad span => .bad span

/-- `respell` on a statement that may be missing. -/
def respell? : Option Stmt -> Option Stmt
  | none => none
  | some stmt => some (respell stmt)

/-- `respell` on several statements. -/
def respellAll : List Stmt -> List Stmt
  | [] => []
  | stmt :: rest => respell stmt :: respellAll rest

end

variable {spell}

/-- No literal is named whose spelling is looked at inside the statement. -/
def Spares (spell : Literal -> Option Spelling) (stmt : Stmt) : Prop :=
  ∀ part ∈ stmt.parts, ∀ expr ∈ part.ownExprs, expr.Spares spell

section Spares

variable {body : List Stmt} {test : Expr} {bodySpan span : Span}

theorem spares_all : (∀ part ∈ partsAll body, ∀ expr ∈ part.ownExprs, expr.Spares spell) ↔
    ∀ stmt ∈ body, stmt.Spares spell := by
  induction body with
  | nil => simp [partsAll]
  | cons stmt rest inductionHypothesis =>
    rw [partsAll, List.forall_mem_append, List.forall_mem_cons, inductionHypothesis]
    rfl

theorem spares_optional {stmt : Option Stmt} :
    (∀ part ∈ parts? stmt, ∀ expr ∈ part.ownExprs, expr.Spares spell) ↔
      ∀ inner ∈ stmt, inner.Spares spell := by
  cases stmt with
  | none => simp [parts?]
  | some stmt => simp [parts?, Spares]

theorem spares_of_isLeaf {stmt : Stmt} (leaf : stmt.isLeaf = true) :
    stmt.Spares spell ↔ ∀ expr ∈ stmt.ownExprs, expr.Spares spell := by
  unfold Spares
  rw [parts_of_isLeaf leaf, List.forall_mem_singleton]

@[simp] theorem spares_block :
    (block body span).Spares spell ↔ ∀ stmt ∈ body, stmt.Spares spell := by
  unfold Spares
  rw [parts, List.forall_mem_cons, spares_all]
  exact and_iff_right (List.forall_mem_nil _)

@[simp] theorem spares_cond {otherwise : Option Stmt} :
    (cond test body bodySpan otherwise span).Spares spell ↔ test.Spares spell ∧
      (∀ stmt ∈ body, stmt.Spares spell) ∧ ∀ stmt ∈ otherwise, stmt.Spares spell := by
  unfold Spares
  rw [parts, List.forall_mem_cons, List.forall_mem_append, spares_all, spares_optional]
  exact and_congr List.forall_mem_singleton Iff.rfl

@[simp] theorem spares_whileLoop : (whileLoop test body bodySpan span).Spares spell ↔
    test.Spares spell ∧ ∀ stmt ∈ body, stmt.Spares spell := by
  unfold Spares
  rw [parts, List.forall_mem_cons, spares_all]
  exact and_congr List.forall_mem_singleton Iff.rfl

@[simp] theorem spares_loop :
    (loop body bodySpan span).Spares spell ↔ ∀ stmt ∈ body, stmt.Spares spell := by
  unfold Spares
  rw [parts, List.forall_mem_cons, spares_all]
  exact and_iff_right (List.forall_mem_nil _)

@[simp] theorem spares_forLoop {first after : Option Stmt} {condition : Option Expr} :
    (forLoop first condition after body bodySpan span).Spares spell ↔
      (∀ expr ∈ condition, expr.Spares spell) ∧ ((∀ stmt ∈ first, stmt.Spares spell) ∧
        ∀ stmt ∈ after, stmt.Spares spell) ∧ ∀ stmt ∈ body, stmt.Spares spell := by
  unfold Spares
  rw [parts, List.forall_mem_cons, List.forall_mem_append, List.forall_mem_append, spares_all,
    spares_optional, spares_optional]
  refine and_congr ?_ Iff.rfl
  simp only [ownExprs, Option.mem_toList, Option.mem_def]

end Spares

theorem spares_none (stmt : Stmt) : stmt.Spares fun _ => none :=
  fun _ _ expr _ => expr.spares_none

mutual

/-- Where no literal is named the statement stays. -/
@[simp] theorem respell_none : (stmt : Stmt) -> stmt.respell (fun _ => none) = stmt
  | .block body _ | .loop body _ _ => by
    unfold respell
    rw [respellAll_none body]
  | .expr value => by
    unfold respell
    rw [Expr.respell_none]
  | .letIn binding | .instr binding => by
    unfold respell
    rw [BindingDecl.respell_none]
  | .const decl => by
    unfold respell
    rw [ConstDecl.respell_none]
  | .assign target value _ | .write target value _ => by
    unfold respell
    rw [Expr.respell_none, Expr.respell_none]
  | .cond test body _ otherwise _ => by
    unfold respell
    rw [Expr.respell_none, respellAll_none body, respell?_none otherwise]
  | .whileLoop test body _ _ => by
    unfold respell
    rw [Expr.respell_none, respellAll_none body]
  | .forLoop first test after body _ _ => by
    unfold respell
    rw [respell?_none first, Expr.map_respell_none, respell?_none after, respellAll_none body]
  | .ret value _ => by
    unfold respell
    rw [Expr.map_respell_none]
  | .struct _ | .brk _ | .cont _ | .bad _ => by
    unfold respell
    rfl

@[simp] theorem respell?_none : (stmt : Option Stmt) -> respell? (fun _ => none) stmt = stmt
  | none => rfl
  | some stmt => by
    unfold respell?
    rw [respell_none stmt]

@[simp] theorem respellAll_none :
    (body : List Stmt) -> respellAll (fun _ => none) body = body
  | [] => rfl
  | stmt :: rest => by
    unfold respellAll
    rw [respell_none stmt, respellAll_none rest]

end
end Stmt

/-- The body with its statements respelled. -/
def Body.respell (body : Body) : Body :=
  { body with stmts := Stmt.respellAll spell body.stmts }

/-- The item with its expressions respelled. -/
def Item.respell : Item -> Item
  | .function decl => .function { decl with body := decl.body.map (Body.respell spell) }
  | .asm decl => .asm decl
  | .entry decl => .entry { decl with body := decl.body.respell spell }
  | .struct decl => .struct decl
  | .enum decl => .enum { decl with variants := decl.variants.map (VariantDecl.respell spell) }
  | .const decl => .const (decl.respell spell)
  | .static decl => .static (decl.respell spell)
  | .typeAlias decl => .typeAlias decl
  | .stray stmt => .stray (stmt.respell spell)

/-- The unit with its expressions respelled. -/
def Module.respell (base : Module) : Module :=
  { base with items := base.items.map (Item.respell spell) }

@[simp] theorem StaticDecl.respell_none (decl : StaticDecl) :
    decl.respell (fun _ => none) = decl := by
  unfold respell
  rw [Expr.map_respell_none]

@[simp] theorem VariantDecl.respell_none (variant : VariantDecl) :
    variant.respell (fun _ => none) = variant := by
  unfold respell
  rw [Expr.map_respell_none]

@[simp] theorem Body.respell_none (body : Body) : body.respell (fun _ => none) = body := by
  unfold respell
  rw [Stmt.respellAll_none]

/-- Where no literal is named the item stays. -/
@[simp] theorem Item.respell_none (item : Item) : item.respell (fun _ => none) = item := by
  cases item with
  | function decl =>
    obtain ⟨attributes, name, params, result, body, span⟩ := decl
    cases body with
    | none => rfl
    | some body => simp [respell]
  | entry decl => simp [respell]
  | const decl => exact congrArg const decl.respell_none
  | static decl => exact congrArg static decl.respell_none
  | enum decl =>
    have same : VariantDecl.respell (fun _ => none) = id := funext VariantDecl.respell_none
    simp [respell, same]
  | stray stmt => exact congrArg stray stmt.respell_none
  | _ => rfl

end Respell

namespace Item

variable {spell : Literal -> Option Spelling}

/-- No literal is named whose spelling is looked at where the expressions of the item are
typed. -/
def Spares (spell : Literal -> Option Spelling) (item : Item) : Prop :=
  ∀ expr ∈ item.exprs, ∀ value ∈ expr.fixed, spell value = none

theorem spares_none (item : Item) : item.Spares fun _ => none := fun _ _ _ _ => rfl

theorem Spares.value {item : Item} (spares : item.Spares spell) {expr : Expr}
    (isValue : expr ∈ item.values) : expr.Spares spell :=
  fun part isPart =>
    spares part (List.mem_flatMap.mpr ⟨expr, List.mem_append_right _ isValue, isPart⟩)

theorem Spares.stmt {item : Item} (spares : item.Spares spell) {stmt : Stmt}
    (isStmt : stmt ∈ item.body) : stmt.Spares spell := by
  intro inner isInner expr isOwn part isPart
  refine spares part (List.mem_flatMap.mpr ⟨expr, List.mem_append_left _ ?_, isPart⟩)
  rw [Stmt.exprs, Stmt.partsAll_eq]
  exact List.mem_flatMap.mpr ⟨inner, List.mem_flatMap.mpr ⟨stmt, isStmt, isInner⟩, isOwn⟩

end Item

/-- A choice of negative integers of a unit that are to be written with a minus in front, and
where. None of them is one whose spelling is looked at. -/
structure Respelling (base : Module) where
  spell : Literal -> Option Spelling
  anchored : Anchored spell
  fresh : ∀ literal spelling, spell literal = some spelling →
    spelling.number.node ∉ base.items.flatMap Item.sites
  spares : ∀ item ∈ base.items, item.Spares spell

end UnitCheck
