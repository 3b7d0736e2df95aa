import Mathlib.Data.Prod.Lex
import Mathlib.Logic.Relation
import UnitCheck.Proofs.Tree.Places

/-!
# What is expected of a datum

Each form of a unit has places for other forms: a condition for an expression and
statements, a cast for a type and an expression. `Datum.asks` lists them, with what is
expected there, and `Datum.Takes` follows them down from the items of a text. What a datum
asks for is inside it, or it is the datum itself in a narrower role (`asks_descend`), so the
way down ends.
-/

namespace UnitCheck

/-- What may be expected of a datum. -/
inductive Role where
  | item | stmt | expr | type

/-- A datum is read in roles of lower and lower rank. -/
def Role.rank : Role -> Nat
  | .item => 3
  | .stmt => 2
  | .expr => 1
  | .type => 0

/-- What is read from a datum. -/
inductive Node where
  | item (item : Item)
  | stmt (stmt : Stmt)
  | expr (expr : Expr)
  | type (form : TypeForm)

namespace Node

/-- A written type that may be missing. -/
def types (form : Option TypeForm) : List Node := form.toList.map .type

/-- A value that may be missing. -/
def values (value : Option Expr) : List Node := value.toList.map .expr

/-- The types of fields. -/
def fields (fields : List FieldDecl) : List Node := fields.map fun field => .type field.type

/-- The types in the signature of a function. -/
def signature (params : List Param) (result : Option TypeForm) : List Node :=
  params.map (fun param => .type param.type) ++ types result

/-- The pieces right inside an item. The base of an enumeration is only ever a name and no
written type of its own. -/
def ofItem : Item -> List Node
  | .function decl =>
    signature decl.params decl.result ++ decl.body.toList.flatMap fun body => body.stmts.map .stmt
  | .asm decl => signature decl.params decl.result
  | .entry decl => decl.body.stmts.map .stmt
  | .struct decl => fields decl.fields
  | .enum decl => decl.variants.flatMap fun variant => values variant.value
  | .const decl => types decl.type ++ values decl.value
  | .static decl => types decl.type ++ values decl.value
  | .typeAlias decl => types decl.target
  | .stray astray => [.stmt astray]

/-- The pieces right inside a statement. -/
def ofStmt : Stmt -> List Node
  | .block body _ => body.map .stmt
  | .expr value => [.expr value]
  | .letIn binding | .instr binding => types binding.type ++ values binding.value
  | .const decl => types decl.type ++ values decl.value
  | .struct decl => fields decl.fields
  | .assign target value _ | .write target value _ => [.expr target, .expr value]
  | .cond test body _ otherwise _ =>
    .expr test :: (body.map .stmt ++ otherwise.toList.map .stmt)
  | .whileLoop test body _ _ => .expr test :: body.map .stmt
  | .loop body _ _ => body.map .stmt
  | .forLoop first test after body _ _ =>
    first.toList.map .stmt ++ values test ++ after.toList.map .stmt ++ body.map .stmt
  | .ret value _ => values value
  | .brk _ | .cont _ | .bad _ => []

/-- The pieces right inside an expression. -/
def ofExpr : Expr -> List Node
  | .literal _ | .name _ | .bad _ => []
  | .binary _ left right _ | .index left right _ => [.expr left, .expr right]
  | .unary _ operand _ | .field operand _ _ | .addressOf operand _ => [.expr operand]
  | .call _ args _ => args.map .expr
  | .callValue function args _ => .expr function :: args.map .expr
  | .cast form operand _ | .load form operand _ => [.type form, .expr operand]
  | .array element items _ => types element ++ items.map .expr
  | .alloc form _ => [.type form]

/-- The pieces right inside a written type. -/
def ofType : TypeForm -> List Node
  | .named _ _ | .opaquePointer _ | .address _ => []
  | .pointer inner _ | .array inner _ | .fixedArray inner _ _ | .const inner _
  | .mutable inner _ => [.type inner]
  | .function params result _ _ => params.map .type ++ [.type result]

/-- The pieces right inside a piece. -/
def children : Node -> List Node
  | .item found => ofItem found
  | .stmt found => ofStmt found
  | .expr found => ofExpr found
  | .type found => ofType found

end Node

/-- The piece is among the items or inside one of them. -/
def Node.Inside (node : Node) (items : List Item) : Prop :=
  ∃ item ∈ items,
    Relation.ReflTransGen (fun outer inner => inner ∈ outer.children) (.item item) node

/-- Reads a datum as what is expected. -/
def Decode.readAs : Role -> Datum -> Decoded Node
  | .item, datum => .item <$> item datum
  | .stmt, datum => .stmt <$> stmt datum
  | .expr, datum => .expr <$> expr datum
  | .type, datum => .type <$> typeForm datum

namespace Datum

/-! ### What a form asks for -/

/-- Whether the datum is written as an attribute. -/
def isMark : Datum -> Bool
  | .symbol text _ | .list (.symbol text _ :: _) _ => (Decode.attributeName? text).isSome
  | _ => false

/-- What follows the attributes. -/
def behindMarks (data : List Datum) : List Datum := data.dropWhile isMark

/-- What follows the attributes and the name, if there is one. -/
def behindName (data : List Datum) : List Datum := (Decode.name (behindMarks data)).2

/-- What follows the attributes, the flags and the name, if there is one. -/
def behindFlags (data : List Datum) : List Datum :=
  (Decode.name (Decode.staticFlags (behindMarks data)).2).2

/-- The statements of a block. -/
def blockItems : Datum -> List Datum
  | .list (.symbol "block" _ :: items) _ => items
  | _ => []

/-- A place that `_` leaves empty. -/
def askOptional (role : Role) (datum : Datum) : List (Role × Datum) :=
  if datum.isSymbol "_" then [] else [(role, datum)]

/-- A type and a value, each of which may be missing. -/
def askTypeAndValue : List Datum -> List (Role × Datum)
  | [] => []
  | [type] => type.askOptional .type
  | type :: value :: _ => type.askOptional .type ++ [(.expr, value)]

/-- A name, which asks for nothing, a type and a value that may be missing. -/
def askBinding : List Datum -> List (Role × Datum)
  | .symbol _ _ :: type :: values => type.askOptional .type ++ values.head?.toList.map (.expr, ·)
  | _ => []

/-- The type of a field. -/
def askField : Datum -> List (Role × Datum)
  | .list [.symbol _ _, type] _ => [(.type, type)]
  | _ => []

/-- The type of a parameter. -/
def askParam : Datum -> List (Role × Datum)
  | .list [.symbol _ _, type] _ => [(.type, type)]
  | .list [.symbol "mut" _, .symbol _ _, type] _ => [(.type, type)]
  | _ => []

/-- The value of a variant. -/
def askVariant : Datum -> List (Role × Datum)
  | .list [.symbol _ _, value] _ => [(.expr, value)]
  | _ => []

/-- The target of an alias, behind its name. -/
def askTarget : List Datum -> List (Role × Datum)
  | [type] => [(.type, type)]
  | _ => []

/-- The parameters and the result of a function, behind its name. -/
def askSignature : List Datum -> List (Role × Datum)
  | params :: result :: _ => params.items.flatMap askParam ++ [(.type, result)]
  | _ => []

/-- The statements of a function, behind its name. -/
def functionBody : List Datum -> List Datum
  | [_, _, body] => blockItems body
  | _ => []

/-- The statements of the entrypoint, behind its attributes. -/
def askEntry : List Datum -> List (Role × Datum)
  | [body] => (blockItems body).map (.stmt, ·)
  | _ => []

/-- The variants of an enumeration, behind its name. -/
def askVariants : List Datum -> List (Role × Datum)
  | .symbol _ _ :: variants => variants.flatMap askVariant
  | variants => variants.flatMap askVariant

/-- What is expected where in an item. -/
def askItem (datum : Datum) : List (Role × Datum) :=
  match datum with
  | .list (.symbol head _ :: args) _ =>
    match head with
    | "fn" =>
      askSignature (behindName args) ++ (functionBody (behindName args)).map (.stmt, ·)
    | "asm" => askSignature (behindName args)
    | "entry" => askEntry (behindMarks args)
    | "struct" => (behindName args).flatMap askField
    | "enum" => askVariants (behindName args)
    | "const" => askTypeAndValue (behindName args)
    | "static" => askTypeAndValue (behindFlags args)
    | "type" => askTarget (behindName args)
    | _ => [(.stmt, datum)]
  | _ => [(.stmt, datum)]

/-- What is expected where in a statement. -/
def askStmt (datum : Datum) : List (Role × Datum) :=
  match datum with
  | .list (.symbol head _ :: args) _ =>
    match head, args with
    | "block", items => items.map (.stmt, ·)
    | "struct", items => (behindName items).flatMap askField
    | "const", items => askTypeAndValue (behindName items)
    | "bad", _ => []
    | "let", args => askBinding (Decode.mutMark args).2
    | "instr", args => askBinding args
    | "set", [target, value] => [(.expr, target), (.expr, value)]
    | "set", _ => []
    | "return", [value] => [(.expr, value)]
    | "return", _ => []
    | "break", _ => []
    | "continue", _ => []
    | "if", [test, body] => (.expr, test) :: (blockItems body).map (.stmt, ·)
    | "if", [test, body, otherwise] =>
      (.expr, test) :: ((blockItems body).map (.stmt, ·) ++ [(.stmt, otherwise)])
    | "if", _ => []
    | "while", [test, body] => (.expr, test) :: (blockItems body).map (.stmt, ·)
    | "while", _ => []
    | "loop", [body] => (blockItems body).map (.stmt, ·)
    | "loop", _ => []
    | "for", [first, test, after, body] =>
      first.askOptional .stmt ++ test.askOptional .expr ++ after.askOptional .stmt ++
        (blockItems body).map (.stmt, ·)
    | "for", _ => []
    | "write", [target, value] => [(.expr, target), (.expr, value)]
    | "write", _ => []
    | _, _ => [(.expr, datum)]
  | _ => [(.expr, datum)]

/-- What is expected where in an expression. -/
def askExpr : Datum -> List (Role × Datum)
  | .list (.symbol head _ :: args) _ =>
    match UnaryOp.ofText? head, args with
    | some _, [operand] => [(.expr, operand)]
    | _, args =>
    match BinaryOp.ofText? head, args with
    | some _, [left, right] => [(.expr, left), (.expr, right)]
    | some _, _ => []
    | none, args =>
    match head, args with
    | "call", .symbol _ _ :: args => args.map (.expr, ·)
    | "icall", args => args.map (.expr, ·)
    | ".", base :: _ :: _ => [(.expr, base)]
    | "index", [base, position] => [(.expr, base), (.expr, position)]
    | "cast", [type, operand] => [(.type, type), (.expr, operand)]
    | "arr", items => items.map (.expr, ·)
    | "arr-of", type :: items => (.type, type) :: items.map (.expr, ·)
    | "address", [operand] => [(.expr, operand)]
    | "load", [type, operand] => [(.type, type), (.expr, operand)]
    | "alloc", [type] => [(.type, type)]
    | _, _ => []
  | _ => []

/-- What is expected where in a written type. -/
def askForm : Datum -> List (Role × Datum)
  | .list (.symbol head _ :: args) _ =>
    match head, args with
    | "ptr", args | "const", args | "mut", args | "array", args =>
      args.head?.toList.map (.type, ·)
    | "fn", [.list params _, result] =>
      (params.filter (!·.isSymbol "...")).map (.type, ·) ++ [(.type, result)]
    | _, _ => []
  | _ => []

/-- What a datum asks for when it is read in a role: the data inside it, each with what is
expected of it. A statement that is no item may be one astray, and an expression may stand as
a statement. -/
def asks : Role -> Datum -> List (Role × Datum)
  | .item, datum => askItem datum
  | .stmt, datum => askStmt datum
  | .expr, datum => askExpr datum
  | .type, datum => askForm datum

/-- Reading the one datum takes reading the other one, each in its role. -/
def Leads : Role × Datum -> Role × Datum -> Prop :=
  Relation.ReflTransGen fun outer inner => inner ∈ asks outer.1 outer.2

/-- The datum is expected to be read in that role when the data are read as items. -/
def Takes (data : List Datum) (role : Role) (datum : Datum) : Prop :=
  ∃ top ∈ data, Leads (.item, top) (role, datum)

/-! ### Data inside data -/

/-- The datum is another one or inside it. -/
def PartOf (inner outer : Datum) : Prop :=
  Relation.ReflTransGen (fun outer inner => inner ∈ outer.items) outer inner

namespace PartOf

variable {inner outer : Datum}

theorem head {item : Datum} (isItem : item ∈ outer.items) (isPart : inner.PartOf item) :
    inner.PartOf outer :=
  Relation.ReflTransGen.head isItem isPart

/-- Where a datum stands, the data inside it stand. -/
theorem from_part {place : Span -> Prop} (isPart : inner.PartOf outer) (isFrom : outer.From place) :
    inner.From place := by
  induction isPart with
  | refl => exact isFrom
  | @tail middle item _ isItem inductionHypothesis =>
    cases middle with
    | list items span => exact (from_list.mp inductionHypothesis).2 item isItem
    | symbol | string | number => cases isItem

theorem sizeOf_le (isPart : inner.PartOf outer) : sizeOf inner ≤ sizeOf outer := by
  induction isPart with
  | refl => exact le_rfl
  | @tail middle item _ isItem inductionHypothesis =>
    cases middle with
    | list items span =>
      have below := List.sizeOf_lt_of_mem isItem
      simp only [Datum.items] at below
      simp only [list.sizeOf_spec] at inductionHypothesis
      omega
    | symbol | string | number => cases isItem

end PartOf

/-- What is asked for is among the data or inside them. -/
def Among (asked : List (Role × Datum)) (data : List Datum) : Prop :=
  ∀ ask ∈ asked, ∃ datum ∈ data, ask.2.PartOf datum

namespace Among

variable {asked more : List (Role × Datum)} {data inner : List Datum} {datum : Datum} {role : Role}

theorem nil : Among [] data :=
  List.forall_mem_nil _

theorem append (first : Among asked data) (later : Among more data) : Among (asked ++ more) data :=
  List.forall_mem_append.mpr ⟨first, later⟩

theorem cons (isDatum : datum ∈ data) (later : Among asked data) :
    Among ((role, datum) :: asked) data :=
  List.forall_mem_cons.mpr ⟨⟨datum, isDatum, .refl⟩, later⟩

theorem widen (among : Among asked inner) (isInner : inner ⊆ data) : Among asked data := by
  intro ask isAsk
  obtain ⟨datum, isDatum, isPart⟩ := among ask isAsk
  exact ⟨datum, isInner isDatum, isPart⟩

/-- What is among the items of a datum is inside the datum. -/
theorem within (among : Among asked datum.items) : Among asked [datum] := by
  intro ask isAsk
  obtain ⟨item, isItem, isPart⟩ := among ask isAsk
  exact ⟨datum, List.mem_singleton_self _, isPart.head isItem⟩

theorem map (isInner : inner ⊆ data) : Among (inner.map (role, ·)) data := by
  simp only [Among, List.forall_mem_map]
  exact fun datum isDatum => ⟨datum, isInner isDatum, .refl⟩

theorem flatMap {ask : Datum -> List (Role × Datum)} (each : ∀ datum, Among (ask datum) [datum])
    (isInner : inner ⊆ data) : Among (inner.flatMap ask) data := by
  simp only [Among, List.mem_flatMap]
  rintro found ⟨datum, isDatum, isAsk⟩
  obtain ⟨_, isSame, isPart⟩ := each datum found isAsk
  cases List.mem_singleton.mp isSame
  exact ⟨datum, isInner isDatum, isPart⟩

end Among

/-! ### What a form asks for is inside it -/

theorem among_blockItems (datum : Datum) : Among (datum.blockItems.map (.stmt, ·)) [datum] := by
  refine .within (.map ?_)
  unfold blockItems
  split
  · exact List.subset_cons_self _ _
  · exact List.nil_subset _

theorem among_askOptional (role : Role) (datum : Datum) :
    Among (datum.askOptional role) [datum] := by
  unfold askOptional
  split
  · exact .nil
  · exact .cons (List.mem_singleton_self _) .nil

theorem among_askField (datum : Datum) : Among datum.askField [datum] := by
  unfold askField
  split
  · exact .within (.cons (by simp [items]) .nil)
  · exact .nil

theorem among_askParam (datum : Datum) : Among datum.askParam [datum] := by
  unfold askParam
  split
  · exact .within (.cons (by simp [items]) .nil)
  · exact .within (.cons (by simp [items]) .nil)
  · exact .nil

theorem among_askVariant (datum : Datum) : Among datum.askVariant [datum] := by
  unfold askVariant
  split
  · exact .within (.cons (by simp [items]) .nil)
  · exact .nil

theorem among_askTypeAndValue (data : List Datum) : Among (askTypeAndValue data) data := by
  unfold askTypeAndValue
  split
  · exact .nil
  · exact among_askOptional _ _
  · exact ((among_askOptional _ _).widen (by simp)).append (.cons (by simp) .nil)

theorem among_askBinding (data : List Datum) : Among (askBinding data) data := by
  unfold askBinding
  split
  · rename_i values
    refine ((among_askOptional _ _).widen (by simp)).append (.map fun value isValue => ?_)
    have isFirst := List.mem_of_mem_head? (Option.mem_toList.mp isValue)
    simp [isFirst]
  · exact .nil

theorem among_askSignature (data : List Datum) : Among (askSignature data) data := by
  unfold askSignature
  split
  · rename_i params result rest
    have ofParams : Among (params.items.flatMap askParam) [params] :=
      .within (.flatMap among_askParam (List.Subset.refl _))
    exact (ofParams.widen (by simp)).append (.cons (by simp) .nil)
  · exact .nil

theorem among_askVariants (data : List Datum) : Among (askVariants data) data := by
  unfold askVariants
  split
  · exact .flatMap among_askVariant (List.subset_cons_self _ _)
  · exact .flatMap among_askVariant (List.Subset.refl _)

theorem among_askEntry (data : List Datum) : Among (askEntry data) data := by
  unfold askEntry
  split
  · exact among_blockItems _
  · exact .nil

theorem among_askTarget (data : List Datum) : Among (askTarget data) data := by
  unfold askTarget
  split
  · exact .cons (by simp) .nil
  · exact .nil

theorem among_functionBody (data : List Datum) :
    Among ((functionBody data).map (.stmt, ·)) data := by
  unfold functionBody
  split
  · exact (among_blockItems _).widen (by simp)
  · exact .nil

theorem name_subset (data : List Datum) : (Decode.name data).2 ⊆ data := by
  unfold Decode.name
  split
  · split <;> exact List.subset_cons_self _ _
  · exact List.Subset.refl _

theorem staticFlags_subset (data : List Datum) : (Decode.staticFlags data).2 ⊆ data := by
  induction data with
  | nil => exact List.Subset.refl _
  | cons datum rest inductionHypothesis =>
    cases datum with
    | symbol text span =>
      unfold Decode.staticFlags
      split
      · exact List.Subset.trans inductionHypothesis (List.subset_cons_self _ _)
      · exact List.Subset.refl _
    | string | number | list => exact List.Subset.refl _

theorem mutMark_subset (data : List Datum) : (Decode.mutMark data).2 ⊆ data := by
  unfold Decode.mutMark
  split
  · split
    · exact List.subset_cons_self _ _
    · exact List.Subset.refl _
  · exact List.Subset.refl _

theorem behindMarks_subset (data : List Datum) : behindMarks data ⊆ data :=
  (List.dropWhile_sublist _).subset

theorem behindName_subset (data : List Datum) : behindName data ⊆ data :=
  List.Subset.trans (name_subset _) (behindMarks_subset data)

theorem behindFlags_subset (data : List Datum) : behindFlags data ⊆ data :=
  List.Subset.trans (name_subset _)
    (List.Subset.trans (staticFlags_subset _) (behindMarks_subset data))

/-! ### Narrower roles -/

/-- What a datum asks for is inside it, or it is the datum itself in a narrower role. -/
def Narrows (role : Role) (datum : Datum) (asked : List (Role × Datum)) : Prop :=
  Among asked datum.items ∨ ∃ narrower, narrower.rank < role.rank ∧ asked = [(narrower, datum)]

/-- What is asked of data behind the head of a list is inside the list. -/
theorem Among.behindHead {asked : List (Role × Datum)} {inner args : List Datum} {head : Datum}
    {span : Span} {role : Role} (among : Among asked inner) (isInner : inner ⊆ args) :
    Narrows role (.list (head :: args) span) asked :=
  .inl (among.widen (List.subset_cons_of_subset _ isInner))

theorem narrows_askItem (datum : Datum) : Narrows .item datum datum.askItem := by
  unfold askItem
  split
  · rename_i head headSpan args span
    have behindName := behindName_subset args
    split
    · exact ((among_askSignature _).append (among_functionBody _)).behindHead behindName
    · exact (among_askSignature _).behindHead behindName
    · exact (among_askEntry _).behindHead (behindMarks_subset args)
    · exact (Among.flatMap among_askField (List.Subset.refl _)).behindHead behindName
    · exact (among_askVariants _).behindHead behindName
    · exact (among_askTypeAndValue _).behindHead behindName
    · exact (among_askTypeAndValue _).behindHead (behindFlags_subset args)
    · exact (among_askTarget _).behindHead behindName
    · exact .inr ⟨.stmt, by decide, rfl⟩
  · exact .inr ⟨.stmt, by decide, rfl⟩

theorem narrows_askStmt (datum : Datum) : Narrows .stmt datum datum.askStmt := by
  unfold askStmt
  split
  · rename_i head headSpan args span
    have all := List.Subset.refl args
    split
    · exact (Among.map all).behindHead all
    · exact (Among.flatMap among_askField (List.Subset.refl _)).behindHead (behindName_subset args)
    · exact (among_askTypeAndValue _).behindHead (behindName_subset args)
    · exact .inl .nil
    · exact (among_askBinding _).behindHead (mutMark_subset args)
    · exact (among_askBinding _).behindHead all
    · exact .inl (.cons (by simp [items]) (.cons (by simp [items]) .nil))
    · exact .inl .nil
    · exact .inl (.cons (by simp [items]) .nil)
    · exact .inl .nil
    · exact .inl .nil
    · exact .inl .nil
    · exact .inl (.cons (by simp [items]) ((among_blockItems _).widen (by simp [items])))
    · exact .inl (.cons (by simp [items])
        (((among_blockItems _).widen (by simp [items])).append (.cons (by simp [items]) .nil)))
    · exact .inl .nil
    · exact .inl (.cons (by simp [items]) ((among_blockItems _).widen (by simp [items])))
    · exact .inl .nil
    · exact .inl ((among_blockItems _).widen (by simp [items]))
    · exact .inl .nil
    · exact .inl (((((among_askOptional _ _).widen (by simp [items])).append
        ((among_askOptional _ _).widen (by simp [items]))).append
        ((among_askOptional _ _).widen (by simp [items]))).append
        ((among_blockItems _).widen (by simp [items])))
    · exact .inl .nil
    · exact .inl (.cons (by simp [items]) (.cons (by simp [items]) .nil))
    · exact .inl .nil
    · exact .inr ⟨.expr, by decide, rfl⟩
  · exact .inr ⟨.expr, by decide, rfl⟩

theorem among_askExpr (datum : Datum) : Among datum.askExpr datum.items := by
  unfold askExpr
  split
  · split
    · exact .cons (by simp [items]) .nil
    · split
      · exact .cons (by simp [items]) (.cons (by simp [items]) .nil)
      · exact .nil
      · split
        · exact .map (by simp [items])
        · exact .map (by simp [items])
        · exact .cons (by simp [items]) .nil
        · exact .cons (by simp [items]) (.cons (by simp [items]) .nil)
        · exact .cons (by simp [items]) (.cons (by simp [items]) .nil)
        · exact .map (by simp [items])
        · exact .cons (by simp [items]) (.map (by simp [items]))
        · exact .cons (by simp [items]) .nil
        · exact .cons (by simp [items]) (.cons (by simp [items]) .nil)
        · exact .cons (by simp [items]) .nil
        · exact .nil
  · exact .nil

theorem among_askForm (datum : Datum) : Among datum.askForm datum.items := by
  unfold askForm
  split
  · split
    iterate 4
      · refine .map fun element isElement => List.mem_cons_of_mem _ ?_
        exact List.mem_of_mem_head? (Option.mem_toList.mp isElement)
    · rename_i params paramsSpan result
      have ofParams : Among ((params.filter (!·.isSymbol "...")).map (.type, ·))
          [.list params paramsSpan] :=
        .within (.map (List.filter_subset_self params))
      exact (ofParams.widen (by simp [items])).append (.cons (by simp [items]) .nil)
    · exact .nil
  · exact .nil

theorem narrows_asks (role : Role) (datum : Datum) : Narrows role datum (datum.asks role) :=
  match role with
  | .item => narrows_askItem datum
  | .stmt => narrows_askStmt datum
  | .expr => .inl (among_askExpr datum)
  | .type => .inl (among_askForm datum)

/-- What a datum asks for is a part of it, and is smaller than the datum or of lower rank. -/
theorem asks_descend {role : Role} {datum : Datum} {ask : Role × Datum}
    (isAsk : ask ∈ datum.asks role) :
    ask.2.PartOf datum ∧
      Prod.Lex (· < ·) (· < ·) (sizeOf ask.2, ask.1.rank) (sizeOf datum, role.rank) := by
  rcases narrows_asks role datum with among | ⟨narrower, isNarrower, isSame⟩
  · obtain ⟨item, isItem, isPart⟩ := among ask isAsk
    refine ⟨isPart.head isItem, .left _ _ (lt_of_le_of_lt isPart.sizeOf_le ?_)⟩
    cases datum with
    | list items span =>
      have below := List.sizeOf_lt_of_mem isItem
      simp only [Datum.items] at below
      rw [list.sizeOf_spec]
      omega
    | symbol | string | number => cases isItem
  · rw [isSame, List.mem_singleton] at isAsk
    subst isAsk
    exact ⟨.refl, .right _ isNarrower⟩

end Datum

end UnitCheck
