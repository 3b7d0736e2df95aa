import Mathlib.Data.List.Perm.Subperm
import UnitCheck.Proofs.Tree.Readings

/-!
# Operands and what stands for them

A form has slots for its operands: attributes and flags, a name, a type, a length, a value.
`Node.slots` lists what a read form has in them. A form with an operand for none of its slots
aside, every operand fills a slot of its own, in the order of the operands, but for a flag that
is written twice (`operands_kept`).
-/

namespace UnitCheck

/-- What can stand for an operand. -/
inductive Slot where
  | attribute (mark : Attribute)
  | flag (text : String)
  | name (ident : Ident)
  | noName
  | type (form : TypeForm)
  | inferred
  | length (count : Nat)
  | value (value : Expr)

namespace Slot

/-- Whether it is one of the flags, which are set once however often they are written. -/
def isFlag : Slot -> Bool
  | .flag _ => true
  | _ => false

/-- A name that may be missing. -/
def ofName : Option Ident -> Slot
  | some ident => .name ident
  | none => .noName

/-- A type that may be left to inference. -/
def ofType : Option TypeForm -> Slot
  | some form => .type form
  | none => .inferred

/-- A value, if there is one. -/
def ofValue (value : Option Expr) : List Slot := value.toList.map .value

/-- A flag, if it is set. -/
def ofFlag (text : String) (isSet : Bool) : List Slot := if isSet then [.flag text] else []

/-- What an operand is read as stands in the slot. -/
inductive Fills : Slot -> Datum -> Prop where
  | attribute {mark : Attribute} {datum : Datum}
    (read : Decode.attribute? datum = .ok (some mark)) : Fills (.attribute mark) datum
  | flag (text : String) (span : Span) : Fills (.flag text) (.symbol text span)
  | name (text : String) (span : Span) : Fills (.name ⟨text, span⟩) (.symbol text span)
  | noName (span : Span) : Fills .noName (.symbol "_" span)
  | type {form : TypeForm} {datum : Datum} (read : Decode.typeForm datum = .ok form) :
    Fills (.type form) datum
  | inferred (span : Span) : Fills .inferred (.symbol "_" span)
  | length {count : Nat} {datum : Datum} (read : Decode.arrayLength? datum = some count) :
    Fills (.length count) datum
  | value {value : Expr} {datum : Datum} (read : Decode.expr datum = .ok value) :
    Fills (.value value) datum

end Slot

namespace Node

/-- The slots of a constant. -/
def constSlots (decl : ConstDecl) : List Slot :=
  decl.attributes.map .attribute ++ [.ofName decl.name] ++
    ([.ofType decl.type] ++ Slot.ofValue decl.value)

/-- The flags of a static. -/
def flagSlots (decl : StaticDecl) : List Slot :=
  Slot.ofFlag "mut" decl.isMutable ++ Slot.ofFlag "volatile" decl.isVolatile ++
    Slot.ofFlag "threadlocal" decl.isThreadLocal ++ Slot.ofFlag "atomic" decl.isAtomic

/-- The slots of a binding. -/
def bindingSlots (decl : BindingDecl) : List Slot :=
  Slot.ofFlag "mut" decl.isMutable ++
    ([.name decl.name] ++ [.ofType decl.type] ++ Slot.ofValue decl.value)

/-- The slots of a read form. -/
def slots : Node -> List Slot
  | .item (.const decl) | .stmt (.const decl) => constSlots decl
  | .item (.static decl) =>
    decl.attributes.map .attribute ++ flagSlots decl ++ [.ofName decl.name] ++
      ([.ofType decl.type] ++ Slot.ofValue decl.value)
  | .item (.typeAlias decl) =>
    decl.attributes.map .attribute ++ [.ofName decl.name] ++ decl.target.toList.map .type
  | .stmt (.letIn decl) | .stmt (.instr decl) => bindingSlots decl
  | .stmt (.ret value _) => Slot.ofValue value
  | .type (.pointer inner _) | .type (.array inner _) | .type (.const inner _)
  | .type (.mutable inner _) => [.type inner]
  | .type (.fixedArray inner length _) => [.type inner, .length length]
  | _ => []

/-- Every operand fills a slot of the form, in the order of the slots, where no slot but a flag
stands for two operands. -/
def Keeps (node : Node) (operands : List Datum) : Prop :=
  ∃ slots, List.Forall₂ Slot.Fills slots operands ∧ slots ⊆ node.slots ∧
    (slots.filter (!·.isFlag)).Sublist node.slots

end Node

namespace Datum

/-- The heads of the forms whose operands are counted, by what the form is read as. -/
def operandHeads : Role -> List String
  | .item => ["const", "static", "type"]
  | .stmt => ["return", "break", "continue", "let", "instr", "const"]
  | .expr => []
  | .type => ["ptr", "const", "mut", "array"]

/-- The operands of a form. -/
def operands (role : Role) : Datum -> List Datum
  | .list (.symbol head _ :: args) _ => if head ∈ operandHeads role then args else []
  | _ => []

/-- The operands that the form has no slot for. -/
def surplus (role : Role) : Datum -> List Datum
  | .list (.symbol head _ :: args) _ =>
    match role, head with
    | .item, "const" | .stmt, "const" => (behindName args).drop 2
    | .item, "static" => (behindFlags args).drop 2
    | .item, "type" => (behindName args).drop 1
    | .stmt, "let" => (Decode.mutMark args).2.drop 3
    | .stmt, "instr" => args.drop 3
    | .stmt, "return" => args.drop 1
    | .stmt, "break" | .stmt, "continue" => args
    | .type, "ptr" | .type, "const" | .type, "mut" => args.drop 1
    | .type, "array" => args.drop 2
    | _, _ => []
  | _ => []

end Datum

namespace Decode

/-! ### Slots filled from left to right -/

/-- The first data fill the slots and the rest is left. -/
inductive Placed : List Slot -> List Datum -> List Datum -> Prop where
  | done (rest : List Datum) : Placed [] rest rest
  | step {slot : Slot} {datum : Datum} {slots : List Slot} {data rest : List Datum}
    (fills : slot.Fills datum) (later : Placed slots data rest) :
    Placed (slot :: slots) (datum :: data) rest

namespace Placed

variable {slots more : List Slot} {data middle rest : List Datum}

theorem append (first : Placed slots data middle) (later : Placed more middle rest) :
    Placed (slots ++ more) data rest := by
  induction first with
  | done => exact later
  | step fills _ inductionHypothesis => exact .step fills (inductionHypothesis later)

/-- If nothing is left, the slots are filled by all the data. -/
theorem all_filled (placed : Placed slots data []) : List.Forall₂ Slot.Fills slots data := by
  generalize isRest : ([] : List Datum) = rest at placed
  induction placed with
  | done =>
    subst isRest
    exact .nil
  | step fills _ inductionHypothesis => exact .cons fills (inductionHypothesis isRest)

end Placed

theorem placed_attributes (data : List Datum) {found : List Attribute × List Datum}
    (read : attributes data = .ok found) : Placed (found.1.map .attribute) data found.2 := by
  induction data generalizing found with
  | nil =>
    cases read
    exact .done _
  | cons datum rest inductionHypothesis =>
    unfold attributes at read
    obtain ⟨mark, isMark, read⟩ := ok_bind read
    cases mark with
    | none =>
      cases read
      exact .done _
    | some mark =>
      obtain ⟨others, isOthers, done⟩ := ok_bind read
      cases done
      exact .step (.attribute isMark) (inductionHypothesis isOthers)

theorem placed_staticFlags (data : List Datum) :
    Placed ((staticFlags data).1.map .flag) data (staticFlags data).2 := by
  induction data with
  | nil => exact .done _
  | cons datum rest inductionHypothesis =>
    cases datum with
    | symbol text span =>
      unfold staticFlags
      split
      · exact .step (.flag text span) inductionHypothesis
      · exact .done _
    | string | number | list => exact .done _

/-- A name fills its slot if it is there. -/
theorem placed_name (data : List Datum) :
    ∃ slots, slots.Sublist [.ofName (name data).1] ∧ Placed slots data (name data).2 := by
  unfold name
  split
  · rename_i text span rest
    split
    · rename_i isMissing
      subst isMissing
      exact ⟨_, .refl _, .step (.noName span) (.done _)⟩
    · exact ⟨_, .refl _, .step (.name text span) (.done _)⟩
  · exact ⟨[], List.nil_sublist _, .done _⟩

theorem fills_ofType {datum : Datum} {form : Option TypeForm}
    (read : optionalType datum = .ok form) : (Slot.ofType form).Fills datum := by
  unfold optionalType at read
  split at read
  · rename_i isMissing
    cases read
    cases datum with
    | symbol text span =>
      have isMissing : text = "_" := by simpa [Datum.isSymbol] using isMissing
      subst isMissing
      exact .inferred span
    | string | number | list => cases isMissing
  · obtain ⟨form, isForm, done⟩ := ok_bind read
    cases done
    exact .type isForm

/-- A type and a value fill their slots if they are there. -/
theorem placed_typeAndValue {data : List Datum} {found : Option TypeForm × Option Expr}
    (read : typeAndValue data = .ok found) :
    ∃ slots, slots.Sublist ([.ofType found.1] ++ Slot.ofValue found.2) ∧
      Placed slots data (data.drop 2) := by
  unfold typeAndValue at read
  split at read
  · cases read
    exact ⟨[], List.nil_sublist _, .done _⟩
  · obtain ⟨form, isForm, done⟩ := ok_bind read
    cases done
    exact ⟨_, List.sublist_append_left _ _, .step (fills_ofType isForm) (.done _)⟩
  · obtain ⟨form, isForm, read⟩ := ok_bind read
    obtain ⟨value, isValue, done⟩ := ok_bind read
    cases done
    exact ⟨_, .refl _, .step (fills_ofType isForm) (.step (.value isValue) (.done _))⟩

theorem placed_mutMark (data : List Datum) :
    Placed (Slot.ofFlag "mut" (mutMark data).1) data (mutMark data).2 := by
  unfold mutMark
  split
  · rename_i datum rest
    split
    · rename_i isMark
      cases datum with
      | symbol text span =>
        have isMark : text = "mut" := by simpa [Datum.isSymbol] using isMark
        subst isMark
        exact .step (.flag _ span) (.done _)
      | string | number | list => cases isMark
    · exact .done _
  · exact .done _

theorem placed_binding {isMutable : Bool} {data : List Datum} {span : Span} {decl : BindingDecl}
    (read : binding isMutable data span = .ok decl) :
    decl.isMutable = isMutable ∧ ∃ slots,
      slots.Sublist ([.name decl.name] ++ [.ofType decl.type] ++ Slot.ofValue decl.value) ∧
        Placed slots data (data.drop 3) := by
  unfold binding at read
  split at read
  · rename_i text nameSpan type values
    obtain ⟨form, isForm, read⟩ := ok_bind read
    obtain ⟨value, isValue, done⟩ := ok_bind read
    cases done
    have placed (slots : List Slot) (values rest : List Datum) (later : Placed slots values rest) :=
      Placed.step (.name text nameSpan) (.step (fills_ofType isForm) later)
    cases values with
    | nil =>
      cases isValue
      exact ⟨rfl, _, .refl _, placed _ _ _ (.done _)⟩
    | cons first rest =>
      obtain ⟨inner, isInner, done⟩ := ok_bind isValue
      cases done
      exact ⟨rfl, _, .refl _, placed _ _ _ (.step (.value isInner) (.done _))⟩
  · cases read

/-! ### Forms keep their operands -/

/-- Slots among those of the form, filled by all the operands. -/
theorem keeps_of_placed {node : Node} {slots : List Slot} {data : List Datum}
    (placed : Placed slots data []) (among : slots.Sublist node.slots) : node.Keeps data :=
  ⟨slots, placed.all_filled, among.subset, List.filter_sublist.trans among⟩

/-- A form that keeps no operands. -/
theorem keeps_nil (node : Node) : node.Keeps [] :=
  keeps_of_placed (.done []) (List.nil_sublist _)

theorem keeps_constDecl {node : Node} {data : List Datum} {span : Span} {decl : ConstDecl}
    (isNode : node.slots = Node.constSlots decl) (read : constDecl data span = .ok decl)
    (fits : (Datum.behindName data).drop 2 = []) : node.Keeps data := by
  obtain ⟨⟨marks, items⟩, isMarks, read⟩ := ok_bind read
  have marked := placed_attributes data isMarks
  obtain rfl := rest_of_attributes isMarks
  obtain ⟨nameSlots, nameAmong, named⟩ := placed_name (Datum.behindMarks data)
  simp only [Datum.behindName] at read fits marked named
  generalize Decode.name (Datum.behindMarks data) = found at read fits nameAmong named
  obtain ⟨name, items⟩ := found
  obtain ⟨found, isFound, done⟩ := ok_bind read
  cases done
  obtain ⟨slots, among, placed⟩ := placed_typeAndValue isFound
  rw [fits] at placed
  refine keeps_of_placed ((marked.append named).append placed) ?_
  rw [isNode]
  exact ((List.Sublist.refl _).append nameAmong).append among

theorem append_subset {α : Type} {first second left right : List α} (isFirst : first ⊆ left)
    (isSecond : second ⊆ right) : first ++ second ⊆ left ++ right :=
  List.append_subset.mpr ⟨List.subset_append_of_subset_left _ isFirst,
    List.subset_append_of_subset_right _ isSecond⟩

theorem mem_staticFlags (data : List Datum) : ∀ text ∈ (staticFlags data).1, isStaticFlag text := by
  induction data with
  | nil => exact List.forall_mem_nil _
  | cons datum rest inductionHypothesis =>
    cases datum with
    | symbol text span =>
      unfold staticFlags
      split
      · rename_i isFlag
        exact List.forall_mem_cons.mpr ⟨isFlag, inductionHypothesis⟩
      · exact List.forall_mem_nil _
    | string | number | list => exact List.forall_mem_nil _

theorem keeps_staticDecl {data : List Datum} {span : Span} {decl : StaticDecl}
    (read : staticDecl data span = .ok decl) (fits : (Datum.behindFlags data).drop 2 = []) :
    (Node.item (.static decl)).Keeps data := by
  obtain ⟨⟨marks, items⟩, isMarks, read⟩ := ok_bind read
  have marked := placed_attributes data isMarks
  obtain rfl := rest_of_attributes isMarks
  have flagged := placed_staticFlags (Datum.behindMarks data)
  have areFlags := mem_staticFlags (Datum.behindMarks data)
  simp only [Datum.behindFlags] at read fits marked flagged
  generalize staticFlags (Datum.behindMarks data) = found at read fits flagged areFlags
  obtain ⟨flags, items⟩ := found
  obtain ⟨nameSlots, nameAmong, named⟩ := placed_name items
  simp only at read fits flagged areFlags
  generalize Decode.name items = found at read fits nameAmong named
  obtain ⟨name, items⟩ := found
  obtain ⟨found, isFound, done⟩ := ok_bind read
  cases done
  obtain ⟨slots, among, placed⟩ := placed_typeAndValue isFound
  rw [fits] at placed
  refine ⟨_, (((marked.append flagged).append named).append placed).all_filled, ?_, ?_⟩
  · have flagsAmong : flags.map Slot.flag ⊆ Node.flagSlots ⟨marks, name, found.1, found.2,
        flags.contains "mut", flags.contains "volatile", flags.contains "threadlocal",
        flags.contains "atomic", span⟩ := by
      intro slot isSlot
      obtain ⟨text, isText, rfl⟩ := List.mem_map.mp isSlot
      have isFlag := areFlags text isText
      simp only [isStaticFlag, Bool.or_eq_true, decide_eq_true_eq] at isFlag
      rcases isFlag with ((rfl | rfl) | rfl) | rfl <;>
        simp [Node.flagSlots, Slot.ofFlag, isText]
    exact append_subset (append_subset (append_subset (List.Subset.refl _) flagsAmong)
      nameAmong.subset) among.subset
  · have noFlags : (flags.map Slot.flag).filter (!·.isFlag) = [] := by
      simp [Slot.isFlag]
    rw [List.filter_append, List.filter_append, List.filter_append, noFlags]
    exact ((List.filter_sublist.append (List.nil_sublist _)).append
      (List.filter_sublist.trans nameAmong)).append (List.filter_sublist.trans among)

theorem keeps_aliasDecl {data : List Datum} {span : Span} {decl : AliasDecl}
    (read : aliasDecl data span = .ok decl) (fits : (Datum.behindName data).drop 1 = []) :
    (Node.item (.typeAlias decl)).Keeps data := by
  obtain ⟨⟨marks, items⟩, isMarks, read⟩ := ok_bind read
  have marked := placed_attributes data isMarks
  obtain rfl := rest_of_attributes isMarks
  obtain ⟨nameSlots, nameAmong, named⟩ := placed_name (Datum.behindMarks data)
  simp only [Datum.behindName] at read fits marked named
  generalize Decode.name (Datum.behindMarks data) = found at read fits nameAmong named
  obtain ⟨name, items⟩ := found
  rcases items with _ | ⟨type, _ | ⟨_, _⟩⟩
  · cases read
    refine keeps_of_placed (marked.append named) ?_
    rw [← List.append_nil (_ ++ _)]
    exact ((List.Sublist.refl _).append nameAmong).append (List.nil_sublist _)
  · obtain ⟨form, isForm, done⟩ := ok_bind read
    cases done
    refine keeps_of_placed ((marked.append named).append (.step (.type isForm) (.done []))) ?_
    exact ((List.Sublist.refl _).append nameAmong).append (List.Sublist.refl _)
  · cases fits

theorem keeps_binding {isMutable : Bool} {node : Node} {data : List Datum} {span : Span}
    {decl : BindingDecl} (isNode : node.slots = Node.bindingSlots decl) {flags : List Datum}
    (flagged : Placed (Slot.ofFlag "mut" isMutable) flags data)
    (read : binding isMutable data span = .ok decl) (fits : data.drop 3 = []) :
    node.Keeps flags := by
  obtain ⟨rfl, slots, among, placed⟩ := placed_binding read
  rw [fits] at placed
  refine keeps_of_placed (flagged.append placed) ?_
  rw [isNode]
  exact (List.Sublist.refl _).append among

section
variable {head : String} {headSpan span : Span} {args : List Datum}

theorem keeps_item {found : Item} (isListed : head ∈ Datum.operandHeads .item)
    (read : item (.list (.symbol head headSpan :: args) span) = .ok found)
    (fits : Datum.surplus .item (.list (.symbol head headSpan :: args) span) = []) :
    (Node.item found).Keeps args := by
  simp only [Datum.operandHeads, List.mem_cons, List.not_mem_nil, or_false] at isListed
  rcases isListed with rfl | rfl | rfl
  · obtain ⟨decl, isDecl, done⟩ := ok_bind read
    cases done
    exact keeps_constDecl rfl isDecl fits
  · obtain ⟨decl, isDecl, done⟩ := ok_bind read
    cases done
    exact keeps_staticDecl isDecl fits
  · obtain ⟨decl, isDecl, done⟩ := ok_bind read
    cases done
    exact keeps_aliasDecl isDecl fits

theorem keeps_stmt {found : Stmt} (isListed : head ∈ Datum.operandHeads .stmt)
    (read : stmt (.list (.symbol head headSpan :: args) span) = .ok found)
    (fits : Datum.surplus .stmt (.list (.symbol head headSpan :: args) span) = []) :
    (Node.stmt found).Keeps args := by
  simp only [Datum.operandHeads, List.mem_cons, List.not_mem_nil, or_false] at isListed
  unfold stmt at read
  rcases isListed with rfl | rfl | rfl | rfl | rfl | rfl
  · match args, read, fits with
    | [], _, _ => exact keeps_nil _
    | [_], read, _ =>
      obtain ⟨value, isValue, done⟩ := ok_bind read
      cases done
      exact keeps_of_placed (.step (.value isValue) (.done [])) (.refl _)
    | _ :: _ :: _, _, fits => cases fits
  · obtain rfl : args = [] := fits
    exact keeps_nil _
  · obtain rfl : args = [] := fits
    exact keeps_nil _
  · obtain ⟨decl, isDecl, done⟩ := ok_bind read
    cases done
    exact keeps_binding rfl (placed_mutMark args) isDecl fits
  · obtain ⟨decl, isDecl, done⟩ := ok_bind read
    cases done
    have noFlag : Placed (Slot.ofFlag "mut" false) args args := .done args
    exact keeps_binding rfl noFlag isDecl fits
  · obtain ⟨decl, isDecl, done⟩ := ok_bind read
    cases done
    exact keeps_constDecl rfl isDecl fits

/-- A written type of one operand, which is a type. -/
theorem keeps_inner {datum : Datum} {wrap : TypeForm -> TypeForm} {found : TypeForm}
    (isSlot : ∀ inner, (Node.type (wrap inner)).slots = [.type inner])
    (read : (do return wrap (<- typeForm datum) : Decoded TypeForm) = .ok found) :
    (Node.type found).Keeps [datum] := by
  obtain ⟨inner, isInner, done⟩ := ok_bind read
  cases done
  refine keeps_of_placed (.step (.type isInner) (.done [])) ?_
  rw [isSlot]

theorem keeps_type {found : TypeForm} (isListed : head ∈ Datum.operandHeads .type)
    (read : typeForm (.list (.symbol head headSpan :: args) span) = .ok found)
    (fits : Datum.surplus .type (.list (.symbol head headSpan :: args) span) = []) :
    (Node.type found).Keeps args := by
  simp only [Datum.operandHeads, List.mem_cons, List.not_mem_nil, or_false] at isListed
  unfold typeForm at read
  rcases isListed with rfl | rfl | rfl | rfl
  · match args, read, fits with
    | [_], read, _ => exact keeps_inner (fun _ => rfl) read
    | _ :: _ :: _, _, fits => cases fits
  · match args, read, fits with
    | [_], read, _ => exact keeps_inner (fun _ => rfl) read
    | _ :: _ :: _, _, fits => cases fits
  · match args, read, fits with
    | [_], read, _ => exact keeps_inner (fun _ => rfl) read
    | _ :: _ :: _, _, fits => cases fits
  · match args, read, fits with
    | [_], read, _ => exact keeps_inner (fun _ => rfl) read
    | [_, size], read, _ =>
      obtain ⟨inner, isInner, read⟩ := ok_bind read
      cases isLength : arrayLength? size with
      | none =>
        rw [isLength] at read
        cases read
      | some count =>
        rw [isLength] at read
        cases read
        exact keeps_of_placed (.step (.type isInner) (.step (.length isLength) (.done [])))
          (.refl _)
    | _ :: _ :: _ :: _, _, fits => cases fits

end

/-- A form that has a slot for each of its operands keeps them all. -/
theorem keeps_of_reads {role : Role} {datum : Datum} {node : Node}
    (read : readAs role datum = .ok node) (fits : datum.surplus role = []) :
    node.Keeps (datum.operands role) := by
  unfold Datum.operands
  split
  · split
    · rename_i isListed
      cases role with
      | item =>
        obtain ⟨found, isFound, done⟩ := ok_bind read
        cases done
        exact keeps_item isListed isFound fits
      | stmt =>
        obtain ⟨found, isFound, done⟩ := ok_bind read
        cases done
        exact keeps_stmt isListed isFound fits
      | expr => cases isListed
      | type =>
        obtain ⟨found, isFound, done⟩ := ok_bind read
        cases done
        exact keeps_type isListed isFound fits
    · exact keeps_nil _
  · exact keeps_nil _

end Decode

/-- The nodes of a unit are just what is read from the data that are expected to be read, and
each of these that is a form with a slot for each of its operands has them all in its slots. -/
theorem Module.operands_kept {file text : String} {unit : Module} {data : List Datum}
    (isUnit : decode file text = .ok unit) (isData : Datum.readAll text = .ok data) :
    (∀ node : Node, node.Inside unit.items ↔
      ∃ role datum, Datum.Takes data role datum ∧ Decode.readAs role datum = .ok node) ∧
    ∀ role datum, Datum.Takes data role datum → datum.surplus role = [] →
      ∃ node : Node, node.Inside unit.items ∧ Decode.readAs role datum = .ok node ∧
        node.Keeps (datum.operands role) := by
  unfold decode at isUnit
  rw [isData] at isUnit
  obtain ⟨items, isItems, done⟩ := Decode.ok_bind isUnit
  cases done
  refine ⟨fun node => ⟨Decode.takes_of_has isItems, ?_⟩, fun role datum isTaken fits => ?_⟩
  · rintro ⟨role, datum, isTaken, isRead⟩
    obtain ⟨found, isInside, isFound⟩ := Decode.has_of_takes isItems isTaken
    cases isFound.symm.trans isRead
    exact isInside
  · obtain ⟨node, isInside, isRead⟩ := Decode.has_of_takes isItems isTaken
    exact ⟨node, isInside, isRead, Decode.keeps_of_reads isRead fits⟩

/-- The flag, the name and the type of a static are all in its slots. -/
theorem Module.operands_kept_static :
    let decl := Datum.list [.symbol "static" (.ofLine 1 7), .symbol "mut" (.ofLine 8 11),
      .symbol "s" (.ofLine 12 13), .symbol "s32" (.ofLine 14 17)] (.ofLine 0 18)
    ∃ unit, decode "unit" "(static mut s s32)" = .ok unit ∧
      Datum.readAll "(static mut s s32)" = .ok [decl] ∧
        Datum.Takes [decl] .item decl ∧ decl.surplus .item = [] ∧
          ∃ node : Node, node.Inside unit.items ∧ Decode.readAs .item decl = .ok node ∧
            node.Keeps (decl.operands .item) := by
  intro decl
  have read : Datum.readAll "(static mut s s32)" = .ok [decl] :=
    Datum.readAll_chars (by rfl)
  have decoded : decode "unit" "(static mut s s32)" = .ok
      ⟨"unit", [.static ⟨[], some ⟨"s", .ofLine 12 13⟩, some (.named "s32" (.ofLine 14 17)), none,
        true, false, false, false, .ofLine 0 18⟩], some (.ofLine 0 18)⟩ :=
    Module.decode_chars (by cbv)
  have isTaken : Datum.Takes [decl] .item decl := ⟨decl, List.mem_singleton_self _, .refl⟩
  exact ⟨_, decoded, read, isTaken, rfl, (operands_kept decoded read).2 .item decl isTaken rfl⟩

/-- Of two values behind a return neither is kept, and the unit is read all the same. -/
theorem Module.return_operands_lost :
    let values := Datum.list [.symbol "return" (.ofLine 22 28), .number "1" (.ofLine 29 30),
      .number "2" (.ofLine 31 32)] (.ofLine 21 33)
    let unit := Datum.list [.symbol "fn" (.ofLine 1 3), .symbol "f" (.ofLine 4 5),
      .list [] (.ofLine 6 8), .symbol "void" (.ofLine 9 13),
      .list [.symbol "block" (.ofLine 15 20), values] (.ofLine 14 34)] (.ofLine 0 35)
    (∃ decoded, decode "unit" "(fn f () void (block (return 1 2)))" = .ok decoded) ∧
      Datum.readAll "(fn f () void (block (return 1 2)))" = .ok [unit] ∧
        Datum.Takes [unit] .stmt values ∧
          ∀ node : Node, Decode.readAs .stmt values = .ok node →
            ¬ node.Keeps (values.operands .stmt) := by
  intro values unit
  have read : Datum.readAll "(fn f () void (block (return 1 2)))" = .ok [unit] :=
    Datum.readAll_chars (by rfl)
  have decoded : decode "unit" "(fn f () void (block (return 1 2)))" = .ok
      ⟨"unit", [.function ⟨[], some ⟨"f", .ofLine 4 5⟩, [], some (.named "void" (.ofLine 9 13)),
        some ⟨[.ret none (.ofLine 21 33)], .ofLine 14 34⟩, .ofLine 0 35⟩],
        some (.ofLine 0 35)⟩ := Module.decode_chars (by cbv)
  refine ⟨⟨_, decoded⟩, read, ⟨unit, List.mem_singleton_self _,
    .single (List.mem_cons_of_mem _ (List.mem_singleton_self _))⟩, ?_⟩
  have returned : Decode.stmt values = .ok (.ret none (.ofLine 21 33)) := by
    unfold Decode.stmt
    rfl
  rintro node isNode ⟨slots, filled, among, -⟩
  rw [Decode.readAs, returned] at isNode
  cases isNode
  cases List.subset_nil.mp among
  cases filled

end UnitCheck
