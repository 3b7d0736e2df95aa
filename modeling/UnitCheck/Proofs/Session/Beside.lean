import UnitCheck.Proofs.Declare.Isolation
import UnitCheck.Proofs.Resolve.Structs
import UnitCheck.Proofs.Session.Respelling

/-!
# Checks beside each other

One check declares a function and the other one refuses it. Nobody else mentions the
function, so apart from its own declaration and signature the two sessions keep the same at
all times. What the check that declares it reports about the signature, the other one owes
until it resolves the parameters.
-/

namespace UnitCheck

/-- The nodes of an item's declaration and of its signature. -/
def Item.face (item : Item) : List NodeId := item.span.node :: item.forms.flatMap TypeForm.nodes

/-- Everything but some nodes, and all functions but those of a name. -/
def Outlook.apart (hidden : List NodeId) (name : String) : Outlook where
  inside node := node ∉ hidden
  visible node := node ∉ hidden
  owns node := node ∉ hidden
  steady id := ∀ node ∈ hidden, id ≠ .node node
  calls called := called ≠ name
  inside_of_visible _ := id
  inside_of_owns _ := id
  steady_of_owns node outside := by
    rintro other isHidden ⟨⟩
    exact outside isHidden

/-- How far two checks have come with a function that only one of them declares. -/
structure Ledger where
  /-- The symbol that the function has where it is declared. -/
  symbol : Option Symbol
  /-- What is known of the function where it is declared. -/
  known : SymbolType
  /-- The codes reported only where the function is refused. -/
  refused : List String
  /-- The codes that are still to be reported where the function is refused. -/
  owed : List String

/-- The sessions of a check that refuses a function and of one that declares it under a name
that is used nowhere else. -/
structure Beside (item : Item) (name : String) (ledger : Ledger)
    (one other : Session) : Prop where
  agree : Agree (.apart item.face name) one other
  enclosed : Enclosed (.apart item.face name) one
  checked : one.checked = other.checked
  undeclared : (one.entry item.span.node).decl = none
  declared : (other.entry item.span.node).decl = ledger.symbol
  known : other.knownOf (.node item.span.node) = ledger.known
  codes : (one.codes ++ ledger.owed).Perm (ledger.refused ++ other.codes)

/-! ### Reading signatures -/

/-- Reading the written types at some nodes. -/
def Check.glossing (hidden : List NodeId) : Regime where
  holds _ := True
  permits
    | .report (.unknownType _) => True
    | .written node _ | .refers node _ => node ∈ hidden
    | _ => False
  stable _ _ _ _ := trivial

theorem Check.mayRead_glossing (hidden : List NodeId) :
    Check.MayRead (Check.glossing hidden) (· ∈ hidden) where
  unknownType _ := trivial
  written _ _ := id
  refers _ _ := id

/-- What reading the written types at some nodes leaves alone. -/
structure Glosses (hidden : List NodeId) (before after : Session) : Prop where
  unit : after.unit = before.unit
  options : after.options = before.options
  table : after.table = before.table
  known : after.known = before.known
  checked : after.checked = before.checked
  decls : after.facts.decls = before.facts.decls
  entries : ∀ node ∉ hidden, after.entry node = before.entry node

theorem Glosses.refl (hidden : List NodeId) (session : Session) : Glosses hidden session session :=
  ⟨rfl, rfl, rfl, rfl, rfl, rfl, fun _ _ => rfl⟩

theorem glosses_of_trace {hidden : List NodeId} {before after : Session}
    (trace : Trace (Check.glossing hidden).permits before after) : Glosses hidden before after where
  unit := trace.unit
  options := trace.options
  table := trace.keeps fun act _ permitted => by
    cases act <;> first | rfl | exact permitted.elim
  known := trace.keeps fun act _ permitted => by
    cases act <;> first | rfl | exact permitted.elim
  checked := trace.keeps fun act _ permitted => by
    cases act <;> first | rfl | exact permitted.elim
  decls := by
    refine @Trace.keeps _ _ _ trace _ (·.facts.decls) fun act _ permitted => ?_
    cases act <;> first | rfl | exact permitted.elim
  entries node outside := by
    refine @Trace.keeps _ _ _ trace _ (·.entry node) fun act session permitted => ?_
    rw [Act.entry_apply, if_neg]
    intro site
    cases act <;> simp only [Act.site?, Option.some.injEq, reduceCtorEq] at site <;>
      subst site <;> first | exact outside permitted | exact permitted.elim

/-- Reading a signature that is not looked at keeps sessions in agreement. -/
theorem Agree.glosses {hidden : List NodeId} {name : String} {one other after last : Session}
    (agree : Agree (.apart hidden name) one other) (glosses : Glosses hidden one after)
    (glossesOther : Glosses hidden other last) : Agree (.apart hidden name) after last where
  file := by
    unfold Session.file
    rw [glosses.unit, glossesOther.unit]
    exact agree.file
  options := by rw [glosses.options, glossesOther.options, agree.options]
  globals := by
    rw [glosses.table, glossesOther.table]
    exact agree.globals
  locals := by rw [glosses.table, glossesOther.table, agree.locals]
  frames := by rw [glosses.table, glossesOther.table, agree.frames]
  known id steady := by
    unfold Session.knownOf
    rw [glosses.known, glossesOther.known]
    exact agree.known id steady
  entries node inside := by
    rw [glosses.entries node inside, glossesOther.entries node inside, agree.entries node inside]

theorem Enclosed.glosses {hidden : List NodeId} {name : String} {one after : Session}
    (enclosed : Enclosed (.apart hidden name) one) (glosses : Glosses hidden one after) :
    Enclosed (.apart hidden name) after where
  globals := by
    rw [glosses.table]
    exact enclosed.globals
  locals := by
    rw [glosses.table]
    exact enclosed.locals
  known id met := by
    unfold Session.knownOf
    rw [glosses.known]
    exact enclosed.known id met
  entries node inside := by
    rw [glosses.entries node inside]
    exact enclosed.entries node inside

/-! ### What names of types stand for -/

/-- Names of types stand for the same in both sessions. -/
structure NamesAs (before after : Session) : Prop where
  types : ∀ name, after.table.resolveType? name = before.table.resolveType? name
  known : ∀ name symbol, before.table.resolveType? name = some symbol →
    (after.knownOf symbol.id).type = (before.knownOf symbol.id).type

namespace NamesAs

variable {before middle after : Session}

theorem trans (first : NamesAs before middle) (second : NamesAs middle after) :
    NamesAs before after where
  types name := (second.types name).trans (first.types name)
  known name symbol found :=
    (second.known name symbol ((first.types name).trans found)).trans
      (first.known name symbol found)

theorem symm (names : NamesAs before after) : NamesAs after before where
  types name := (names.types name).symm
  known name symbol found := (names.known name symbol ((names.types name).symm.trans found)).symm

theorem of_same (table : after.table = before.table) (known : after.known = before.known) :
    NamesAs before after where
  types name := by rw [table]
  known name symbol _ := by
    unfold Session.knownOf
    rw [known]

theorem of_reads (reads : Check.Reads before after) : NamesAs before after :=
  .of_same reads.table reads.known

theorem named (names : NamesAs before after) : after.named = before.named := by
  funext name
  unfold Session.named
  rw [names.types]
  cases found : before.table.resolveType? name with
  | none => rfl
  | some symbol => simp only [names.known name symbol found]

theorem lacks (names : NamesAs before after) : after.lacks = before.lacks := by
  funext name
  unfold Session.lacks
  rw [names.types]

/-- What two walks in turn leave alone. -/
theorem bind {α β : Type} {first : Check α} {rest : α -> Check β}
    (ahead : NamesAs before (first.run before).2)
    (behind : ∀ value session, NamesAs session ((rest value).run session).2) :
    NamesAs before ((first >>= rest).run before).2 :=
  ahead.trans (behind _ _)

end NamesAs

/-- Where sessions agree, names of types stand for the same. -/
theorem Agree.namesAs {outlook : Outlook} {one other : Session} (agree : Agree outlook one other)
    (enclosed : Enclosed outlook one) : NamesAs one other where
  types name := (agree.resolveType? name).symm
  known name symbol found := by
    have proper := enclosed.resolveType? found
    rw [agree.known symbol.id (proper.steady (isType_of_resolveType? found))]

/-- Types that names stand for mention no more than what can be met. -/
theorem Enclosed.within_named {outlook : Outlook} {one : Session} (enclosed : Enclosed outlook one)
    (name : String) : (one.named name).Within outlook.visible := by
  unfold Session.named
  cases Prim.ofName? name with
  | some builtin => trivial
  | none =>
    cases found : one.table.resolveType? name with
    | none => trivial
    | some symbol =>
      have proper := enclosed.resolveType? found
      simp only
      cases known : (one.knownOf symbol.id).type with
      | none => trivial
      | some type => exact (enclosed.known symbol.id proper.met).type type known

/-- The codes of what is found when a written type is read. -/
def Session.misses (session : Session) (form : TypeForm) : List String :=
  (form.mentions.filter (session.lacks ·.name)).map fun name => (Finding.unknownType name).code

theorem NamesAs.misses {before after : Session} (names : NamesAs before after) :
    after.misses = before.misses := by
  funext form
  unfold Session.misses
  rw [names.lacks]

theorem codes_typeOf (form : TypeForm) (session : Session) :
    ((Check.typeOf form).run session).2.codes = session.codes ++ session.misses form := by
  unfold Session.codes Session.misses
  rw [Check.typeOf_misses, List.map_append, List.map_map]
  rfl

theorem glosses_typeOf {hidden : List NodeId} {form : TypeForm}
    (within : ∀ node ∈ form.nodes, node ∈ hidden) (session : Session) :
    Glosses hidden session ((Check.typeOf form).run session).2 :=
  glosses_of_trace (Check.obeys_typeOf (Check.mayRead_glossing hidden) form within session trivial)

/-! ### Sessions that stay beside each other -/

namespace Beside

variable {item : Item} {name : String} {ledger : Ledger}
  {one other after last : Session}

/-- The declaration of the function is left alone. -/
theorem entry_act {act : Act}
    (permitted : (Outlook.apart item.face name).Permits act) (session : Session) :
    (act.apply session).entry item.span.node = session.entry item.span.node := by
  rw [Act.entry_apply, if_neg]
  exact fun site => Outlook.owns_of_site permitted site List.mem_cons_self

theorem knownOf_act {act : Act}
    (permitted : (Outlook.apart item.face name).Permits act) (session : Session) :
    (act.apply session).knownOf (.node item.span.node) =
      session.knownOf (.node item.span.node) := by
  rw [Act.knownOf_apply, if_neg]
  intro subject
  obtain ⟨node, owns, same⟩ := Outlook.owns_of_subject permitted subject
  cases same
  exact owns List.mem_cons_self

/-- Both sessions find something more with the same codes. -/
theorem codes_append {codes others refused owed found : List String}
    (same : (codes ++ owed).Perm (refused ++ others)) :
    ((codes ++ found) ++ owed).Perm (refused ++ (others ++ found)) := by
  have swapped : ((codes ++ found) ++ owed).Perm ((codes ++ owed) ++ found) := by
    rw [List.append_assoc, List.append_assoc]
    exact List.perm_append_comm.append_left codes
  rw [← List.append_assoc]
  exact swapped.trans (same.append_right found)

theorem act {act : Act} (beside : Beside item name ledger one other)
    (permitted : (Outlook.apart item.face name).Permits act) :
    Beside item name ledger (act.apply one) (act.apply other) where
  agree := beside.agree.act permitted
  enclosed := beside.enclosed.act permitted
  checked := by
    cases act <;> first | exact beside.checked | exact permitted.elim
  undeclared := by rw [entry_act permitted, beside.undeclared]
  declared := by rw [entry_act permitted, beside.declared]
  known := by rw [knownOf_act permitted, beside.known]
  codes := by
    cases act with
    | report finding =>
      simp only [Session.codes, Act.apply, List.map_append]
      exact codes_append beside.codes
    | _ => exact beside.codes

/-- Where nothing is owed any more, the codes differ in what is reported for the refusal. -/
theorem settled {symbol : Option Symbol} {known : SymbolType} {refused : List String}
    (beside : Beside item name ⟨symbol, known, refused, []⟩ one other) :
    one.codes.Perm (refused ++ other.codes) := by
  have codes := beside.codes
  rwa [List.append_nil] at codes

/-- What happens between walks does not show. -/
theorem alike (beside : Beside item name ledger one other) (shown : one.Alike after)
    (shownOther : other.Alike last) : Beside item name ledger after last where
  agree := beside.agree.showsAs shown.showsAs shownOther.showsAs
  enclosed := beside.enclosed.showsAs shown.showsAs
  checked := by
    rw [shown.same, shownOther.same]
    exact beside.checked
  undeclared := by
    rw [shown.same]
    exact beside.undeclared
  declared := by
    rw [shownOther.same]
    exact beside.declared
  known := by
    rw [shownOther.same]
    exact beside.known
  codes := by
    rw [shown.same, shownOther.same]
    exact beside.codes

/-- Both sessions find something more with the same codes. -/
theorem report (beside : Beside item name ledger one other) {found foundOther : List Finding}
    (same : found.map Finding.code = foundOther.map Finding.code) :
    Beside item name ledger { one with findings := one.findings ++ found }
      { other with findings := other.findings ++ foundOther } where
  agree := beside.agree.showsAs ⟨rfl⟩ ⟨rfl⟩
  enclosed := beside.enclosed.showsAs ⟨rfl⟩
  checked := beside.checked
  undeclared := beside.undeclared
  declared := beside.declared
  known := beside.known
  codes := by
    simp only [Session.codes, List.map_append, ← same]
    exact codes_append beside.codes

/-- The signature is read where the function is declared; what is found is owed. -/
theorem lend (beside : Beside item name ledger one other)
    (glosses : Glosses item.face other last) {found : List String}
    (codes : last.codes = other.codes ++ found) :
    Beside item name { ledger with owed := ledger.owed ++ found } one last where
  agree := beside.agree.glosses (.refl _ one) glosses
  enclosed := beside.enclosed
  checked := beside.checked.trans glosses.checked.symm
  undeclared := beside.undeclared
  declared := by
    refine Eq.trans ?_ beside.declared
    simp only [Session.entry, glosses.decls]
  known := by
    refine Eq.trans ?_ beside.known
    simp only [Session.knownOf, glosses.known]
  codes := by
    rw [codes, ← List.append_assoc, ← List.append_assoc]
    exact beside.codes.append_right found

/-- The signature is read where the function is refused; what is found is owed no longer. -/
theorem repay {symbol : Option Symbol} {known : SymbolType} {refused owed found : List String}
    (beside : Beside item name ⟨symbol, known, refused, found ++ owed⟩ one other)
    (glosses : Glosses item.face one after)
    (codes : after.codes = one.codes ++ found) :
    Beside item name ⟨symbol, known, refused, owed⟩ after other where
  agree := beside.agree.glosses glosses (.refl _ other)
  enclosed := beside.enclosed.glosses glosses
  checked := glosses.checked.trans beside.checked
  undeclared := by
    refine Eq.trans ?_ beside.undeclared
    simp only [Session.entry, glosses.decls]
  declared := beside.declared
  known := beside.known
  codes := by
    rw [codes, List.append_assoc]
    exact beside.codes

end Beside

/-- The sessions of checks beside each other. -/
def Pairing.beside (item : Item) (name : String) (ledger : Ledger) :
    Pairing (.apart item.face name) where
  alike := Beside item name ledger
  agree beside := beside.agree
  enclosed beside := beside.enclosed
  act beside permitted := beside.act permitted

/-- Two lists are gone through one after the other. -/
theorem Check.forM_append {α : Type} (ahead behind : List α) (visit : α -> Check Unit) :
    (ahead ++ behind).forM visit = (do
      ahead.forM visit
      behind.forM visit) := List.forM_append

section Pairing

variable {item : Item} {name : String} {ledger : Ledger}

/-- Walks that stay in step leave the sessions beside each other. -/
theorem Beside.inStep {first second : Check Unit} {post : Unit -> Prop} {one other : Session}
    (beside : Beside item name ledger one other)
    (inStep : (Pairing.beside item name ledger).InStep first second post) :
    Beside item name ledger (one.after first) (other.after second) :=
  (inStep one other beside).2.2

theorem counts_beside : (Pairing.beside item name ledger).Counts where
  checked beside node := by rw [beside.checked]
  mark node beside := ⟨beside.agree.showsAs ⟨rfl⟩ ⟨rfl⟩, beside.enclosed.showsAs ⟨rfl⟩,
    congrArg (node :: ·) beside.checked, beside.undeclared, beside.declared, beside.known,
    beside.codes⟩

theorem mayDeclareAlike_beside : Declare.MayDeclareAlike (Pairing.beside item name ledger) where
  global symbol beside proper :=
    ⟨beside.agree.global symbol, beside.enclosed.global proper, beside.checked, beside.undeclared,
      beside.declared, beside.known, beside.codes⟩
  builtin number known beside within := by
    refine ⟨beside.agree.builtin number known, beside.enclosed.builtin number within,
      beside.checked, beside.undeclared, beside.declared, ?_, beside.codes⟩
    rw [Act.knownOf_apply, if_neg]
    · exact beside.known
    · simp [Act.subject?]

end Pairing

end UnitCheck
