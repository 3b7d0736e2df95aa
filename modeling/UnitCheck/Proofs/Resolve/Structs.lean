import Mathlib.Algebra.Module.Submodule.Lattice
import Mathlib.Data.List.Perm.Subperm
import Mathlib.Data.List.Permutation
import UnitCheck.Proofs.Declare.Recursion
import UnitCheck.Proofs.Declare.TopLevel
import UnitCheck.Resolve
import UnitCheck.Tree.Decode

/-!
# Structs at top level and in bodies

A struct at top level is declared before its fields are read, and searched for recursion
when all structs are defined; one in a body is declared and defined on the spot. Where the
fields have different names and no struct holds itself, both ways come to the same. A body
skips the checks that the top level makes of the other structs.
-/

namespace UnitCheck

/-- The name is neither that of a builtin type nor declared as a type. -/
def Session.lacks (session : Session) (name : String) : Bool :=
  (Prim.ofName? name).isNone && (session.table.resolveType? name).isNone

namespace Check

theorem Reads.lacks {before after : Session} (reads : Reads before after) :
    after.lacks = before.lacks := by
  unfold Session.lacks
  rw [reads.table]

theorem namedType_misses (name : String) (span : Span) (session : Session) :
    ((namedType name span).run session).1.2 = [⟨name, span⟩].filter (session.lacks ·.name) ∧
      ((namedType name span).run session).2.findings = session.findings := by
  unfold namedType Session.lacks
  cases builtin : Prim.ofName? name with
  | some _ =>
    simp only [List.filter_cons, builtin]
    exact ⟨rfl, rfl⟩
  | none =>
    rw [StateT.run_bind]
    simp only [StateT.run_get, pure_bind]
    cases found : session.table.resolveType? name with
    | none | some _ =>
      simp only [List.filter_cons, builtin, found]
      exact ⟨rfl, rfl⟩

mutual

/-- A written type misses the names in it that mean nothing. -/
theorem resolveForm_misses : (form : TypeForm) -> (session : Session) ->
    ((resolveForm form).run session).1.2 = form.mentions.filter (session.lacks ·.name) ∧
      ((resolveForm form).run session).2.findings = session.findings
  | .named name span, session => by
    unfold resolveForm TypeForm.mentions
    exact namedType_misses name span session
  | .opaquePointer _, _ | .address _, _ => by
    unfold resolveForm TypeForm.mentions
    exact ⟨rfl, rfl⟩
  | .pointer inner _, session | .array inner _, session | .fixedArray inner _ _, session
  | .const inner _, session | .mutable inner _, session => by
    unfold resolveForm TypeForm.mentions
    exact resolveForm_misses inner session
  | .function params result _ _, session => by
    unfold resolveForm TypeForm.mentions
    obtain ⟨misses, findings⟩ := resolveForms_misses params session
    obtain ⟨others, silent⟩ := resolveForm_misses result ((resolveForms params).run session).2
    rw [(reads_resolveForms params session).lacks] at others
    rw [List.filter_append, ← misses, ← others]
    exact ⟨rfl, silent.trans findings⟩

/-- `resolveForm_misses` for several written types. -/
theorem resolveForms_misses : (forms : List TypeForm) -> (session : Session) ->
    ((resolveForms forms).run session).1.2 =
        (TypeForm.mentionsAll forms).filter (session.lacks ·.name) ∧
      ((resolveForms forms).run session).2.findings = session.findings
  | [], _ => by
    unfold resolveForms TypeForm.mentionsAll
    exact ⟨rfl, rfl⟩
  | form :: rest, session => by
    unfold resolveForms TypeForm.mentionsAll
    obtain ⟨misses, findings⟩ := resolveForm_misses form session
    obtain ⟨others, silent⟩ := resolveForms_misses rest ((resolveForm form).run session).2
    rw [(reads_resolveForm form session).lacks] at others
    rw [List.filter_append, ← misses, ← others]
    exact ⟨rfl, silent.trans findings⟩

end

theorem findings_unknownTypes (missing : List Ident) (session : Session) :
    ((missing.forM fun name => report (.unknownType name)).run session).2.findings =
      session.findings ++ missing.map .unknownType := by
  induction missing generalizing session with
  | nil => exact (List.append_nil _).symm
  | cons name rest inductionHypothesis =>
    rw [List.map_cons, List.append_cons]
    exact inductionHypothesis _

/-- Reading a written type reports the names in it that mean nothing. -/
theorem typeOf_misses (form : TypeForm) (session : Session) :
    ((typeOf form).run session).2.findings =
      session.findings ++ (form.mentions.filter (session.lacks ·.name)).map .unknownType := by
  obtain ⟨misses, findings⟩ := resolveForm_misses form session
  rw [← misses, ← findings]
  unfold typeOf
  rw [StateT.run_bind]
  generalize (resolveForm form).run session = outcome
  obtain ⟨⟨type, missing⟩, after⟩ := outcome
  exact findings_unknownTypes missing after

end Check

/-! ### Fields -/

namespace StructDecl

/-- What some fields are from a place on, where names stand for these types. -/
def fieldsFrom (named : String -> Ty) (index : Nat) : List FieldDecl -> List StructField
  | [] => []
  | field :: rest =>
    ⟨if field.name.name = "_" then toString index else field.name.name,
      field.type.meaning named⟩ :: fieldsFrom named (index + 1) rest

/-- What the struct consists of where names stand for these types. -/
def body (named : String -> Ty) (decl : StructDecl) : StructBody :=
  ⟨fieldsFrom named 0 decl.fields, Declare.layoutOf decl.attributes⟩

/-- The names of types in the struct. -/
def mentions (decl : StructDecl) : List Ident := decl.fields.flatMap (·.type.mentions)

/-- The reports of the names of types in the struct that mean nothing. -/
def unknown (lacks : String -> Bool) (decl : StructDecl) : List Finding :=
  (decl.mentions.filter (lacks ·.name)).map .unknownType

theorem fieldsFrom_congr {named other : String -> Ty} (fields : List FieldDecl) (index : Nat)
    (same : ∀ mention ∈ fields.flatMap (·.type.mentions),
      named mention.name = other mention.name) :
    fieldsFrom named index fields = fieldsFrom other index fields := by
  induction fields generalizing index with
  | nil => rfl
  | cons field rest inductionHypothesis =>
    rw [List.flatMap_cons, List.forall_mem_append] at same
    rw [fieldsFrom, fieldsFrom, field.type.meaning_congr same.1, inductionHypothesis _ same.2]

/-- No two fields of the struct are called the same; `_` is no name. -/
def Distinct (fields : List FieldDecl) : Prop :=
  fields.Pairwise fun one other => one.name.name ≠ "_" → one.name.name ≠ other.name.name

end StructDecl

namespace Resolve

/-- What reading fields comes to: their meanings, and a report for each name without one. -/
structure Reading (index : Nat) (fields : List FieldDecl) (before : Session)
    (outcome : List StructField × Session) : Prop where
  values : outcome.1 = StructDecl.fieldsFrom before.named index fields
  reads : Check.Reads before outcome.2
  findings : outcome.2.findings = before.findings ++
    ((fields.flatMap (·.type.mentions)).filter (before.lacks ·.name)).map .unknownType

theorem reading_localFields (fields : List FieldDecl) (index : Nat) (session : Session) :
    Reading index fields session ((localFields index fields).run session) := by
  induction fields generalizing index session with
  | nil => exact ⟨rfl, .refl session, (List.append_nil _).symm⟩
  | cons field rest inductionHypothesis =>
    have yields := Check.typeOf_yields field.type session
    have misses := Check.typeOf_misses field.type session
    have reads := Check.reads_typeOf field.type session
    obtain ⟨values, others, findings⟩ :=
      inductionHypothesis (index + 1) ((Check.typeOf field.type).run session).2
    rw [reads.named] at values
    rw [reads.lacks, misses] at findings
    refine ⟨?_, reads.trans others, findings.trans ?_⟩
    · rw [StructDecl.fieldsFrom, ← yields, ← values]
      rfl
    · rw [List.flatMap_cons, List.filter_append, List.map_append, List.append_assoc]

/-- Where no field is called like another, reading fields at top level is reading them in
a body. -/
theorem structFields_eq_localFields (fields : List FieldDecl) (index : Nat) (seen : List Ident)
    (distinct : StructDecl.Distinct fields)
    (fresh : ∀ field ∈ fields, field.name.name ≠ "_" → ∀ ident ∈ seen,
      ident.name ≠ field.name.name) :
    Declare.structFields index seen fields = localFields index fields := by
  induction fields generalizing index seen with
  | nil => rfl
  | cons field rest inductionHypothesis =>
    obtain ⟨differs, distinct⟩ := List.pairwise_cons.mp distinct
    obtain ⟨isFresh, fresh⟩ := List.forall_mem_cons.mp fresh
    unfold Declare.structFields localFields
    by_cases isPlain : field.name.name = "_"
    · rw [if_pos isPlain, if_pos isPlain, inductionHypothesis (index + 1) seen distinct fresh]
    · have isNew : seen.find? (·.name = field.name.name) = none :=
        List.find?_eq_none.mpr fun ident isSeen => by simpa using isFresh isPlain ident isSeen
      rw [if_neg isPlain, if_neg isPlain, isNew,
        inductionHypothesis (index + 1) (field.name :: seen) distinct ?_]
      exact fun other isOther isNamed => List.forall_mem_cons.mpr
        ⟨differs other isOther isPlain, fresh other isOther isNamed⟩

/-! ### Both ways of declaring a struct -/

/-- Declares and defines a struct at top level, where all other types are defined. -/
def declareAtTop (decl : StructDecl) : Check Unit := do
  let pending <- Declare.collect none [.struct decl]
  Declare.resolveSignatures pending

/-- The struct is declared: its name stands for it, and all else is as before. -/
structure Introduced (name : String) (id : NodeId) (before after : Session) : Prop where
  types : ∀ other, (after.table.resolveType? other).map Symbol.id =
    if name = other then some (.node id) else (before.table.resolveType? other).map Symbol.id
  known : ∀ symbol, (after.knownOf symbol).type =
    if symbol = .node id then some (.struct name id) else (before.knownOf symbol).type
  structs : ∀ other, other ≠ id → after.definitions.struct other = before.definitions.struct other
  findings : after.findings = before.findings

/-- No type of the name is declared, and nothing local. -/
structure Unused (session : Session) (name : String) : Prop where
  globals : session.table.global? .type name = none
  locals : ∀ symbol ∈ session.table.locals, symbol.name ≠ name

/-- A new global type is what its unused name means. -/
theorem Unused.resolveType?_global {session : Session} (symbol : Symbol)
    (unused : Unused session symbol.name) (isType : symbol.kind.space = .type) (name : String) :
    Table.resolveType? { session.table with globals := session.table.globals ++ [symbol] } name =
      if symbol.name = name then some symbol else session.table.resolveType? name := by
  split
  · subst name
    have noLocal : session.table.locals.find? (fun other =>
        other.name = symbol.name && other.isType) = none :=
      List.find?_eq_none.mpr fun other isLocal => by simp [unused.locals other isLocal]
    have noGlobal := unused.globals
    unfold Table.global? at noGlobal
    simp [Table.resolveType?, Table.global?, noLocal, noGlobal, isType]
  · rename_i differ
    simp [Table.resolveType?, Table.global?, List.find?_append, differ]

/-- A new local type is what its name means. -/
theorem resolveType?_local (table : Table) (symbol : Symbol) (isType : symbol.isType = true)
    (name : String) :
    Table.resolveType? { table with locals := symbol :: table.locals } name =
      if symbol.name = name then some symbol else table.resolveType? name := by
  split
  · subst name
    simp [Table.resolveType?, isType]
  · rename_i differ
    simp [Table.resolveType?, Table.global?, differ]

variable {decl : StructDecl} {name : Ident} {session : Session}

theorem introduced_collect (isName : decl.name = some name)
    (usable : Prim.isReserved name.name = false) (unused : Unused session name.name) :
    ∃ symbol after, (Declare.collect none [.struct decl]).run session =
        ([⟨symbol, .struct decl⟩], after) ∧ Introduced name.name decl.span.node session after := by
  have isHeader : Declare.header? (.struct decl) = some ⟨.struct, decl.name, decl.attributes⟩ := rfl
  have outcome := Declare.declares_declareGlobal isHeader session
  have computed : (Declare.collect none [.struct decl]).run session =
      (((Declare.declareGlobal (.struct decl) ⟨.struct, decl.name, decl.attributes⟩).run
          session).1.toList ++ [],
        ((Declare.declareGlobal (.struct decl) ⟨.struct, decl.name, decl.attributes⟩).run
          session).2) := rfl
  rw [computed]
  generalize (Declare.declareGlobal (.struct decl) _).run session = result at outcome ⊢
  obtain ⟨pending, after⟩ := result
  cases outcome with
  | unnamed isUnnamed => cases isName.symm.trans isUnnamed
  | reserved other isOther _ isReserved =>
    cases isName.symm.trans isOther
    rw [usable] at isReserved
    cases isReserved
  | taken other previous isOther isTaken =>
    cases isName.symm.trans isOther
    cases unused.globals.symm.trans isTaken
  | enters other _ isOther _ _ enters =>
    cases isName.symm.trans isOther
    refine ⟨_, after, rfl, fun called => ?_, enters.known, enters.structs, enters.findings⟩
    have types := Unused.resolveType?_global
      (Declare.symbolOf (.struct decl) ⟨.struct, decl.name, decl.attributes⟩ name) unused rfl called
    rw [enters.table]
    exact (congrArg (Option.map Symbol.id) types).trans (apply_ite _ _ _ _)

/-- A name that nothing local has may be declared in a frame. -/
theorem Unused.declareLocal {session : Session} (symbol : Symbol)
    (unused : Unused session symbol.name) (isOpen : session.table.frames ≠ []) :
    session.table.declareLocal symbol =
      .ok { session.table with locals := symbol :: session.table.locals } := by
  unfold Table.declareLocal
  split
  · rename_i frames
    exact (isOpen frames).elim
  · rename_i start _ _
    have isNew : (session.table.localsSince start).find? (·.name = symbol.name) = none :=
      List.find?_eq_none.mpr fun other isLocal => by
        simp [unused.locals other (List.mem_of_mem_take isLocal)]
    rw [isNew]

/-- The symbol of a struct in a body. -/
def structSymbol (decl : StructDecl) (name : Ident) : Symbol :=
  { Symbol.plain (.node decl.span.node) name.name .struct (some name.span) with
    attributes := decl.attributes }

/-- Declares a struct in a body. -/
def introduce (decl : StructDecl) (name : Ident) : Check Unit :=
  declareLocal decl.span.node name (structSymbol decl name)
    (.ofType (some (.struct name.name decl.span.node)))

theorem introduced_introduce (unused : Unused session name.name)
    (isOpen : session.table.frames ≠ []) :
    Introduced name.name decl.span.node session (session.after (introduce decl name)) := by
  have declared := Unused.declareLocal (structSymbol decl name) unused isOpen
  have after : session.after (introduce decl name) =
      { session with
        table := { session.table with
          locals := structSymbol decl name :: session.table.locals }
        known := (.node decl.span.node, .ofType (some (.struct name.name decl.span.node))) ::
          session.known
        facts := { session.facts with
          decls := session.facts.decls.record decl.span.node (structSymbol decl name) } } := by
    unfold Session.after introduce declareLocal bindLocal
    rw [StateT.run_bind, StateT.run_bind, StateT.run_get, pure_bind, declared]
    rfl
  rw [after]
  refine ⟨fun other => ?_, fun subject => ?_, fun _ _ => rfl, rfl⟩
  · have types := resolveType?_local session.table (structSymbol decl name) rfl other
    exact (congrArg (Option.map Symbol.id) types).trans (apply_ite _ _ _ _)
  · unfold Session.knownOf
    rw [List.lookup_cons]
    by_cases same : subject = .node decl.span.node
    · rw [if_pos same, beq_iff_eq.mpr same]
      rfl
    · rw [if_neg same, beq_false_of_ne same]

/-- A name refers to the same in both sessions, and they know the same type of that. -/
structure SameType (one other : Session) (name : String) : Prop where
  refers : (one.table.resolveType? name).map Symbol.id =
    (other.table.resolveType? name).map Symbol.id
  known : ∀ id, (one.table.resolveType? name).map Symbol.id = some id →
    (one.knownOf id).type = (other.knownOf id).type

theorem SameType.refl (session : Session) (name : String) : SameType session session name :=
  ⟨rfl, fun _ _ => rfl⟩

/-- What a name stands for depends on the type that is known of what it refers to. -/
theorem named_eq (session : Session) (name : String) : session.named name =
    match Prim.ofName? name with
    | some builtin => .prim builtin
    | none => (((session.table.resolveType? name).map Symbol.id).bind
        fun id => (session.knownOf id).type).getD .unknown := by
  unfold Session.named
  cases Prim.ofName? name with
  | some _ => rfl
  | none => cases session.table.resolveType? name <;> rfl

theorem SameType.named {one other : Session} {name : String} (same : SameType one other name) :
    one.named name = other.named name := by
  have known : ((one.table.resolveType? name).map Symbol.id).bind
        (fun id => (one.knownOf id).type) =
      ((one.table.resolveType? name).map Symbol.id).bind fun id => (other.knownOf id).type := by
    cases refers : (one.table.resolveType? name).map Symbol.id with
    | none => rfl
    | some id => exact same.known id refers
  rw [named_eq, named_eq, known, same.refers]

theorem SameType.lacks {one other : Session} {name : String} (same : SameType one other name) :
    one.lacks name = other.lacks name := by
  have isNone := congrArg Option.isNone same.refers
  rw [Option.isNone_map, Option.isNone_map] at isNone
  rw [Session.lacks, Session.lacks, isNone]

/-- Behind both ways of declaring a struct, names refer to the same if all others did. -/
theorem Introduced.sameType {id : NodeId} {called mention : String}
    {before other one two : Session} (first : Introduced called id before one)
    (second : Introduced called id other two)
    (same : mention ≠ called → SameType before other mention) : SameType one two mention := by
  by_cases isCalled : called = mention
  · refine ⟨by rw [first.types, second.types, if_pos isCalled, if_pos isCalled], ?_⟩
    intro subject refers
    rw [first.types, if_pos isCalled] at refers
    cases refers
    rw [first.known, second.known, if_pos rfl, if_pos rfl]
  · obtain ⟨refers, known⟩ := same (Ne.symm isCalled)
    refine ⟨by rw [first.types, second.types, if_neg isCalled, if_neg isCalled, refers], ?_⟩
    intro subject isSubject
    rw [first.types, if_neg isCalled] at isSubject
    rw [first.known, second.known, known subject isSubject]

/-- Reads the fields of a struct and defines it. -/
def define (decl : StructDecl) : Check Unit := do
  let fields <- localFields 0 decl.fields
  Check.define (·.setStruct decl.span.node ⟨fields, Declare.layoutOf decl.attributes⟩)

/-- The struct has been given a body, and reports have been made: no other struct has
changed. -/
structure Placed (decl : StructDecl) (body : StructBody) (reports : List Finding)
    (before after : Session) : Prop where
  structs : ∀ id, after.definitions.struct id =
    if id = decl.span.node then body else before.definitions.struct id
  findings : after.findings = before.findings ++ reports

theorem placed_define (decl : StructDecl) (declared : Session) :
    Placed decl (decl.body declared.named) (decl.unknown declared.lacks) declared
      (declared.after (define decl)) := by
  have reading := reading_localFields decl.fields 0 declared
  unfold Session.after define
  rw [StateT.run_bind]
  generalize (localFields 0 decl.fields).run declared = outcome at reading
  obtain ⟨fields, after⟩ := outcome
  obtain ⟨rfl, reads, findings⟩ := reading
  refine ⟨fun id => ?_, findings⟩
  rw [← reads.definitions]
  exact Definitions.struct_setStruct _ _ _ id

/-- Declaring a struct before it is defined makes no reports and changes no other struct. -/
theorem Introduced.placed {called : String} {before declared after : Session} {body : StructBody}
    {reports : List Finding} (introduced : Introduced called decl.span.node before declared)
    (placed : Placed decl body reports declared after) :
    Placed decl body reports before after := by
  refine ⟨fun id => ?_, by rw [placed.findings, introduced.findings]⟩
  rw [placed.structs]
  by_cases same : id = decl.span.node
  · rw [if_pos same, if_pos same]
  · rw [if_neg same, if_neg same, introduced.structs id same]

/-- In a body, a struct is given its body, and the names in it that mean nothing are
reported. -/
theorem placed_resolveStruct (isName : decl.name = some name) (unused : Unused session name.name)
    (isOpen : session.table.frames ≠ []) :
    ∃ declared, Introduced name.name decl.span.node session declared ∧
      Placed decl (decl.body declared.named) (decl.unknown declared.lacks) session
        (session.after (resolveStruct decl)) := by
  have introduced : Introduced name.name decl.span.node session
      (session.after (introduce decl name)) := introduced_introduce unused isOpen
  have inTurn : session.after (resolveStruct decl) =
      (session.after (introduce decl name)).after (define decl) := by
    unfold resolveStruct
    rw [isName]
    rfl
  rw [inTurn]
  exact ⟨_, introduced, introduced.placed (placed_define decl _)⟩

/-- At top level, too, if its fields are called differently and no struct holds itself then. -/
theorem placed_declareAtTop (isName : decl.name = some name)
    (usable : Prim.isReserved name.name = false) (unused : Unused session name.name)
    (distinct : StructDecl.Distinct decl.fields) :
    ∃ declared, Introduced name.name decl.span.node session declared ∧
      ((session.definitions.setStruct decl.span.node (decl.body declared.named)).Acyclic →
        Placed decl (decl.body declared.named) (decl.unknown declared.lacks) session
          (session.after (declareAtTop decl))) := by
  obtain ⟨symbol, declared, collected, introduced⟩ := introduced_collect isName usable unused
  have placed := introduced.placed (placed_define decl declared)
  have sameFields := structFields_eq_localFields decl.fields 0 [] distinct
    fun _ _ _ => List.forall_mem_nil _
  have inTurn : session.after (declareAtTop decl) =
      (declared.after (define decl)).after (Declare.cutRecursion [⟨symbol, .struct decl⟩]) := by
    unfold declareAtTop Session.after define
    rw [StateT.run_bind, collected, ← sameFields]
    rfl
  refine ⟨declared, introduced, fun acyclic => ?_⟩
  have sameStructs : (session.definitions.setStruct decl.span.node
        (decl.body declared.named)).struct =
      (declared.after (define decl)).definitions.struct :=
    funext fun id => by rw [Definitions.struct_setStruct, placed.structs]
  rw [inTurn, Declare.cutRecursion_of_acyclic (acyclic.congr sameStructs)]
  exact placed

/-- Two runs, of the same unit or of different ones, that declare a struct at top level and in
a body: where nothing has its name, its fields are called differently, the names in it refer to
the same in both and no struct holds itself, the struct is given the same fields and layout
and the same is reported. -/
theorem placed_alike {top inner : Session} (isName : decl.name = some name)
    (usable : Prim.isReserved name.name = false) (unusedTop : Unused top name.name)
    (unused : Unused inner name.name) (isOpen : inner.table.frames ≠ [])
    (distinct : StructDecl.Distinct decl.fields)
    (same : ∀ mention ∈ decl.mentions, mention.name ≠ name.name →
      SameType top inner mention.name)
    (acyclic : (top.definitions.setStruct decl.span.node
      ((inner.after (resolveStruct decl)).definitions.struct decl.span.node)).Acyclic) :
    ∃ body reports, Placed decl body reports top (top.after (declareAtTop decl)) ∧
      Placed decl body reports inner (inner.after (resolveStruct decl)) := by
  obtain ⟨one, first, placedTop⟩ := placed_declareAtTop isName usable unusedTop distinct
  obtain ⟨two, second, placed⟩ := placed_resolveStruct isName unused isOpen
  have alike (mention : Ident) (isMention : mention ∈ decl.mentions) :
      SameType one two mention.name := first.sameType second (same mention isMention)
  have sameBody : decl.body one.named = decl.body two.named :=
    congrArg (StructBody.mk · _) (StructDecl.fieldsFrom_congr decl.fields 0
      fun mention isMention => (alike mention isMention).named)
  have sameReports : decl.unknown one.lacks = decl.unknown two.lacks :=
    congrArg (List.map Finding.unknownType) (List.filter_congr
      fun mention isMention => (alike mention isMention).lacks)
  rw [placed.structs, if_pos rfl] at acyclic
  rw [sameBody, sameReports] at placedTop
  exact ⟨_, _, placedTop acyclic, placed⟩

/-- Where nothing has the name of a struct, its fields are called differently and no struct
holds itself, declaring it at top level and in a body comes to the same: the same is reported
and it is given the same fields and layout. -/
theorem placements_agree (isName : decl.name = some name)
    (usable : Prim.isReserved name.name = false) (unused : Unused session name.name)
    (isOpen : session.table.frames ≠ []) (distinct : StructDecl.Distinct decl.fields)
    (acyclic : (session.after (resolveStruct decl)).definitions.Acyclic) :
    (session.after (declareAtTop decl)).findings = (session.after (resolveStruct decl)).findings ∧
      (session.after (declareAtTop decl)).definitions.struct =
        (session.after (resolveStruct decl)).definitions.struct := by
  obtain ⟨_, _, placedInner⟩ := placed_resolveStruct isName unused isOpen
  have sameStructs : (session.after (resolveStruct decl)).definitions.struct =
      (session.definitions.setStruct decl.span.node
        ((session.after (resolveStruct decl)).definitions.struct decl.span.node)).struct := by
    funext id
    rw [Definitions.struct_setStruct, placedInner.structs, placedInner.structs, if_pos rfl]
  obtain ⟨body, reports, top, inner⟩ := placed_alike isName usable unused unused isOpen distinct
    (fun mention _ _ => SameType.refl session mention.name) (acyclic.congr sameStructs)
  exact ⟨by rw [top.findings, inner.findings],
    funext fun id => by rw [top.structs, inner.structs]⟩

/-- A packed struct with a pointer to itself. -/
def nodeStruct : StructDecl :=
  ⟨[⟨"packed", none, .ofLine 12 20⟩], some ⟨"P", .ofLine 8 9⟩,
    [⟨⟨"x", .ofLine 22 23⟩, .named "s32" (.ofLine 24 27), .ofLine 21 28⟩,
      ⟨⟨"_", .ofLine 30 31⟩, .pointer (.named "P" (.ofLine 37 38)) (.ofLine 32 39), .ofLine 29 40⟩],
    .ofLine 0 41⟩

/-- A session in which nothing but a block is open. -/
def openBlock : Session := (Session.start none .standard).after beginScope

/-- At top level the struct is given the fields that it is given in a body. -/
theorem placements_agree_node :
    (openBlock.after (declareAtTop nodeStruct)).findings = [] ∧
      (openBlock.after (declareAtTop nodeStruct)).definitions.struct 0 =
        ⟨[⟨"x", .prim .s32⟩, ⟨"1", .pointer (.struct "P" 0)⟩], .packed⟩ := by
  have acyclic : (openBlock.after (resolveStruct nodeStruct)).definitions.Acyclic := by
    have definitions : (openBlock.after (resolveStruct nodeStruct)).definitions =
        Definitions.empty.setStruct 0
          ⟨[⟨"x", .prim .s32⟩, ⟨"1", .pointer (.struct "P" 0)⟩], .packed⟩ := rfl
    rw [definitions]
    refine Definitions.acyclic_of_not_contains fun outer inner contains => ?_
    obtain ⟨field, isField, stores⟩ := contains
    rw [Definitions.struct_setStruct] at isField
    split at isField
    · obtain rfl | rfl : field = ⟨"x", .prim .s32⟩ ∨ field = ⟨"1", .pointer (.struct "P" 0)⟩ := by
        simpa using isField
      · cases stores
      · cases stores
    · cases isField
  have distinct : StructDecl.Distinct nodeStruct.fields := by
    simp [StructDecl.Distinct, nodeStruct]
  obtain ⟨findings, structs⟩ := placements_agree rfl (by decide)
    ⟨rfl, List.forall_mem_nil _⟩ (List.cons_ne_nil _ _) distinct acyclic
  rw [findings, structs]
  exact ⟨rfl, rfl⟩

/-- Structs with a field name that is used twice, with itself as a field, and with the name
of a builtin type, written from a place on. -/
def slips (place : Nat) : List StructDecl := [
  ⟨[], some ⟨"P", .ofLine (place + 8) (place + 9)⟩,
    [⟨⟨"x", .ofLine (place + 11) (place + 12)⟩, .named "s32" (.ofLine (place + 13) (place + 16)),
        .ofLine (place + 10) (place + 17)⟩,
      ⟨⟨"x", .ofLine (place + 19) (place + 20)⟩, .named "bool" (.ofLine (place + 21) (place + 25)),
        .ofLine (place + 18) (place + 26)⟩], .ofLine place (place + 27)⟩,
  ⟨[], some ⟨"Q", .ofLine (place + 36) (place + 37)⟩,
    [⟨⟨"q", .ofLine (place + 39) (place + 40)⟩, .named "Q" (.ofLine (place + 41) (place + 42)),
        .ofLine (place + 38) (place + 43)⟩], .ofLine (place + 28) (place + 44)⟩,
  ⟨[], some ⟨"u8", .ofLine (place + 53) (place + 55)⟩,
    [⟨⟨"x", .ofLine (place + 57) (place + 58)⟩, .named "s32" (.ofLine (place + 59) (place + 62)),
        .ofLine (place + 56) (place + 63)⟩], .ofLine (place + 45) (place + 64)⟩]

/-- A unit with the structs at top level. -/
def topSlips : Module := ⟨"unit", (slips 0).map .struct, some (.ofLine 0 64)⟩

/-- A unit with the structs in a body. -/
def bodySlips : Module :=
  ⟨"unit", [.function ⟨[], some ⟨"f", .ofLine 4 5⟩, [], some (.named "void" (.ofLine 9 13)),
    some ⟨(slips 21).map .struct, .ofLine 14 86⟩, .ofLine 0 87⟩], some (.ofLine 0 87)⟩

/-- Each of the structs is reported at top level, and none of them in a body. -/
theorem body_structs_unchecked :
    Module.decode "unit" "(struct P (x s32) (x bool)) (struct Q (q Q)) (struct u8 (x s32))" =
        .ok topSlips ∧
      (Session.check (some topSlips) .standard).bag.diagnostics.map (·.code) =
        ["F0001", "R0002", "F0001"] ∧
      Module.decode "unit" ("(fn f () void (block " ++
        "(struct P (x s32) (x bool)) (struct Q (q Q)) (struct u8 (x s32))))") = .ok bodySlips ∧
      (Session.check (some bodySlips) .standard).bag.diagnostics.map (·.code) = [] :=
  ⟨Module.decode_chars (by cbv), by decide +kernel, by cbv, by decide +kernel⟩

end Resolve
end UnitCheck
