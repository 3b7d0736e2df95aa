import Mathlib.Data.Finmap
import UnitCheck.Scope.Table

/-!
# The table of names as a stack of maps

`Scopes` is the table as a user sees it: a finite map for each namespace, the
globals in the order of their declaration, and a stack of frames that are finite
maps themselves. A `Table` keeps all locals in one arena and knows of a frame only
where it starts. `Table.answers_as_maps` says that nobody can tell the two apart by
asking, whatever is asked in whatever order.
-/

namespace UnitCheck

/-- A finite map from names to symbols. -/
abbrev NameMap := Finmap fun _ : String => Symbol

/-- The table of names as maps. -/
structure Scopes where
  spaces : Namespace -> NameMap
  /-- The globals in the order of their declaration. -/
  order : List Symbol
  /-- The open frames, the innermost first. -/
  frames : List NameMap

/-- What may be asked of a table of names. -/
inductive Request where
  | declareGlobal (symbol : Symbol)
  | beginScope
  | endScope
  | declareLocal (symbol : Symbol)
  | resolve (name : String)
  | resolveType (name : String)
  | resolveFunction (name : String)
  | global (space : Namespace) (name : String)
  | globals

/-- What a table of names answers. -/
inductive Reply where
  | done
  | refused (error : TableError)
  | found (symbol : Option Symbol)
  | listed (symbols : List Symbol)

/-- Serves requests in turn: the answers, and the state behind the last of them. -/
def Request.serveAll {σ : Type} (serve : σ -> Request -> Reply × σ) :
    σ -> List Request -> List Reply × σ
  | state, [] => ([], state)
  | state, request :: rest =>
    let (replies, last) := serveAll serve (serve state request).2 rest
    ((serve state request).1 :: replies, last)

/-! ### Maps -/

namespace Scopes

/-- No names and no frames. -/
def empty : Scopes := ⟨fun _ => ∅, [], []⟩

/-- The innermost local called `name`. -/
def local? (scopes : Scopes) (name : String) : Option Symbol :=
  scopes.frames.findSome? (·.lookup name)

/-- The innermost local type called `name`. A frame in which the name is no type is
passed over. -/
def localType? (scopes : Scopes) (name : String) : Option Symbol :=
  scopes.frames.findSome? fun frame => (frame.lookup name).filter Symbol.isType

/-- Answers a request. -/
def serve (scopes : Scopes) : Request -> Reply × Scopes
  | .declareGlobal symbol =>
    let space := symbol.kind.space
    match (scopes.spaces space).lookup symbol.name with
    | some previous => (.refused (.duplicate symbol.name previous), scopes)
    | none =>
      (.done, { scopes with
        spaces := Function.update scopes.spaces space
          ((scopes.spaces space).insert symbol.name symbol)
        order := scopes.order ++ [symbol] })
  | .beginScope => (.done, { scopes with frames := ∅ :: scopes.frames })
  | .endScope =>
    match scopes.frames with
    | [] => (.refused .underflow, scopes)
    | _ :: outer => (.done, { scopes with frames := outer })
  | .declareLocal symbol =>
    match scopes.frames with
    | [] => (.refused .noScope, scopes)
    | frame :: outer =>
      match frame.lookup symbol.name with
      | some previous => (.refused (.duplicate symbol.name previous), scopes)
      | none => (.done, { scopes with frames := frame.insert symbol.name symbol :: outer })
  | .resolve name =>
    (.found (scopes.local? name <|> (scopes.spaces .value).lookup name <|>
      (scopes.spaces .function).lookup name <|> (scopes.spaces .type).lookup name), scopes)
  | .resolveType name =>
    (.found (scopes.localType? name <|> (scopes.spaces .type).lookup name), scopes)
  | .resolveFunction name => (.found ((scopes.spaces .function).lookup name), scopes)
  | .global space name => (.found ((scopes.spaces space).lookup name), scopes)
  | .globals => (.listed scopes.order, scopes)

end Scopes

namespace Table

/-- An operation that may be refused; a refusal leaves the table as it is. -/
def attempt (table : Table) : Except TableError Table -> Reply × Table
  | .ok after => (.done, after)
  | .error error => (.refused error, table)

/-- Answers a request. -/
def serve (table : Table) : Request -> Reply × Table
  | .declareGlobal symbol => table.attempt (table.declareGlobal symbol)
  | .beginScope => (.done, table.beginScope)
  | .endScope => table.attempt table.endScope
  | .declareLocal symbol => table.attempt (table.declareLocal symbol)
  | .resolve name => (.found (table.resolve? name), table)
  | .resolveType name => (.found (table.resolveType? name), table)
  | .resolveFunction name => (.found (table.resolveFunction? name), table)
  | .global space name => (.found (table.global? space name), table)
  | .globals => (.listed table.globals, table)

/-- The locals of each open frame, the innermost first. -/
def frameLocals : List Symbol -> List Nat -> List (List Symbol)
  | _, [] => []
  | arena, start :: outer =>
    arena.take (arena.length - start) :: frameLocals (arena.drop (arena.length - start)) outer

/-- A table in which the frames lie one behind the other in the arena and no name is
declared twice in one place. -/
structure WellFormed (table : Table) : Prop where
  /-- No frame starts behind one that was opened later. -/
  ordered : table.frames.Pairwise fun inner outer => outer ≤ inner
  within : ∀ start ∈ table.frames, start ≤ table.locals.length
  frameNames : ∀ frame ∈ frameLocals table.locals table.frames, (frame.map (·.name)).Nodup
  spaceNames : (table.globals.map fun symbol => (symbol.kind.space, symbol.name)).Nodup

/-! ### Arenas that are stacks of maps -/

/-- The frames cut the arena into the maps. The arena of locals grows from the innermost
frame, so each frame starts where the arena of the outer ones ends. -/
inductive Framing : List Symbol -> List Nat -> List NameMap -> Prop where
  | closed : Framing [] [] []
  | opened (above : List Symbol) {arena : List Symbol} {starts : List Nat} {frame : NameMap}
      {outer : List NameMap} (rest : Framing arena starts outer)
      (shows : ∀ name, frame.lookup name = above.find? (·.name = name))
      (distinct : (above.map (·.name)).Nodup) :
      Framing (above ++ arena) (arena.length :: starts) (frame :: outer)

namespace Framing

variable {arena : List Symbol} {starts : List Nat} {frames : List NameMap}

theorem offsets (framing : Framing arena starts frames) :
    starts.Pairwise (fun inner outer => outer ≤ inner) ∧ ∀ start ∈ starts, start ≤ arena.length := by
  induction framing with
  | closed => simp
  | @opened above arena _ _ _ _ _ _ inductionHypothesis =>
    obtain ⟨ordered, within⟩ := inductionHypothesis
    refine ⟨List.pairwise_cons.mpr ⟨within, ordered⟩, ?_⟩
    rw [List.length_append]
    refine List.forall_mem_cons.mpr ⟨Nat.le_add_left _ _, fun start isStart => ?_⟩
    exact Nat.le_trans (within start isStart) (Nat.le_add_left _ _)

theorem distinctNames (framing : Framing arena starts frames) :
    ∀ frame ∈ frameLocals arena starts, (frame.map (·.name)).Nodup := by
  induction framing with
  | closed => simp [frameLocals]
  | @opened above arena _ _ _ _ _ distinct inductionHypothesis =>
    have length : (above ++ arena).length - arena.length = above.length := by simp
    rw [frameLocals, length, List.take_left, List.drop_left]
    exact List.forall_mem_cons.mpr ⟨distinct, inductionHypothesis⟩

/-- The first local of the arena that is called `name` is that of the innermost frame
that has one. -/
theorem find?_name (framing : Framing arena starts frames) (name : String) :
    arena.find? (·.name = name) = frames.findSome? (·.lookup name) := by
  induction framing with
  | closed => rfl
  | @opened _ _ _ frame _ _ shows _ inductionHypothesis =>
    rw [List.find?_append, inductionHypothesis, ← shows, List.findSome?_cons]
    cases frame.lookup name <;> rfl

/-- In a frame with distinct names, the first type called `name` is what is called so. -/
theorem find?_type {above : List Symbol} (distinct : (above.map (·.name)).Nodup)
    (name : String) :
    above.find? (fun symbol => symbol.name = name && symbol.isType) =
      (above.find? (·.name = name)).filter Symbol.isType := by
  induction above with
  | nil => rfl
  | cons symbol rest inductionHypothesis =>
    obtain ⟨isNew, others⟩ := List.nodup_cons.mp distinct
    by_cases same : symbol.name = name
    · have absent : rest.find? (fun symbol => symbol.name = name && symbol.isType) = none := by
        rw [List.find?_eq_none]
        intro other isOther isNamed
        simp only [Bool.and_eq_true, decide_eq_true_eq] at isNamed
        exact isNew (List.mem_map.mpr ⟨other, isOther, isNamed.1.trans same.symm⟩)
      cases isType : symbol.isType <;> simp [same, isType, absent, Option.filter]
    · simp [same, inductionHypothesis others]

/-- The first local type of the arena that is called `name` is that of the innermost
frame in which the name is a type. -/
theorem find?_localType (framing : Framing arena starts frames) (name : String) :
    arena.find? (fun symbol => symbol.name = name && symbol.isType) =
      frames.findSome? fun frame => (frame.lookup name).filter Symbol.isType := by
  induction framing with
  | closed => rfl
  | @opened _ _ _ frame _ _ shows distinct inductionHypothesis =>
    rw [List.find?_append, inductionHypothesis, find?_type distinct, ← shows, List.findSome?_cons]
    cases (frame.lookup name).filter Symbol.isType <;> rfl

end Framing

/-- The table and the maps hold the same names. -/
structure Shows (table : Table) (scopes : Scopes) : Prop where
  spaces : ∀ space name, table.global? space name = (scopes.spaces space).lookup name
  order : table.globals = scopes.order
  distinct : (table.globals.map fun symbol => (symbol.kind.space, symbol.name)).Nodup
  framing : Framing table.locals table.frames scopes.frames

variable {table : Table} {scopes : Scopes}

theorem shows_empty : Shows .empty .empty :=
  ⟨fun _ _ => rfl, rfl, List.nodup_nil, .closed⟩

theorem Shows.wellFormed (shows : Shows table scopes) : table.WellFormed where
  ordered := shows.framing.offsets.1
  within := shows.framing.offsets.2
  frameNames := shows.framing.distinctNames
  spaceNames := shows.distinct

/-- A global that has just been declared is found under its name. -/
theorem global?_append (table : Table) (symbol : Symbol) (space : Namespace) (name : String) :
    ({ table with globals := table.globals ++ [symbol] } : Table).global? space name =
      (table.global? space name).or
        (if symbol.kind.space = space ∧ symbol.name = name then some symbol else none) := by
  unfold global?
  rw [List.find?_append, List.find?_singleton]
  simp [Bool.and_eq_true]

theorem Shows.declareGlobal (shows : Shows table scopes) (symbol : Symbol) :
    (table.serve (.declareGlobal symbol)).1 = (scopes.serve (.declareGlobal symbol)).1 ∧
      Shows (table.serve (.declareGlobal symbol)).2 (scopes.serve (.declareGlobal symbol)).2 := by
  have same := shows.spaces symbol.kind.space symbol.name
  simp only [serve, Scopes.serve, Table.declareGlobal, same]
  cases taken : (scopes.spaces symbol.kind.space).lookup symbol.name with
  | some previous => exact ⟨rfl, shows⟩
  | none =>
    rw [taken] at same
    refine ⟨rfl, fun space name => ?_, ?_, ?_, shows.framing⟩
    · simp only [attempt]
      rw [global?_append, shows.spaces]
      by_cases here : symbol.kind.space = space
      · subst here
        rw [Function.update_self]
        by_cases named : symbol.name = name
        · subst named
          simp [taken]
        · rw [Finmap.lookup_insert_of_ne _ (Ne.symm named)]
          simp [named]
      · rw [Function.update_of_ne (Ne.symm here)]
        simp [here]
    · simp only [attempt, shows.order]
    · simp only [attempt, List.map_append, List.map_singleton]
      refine List.nodup_append.mpr ⟨shows.distinct, List.nodup_singleton _, ?_⟩
      rintro _ isOld _ isNew rfl
      obtain ⟨old, isGlobal, names⟩ := List.mem_map.mp isOld
      rw [List.mem_singleton.mp isNew, Prod.mk.injEq] at names
      have absent := List.find?_eq_none.mp same old isGlobal
      simp [names.1, names.2] at absent

theorem Shows.declareLocal (shows : Shows table scopes) (symbol : Symbol) :
    (table.serve (.declareLocal symbol)).1 = (scopes.serve (.declareLocal symbol)).1 ∧
      Shows (table.serve (.declareLocal symbol)).2 (scopes.serve (.declareLocal symbol)).2 := by
  obtain ⟨spaces, order, distinct, framing⟩ := shows
  obtain ⟨globals, arena, starts⟩ := table
  obtain ⟨maps, listed, frames⟩ := scopes
  cases framing with
  | closed => exact ⟨rfl, spaces, order, distinct, .closed⟩
  | @opened above below starts frame outer rest shows names =>
    have since : (above ++ below).take ((above ++ below).length - below.length) = above := by simp
    simp only [serve, Scopes.serve, Table.declareLocal, localsSince, List.append_eq, since, shows]
    cases taken : above.find? (·.name = symbol.name) with
    | some previous => exact ⟨rfl, spaces, order, distinct, .opened above rest shows names⟩
    | none =>
      have isNew : symbol.name ∉ above.map (·.name) := by
        intro isOld
        obtain ⟨old, isLocal, same⟩ := List.mem_map.mp isOld
        have absent := List.find?_eq_none.mp taken old isLocal
        simp [same] at absent
      refine ⟨rfl, spaces, order, distinct, ?_⟩
      refine Framing.opened (symbol :: above) rest (fun name => ?_)
        (List.nodup_cons.mpr ⟨isNew, names⟩)
      by_cases same : symbol.name = name
      · subst same
        simp
      · rw [Finmap.lookup_insert_of_ne _ (Ne.symm same), shows]
        simp [same]

/-- One request is answered alike, and leaves the two alike. -/
theorem Shows.serve (shows : Shows table scopes) (request : Request) :
    (table.serve request).1 = (scopes.serve request).1 ∧
      Shows (table.serve request).2 (scopes.serve request).2 := by
  have locals (name : String) : table.local? name = scopes.local? name :=
    shows.framing.find?_name name
  have localTypes (name : String) :
      table.locals.find? (fun symbol => symbol.name = name && symbol.isType) =
        scopes.localType? name := shows.framing.find?_localType name
  cases request with
  | declareGlobal symbol => exact shows.declareGlobal symbol
  | declareLocal symbol => exact shows.declareLocal symbol
  | beginScope =>
    exact ⟨rfl, shows.spaces, shows.order, shows.distinct,
      .opened [] shows.framing (fun _ => rfl) List.nodup_nil⟩
  | endScope =>
    obtain ⟨spaces, order, distinct, framing⟩ := shows
    obtain ⟨globals, arena, starts⟩ := table
    obtain ⟨maps, listed, frames⟩ := scopes
    cases framing with
    | closed => exact ⟨rfl, spaces, order, distinct, .closed⟩
    | @opened above below starts frame outer rest _ _ =>
      have cut : (above ++ below).drop ((above ++ below).length - below.length) = below := by simp
      refine ⟨rfl, spaces, order, distinct, ?_⟩
      simpa only [Table.serve, Scopes.serve, attempt, endScope, List.append_eq, cut] using rest
  | resolve name =>
    refine ⟨?_, shows⟩
    simp only [Table.serve, Scopes.serve, resolve?, locals, shows.spaces]
  | resolveType name =>
    refine ⟨?_, shows⟩
    simp only [Table.serve, Scopes.serve, resolveType?, localTypes, shows.spaces]
  | resolveFunction name =>
    refine ⟨?_, shows⟩
    simp only [Table.serve, Scopes.serve, resolveFunction?, shows.spaces]
  | global space name =>
    refine ⟨?_, shows⟩
    simp only [Table.serve, Scopes.serve, shows.spaces]
  | globals =>
    refine ⟨?_, shows⟩
    simp only [Table.serve, Scopes.serve, shows.order]

/-- Requests are answered alike, however many there are. -/
theorem Shows.serveAll (shows : Shows table scopes) (requests : List Request) :
    (Request.serveAll Table.serve table requests).1 =
        (Request.serveAll Scopes.serve scopes requests).1 ∧
      Shows (Request.serveAll Table.serve table requests).2
        (Request.serveAll Scopes.serve scopes requests).2 := by
  induction requests generalizing table scopes with
  | nil => exact ⟨rfl, shows⟩
  | cons request rest inductionHypothesis =>
    obtain ⟨reply, next⟩ := shows.serve request
    obtain ⟨replies, last⟩ := inductionHypothesis next
    exact ⟨congrArg₂ List.cons reply replies, last⟩

end Table

/-! ### Closing a frame -/

/-- Requests among which every frame that is opened is closed again, and no other is. -/
inductive Request.Balanced : List Request -> Prop where
  | nil : Balanced []
  | step {request : Request} {rest : List Request} (opens : request ≠ .beginScope)
      (closes : request ≠ .endScope) (others : Balanced rest) : Balanced (request :: rest)
  | nest {inner rest : List Request} (inside : Balanced inner) (others : Balanced rest) :
      Balanced (.beginScope :: (inner ++ .endScope :: rest))

/-- Requests one behind the other. -/
theorem Request.serveAll_append {σ : Type} (serve : σ -> Request -> Reply × σ) (state : σ)
    (first second : List Request) :
    (serveAll serve state (first ++ second)).2 =
      (serveAll serve (serveAll serve state first).2 second).2 := by
  induction first generalizing state with
  | nil => rfl
  | cons request rest inductionHypothesis => exact inductionHypothesis _

namespace Table

variable {base : List Symbol} {starts : List Nat} {requests : List Request}

/-- What lies in the arena below the innermost frame, and everything but the locals of
that frame and the globals declared by the requests, is as it was. -/
structure Keeps (base : List Symbol) (starts : List Nat) (requests : List Request)
    (before after : Table) : Prop where
  locals : ∃ above, after.locals = above ++ base
  frames : after.frames = base.length :: starts
  globals : ∃ added, (∀ symbol ∈ added, .declareGlobal symbol ∈ requests) ∧
    after.globals = before.globals ++ added

theorem Keeps.trans {more : List Request} {before middle after : Table}
    (first : Keeps base starts requests before middle)
    (second : Keeps base starts more middle after) :
    Keeps base starts (requests ++ more) before after := by
  obtain ⟨added, asked, isMiddle⟩ := first.globals
  obtain ⟨others, alsoAsked, isAfter⟩ := second.globals
  refine ⟨second.locals, second.frames, added ++ others, ?_, by simp [isAfter, isMiddle]⟩
  refine List.forall_mem_append.mpr ⟨fun symbol isAdded => ?_, fun symbol isOther => ?_⟩
  · exact List.mem_append_left _ (asked symbol isAdded)
  · exact List.mem_append_right _ (alsoAsked symbol isOther)

/-- A request that neither opens nor closes a frame. -/
theorem keeps_serve {table : Table} {request : Request} {above : List Symbol}
    (locals : table.locals = above ++ base) (frames : table.frames = base.length :: starts)
    (opens : request ≠ .beginScope) (closes : request ≠ .endScope) :
    Keeps base starts [request] table (table.serve request).2 := by
  have same : Keeps base starts [request] table table :=
    ⟨⟨above, locals⟩, frames, [], List.forall_mem_nil _, (List.append_nil _).symm⟩
  cases request with
  | beginScope => exact absurd rfl opens
  | endScope => exact absurd rfl closes
  | declareGlobal symbol =>
    simp only [serve, declareGlobal]
    split
    · exact same
    · exact ⟨⟨above, locals⟩, frames, [symbol], by simp, rfl⟩
  | declareLocal symbol =>
    simp only [serve, declareLocal, frames]
    split
    · exact same
    · refine ⟨⟨symbol :: above, ?_⟩, rfl, same.globals⟩
      simp [attempt, locals]
  | _ => exact same

/-- The frame that is closed is the one that was opened, and the arena is cut back to what
it was then. -/
theorem Keeps.close {before after : Table}
    (kept : Keeps before.locals before.frames requests before.beginScope after) :
    ∃ added, (∀ symbol ∈ added, .declareGlobal symbol ∈ requests) ∧
      (after.serve .endScope).2 = { before with globals := before.globals ++ added } := by
  obtain ⟨added, asked, isAdded⟩ := kept.globals
  obtain ⟨above, isAbove⟩ := kept.locals
  refine ⟨added, asked, ?_⟩
  simp only [serve, endScope, kept.frames, isAbove, isAdded, attempt]
  simp [beginScope]

/-- Balanced requests keep what lies below the innermost frame. -/
theorem keeps_serveAll {table : Table} (above : List Symbol) (balanced : Request.Balanced requests)
    (locals : table.locals = above ++ base) (frames : table.frames = base.length :: starts) :
    Keeps base starts requests table (Request.serveAll serve table requests).2 := by
  induction balanced generalizing table above base starts with
  | nil =>
    exact ⟨⟨above, locals⟩, frames, [], List.forall_mem_nil _, (List.append_nil _).symm⟩
  | @step request rest opens closes _ inductionHypothesis =>
    have first := keeps_serve locals frames opens closes
    obtain ⟨further, locals⟩ := first.locals
    exact first.trans (inductionHypothesis further locals first.frames)
  | @nest inner rest _ _ keepsInner keepsRest =>
    have within : Keeps table.locals table.frames inner table.beginScope
        (Request.serveAll serve table.beginScope inner).2 := keepsInner [] rfl rfl
    obtain ⟨added, asked, closed⟩ := within.close
    have keepsClosed : Keeps base starts inner table { table with globals := table.globals ++ added } :=
      ⟨⟨above, locals⟩, frames, added, asked, rfl⟩
    have whole := keepsClosed.trans (keepsRest above locals frames)
    have outcome : (Request.serveAll serve table (.beginScope :: (inner ++ .endScope :: rest))).2 =
        (Request.serveAll serve { table with globals := table.globals ++ added } rest).2 := by
      change (Request.serveAll serve table.beginScope (inner ++ .endScope :: rest)).2 = _
      rw [Request.serveAll_append, ← closed]
      rfl
    rw [outcome]
    obtain ⟨others, alsoAsked, isOther⟩ := whole.globals
    refine ⟨whole.locals, whole.frames, others, fun symbol isSymbol => ?_, isOther⟩
    have isAsked := alsoAsked symbol isSymbol
    simp only [List.mem_append, List.mem_cons] at isAsked ⊢
    tauto

/-- Globals of other names do not change what a name means. -/
theorem lookups_append {table : Table} {added : List Symbol} {name : String}
    (others : ∀ symbol ∈ added, symbol.name ≠ name) :
    let after : Table := { table with globals := table.globals ++ added }
    after.resolve? name = table.resolve? name ∧ after.resolveType? name = table.resolveType? name ∧
      after.resolveFunction? name = table.resolveFunction? name ∧
      ∀ space, after.global? space name = table.global? space name := by
  have globals (space : Namespace) :
      ({ table with globals := table.globals ++ added } : Table).global? space name =
        table.global? space name := by
    unfold global?
    have absent : added.find? (fun symbol => symbol.kind.space = space && symbol.name = name) =
        none := by
      refine List.find?_eq_none.mpr fun symbol isAdded => ?_
      simp [others symbol isAdded]
    rw [List.find?_append, absent, Option.or_none]
  refine ⟨?_, ?_, globals .function, globals⟩
  · simp only [resolve?, globals, local?]
  · simp only [resolveType?, globals]

/-- A table of names answers any requests as maps do. At any time its frames lie in order
in the arena and no name is declared twice in one place; a request that is refused changes
nothing; and closing a frame brings back what all names meant when it was opened, but for
the names of globals that have been declared meanwhile. -/
theorem answers_as_maps (requests : List Request) :
    (Request.serveAll Table.serve .empty requests).1 =
        (Request.serveAll Scopes.serve .empty requests).1 ∧
      let table := (Request.serveAll Table.serve .empty requests).2
      table.WellFormed ∧
        (∀ request error, (table.serve request).1 = .refused error →
          (table.serve request).2 = table) ∧
        ∀ inner, Request.Balanced inner →
          let after := (Request.serveAll Table.serve table
            (.beginScope :: (inner ++ [.endScope]))).2
          ∃ added, (∀ symbol ∈ added, .declareGlobal symbol ∈ inner) ∧
            after = { table with globals := table.globals ++ added } ∧
            ∀ name, (∀ symbol ∈ added, symbol.name ≠ name) →
              after.resolve? name = table.resolve? name ∧
                after.resolveType? name = table.resolveType? name ∧
                after.resolveFunction? name = table.resolveFunction? name ∧
                ∀ space, after.global? space name = table.global? space name := by
  obtain ⟨replies, shows⟩ := shows_empty.serveAll requests
  refine ⟨replies, shows.wellFormed, fun request error refused => ?_, fun inner balanced => ?_⟩
  · generalize (Request.serveAll Table.serve .empty requests).2 = table at refused ⊢
    have unchanged (outcome : Except TableError Table)
        (refused : (table.attempt outcome).1 = .refused error) :
        (table.attempt outcome).2 = table := by
      cases outcome with
      | ok after => cases refused
      | error _ => rfl
    cases request with
    | declareGlobal symbol => exact unchanged _ refused
    | endScope => exact unchanged _ refused
    | declareLocal symbol => exact unchanged _ refused
    | beginScope => cases refused
    | _ => rfl
  · generalize (Request.serveAll Table.serve .empty requests).2 = table
    have kept : Keeps table.locals table.frames inner table.beginScope
        (Request.serveAll Table.serve table.beginScope inner).2 := keeps_serveAll [] balanced rfl rfl
    obtain ⟨added, asked, closed⟩ := kept.close
    have outcome : (Request.serveAll Table.serve table (.beginScope :: (inner ++ [.endScope]))).2 =
        { table with globals := table.globals ++ added } := by
      change (Request.serveAll Table.serve table.beginScope (inner ++ [.endScope])).2 = _
      rw [Request.serveAll_append]
      exact closed
    refine ⟨added, asked, outcome, fun name others => ?_⟩
    rw [outcome]
    exact lookups_append others

end Table
end UnitCheck
