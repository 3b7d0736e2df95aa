import UnitCheck.Proofs.Flow.Completion

/-!
# Paths through a body

The paths that control may take, with every condition free to go either way. The
first clause of a loop runs once in front of it, as a statement of the code around
the loop; the last clause runs behind every round, inside the loop. A path keeps
in mind whether a `break` of one of these clauses has taken effect, since such a
jump is the one thing that the structure of a body does not show.
-/

namespace UnitCheck.Flow

/-- How control leaves a piece of code. -/
inductive Exit where
  | done | brk | cont | ret
deriving Repr, DecidableEq

/-- A piece of code that control runs through. -/
inductive Code where
  | stmt (stmt : Stmt)
  | stmts (body : List Stmt)
  /-- A statement that may be missing. -/
  | option (stmt : Option Stmt)
  /-- The rounds of a loop that may be left in front of each, with the clause behind each. -/
  | rounds (leaves : Bool) (body : List Stmt) (after : Option Stmt)

/-- Statements that control just runs past. -/
def isStraight : Stmt -> Bool
  | .block .. | .cond .. | .whileLoop .. | .loop .. | .forLoop .. | .ret .. | .brk _ | .cont _ =>
    false
  | _ => true

/-- Whether control goes on to the next round of a loop. -/
def Exit.goesRound : Exit -> Bool
  | .done | .cont => true
  | .brk | .ret => false

/-- Control may run through a piece of code and leave it in a way; the last argument
says whether a `break` in a clause of a loop has taken effect on the way. -/
inductive Path : Code -> Exit -> Bool -> Prop where
  | straight {stmt} (isStraight : isStraight stmt = true) : Path (.stmt stmt) .done false
  | ret {value span} : Path (.stmt (.ret value span)) .ret false
  | brk {span} : Path (.stmt (.brk span)) .brk false
  | cont {span} : Path (.stmt (.cont span)) .cont false
  | block {body span exit jumped} (inside : Path (.stmts body) exit jumped) :
      Path (.stmt (.block body span)) exit jumped
  | thenBranch {test body bodySpan otherwise span exit jumped}
      (inside : Path (.stmts body) exit jumped) :
      Path (.stmt (.cond test body bodySpan otherwise span)) exit jumped
  | elseBranch {test body bodySpan otherwise span exit jumped}
      (inside : Path (.option otherwise) exit jumped) :
      Path (.stmt (.cond test body bodySpan otherwise span)) exit jumped
  | whileLoop {test body bodySpan span exit jumped}
      (inside : Path (.rounds true body none) exit jumped) :
      Path (.stmt (.whileLoop test body bodySpan span)) exit jumped
  | loop {body bodySpan span exit jumped} (inside : Path (.rounds false body none) exit jumped) :
      Path (.stmt (.loop body bodySpan span)) exit jumped
  | forLoop {first test after body bodySpan span exit early jumped}
      (start : Path (.option first) .done early)
      (inside : Path (.rounds test.isSome body after) exit jumped) :
      Path (.stmt (.forLoop first test after body bodySpan span)) exit (early || jumped)
  /-- The first clause leaves the code around the loop. -/
  | forStart {first test after body bodySpan span exit early}
      (start : Path (.option first) exit early) (leaves : exit ≠ .done) :
      Path (.stmt (.forLoop first test after body bodySpan span)) exit (early || exit = .brk)
  | missing : Path (.option none) .done false
  | present {stmt exit jumped} (inside : Path (.stmt stmt) exit jumped) :
      Path (.option (some stmt)) exit jumped
  | nil : Path (.stmts []) .done false
  | cons {stmt rest exit early jumped} (first : Path (.stmt stmt) .done early)
      (others : Path (.stmts rest) exit jumped) : Path (.stmts (stmt :: rest)) exit (early || jumped)
  | stop {stmt rest exit jumped} (first : Path (.stmt stmt) exit jumped) (leaves : exit ≠ .done) :
      Path (.stmts (stmt :: rest)) exit jumped
  | leave {body after} : Path (.rounds true body after) .done false
  | round {leaves body after inner clause exit first second rest}
      (inside : Path (.stmts body) inner first) (goesOn : inner.goesRound = true)
      (behind : Path (.option after) clause second) (goesRound : clause.goesRound = true)
      (others : Path (.rounds leaves body after) exit rest) :
      Path (.rounds leaves body after) exit (first || second || rest)
  | brkRound {leaves body after jumped} (inside : Path (.stmts body) .brk jumped) :
      Path (.rounds leaves body after) .done jumped
  | retRound {leaves body after jumped} (inside : Path (.stmts body) .ret jumped) :
      Path (.rounds leaves body after) .ret jumped
  | brkBehind {leaves body after inner first second} (inside : Path (.stmts body) inner first)
      (goesOn : inner.goesRound = true) (behind : Path (.option after) .brk second) :
      Path (.rounds leaves body after) .done true
  | retBehind {leaves body after inner first second} (inside : Path (.stmts body) inner first)
      (goesOn : inner.goesRound = true) (behind : Path (.option after) .ret second) :
      Path (.rounds leaves body after) .ret (first || second)

/-- Whether the structure of a piece of code lets control run past it. -/
def Code.completes : Code -> Bool
  | .stmt code => Flow.completes code
  | .stmts body => completesAll body
  | .option code => completesElse code
  | .rounds leaves body _ => leaves || breaksAll body

/-- Whether the structure of a piece of code lets control leave the loop around it. -/
def Code.breaks : Code -> Bool
  | .stmt code => Flow.breaks code
  | .stmts body => breaksAll body
  | .option code => breaksElse code
  | .rounds .. => false

/-- A statement that control just runs past completes. -/
theorem completes_of_isStraight {stmt : Stmt} (straight : isStraight stmt = true) :
    completes stmt = true := by
  cases stmt <;> simp_all [isStraight, completes]

/-- The structure of code shows every path on which no clause of a loop breaks. -/
theorem Path.shown {code : Code} {exit : Exit} {jumped : Bool} (path : Path code exit jumped)
    (plain : jumped = false) :
    (exit = .done → code.completes = true) ∧ (exit = .brk → code.breaks = true) := by
  induction path with
  | straight isStraight => simp [Code.completes, completes_of_isStraight isStraight]
  | ret => simp
  | brk => simp [Code.breaks, breaks]
  | cont => simp
  | block _ inductionHypothesis =>
    simpa [Code.completes, Code.breaks, completes, breaks] using inductionHypothesis plain
  | thenBranch _ inductionHypothesis =>
    obtain ⟨runsPast, leaves⟩ := inductionHypothesis plain
    constructor
    · intro isDone
      have body := runsPast isDone
      simp only [Code.completes] at body
      simp [Code.completes, completes, body]
    · intro isBreak
      have body := leaves isBreak
      simp only [Code.breaks] at body
      simp [Code.breaks, breaks, body]
  | elseBranch _ inductionHypothesis =>
    obtain ⟨runsPast, leaves⟩ := inductionHypothesis plain
    constructor
    · intro isDone
      have otherwise := runsPast isDone
      simp only [Code.completes] at otherwise
      simp [Code.completes, completes, otherwise]
    · intro isBreak
      have otherwise := leaves isBreak
      simp only [Code.breaks] at otherwise
      simp [Code.breaks, breaks, otherwise]
  | whileLoop _ inductionHypothesis =>
    simpa [Code.completes, Code.breaks, completes, breaks] using inductionHypothesis plain
  | loop _ inductionHypothesis =>
    simpa [Code.completes, Code.breaks, completes, breaks] using inductionHypothesis plain
  | forLoop _ _ _ inductionHypothesis =>
    obtain ⟨_, plain⟩ := Bool.or_eq_false_iff.mp plain
    simpa [Code.completes, Code.breaks, completes, breaks] using inductionHypothesis plain
  | forStart _ leaves _ =>
    -- a break of the first clause has taken effect, so the path is not a plain one
    obtain ⟨_, notBreak⟩ := Bool.or_eq_false_iff.mp plain
    simp_all
  | missing => simp [Code.completes, completesElse]
  | present _ inductionHypothesis =>
    simpa [Code.completes, Code.breaks, completesElse, breaksElse] using inductionHypothesis plain
  | nil => simp [Code.completes, completesAll]
  | cons _ _ firstHypothesis othersHypothesis =>
    obtain ⟨plainFirst, plainOthers⟩ := Bool.or_eq_false_iff.mp plain
    have first := (firstHypothesis plainFirst).1 rfl
    have others := othersHypothesis plainOthers
    simp only [Code.completes, Code.breaks] at first others
    refine ⟨fun isDone => ?_, fun isBreak => ?_⟩
    · simp [Code.completes, completesAll, first, others.1 isDone]
    · simp [Code.breaks, breaksAll, first, others.2 isBreak]
  | stop _ leaves inductionHypothesis =>
    have first := (inductionHypothesis plain).2
    simp only [Code.breaks] at first
    refine ⟨fun isDone => absurd isDone leaves, fun isBreak => ?_⟩
    simp [Code.breaks, breaksAll, first isBreak]
  | leave => simp [Code.completes]
  | round _ _ _ _ _ _ _ inductionHypothesis =>
    exact inductionHypothesis (Bool.or_eq_false_iff.mp plain).2
  | brkRound _ inductionHypothesis =>
    have body := (inductionHypothesis plain).2 rfl
    simp only [Code.breaks] at body
    simp [Code.completes, body]
  | retRound => simp
  | brkBehind => cases plain
  | retBehind => simp

end UnitCheck.Flow
