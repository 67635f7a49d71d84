import Mathlib.Tactic.TypeStar

/-!
# Loops that may fail or go on for ever

A loop has a condition and a body that may fail.  Its first rounds can be
executed; it returns when some number of rounds is enough, and goes on for ever
when none is.  The rules take off one round, turn an invariant under which the
condition holds into a loop that goes on, and say that a loop ends in one state
only.
-/

namespace ServerUtils.Foundation.Rounds

variable {Error State : Type*}

/-- A `while` loop. -/
structure Loop (Error State : Type*) where
  goesOn : State → Bool
  body : State → Except Error State

namespace Loop

variable {loop : Loop Error State} {state next last : State}

/-- The first rounds, with the last state if the loop has ended. -/
def run (loop : Loop Error State) :
    Nat → State → Except Error (Option State)
  | 0, _ => .ok none
  | rounds + 1, state =>
      if loop.goesOn state then (loop.body state).bind (loop.run rounds)
      else .ok (some state)

/-- The loop ends in this state. -/
def Returns (loop : Loop Error State) (state last : State) : Prop :=
  ∃ rounds, loop.run rounds state = .ok (some last)

/-- The loop never ends. -/
def Diverges (loop : Loop Error State) (state : State) : Prop :=
  ∀ rounds, loop.run rounds state = .ok none

theorem returns_of_done (done : loop.goesOn state = false) :
    loop.Returns state state := by
  refine ⟨1, ?_⟩
  rw [run, done]
  rfl

theorem run_succ
    (more : loop.goesOn state = true) (isNext : loop.body state = .ok next)
    (rounds : Nat) : loop.run (rounds + 1) state = loop.run rounds next := by
  rw [run, if_pos more, isNext]
  rfl

theorem Returns.of_step
    (more : loop.goesOn state = true) (isNext : loop.body state = .ok next)
    (returns : loop.Returns next last) : loop.Returns state last := by
  rcases returns with ⟨rounds, isLast⟩
  exact ⟨rounds + 1, (run_succ more isNext rounds).trans isLast⟩

/-- More rounds do not change the state in which a loop has ended. -/
theorem run_add
    {rounds : Nat} (isLast : loop.run rounds state = .ok (some last))
    (more : Nat) : loop.run (rounds + more) state = .ok (some last) := by
  induction rounds generalizing state with
  | zero => cases isLast
  | succ rounds ih =>
      rw [Nat.succ_add, run]
      rw [run] at isLast
      split
      case isTrue goesOn =>
        rw [if_pos goesOn] at isLast
        cases isNext : loop.body state with
        | error error =>
            rw [isNext] at isLast
            cases isLast
        | ok next =>
            rw [isNext] at isLast
            exact ih isLast
      case isFalse done =>
        rw [if_neg done] at isLast
        exact isLast

/-- A loop ends in one state only. -/
theorem Returns.unique
    {other : State} (returns : loop.Returns state last)
    (returnsOther : loop.Returns state other) : last = other := by
  rcases returns with ⟨rounds, isLast⟩
  rcases returnsOther with ⟨others, isOther⟩
  have first := run_add isLast others
  have second := run_add isOther rounds
  rw [Nat.add_comm, first] at second
  exact Option.some.inj (Except.ok.inj second)

/-- A loop goes on where an invariant keeps its condition true. -/
theorem diverges_of_invariant
    {property : State → Prop} (start : property state)
    (preserved : ∀ state, property state → loop.goesOn state = true ∧
      ∃ next, loop.body state = .ok next ∧ property next) :
    loop.Diverges state := by
  intro rounds
  induction rounds generalizing state with
  | zero => rfl
  | succ rounds ih =>
      rcases preserved state start with ⟨more, next, isNext, kept⟩
      exact (run_succ more isNext rounds).trans (ih kept)

end Loop

end ServerUtils.Foundation.Rounds
