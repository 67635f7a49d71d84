import Mathlib.Logic.Relation

/-!
# Machines with guarded steps

A machine is a step guard and a step function over labels, so a run can be
executed, and its interleavings are the lists of enabled labels.  A run is
taken under a restriction `allowed` on its steps: assumptions about the
environment and conditions under which a program works are restrictions of
this kind.  The rules below turn a step lemma into a result about whole runs.
-/

namespace ServerUtils.Foundation.Transition

/-- A labelled machine: where it starts, when a step may be taken, and what
the step does. -/
structure Machine (State Label : Type*) where
  initial : State
  Enabled : State → Label → Prop
  next : State → Label → State

variable {State Label : Type*}
variable {machine : Machine State Label}
variable {allowed : State → Label → Prop}

/-- Finite runs all of whose steps are enabled and allowed. -/
inductive Run (machine : Machine State Label)
    (allowed : State → Label → Prop) : State → State → Prop where
  | refl (state : State) : Run machine allowed state state
  | step {source state : State} {label : Label}
      (run : Run machine allowed source state)
      (enabled : machine.Enabled state label)
      (isAllowed : allowed state label) :
      Run machine allowed source (machine.next state label)

/-- The states which allowed steps reach from the initial state. -/
def ReachableBy (machine : Machine State Label)
    (allowed : State → Label → Prop) (state : State) : Prop :=
  Run machine allowed machine.initial state

/-- No restriction on the steps. -/
def anyStep (_ : State) (_ : Label) : Prop := True

instance (state : State) (label : Label) : Decidable (anyStep state label) :=
  .isTrue True.intro

/-- The states which any interleaving reaches. -/
def Reachable (machine : Machine State Label) (state : State) : Prop :=
  ReachableBy machine anyStep state

/-- A property which every allowed step preserves holds along runs. -/
theorem Run.invariant
    {property : State → Prop} {source target : State}
    (run : Run machine allowed source target)
    (start : property source)
    (preserved : ∀ state label, property state →
      machine.Enabled state label → allowed state label →
        property (machine.next state label)) :
    property target := by
  induction run with
  | refl => exact start
  | step run enabled isAllowed ih =>
      exact preserved _ _ ih enabled isAllowed

theorem Run.trans
    {first second third : State}
    (left : Run machine allowed first second)
    (right : Run machine allowed second third) :
    Run machine allowed first third := by
  induction right with
  | refl => exact left
  | step run enabled isAllowed ih => exact ih.step enabled isAllowed

/-! ## Executing a list of labels -/

/-- The state after a list of labels. -/
def follow (machine : Machine State Label) : State → List Label → State
  | state, [] => state
  | state, label :: labels => follow machine (machine.next state label) labels

theorem follow_append
    (machine : Machine State Label) (state : State)
    (first second : List Label) :
    follow machine state (first ++ second) =
      follow machine (follow machine state first) second := by
  induction first generalizing state with
  | nil => rfl
  | cons label first ih => exact ih (machine.next state label)

/-- Every label of the list is enabled and allowed when its turn comes. -/
def Follows (machine : Machine State Label)
    (allowed : State → Label → Prop) : State → List Label → Prop
  | _, [] => True
  | state, label :: labels =>
      machine.Enabled state label ∧ allowed state label ∧
        Follows machine allowed (machine.next state label) labels

instance decidableFollows
    [∀ state label, Decidable (machine.Enabled state label)]
    [∀ state label, Decidable (allowed state label)] :
    ∀ (state : State) (labels : List Label),
      Decidable (Follows machine allowed state labels)
  | _, [] => .isTrue True.intro
  | state, label :: labels =>
      have := decidableFollows (machine.next state label) labels
      inferInstanceAs (Decidable (_ ∧ _ ∧ _))

theorem run_follow
    {state : State} {labels : List Label}
    (follows : Follows machine allowed state labels) :
    Run machine allowed state (follow machine state labels) := by
  induction labels generalizing state with
  | nil => exact .refl state
  | cons label labels ih =>
      rcases follows with ⟨enabled, isAllowed, remaining⟩
      exact Run.trans ((Run.refl state).step enabled isAllowed)
        (ih remaining)

theorem follows_append
    {state : State} {first second : List Label} :
    Follows machine allowed state (first ++ second) ↔
      Follows machine allowed state first ∧
        Follows machine allowed (follow machine state first) second := by
  induction first generalizing state with
  | nil => exact ⟨fun follows => ⟨True.intro, follows⟩, And.right⟩
  | cons label first ih =>
      simp only [List.cons_append, Follows, follow, ih, and_assoc]

/-- A relation between what has been done and the state holds after a run if
every allowed step preserves it. -/
theorem Follows.history_invariant
    {property : List Label → State → Prop} {state : State}
    {history labels : List Label}
    (follows : Follows machine allowed state labels)
    (start : property history state)
    (preserved : ∀ history state label, property history state →
      machine.Enabled state label → allowed state label →
        property (history ++ [label]) (machine.next state label)) :
    property (history ++ labels) (follow machine state labels) := by
  induction labels generalizing state history with
  | nil =>
      rw [List.append_nil]
      exact start
  | cons label labels ih =>
      rcases follows with ⟨enabled, isAllowed, remaining⟩
      rw [List.append_cons]
      exact ih remaining (preserved history state label start enabled isAllowed)

/-- A run is the execution of some list of labels. -/
theorem Run.exists_follows
    {source target : State} (run : Run machine allowed source target) :
    ∃ labels, Follows machine allowed source labels ∧
      follow machine source labels = target := by
  induction run with
  | refl => exact ⟨[], True.intro, rfl⟩
  | @step state label run enabled isAllowed ih =>
      rcases ih with ⟨labels, follows, rfl⟩
      refine ⟨labels ++ [label], ?_, ?_⟩
      · rw [follows_append]
        exact ⟨follows, enabled, isAllowed, True.intro⟩
      · rw [follow_append]
        rfl

/-! ## A record of the steps -/

section Recorded

variable {Record : Type*}

/-- The machine with a record to which every label is added. -/
def Machine.recorded
    (machine : Machine State Label) (record : Record → Label → Record)
    (start : Record) : Machine (State × Record) Label where
  initial := (machine.initial, start)
  Enabled := fun state => machine.Enabled state.1
  next := fun state label =>
    (machine.next state.1 label, record state.2 label)

/-- Keeping a record restricts no run. -/
theorem Follows.recorded
    {state : State} {labels : List Label}
    (follows : Follows machine allowed state labels)
    (record : Record → Label → Record) (start before : Record) :
    Follows (machine.recorded record start) (fun state => allowed state.1)
      (state, before) labels := by
  induction labels generalizing state before with
  | nil => exact True.intro
  | cons label labels ih =>
      rcases follows with ⟨enabled, isAllowed, remaining⟩
      exact ⟨enabled, isAllowed, ih remaining (record before label)⟩

end Recorded

/-- The property holds in every state that a list of labels goes through. -/
def Along (machine : Machine State Label) (property : State → Prop) :
    State → List Label → Prop
  | state, [] => property state
  | state, label :: labels =>
      property state ∧ Along machine property (machine.next state label) labels

/-- A property along a list of labels holds at its end. -/
theorem Along.last
    {property : State → Prop} {state : State} {labels : List Label}
    (along : Along machine property state labels) :
    property (follow machine state labels) := by
  induction labels generalizing state with
  | nil => exact along
  | cons label labels ih => exact ih along.2

/-- What an invariant of the allowed steps implies holds along them. -/
theorem along_of_invariant
    {invariant property : State → Prop} {state : State} {labels : List Label}
    (start : invariant state)
    (preserved : ∀ state label, invariant state →
      machine.Enabled state label → allowed state label →
        invariant (machine.next state label))
    (implies : ∀ state, invariant state → property state)
    (follows : Follows machine allowed state labels) :
    Along machine property state labels := by
  induction labels generalizing state with
  | nil => exact implies state start
  | cons label labels ih =>
      rcases follows with ⟨enabled, isAllowed, remaining⟩
      exact ⟨implies state start,
        ih (preserved state label start enabled isAllowed) remaining⟩

/--
Where `allowed` is the exact condition under which one step keeps a property,
it is the exact condition under which a run does.  The steps may rely on an
invariant of the allowed steps.
-/
theorem along_iff_follows_of_invariant
    {invariant property : State → Prop} {state : State} {labels : List Label}
    (start : invariant state)
    (implies : ∀ state, invariant state → property state)
    (exact : ∀ state label, invariant state → machine.Enabled state label →
      (property (machine.next state label) ↔ allowed state label))
    (preserved : ∀ state label, invariant state →
      machine.Enabled state label → allowed state label →
        invariant (machine.next state label))
    (follows : Follows machine anyStep state labels) :
    Along machine property state labels ↔
      Follows machine allowed state labels := by
  induction labels generalizing state with
  | nil => exact iff_of_true (implies state start) True.intro
  | cons label labels ih =>
      rcases follows with ⟨enabled, _, remaining⟩
      have kept : property (machine.next state label) ↔ allowed state label :=
        exact state label start enabled
      rw [Along, Follows]
      constructor
      · rintro ⟨_, along⟩
        have holds : property (machine.next state label) := by
          cases labels with
          | nil => exact along
          | cons later rest => exact along.1
        have isAllowed := kept.mp holds
        have next := preserved state label start enabled isAllowed
        exact ⟨enabled, isAllowed, (ih next remaining).mp along⟩
      · rintro ⟨_, isAllowed, later⟩
        have next := preserved state label start enabled isAllowed
        exact ⟨implies state start, (ih next remaining).mpr later⟩

/-- The property may be the invariant itself. -/
theorem along_iff_follows
    {property : State → Prop} {state : State} {labels : List Label}
    (start : property state)
    (exact : ∀ state label, property state → machine.Enabled state label →
      (property (machine.next state label) ↔ allowed state label))
    (follows : Follows machine anyStep state labels) :
    Along machine property state labels ↔
      Follows machine allowed state labels :=
  along_iff_follows_of_invariant start (fun _ holds => holds) exact
    (fun state label holds enabled isAllowed =>
      (exact state label holds enabled).mpr isAllowed)
    follows

/-! ## Schedules that come to an end -/

/-- A measure which every allowed step lowers bounds the length of a
schedule.  The steps may rely on an invariant. -/
theorem length_le_of_decreasing
    {invariant : State → Prop} {measure : State → Nat}
    {state : State} {labels : List Label}
    (start : invariant state)
    (preserved : ∀ state label, invariant state →
      machine.Enabled state label → allowed state label →
        invariant (machine.next state label))
    (decreases : ∀ state label, invariant state →
      machine.Enabled state label → allowed state label →
        measure (machine.next state label) < measure state)
    (follows : Follows machine allowed state labels) :
    labels.length ≤ measure state := by
  induction labels generalizing state with
  | nil => exact Nat.zero_le _
  | cons label labels ih =>
      rcases follows with ⟨enabled, isAllowed, remaining⟩
      have later : labels.length ≤ measure (machine.next state label) :=
        ih (preserved state label start enabled isAllowed) remaining
      exact Nat.succ_le_of_lt (Nat.lt_of_le_of_lt later
        (decreases state label start enabled isAllowed))

/-- No allowed step is left to take. -/
def Settled (machine : Machine State Label)
    (allowed : State → Label → Prop) (state : State) : Prop :=
  ∀ label, machine.Enabled state label → ¬ allowed state label

/-! ## Mutual exclusion -/

section Exclusion

variable {Participant : Type*}
variable {owner : Option Participant} {inside inside' : Participant → Prop}

/-- The owner of a mutex is the one participant inside its critical section. -/
def Exclusive
    (owner : Option Participant) (inside : Participant → Prop) : Prop :=
  ∀ participant, inside participant ↔ owner = some participant

/-- A step that moves nobody in or out keeps the owner. -/
theorem Exclusive.keep
    (exclusive : Exclusive owner inside)
    (same : ∀ participant, inside' participant ↔ inside participant) :
    Exclusive owner inside' := by
  intro participant
  exact (same participant).trans (exclusive participant)

/-- Taking a free mutex. -/
theorem Exclusive.acquire
    (free : Exclusive none inside) {taker : Participant}
    (enters : inside' taker)
    (others : ∀ participant, participant ≠ taker →
      (inside' participant ↔ inside participant)) :
    Exclusive (some taker) inside' := by
  intro participant
  by_cases same : participant = taker
  · subst same
    exact iff_of_true enters rfl
  · rw [others participant same, free participant]
    constructor
    · intro impossible
      cases impossible
    · intro equal
      exact absurd (Option.some.inj equal).symm same

/-- The holder releases the mutex. -/
theorem Exclusive.release
    (exclusive : Exclusive owner inside) {holder : Participant}
    (holds : inside holder) (leaves : ¬ inside' holder)
    (others : ∀ participant, participant ≠ holder →
      (inside' participant ↔ inside participant)) :
    Exclusive none inside' := by
  intro participant
  have isOwner := (exclusive holder).mp holds
  by_cases same : participant = holder
  · subst same
    exact iff_of_false leaves (by simp)
  · rw [others participant same, exclusive participant, isOwner]
    constructor
    · intro equal
      exact absurd (Option.some.inj equal).symm same
    · intro impossible
      cases impossible

end Exclusion

end ServerUtils.Foundation.Transition
