import ServerUtils.Bus.QueueFifo

/-!
# Shutting the bus down

`~myBus` sets `stop_`, notifies and joins without taking the mutex.  Two
things go wrong.  A notification that falls between the worker's evaluation of
the wait predicate and its blocking is lost, and the destructor then joins a
thread which nobody wakes.  And a worker that finds `stop_` set leaves its
loop whatever is queued: it hands over at most the tuple of the round it is
in.
-/

namespace ServerUtils.Bus.Shutdown

open ServerUtils.Foundation.Transition
open ServerUtils.Parser.StdString
open ServerUtils.Bus.Queue
open ServerUtils.Bus.QueueFifo

variable {Thread : Type} [DecidableEq Thread]

/-! ## The lost wake-up -/

/-- A call at this point has yet to notify. -/
def BeforeNotify : CallerPoint → Prop
  | .entered _ => True
  | .locked _ => True
  | .pushed _ => True
  | _ => False

/-- A call of `sendMsg` under way has yet to notify. -/
def NotifyToCome (state : State Thread) : Prop :=
  ∃ caller, BeforeNotify (state.callers caller)

/-- The destructor waits in `join` for a worker which nobody will notify. -/
structure LostWakeup (state : State Thread) : Prop where
  joining : state.destructor = .join
  blocked : state.worker = .blocked
  quiet : ¬ NotifyToCome state

/--
The destructor does not notify while the worker, having found the wait
predicate false, has not blocked yet, unless a call under way still notifies.
-/
def NotifiesOutsideGap (state : State Thread) : Label Thread → Prop
  | .destructorNotify => state.worker = .block → NotifyToCome state
  | _ => True

/-- The destructor has called `notify_all`. -/
def HasNotified : DestructorPoint → Prop
  | .join => True
  | .returned => True
  | _ => False

/-- The worker is going to block or has blocked. -/
def Waits : WorkerPoint → Prop
  | .block => True
  | .blocked => True
  | _ => False

omit [DecidableEq Thread] in
theorem eq_block_of_waits_notifyAll
    {point : WorkerPoint} (waits : Waits (notifyAll point)) :
    point = .block := by
  cases point with
  | block => rfl
  | _ => exact waits.elim

/-- Once the destructor has notified, a worker that waits will be notified
again. -/
structure Awake (state : State Thread) : Prop where
  stopped : state.destructor ≠ .notStarted → state.stop = true
  awake : HasNotified state.destructor → Waits state.worker →
    NotifyToCome state

section Steps

variable {state state' : State Thread}

omit [DecidableEq Thread] in
theorem Awake.stop_of_hasNotified
    (inv : Awake state) (notified : HasNotified state.destructor) :
    state.stop = true := by
  apply inv.stopped
  intro notStarted
  rw [notStarted] at notified
  exact notified

omit [DecidableEq Thread] in
theorem Awake.keep
    (inv : Awake state)
    (sameDestructor : state'.destructor = state.destructor)
    (sameStop : state'.stop = state.stop)
    (awake : HasNotified state.destructor → Waits state'.worker →
      NotifyToCome state') :
    Awake state' where
  stopped := by
    rw [sameDestructor, sameStop]
    exact inv.stopped
  awake := by
    rw [sameDestructor]
    exact awake

variable {caller : Caller Thread} {point : CallerPoint}

theorem notifyToCome_of_moved
    (moved : state'.callers = Function.update state.callers caller point)
    (before : BeforeNotify point) :
    NotifyToCome state' := by
  refine ⟨caller, ?_⟩
  rw [moved, Function.update_self]
  exact before

/-- A call which has notified may return: it was not the one to come. -/
theorem notifyToCome_of_return
    (moved : state'.callers = Function.update state.callers caller point)
    (after : ¬ BeforeNotify (state.callers caller))
    (toCome : NotifyToCome state) :
    NotifyToCome state' := by
  rcases toCome with ⟨other, before⟩
  have different : other ≠ caller := by
    rintro rfl
    exact after before
  refine ⟨other, ?_⟩
  rw [moved, Function.update_of_ne different]
  exact before

end Steps

theorem awake_next
    (state : State Thread) (label : Label Thread)
    (ok : MutexOk state) (inv : Awake state)
    (enabled : Enabled state label)
    (outsideGap : NotifiesOutsideGap state label) :
    Awake (next state label) := by
  cases label with
  | call caller tuple =>
      exact inv.keep rfl rfl fun _ _ => notifyToCome_of_moved rfl True.intro
  | callLock caller tuple =>
      exact inv.keep rfl rfl fun _ _ => notifyToCome_of_moved rfl True.intro
  | callPush caller tuple =>
      exact inv.keep rfl rfl fun _ _ => notifyToCome_of_moved rfl True.intro
  | callNotify caller tuple =>
      refine inv.keep rfl rfl fun _ waits => ?_
      -- the caller has the mutex, so the worker is not in the gap
      have inGap := eq_block_of_waits_notifyAll waits
      have callerOwns : state.mutex = some (.caller caller) := by
        apply (ok (.caller caller)).mp
        rw [inside, enabled]
        exact List.cons_ne_nil _ _
      have workerOwns : state.mutex = some .worker := by
        apply (ok .worker).mp
        rw [inside, inGap]
        trivial
      cases callerOwns.symm.trans workerOwns
  | callReturn caller tuple =>
      refine inv.keep rfl rfl fun notified waits => ?_
      apply notifyToCome_of_return rfl _ (inv.awake notified waits)
      rw [enabled]
      exact not_false
  | test =>
      refine inv.keep rfl rfl fun _ waits => ?_
      simp only [next] at waits
      split_ifs at waits <;> exact waits.elim
  | lock => exact inv.keep rfl rfl fun _ waits => waits.elim
  | predicate =>
      refine inv.keep rfl rfl fun notified waits => ?_
      simp only [next, inv.stop_of_hasNotified notified, Bool.true_or,
        if_true] at waits
      exact waits.elim
  | block =>
      refine inv.keep rfl rfl fun notified _ => ?_
      have waits : Waits state.worker := by
        rw [enabled]
        trivial
      exact inv.awake notified waits
  | spuriousWake => exact inv.keep rfl rfl fun _ waits => waits.elim
  | wake => exact inv.keep rfl rfl fun _ waits => waits.elim
  | examine =>
      simp only [next]
      split
      · exact inv.keep rfl rfl fun _ waits => waits.elim
      · exact inv.keep rfl rfl fun _ waits => waits.elim
  | unlock tuple => exact inv.keep rfl rfl fun _ waits => waits.elim
  | send tuple => exact inv.keep rfl rfl fun _ waits => waits.elim
  | dispatched tuple => exact inv.keep rfl rfl fun _ waits => waits.elim
  | relock tuple => exact inv.keep rfl rfl fun _ waits => waits.elim
  | pop tuple => exact inv.keep rfl rfl fun _ waits => waits.elim
  | destructorStop => exact ⟨fun _ => rfl, fun notified => notified.elim⟩
  | destructorNotify =>
      constructor
      · intro _
        apply inv.stopped
        rw [enabled]
        decide
      · intro _ waits
        exact outsideGap (eq_block_of_waits_notifyAll waits)
  | destructorJoin =>
      constructor
      · intro _
        apply inv.stopped
        rw [enabled.1]
        decide
      · intro _ waits
        have exited : Waits WorkerPoint.exited := enabled.2 ▸ waits
        exact exited.elim

/--
As long as the destructor does not notify in the gap between the worker's
false predicate and its blocking, no wake-up is lost.
-/
theorem no_lostWakeup_outside_gap
    (state : State Thread)
    (reached : ReachableBy (bus Thread) NotifiesOutsideGap state) :
    ¬ LostWakeup state := by
  have awakeAtStart : Awake (initial : State Thread) :=
    ⟨fun started => absurd rfl started, fun notified => notified.elim⟩
  have start : MutexOk (initial : State Thread) ∧
      Awake (initial : State Thread) :=
    ⟨fifo_initial.mutex, awakeAtStart⟩
  have invariant : MutexOk state ∧ Awake state := by
    apply Run.invariant reached start
    intro state label inv enabled outsideGap
    exact ⟨mutexOk_next state label inv.1 enabled,
      awake_next state label inv.1 inv.2 enabled outsideGap⟩
  intro lost
  apply lost.quiet
  apply invariant.2.awake
  · rw [lost.joining]
    trivial
  · rw [lost.blocked]
    trivial

/-- The destructor notifies a worker which has already blocked. -/
def wokenRun : List (Label Unit) :=
  [.test, .lock, .predicate, .block, .destructorStop, .destructorNotify]

theorem wokenRun_no_lostWakeup :
    ¬ LostWakeup (follow (bus Unit) initial wokenRun) := by
  have follows : Follows (bus Unit) NotifiesOutsideGap initial wokenRun := by
    refine ⟨rfl, trivial, ⟨rfl, rfl⟩, trivial, rfl, trivial, rfl, trivial,
      rfl, trivial, rfl, ?_, trivial⟩
    intro inGap
    cases inGap
  exact no_lostWakeup_outside_gap _ (run_follow follows)

/-- No spurious wake-up: a blocked worker resumes only when notified. -/
def WokenByNotify (_ : State Thread) : Label Thread → Prop
  | .spuriousWake => False
  | _ => True

/-- The destructor sets `stop_` and notifies in the gap. -/
def gapRun : List (Label Unit) :=
  [.test, .lock, .predicate, .destructorStop, .destructorNotify, .block]

theorem gapRun_lostWakeup :
    ReachableBy (bus Unit) WokenByNotify
        (follow (bus Unit) initial gapRun) ∧
      LostWakeup (follow (bus Unit) initial gapRun) := by
  have follows : Follows (bus Unit) WokenByNotify initial gapRun :=
    ⟨rfl, trivial, ⟨rfl, rfl⟩, trivial, rfl, trivial, rfl, trivial, rfl,
      trivial, rfl, trivial, trivial⟩
  constructor
  · exact run_follow follows
  · refine ⟨rfl, rfl, ?_⟩
    rintro ⟨caller, toCome⟩
    exact toCome

/-- Outside the condition a wake-up is lost: the worker only has to block. -/
theorem lostWakeup_of_notify_in_gap
    {state : State Thread}
    (notifying : state.destructor = .notify)
    (inGap : ¬ NotifiesOutsideGap state .destructorNotify) :
    ∃ later, Run (bus Thread) WokenByNotify state later ∧
      LostWakeup later := by
  rcases Classical.not_imp.mp inGap with ⟨isBlock, quiet⟩
  have stillInGap : (next state .destructorNotify).worker = .block := by
    simp only [next, isBlock]
    rfl
  have follows : Follows (bus Thread) WokenByNotify state
      [.destructorNotify, .block] :=
    ⟨notifying, True.intro, stillInGap, True.intro, True.intro⟩
  exact ⟨_, run_follow follows, rfl, rfl, quiet⟩

/-- Nobody calls `sendMsg` on the dying bus, and the system does not wake the
worker by itself. -/
def Undisturbed (_ : State Thread) : Label Thread → Prop
  | .call _ _ => False
  | .spuriousWake => False
  | _ => True

theorem lostWakeup_next
    (state : State Thread) (label : Label Thread)
    (lost : LostWakeup state) (enabled : Enabled state label)
    (undisturbed : Undisturbed state label) :
    LostWakeup (next state label) := by
  have noWorker : ∀ point, point ≠ .blocked → state.worker ≠ point := by
    intro point notBlocked isPoint
    exact notBlocked (isPoint.symm.trans lost.blocked)
  have noCall : ∀ caller point, state.callers caller = point →
      ¬ BeforeNotify point := by
    rintro caller point rfl before
    exact lost.quiet ⟨caller, before⟩
  cases label with
  | call caller tuple => exact undisturbed.elim
  | callLock caller tuple =>
      exact absurd True.intro (noCall caller _ enabled.1)
  | callPush caller tuple =>
      exact absurd True.intro (noCall caller _ enabled)
  | callNotify caller tuple =>
      exact absurd True.intro (noCall caller _ enabled)
  | callReturn caller tuple =>
      refine ⟨lost.joining, lost.blocked, ?_⟩
      rintro ⟨other, before⟩
      apply lost.quiet
      refine ⟨other, ?_⟩
      by_cases same : other = caller
      · subst same
        simp only [next, Function.update_self] at before
        exact before.elim
      · simp only [next, Function.update_of_ne same] at before
        exact before
  | spuriousWake => exact undisturbed.elim
  | lock => exact absurd enabled.1 (noWorker _ (by decide))
  | wake => exact absurd enabled.1 (noWorker _ (by decide))
  | dispatched tuple => exact absurd enabled.1 (noWorker _ (by simp))
  | relock tuple => exact absurd enabled.1 (noWorker _ (by simp))
  | destructorStop => cases lost.joining.symm.trans enabled
  | destructorNotify => cases lost.joining.symm.trans enabled
  | destructorJoin => exact absurd enabled.2 (noWorker _ (by decide))
  | _ => exact absurd enabled (noWorker _ (by simp))

/-- After a lost wake-up `~myBus` does not return. -/
theorem lostWakeup_never_returns
    {state later : State Thread}
    (lost : LostWakeup state)
    (run : Run (bus Thread) Undisturbed state later) :
    later.destructor = .join :=
  (Run.invariant run lost lostWakeup_next).joining

/-! ## The tuples that the worker still hands over -/

/-- The tuples which the worker hands over before it tests `stop_` again. -/
def committed : WorkerPoint → Nat
  | .test => 0
  | .dispatching _ => 0
  | .relock _ => 0
  | .pop _ => 0
  | .exited => 0
  | _ => 1

/-- Handed over, counting the round that the worker is in. -/
def handOvers (state : State Thread) : Nat :=
  state.handed.length + committed state.worker

/--
After `stop_` is set, `limit` bounds what is handed over, and the worker does
not fall behind `due` completed calls unless the limit does.
-/
structure Draining (limit due : Nat) (state : State Thread) : Prop where
  fifo : Fifo state
  stopped : state.stop = true
  completed : due ≤ state.completed.length
  bounded : handOvers state ≤ limit
  served : due ≤ limit → due ≤ handOvers state

theorem Draining.keep
    {state : State Thread} {label : Label Thread} {limit due : Nat}
    (draining : Draining limit due state)
    (enabled : Enabled state label)
    (sameStop : (next state label).stop = true)
    (same : handOvers (next state label) = handOvers state) :
    Draining limit due (next state label) where
  fifo := fifo_next state label draining.fifo enabled
  stopped := sameStop
  completed := by
    rw [completed_next, List.length_append]
    exact Nat.le_add_right_of_le draining.completed
  bounded := same ▸ draining.bounded
  served := same ▸ draining.served

end ServerUtils.Bus.Shutdown
