import Mathlib.Algebra.BigOperators.Group.Finset.Basic
import ServerUtils.Bus.Shutdown

/-!
# Every accepted message is served

As long as `~myBus` has not begun, no schedule gets the bus stuck.  A measure
over the callers, the queue and the worker falls with every step that is not
a new call or a spurious wake-up, so the calls under way and the worker come
to rest after a bounded number of steps, whoever takes them.  Where they rest,
no call is left and everything accepted has been handed to `sendMsg_`.  A
callback that returns is a step of the schedule.
-/

namespace ServerUtils.Bus.Progress

open ServerUtils.Foundation.Transition
open ServerUtils.Parser.StdString
open ServerUtils.Bus.Queue
open ServerUtils.Bus.QueueFifo
open ServerUtils.Bus.Shutdown

variable {Thread : Type} [DecidableEq Thread]

/-- The steps of the threads which are in the bus already.  A spurious wake-up
is none of them: the system may wake the worker as often as it likes. -/
def Settling (_ : State Thread) : Label Thread → Prop
  | .call _ _ => False
  | .spuriousWake => False
  | .destructorStop => False
  | _ => True

/-! ## The worker waits only when there is nothing to do -/

/-- A call has pushed its tuple and is about to notify. -/
def Announcing (state : State Thread) : Prop :=
  ∃ caller tuple, state.callers caller = .pushed tuple

/-- A bus whose destructor has not begun. -/
structure Running (state : State Thread) : Prop where
  stop : state.stop = false
  loops : state.worker ≠ .exited
  examining : state.worker = .examine → state.queue ≠ []
  announced : Waits state.worker → state.queue ≠ [] → Announcing state

section Steps

variable {state state' : State Thread}

omit [DecidableEq Thread] in
/-- A step after which the worker neither waits nor examines the queue. -/
theorem Running.move
    (running : Running state)
    (sameStop : state'.stop = state.stop)
    (loops : state'.worker ≠ .exited)
    (notExamine : state'.worker ≠ .examine)
    (notWaits : ¬ Waits state'.worker) :
    Running state' where
  stop := sameStop.trans running.stop
  loops := loops
  examining := fun isExamine => absurd isExamine notExamine
  announced := fun waits => absurd waits notWaits

/-- A caller moves, and the queue stays as it is. -/
theorem Running.caller
    (running : Running state)
    (sameStop : state'.stop = state.stop)
    (sameWorker : state'.worker = state.worker)
    (sameQueue : state'.queue = state.queue)
    {caller : Caller Thread} {point : CallerPoint}
    (moved : state'.callers = Function.update state.callers caller point)
    (wasNotPushed : ∀ tuple, state.callers caller ≠ .pushed tuple) :
    Running state' where
  stop := sameStop.trans running.stop
  loops := by
    rw [sameWorker]
    exact running.loops
  examining := by
    rw [sameWorker, sameQueue]
    exact running.examining
  announced := by
    rw [sameWorker, sameQueue]
    intro waits nonempty
    rcases running.announced waits nonempty with ⟨other, tuple, isPushed⟩
    have different : other ≠ caller := by
      rintro rfl
      exact wasNotPushed tuple isPushed
    refine ⟨other, tuple, ?_⟩
    rw [moved, Function.update_of_ne different]
    exact isPushed

end Steps

theorem running_next
    (state : State Thread) (label : Label Thread)
    (ok : MutexOk state) (running : Running state)
    (enabled : Enabled state label)
    (notDestroyed : (next state label).destructor = .notStarted) :
    Running (next state label) := by
  cases label with
  | call caller tuple =>
      refine running.caller rfl rfl rfl rfl fun other => ?_
      rw [enabled.1]
      rintro ⟨⟩
  | callLock caller tuple =>
      refine running.caller rfl rfl rfl rfl fun other => ?_
      rw [enabled.1]
      rintro ⟨⟩
  | callPush caller tuple =>
      refine ⟨running.stop, running.loops, ?_, ?_⟩
      · intro _
        exact List.append_ne_nil_of_right_ne_nil _ (List.cons_ne_nil _ _)
      · intro _ _
        exact ⟨caller, tuple, Function.update_self _ _ _⟩
  | callNotify caller tuple =>
      -- the caller has the mutex, so the worker is not about to block
      have owner : state.mutex = some (.caller caller) := by
        apply (ok (.caller caller)).mp
        rw [inside, enabled]
        exact List.cons_ne_nil _ _
      have outside : ¬ workerHolds state.worker := by
        intro holds
        have workerOwns : state.mutex = some .worker := (ok .worker).mp holds
        cases owner.symm.trans workerOwns
      have notHolds : ¬ workerHolds (notifyAll state.worker) := by
        rwa [workerHolds_notifyAll]
      refine running.move rfl ?_ ?_ ?_
      · show notifyAll state.worker ≠ .exited
        rw [notifyAll]
        split_ifs
        · rintro ⟨⟩
        · exact running.loops
      · intro isExamine
        apply notHolds
        rw [show notifyAll state.worker = .examine from isExamine]
        trivial
      · intro waits
        apply outside
        rw [eq_block_of_waits_notifyAll waits]
        trivial
  | callReturn caller tuple =>
      refine running.caller rfl rfl rfl rfl fun other => ?_
      rw [enabled]
      rintro ⟨⟩
  | test =>
      have isNext : (next state .test).worker = .lock := by
        simp only [next, running.stop]
        rfl
      refine running.move rfl ?_ ?_ ?_ <;> rw [isNext]
      · rintro ⟨⟩
      · rintro ⟨⟩
      · exact not_false
  | predicate =>
      cases isQueue : state.queue with
      | nil =>
          have isNext : (next state .predicate).worker = .block := by
            simp only [next, running.stop, isQueue]
            rfl
          refine ⟨running.stop, ?_, ?_, fun _ nonempty => ?_⟩
          · rw [isNext]
            rintro ⟨⟩
          · rw [isNext]
            rintro ⟨⟩
          · exact absurd isQueue nonempty
      | cons front rest =>
          have isNext : (next state .predicate).worker = .examine := by
            simp only [next, running.stop, isQueue]
            rfl
          have nonempty : (next state .predicate).queue ≠ [] := by
            show state.queue ≠ []
            rw [isQueue]
            exact List.cons_ne_nil _ _
          refine ⟨running.stop, ?_, fun _ => nonempty, ?_⟩
          · rw [isNext]
            rintro ⟨⟩
          · rw [isNext]
            exact fun waits => waits.elim
  | block =>
      refine ⟨running.stop, by rintro ⟨⟩, by rintro ⟨⟩, fun _ => ?_⟩
      apply running.announced
      rw [enabled]
      trivial
  | examine =>
      have nonempty := running.examining enabled
      simp only [next] at notDestroyed ⊢
      split
      · rename_i isEmpty
        exact absurd isEmpty nonempty
      · refine running.move rfl ?_ ?_ not_false
        · rintro ⟨⟩
        · rintro ⟨⟩
  | destructorStop => cases notDestroyed
  | destructorNotify => cases notDestroyed
  | destructorJoin => cases notDestroyed
  | _ => exact running.move rfl (by rintro ⟨⟩) (by rintro ⟨⟩) not_false

/-- A bus whose destructor has not begun runs. -/
structure Alive (state : State Thread) : Prop where
  fifo : Fifo state
  running : state.destructor = .notStarted → Running state

theorem destructor_of_next
    {state : State Thread} {label : Label Thread}
    (notDestroyed : (next state label).destructor = .notStarted) :
    state.destructor = .notStarted := by
  cases label with
  | examine =>
      simp only [next] at notDestroyed
      split at notDestroyed <;> exact notDestroyed
  | destructorStop => cases notDestroyed
  | destructorNotify => cases notDestroyed
  | destructorJoin => cases notDestroyed
  | _ => exact notDestroyed

theorem alive_next
    (state : State Thread) (label : Label Thread)
    (alive : Alive state) (enabled : Enabled state label) :
    Alive (next state label) where
  fifo := fifo_next state label alive.fifo enabled
  running := by
    intro notDestroyed
    exact running_next state label alive.fifo.mutex
      (alive.running (destructor_of_next notDestroyed)) enabled notDestroyed

theorem alive_of_reachable
    {state : State Thread} (reachable : Reachable (bus Thread) state) :
    Alive state := by
  apply Run.invariant reachable
  · exact ⟨fifo_initial, fun _ => ⟨rfl, by rintro ⟨⟩, by rintro ⟨⟩,
      fun waits => waits.elim⟩⟩
  · intro state label alive enabled _
    exact alive_next state label alive enabled

/-! ## The measure -/

/-- The steps that a call has to go. -/
def callerWeight : CallerPoint → Nat
  | .idle => 0
  | .entered _ => 4
  | .locked _ => 3
  | .pushed _ => 2
  | .notified _ => 1

/-- The steps that the worker has to go in this round, if it does not wait. -/
def workerWeight : WorkerPoint → Nat
  | .test => 9
  | .lock => 8
  | .woken => 8
  | .predicate => 7
  | .examine => 6
  | .unlock _ => 5
  | .send _ => 4
  | .dispatching _ => 3
  | .relock _ => 2
  | .pop _ => 1
  | .block => 1
  | .blocked => 0
  | .exited => 0

/-- Only these callers are inside `sendMsg`. -/
def UnderWay
    (callers : Finset (Caller Thread)) (state : State Thread) : Prop :=
  ∀ caller, state.callers caller ≠ .idle → caller ∈ callers

/-- A queued tuple is worth a round of the worker, a call is worth more. -/
def measure
    (callers : Finset (Caller Thread)) (state : State Thread) : Nat :=
  10 * (∑ caller ∈ callers, callerWeight (state.callers caller)) +
    9 * state.queue.length + workerWeight state.worker

section Measure

variable {callers : Finset (Caller Thread)} {state : State Thread}

theorem sum_callerWeight_update
    (points : Caller Thread → CallerPoint) {caller : Caller Thread}
    (isMember : caller ∈ callers) (point : CallerPoint) :
    (∑ other ∈ callers,
        callerWeight (Function.update points caller point other)) +
        callerWeight (points caller) =
      (∑ other ∈ callers, callerWeight (points other)) +
        callerWeight point := by
  have others : (∑ other ∈ callers.erase caller,
        callerWeight (Function.update points caller point other)) =
      ∑ other ∈ callers.erase caller, callerWeight (points other) := by
    apply Finset.sum_congr rfl
    intro other isOther
    rw [Function.update_of_ne (Finset.ne_of_mem_erase isOther)]
  rw [← Finset.add_sum_erase callers _ isMember,
    ← Finset.add_sum_erase callers (fun other => callerWeight (points other))
      isMember, others, Function.update_self]
  omega

theorem workerWeight_notifyAll (point : WorkerPoint) :
    workerWeight (notifyAll point) ≤ workerWeight point + 8 := by
  cases point <;> simp [notifyAll, workerWeight]

omit [DecidableEq Thread] in
/-- A call that goes on is one of those under way. -/
theorem mem_of_underWay
    (underWay : UnderWay callers state) {caller : Caller Thread}
    {point : CallerPoint} (isAt : state.callers caller = point)
    (busy : point ≠ .idle) :
    caller ∈ callers := by
  apply underWay
  rwa [isAt]

theorem underWay_update
    {caller : Caller Thread} {point : CallerPoint} {state' : State Thread}
    (underWay : UnderWay callers state)
    (moved : state'.callers = Function.update state.callers caller point)
    (isMember : caller ∈ callers) :
    UnderWay callers state' := by
  intro other busy
  by_cases same : other = caller
  · rwa [same]
  · rw [moved, Function.update_of_ne same] at busy
    exact underWay other busy

/-- A call that takes a step lowers the sum of the callers by one. -/
theorem measure_caller
    {caller : Caller Thread} {point : CallerPoint} {state' : State Thread}
    (isMember : caller ∈ callers)
    (moved : state'.callers = Function.update state.callers caller point)
    (lower : callerWeight point + 1 = callerWeight (state.callers caller))
    (pays : 9 * state'.queue.length + workerWeight state'.worker <
      9 * state.queue.length + workerWeight state.worker + 10) :
    measure callers state' < measure callers state := by
  have sum := sum_callerWeight_update state.callers isMember point
  rw [← moved] at sum
  rw [measure, measure]
  omega

omit [DecidableEq Thread] in
/-- A step of the worker within a round. -/
theorem measure_worker
    {point : WorkerPoint} {state' : State Thread}
    (isAt : state.worker = point)
    (sameCallers : state'.callers = state.callers)
    (sameQueue : state'.queue = state.queue)
    (lower : workerWeight state'.worker < workerWeight point) :
    measure callers state' < measure callers state := by
  rw [measure, measure, sameCallers, sameQueue, isAt]
  exact Nat.add_lt_add_left lower _

end Measure

/-- What a schedule that settles relies on. -/
structure Settles
    (callers : Finset (Caller Thread)) (state : State Thread) : Prop where
  alive : Alive state
  notDestroyed : state.destructor = .notStarted
  underWay : UnderWay callers state

omit [DecidableEq Thread] in
theorem Settles.running
    {callers : Finset (Caller Thread)} {state : State Thread}
    (settles : Settles callers state) : Running state :=
  settles.alive.running settles.notDestroyed

theorem measure_next
    (callers : Finset (Caller Thread)) (state : State Thread)
    (label : Label Thread)
    (settles : Settles callers state) (enabled : Enabled state label)
    (settling : Settling state label) :
    measure callers (next state label) < measure callers state := by
  have running := settles.running
  cases label with
  | call caller tuple => exact settling.elim
  | callLock caller tuple =>
      refine measure_caller (mem_of_underWay settles.underWay enabled.1
        (by rintro ⟨⟩)) rfl (by rw [enabled.1]; rfl) ?_
      exact Nat.lt_add_of_pos_right (by decide)
  | callPush caller tuple =>
      refine measure_caller (mem_of_underWay settles.underWay enabled
        (by rintro ⟨⟩)) rfl (by rw [enabled]; rfl) ?_
      simp only [next, List.length_append, List.length_singleton]
      omega
  | callNotify caller tuple =>
      refine measure_caller (mem_of_underWay settles.underWay enabled
        (by rintro ⟨⟩)) rfl (by rw [enabled]; rfl) ?_
      have woken := workerWeight_notifyAll state.worker
      simp only [next]
      omega
  | callReturn caller tuple =>
      refine measure_caller (mem_of_underWay settles.underWay enabled
        (by rintro ⟨⟩)) rfl (by rw [enabled]; rfl) ?_
      exact Nat.lt_add_of_pos_right (by decide)
  | test =>
      have isNext : (next state .test).worker = .lock := by
        simp only [next, running.stop]
        rfl
      refine measure_worker enabled rfl rfl ?_
      rw [isNext]
      exact Nat.lt_succ_self 8
  | lock => exact measure_worker enabled.1 rfl rfl (Nat.lt_succ_self 7)
  | predicate =>
      refine measure_worker enabled rfl rfl ?_
      simp only [next]
      split_ifs
      · exact Nat.lt_succ_self 6
      · exact Nat.lt_of_sub_eq_succ rfl
  | block => exact measure_worker enabled rfl rfl (Nat.lt_succ_self 0)
  | spuriousWake => exact settling.elim
  | wake => exact measure_worker enabled.1 rfl rfl (Nat.lt_succ_self 7)
  | examine =>
      have nonempty := running.examining enabled
      simp only [next]
      split
      · rename_i isEmpty
        exact absurd isEmpty nonempty
      · exact measure_worker enabled rfl rfl (Nat.lt_succ_self 5)
  | unlock tuple => exact measure_worker enabled rfl rfl (Nat.lt_succ_self 4)
  | send tuple => exact measure_worker enabled rfl rfl (Nat.lt_succ_self 3)
  | dispatched tuple =>
      exact measure_worker enabled.1 rfl rfl (Nat.lt_succ_self 2)
  | relock tuple =>
      exact measure_worker enabled.1 rfl rfl (Nat.lt_succ_self 1)
  | pop tuple =>
      -- the popped tuple is still in the queue, and pays for the next round
      have isAt : state.worker = .pop tuple := enabled
      have isFront : FrontAt state.queue state.handed state.worker :=
        settles.alive.fifo.front
      rw [isAt] at isFront
      have length : state.queue.length = state.queue.tail.length + 1 := by
        rw [← List.cons_head?_tail isFront.1]
        rfl
      simp only [measure, next, isAt, workerWeight]
      omega
  | destructorStop => exact settling.elim
  | destructorNotify => cases settles.notDestroyed.symm.trans enabled
  | destructorJoin => cases settles.notDestroyed.symm.trans enabled.1

theorem settles_next
    (callers : Finset (Caller Thread)) (state : State Thread)
    (label : Label Thread)
    (settles : Settles callers state) (enabled : Enabled state label)
    (settling : Settling state label) :
    Settles callers (next state label) := by
  have alive := alive_next state label settles.alive enabled
  have underWay := settles.underWay
  have keeps : ∀ {state' : State Thread}, Alive state' →
      state'.destructor = state.destructor →
      state'.callers = state.callers → Settles callers state' := by
    intro state' isAlive sameDestructor sameCallers
    refine ⟨isAlive, sameDestructor.trans settles.notDestroyed, ?_⟩
    rw [UnderWay, sameCallers]
    exact underWay
  cases label with
  | call caller tuple => exact settling.elim
  | callLock caller tuple =>
      exact ⟨alive, settles.notDestroyed, underWay_update underWay rfl
        (mem_of_underWay underWay enabled.1 (by rintro ⟨⟩))⟩
  | callPush caller tuple =>
      exact ⟨alive, settles.notDestroyed, underWay_update underWay rfl
        (mem_of_underWay underWay enabled (by rintro ⟨⟩))⟩
  | callNotify caller tuple =>
      exact ⟨alive, settles.notDestroyed, underWay_update underWay rfl
        (mem_of_underWay underWay enabled (by rintro ⟨⟩))⟩
  | callReturn caller tuple =>
      exact ⟨alive, settles.notDestroyed, underWay_update underWay rfl
        (mem_of_underWay underWay enabled (by rintro ⟨⟩))⟩
  | examine =>
      apply keeps alive
      · simp only [next]
        split <;> rfl
      · simp only [next]
        split <;> rfl
  | destructorStop => exact settling.elim
  | destructorNotify => cases settles.notDestroyed.symm.trans enabled
  | destructorJoin => cases settles.notDestroyed.symm.trans enabled.1
  | _ => exact keeps alive rfl rfl

/-! ## Where a schedule comes to rest -/

/-- The bus has nothing left to do: no call is under way, the worker waits,
and what was accepted has been handed over. -/
structure AtRest (state : State Thread) : Prop where
  idle : ∀ caller, state.callers caller = .idle
  waits : state.worker = .blocked
  empty : state.queue = []
  handed : state.handed = state.acquired
  completed : state.completed = state.acquired

section Rest

variable {state : State Thread}

/-- Whoever holds the mutex can go on. -/
theorem free_of_settled
    (ok : MutexOk state) (settled : Settled (bus Thread) Settling state) :
    state.mutex = none := by
  have stuck : ∀ label, Settling state label → ¬ Enabled state label :=
    fun label settling enabled => settled label enabled settling
  cases isOwner : state.mutex with
  | none => rfl
  | some holder =>
      exfalso
      cases holder with
      | worker =>
          have holds : workerHolds state.worker := (ok .worker).mpr isOwner
          cases isAt : state.worker with
          | predicate => exact stuck .predicate True.intro isAt
          | block => exact stuck .block True.intro isAt
          | examine => exact stuck .examine True.intro isAt
          | unlock tuple => exact stuck (.unlock tuple) True.intro isAt
          | pop tuple => exact stuck (.pop tuple) True.intro isAt
          | _ =>
              rw [isAt] at holds
              exact holds
      | caller caller =>
          have holds : inCall (state.callers caller) ≠ [] :=
            (ok (.caller caller)).mpr isOwner
          cases isAt : state.callers caller with
          | locked tuple => exact stuck (.callPush caller tuple) True.intro isAt
          | pushed tuple =>
              exact stuck (.callNotify caller tuple) True.intro isAt
          | notified tuple =>
              exact stuck (.callReturn caller tuple) True.intro isAt
          | _ =>
              rw [isAt] at holds
              exact holds rfl

/-- With the mutex free, every call can go on. -/
theorem idle_of_settled
    (free : state.mutex = none)
    (settled : Settled (bus Thread) Settling state)
    (caller : Caller Thread) :
    state.callers caller = .idle := by
  have stuck : ∀ label, Settling state label → ¬ Enabled state label :=
    fun label settling enabled => settled label enabled settling
  cases isAt : state.callers caller with
  | idle => rfl
  | entered tuple =>
      exact absurd ⟨isAt, free⟩ (stuck (.callLock caller tuple) True.intro)
  | locked tuple =>
      exact absurd isAt (stuck (.callPush caller tuple) True.intro)
  | pushed tuple =>
      exact absurd isAt (stuck (.callNotify caller tuple) True.intro)
  | notified tuple =>
      exact absurd isAt (stuck (.callReturn caller tuple) True.intro)

/-- With the mutex free and no call under way, only a wait stops the
worker. -/
theorem blocked_of_settled
    (free : state.mutex = none)
    (idle : ∀ caller, state.callers caller = .idle)
    (loops : state.worker ≠ .exited)
    (settled : Settled (bus Thread) Settling state) :
    state.worker = .blocked := by
  have stuck : ∀ label, Settling state label → ¬ Enabled state label :=
    fun label settling enabled => settled label enabled settling
  cases isAt : state.worker with
  | test => exact absurd isAt (stuck .test True.intro)
  | lock => exact absurd ⟨isAt, free⟩ (stuck .lock True.intro)
  | predicate => exact absurd isAt (stuck .predicate True.intro)
  | block => exact absurd isAt (stuck .block True.intro)
  | blocked => rfl
  | woken => exact absurd ⟨isAt, free⟩ (stuck .wake True.intro)
  | examine => exact absurd isAt (stuck .examine True.intro)
  | unlock tuple => exact absurd isAt (stuck (.unlock tuple) True.intro)
  | send tuple => exact absurd isAt (stuck (.send tuple) True.intro)
  | dispatching tuple =>
      exact absurd ⟨isAt, idle .callback⟩
        (stuck (.dispatched tuple) True.intro)
  | relock tuple =>
      exact absurd ⟨isAt, free⟩ (stuck (.relock tuple) True.intro)
  | pop tuple => exact absurd isAt (stuck (.pop tuple) True.intro)
  | exited => exact absurd isAt loops

theorem atRest_of_settled
    (fifo : Fifo state) (running : Running state)
    (settled : Settled (bus Thread) Settling state) :
    AtRest state := by
  have free := free_of_settled fifo.mutex settled
  have idle := idle_of_settled free settled
  have waits := blocked_of_settled free idle running.loops settled
  have empty : state.queue = [] := by
    by_contra nonempty
    have isWaiting : Waits state.worker := by
      rw [waits]
      trivial
    rcases running.announced isWaiting nonempty with ⟨caller, tuple, isAt⟩
    cases (idle caller).symm.trans isAt
  have order := fifo.order
  have completed := fifo.completed
  rw [held_of_free free, List.append_nil] at order completed
  refine ⟨idle, waits, empty, ?_, completed⟩
  rw [← order, stream, notHanded, waits, empty]
  exact (List.append_nil _).symm

end Rest

/-! ## Every schedule serves the calls -/

/-- Only finitely many callers are inside `sendMsg` at a time. -/
theorem exists_underWay
    {state : State Thread} (reachable : Reachable (bus Thread) state) :
    ∃ callers, UnderWay callers state := by
  apply Run.invariant reachable
  · exact ⟨∅, fun caller busy => absurd rfl busy⟩
  · rintro state label ⟨callers, underWay⟩ enabled _
    have joins : ∀ caller point (state' : State Thread),
        state'.callers = Function.update state.callers caller point →
          ∃ callers', UnderWay callers' state' := by
      intro caller point state' moved
      have wider : UnderWay (insert caller callers) state :=
        fun other busy => Finset.mem_insert_of_mem (underWay other busy)
      exact ⟨_, underWay_update wider moved (Finset.mem_insert_self _ _)⟩
    cases label with
    | call caller tuple => exact joins caller _ _ rfl
    | callLock caller tuple => exact joins caller _ _ rfl
    | callPush caller tuple => exact joins caller _ _ rfl
    | callNotify caller tuple => exact joins caller _ _ rfl
    | callReturn caller tuple => exact joins caller _ _ rfl
    | examine =>
        refine ⟨callers, ?_⟩
        simp only [bus, next]
        split <;> exact underWay
    | _ => exact ⟨callers, underWay⟩

/-- The call is waiting for the mutex, or its tuple has been accepted. -/
def Accepted
    (caller : Caller Thread) (tuple : QueueTuple) (state : State Thread) :
    Prop :=
  state.callers caller = .entered tuple ∨ tuple ∈ state.acquired

theorem accepted_next
    (caller : Caller Thread) (tuple : QueueTuple)
    (state : State Thread) (label : Label Thread)
    (accepted : Accepted caller tuple state) (enabled : Enabled state label) :
    Accepted caller tuple (next state label) := by
  rcases accepted with isEntered | isAcquired
  · -- the caller is not at the point from which another step moves it
    have stays : ∀ other point (state' : State Thread),
        state.callers other ≠ .entered tuple →
        state'.callers = Function.update state.callers other point →
          Accepted caller tuple state' := by
      intro other point state' notEntered moved
      have different : caller ≠ other := by
        rintro rfl
        exact notEntered isEntered
      refine .inl ?_
      rw [moved, Function.update_of_ne different]
      exact isEntered
    cases label with
    | call other otherTuple =>
        exact stays other _ _ (by rw [enabled.1]; rintro ⟨⟩) rfl
    | callLock other otherTuple =>
        by_cases same : caller = other
        · subst same
          cases isEntered.symm.trans enabled.1
          exact .inr List.mem_concat_self
        · refine .inl ?_
          simp only [next, Function.update_of_ne same]
          exact isEntered
    | callPush other otherTuple =>
        exact stays other _ _ (by rw [enabled]; rintro ⟨⟩) rfl
    | callNotify other otherTuple =>
        exact stays other _ _ (by rw [enabled]; rintro ⟨⟩) rfl
    | callReturn other otherTuple =>
        exact stays other _ _ (by rw [enabled]; rintro ⟨⟩) rfl
    | examine =>
        refine .inl ?_
        simp only [next]
        split <;> exact isEntered
    | _ => exact .inl isEntered
  · refine .inr ?_
    rw [acquired_next]
    exact List.mem_append_left _ isAcquired

theorem acquired_mono
    {allowed : State Thread → Label Thread → Prop}
    {earlier later : State Thread}
    (run : Run (bus Thread) allowed earlier later) :
    earlier.acquired <+: later.acquired := by
  apply Run.invariant run (List.prefix_refl _)
  intro state label isPrefix _ _
  exact isPrefix.trans ⟨_, (acquired_next state label).symm⟩

/--
From any reachable state in which the destructor has not begun, the calls
under way and the worker can only take a bounded number of steps.  Whatever
the schedule, where none is left the bus is at rest: everything accepted has
been handed over in order, and so has the tuple of every call that had begun.
-/
theorem settling_serves_every_call
    (state : State Thread) (reachable : Reachable (bus Thread) state)
    (notDestroyed : state.destructor = .notStarted) :
    ∃ bound, ∀ labels, Follows (bus Thread) Settling state labels →
      labels.length ≤ bound ∧
      (Settled (bus Thread) Settling (follow (bus Thread) state labels) →
        AtRest (follow (bus Thread) state labels) ∧
        state.acquired <+: (follow (bus Thread) state labels).handed ∧
        ∀ caller tuple, state.callers caller = .entered tuple →
          tuple ∈ (follow (bus Thread) state labels).handed) := by
  rcases exists_underWay reachable with ⟨callers, underWay⟩
  have start : Settles callers state :=
    ⟨alive_of_reachable reachable, notDestroyed, underWay⟩
  refine ⟨measure callers state, fun labels follows => ⟨?_, ?_⟩⟩
  · exact length_le_of_decreasing start
      (fun state label => settles_next callers state label)
      (fun state label => measure_next callers state label) follows
  · intro settled
    have run := run_follow follows
    have settles : Settles callers (follow (bus Thread) state labels) :=
      Run.invariant run start
        fun state label => settles_next callers state label
    have rest := atRest_of_settled settles.alive.fifo settles.running settled
    refine ⟨rest, ?_, ?_⟩
    · rw [rest.handed]
      exact acquired_mono run
    · intro caller tuple isEntered
      have accepted :
          Accepted caller tuple (follow (bus Thread) state labels) := by
        apply Run.invariant run (.inl isEntered)
        intro state label accepted enabled _
        exact accepted_next caller tuple state label accepted enabled
      rw [rest.handed]
      rcases accepted with stillEntered | isAcquired
      · cases (rest.idle caller).symm.trans stillEntered
      · exact isAcquired

def hello : QueueTuple := ⟨str "Room1", str "hello", str "cli1"⟩

def world : QueueTuple := ⟨str "Room1", str "world", str "cli2"⟩

/-- Two threads have called, and one of them holds the mutex. -/
def contendedState : State Bool :=
  follow (bus Bool) initial
    [ .call (.thread true) hello, .call (.thread false) world,
      .callLock (.thread true) hello, .test ]

theorem contendedState_settling_serves :
    ∃ bound, ∀ labels,
      Follows (bus Bool) Settling contendedState labels →
        labels.length ≤ bound ∧
        (Settled (bus Bool) Settling
            (follow (bus Bool) contendedState labels) →
          AtRest (follow (bus Bool) contendedState labels) ∧
          contendedState.acquired <+:
            (follow (bus Bool) contendedState labels).handed ∧
          ∀ caller tuple,
            contendedState.callers caller = .entered tuple →
              tuple ∈ (follow (bus Bool) contendedState labels).handed) := by
  refine settling_serves_every_call _ (run_follow ?_) rfl
  refine ⟨⟨rfl, by rintro ⟨⟩⟩, trivial, ⟨rfl, by rintro ⟨⟩⟩, trivial,
    ⟨rfl, rfl⟩, trivial, rfl, trivial, trivial⟩

end ServerUtils.Bus.Progress
