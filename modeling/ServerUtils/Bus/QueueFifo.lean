import Mathlib.Data.List.Basic
import ServerUtils.Bus.Queue

/-!
# The queue of the bus is an exactly-once FIFO

The worker releases the mutex between copying the front of the queue and
popping it, and other threads and callbacks push in between.  The invariant
ties the worker's program point to the front of the queue: a tuple which is
copied, handed over or about to be popped is still the front.
-/

namespace ServerUtils.Bus.QueueFifo

open ServerUtils.Foundation.Transition
open ServerUtils.Parser.StdString
open ServerUtils.Bus.Queue

variable {Thread : Type} [DecidableEq Thread]

/-! ## Mutual exclusion -/

/-- The tuple of a caller that holds the mutex. -/
def inCall : CallerPoint → List QueueTuple
  | .idle => []
  | .entered _ => []
  | .locked tuple => [tuple]
  | .pushed tuple => [tuple]
  | .notified tuple => [tuple]

/-- The program points at which the worker holds the mutex. -/
def workerHolds : WorkerPoint → Prop
  | .predicate => True
  | .block => True
  | .examine => True
  | .unlock _ => True
  | .pop _ => True
  | _ => False

/-- Who is inside a critical section of `mutex_`. -/
def inside (state : State Thread) : Holder Thread → Prop
  | .worker => workerHolds state.worker
  | .caller caller => inCall (state.callers caller) ≠ []

/-- The mutex is held by exactly the thread in its critical section. -/
def MutexOk (state : State Thread) : Prop :=
  Exclusive state.mutex (inside state)

section Steps

variable {state state' : State Thread}

omit [DecidableEq Thread] in
theorem inside_of_ne_worker
    (sameCallers : state'.callers = state.callers)
    (holder : Holder Thread) (other : holder ≠ .worker) :
    inside state' holder ↔ inside state holder := by
  cases holder with
  | worker => exact absurd rfl other
  | caller caller => simp only [inside, sameCallers]

omit [DecidableEq Thread] in
theorem MutexOk.worker_keeps
    (ok : MutexOk state)
    (sameMutex : state'.mutex = state.mutex)
    (sameCallers : state'.callers = state.callers)
    (same : workerHolds state'.worker ↔ workerHolds state.worker) :
    MutexOk state' := by
  rw [MutexOk, sameMutex]
  apply Exclusive.keep ok
  intro holder
  by_cases isWorker : holder = .worker
  · subst isWorker
    exact same
  · exact inside_of_ne_worker sameCallers holder isWorker

omit [DecidableEq Thread] in
theorem MutexOk.worker_acquires
    (ok : MutexOk state) (free : state.mutex = none)
    (taken : state'.mutex = some .worker)
    (sameCallers : state'.callers = state.callers)
    (enters : workerHolds state'.worker) :
    MutexOk state' := by
  rw [MutexOk, free] at ok
  rw [MutexOk, taken]
  exact Exclusive.acquire ok enters (inside_of_ne_worker sameCallers)

omit [DecidableEq Thread] in
theorem MutexOk.worker_releases
    (ok : MutexOk state) (holds : workerHolds state.worker)
    (free : state'.mutex = none)
    (sameCallers : state'.callers = state.callers)
    (leaves : ¬ workerHolds state'.worker) :
    MutexOk state' := by
  have isInside : inside state .worker := holds
  rw [MutexOk, free]
  exact Exclusive.release ok isInside leaves
    (inside_of_ne_worker sameCallers)

variable {caller : Caller Thread} {point : CallerPoint}

theorem inside_of_ne_caller
    (sameWorker : workerHolds state'.worker ↔ workerHolds state.worker)
    (moved : state'.callers = Function.update state.callers caller point)
    (holder : Holder Thread) (other : holder ≠ .caller caller) :
    inside state' holder ↔ inside state holder := by
  cases holder with
  | worker => exact sameWorker
  | caller participant =>
      have different : participant ≠ caller := by
        rintro rfl
        exact other rfl
      simp only [inside, moved, Function.update_of_ne different]

theorem inside_caller
    (moved : state'.callers = Function.update state.callers caller point) :
    inside state' (.caller caller) ↔ inCall point ≠ [] := by
  simp only [inside, moved, Function.update_self]

theorem MutexOk.caller_keeps
    (ok : MutexOk state)
    (sameMutex : state'.mutex = state.mutex)
    (sameWorker : workerHolds state'.worker ↔ workerHolds state.worker)
    (moved : state'.callers = Function.update state.callers caller point)
    (same : inCall point = inCall (state.callers caller)) :
    MutexOk state' := by
  rw [MutexOk, sameMutex]
  apply Exclusive.keep ok
  intro holder
  by_cases isCaller : holder = .caller caller
  · subst isCaller
    rw [inside_caller moved, same]
    exact Iff.rfl
  · exact inside_of_ne_caller sameWorker moved holder isCaller

theorem MutexOk.caller_acquires
    (ok : MutexOk state) (free : state.mutex = none)
    (taken : state'.mutex = some (.caller caller))
    (sameWorker : workerHolds state'.worker ↔ workerHolds state.worker)
    (moved : state'.callers = Function.update state.callers caller point)
    (enters : inCall point ≠ []) :
    MutexOk state' := by
  rw [MutexOk, free] at ok
  rw [MutexOk, taken]
  exact Exclusive.acquire ok ((inside_caller moved).mpr enters)
    (inside_of_ne_caller sameWorker moved)

theorem MutexOk.caller_releases
    (ok : MutexOk state) (holds : inCall (state.callers caller) ≠ [])
    (free : state'.mutex = none)
    (sameWorker : workerHolds state'.worker ↔ workerHolds state.worker)
    (moved : state'.callers = Function.update state.callers caller point)
    (leaves : inCall point = []) :
    MutexOk state' := by
  have isInside : inside state (.caller caller) := holds
  rw [MutexOk, free]
  refine Exclusive.release ok isInside ?_
    (inside_of_ne_caller sameWorker moved)
  rw [inside_caller moved, leaves]
  exact fun nonempty => nonempty rfl

end Steps

theorem workerHolds_notifyAll (point : WorkerPoint) :
    workerHolds (notifyAll point) ↔ workerHolds point := by
  cases point <;> exact Iff.rfl

theorem mutexOk_next
    (state : State Thread) (label : Label Thread)
    (ok : MutexOk state) (enabled : Enabled state label) :
    MutexOk (next state label) := by
  cases label with
  | call caller tuple =>
      exact ok.caller_keeps rfl Iff.rfl rfl (by rw [enabled.1]; rfl)
  | callLock caller tuple =>
      exact ok.caller_acquires enabled.2 rfl Iff.rfl rfl
        (List.cons_ne_nil _ _)
  | callPush caller tuple =>
      exact ok.caller_keeps rfl Iff.rfl rfl (by rw [enabled]; rfl)
  | callNotify caller tuple =>
      exact ok.caller_keeps rfl (workerHolds_notifyAll _) rfl
        (by rw [enabled]; rfl)
  | callReturn caller tuple =>
      refine ok.caller_releases ?_ rfl Iff.rfl rfl rfl
      rw [enabled]
      exact List.cons_ne_nil _ _
  | test =>
      refine ok.worker_keeps rfl rfl ?_
      rw [enabled]
      simp only [next]
      split_ifs <;> exact Iff.rfl
  | lock => exact ok.worker_acquires enabled.2 rfl rfl True.intro
  | predicate =>
      refine ok.worker_keeps rfl rfl ?_
      rw [enabled]
      simp only [next]
      split_ifs <;> exact Iff.rfl
  | block =>
      exact ok.worker_releases (enabled ▸ True.intro) rfl rfl not_false
  | spuriousWake =>
      exact ok.worker_keeps rfl rfl (by rw [enabled]; exact Iff.rfl)
  | wake => exact ok.worker_acquires enabled.2 rfl rfl True.intro
  | examine =>
      simp only [next]
      split
      · exact ok.worker_releases (enabled ▸ True.intro) rfl rfl not_false
      · exact ok.worker_keeps rfl rfl (by rw [enabled]; exact Iff.rfl)
  | unlock tuple =>
      exact ok.worker_releases (enabled ▸ True.intro) rfl rfl not_false
  | send tuple =>
      exact ok.worker_keeps rfl rfl (by rw [enabled]; exact Iff.rfl)
  | dispatched tuple =>
      exact ok.worker_keeps rfl rfl (by rw [enabled.1]; exact Iff.rfl)
  | relock tuple => exact ok.worker_acquires enabled.2 rfl rfl True.intro
  | pop tuple =>
      exact ok.worker_releases (enabled ▸ True.intro) rfl rfl not_false
  | destructorStop => exact ok
  | destructorNotify =>
      exact ok.worker_keeps rfl rfl (workerHolds_notifyAll _)
  | destructorJoin => exact ok

/-! ## The tuples of the mutex holder -/

/-- The tuple which a caller is about to push. -/
def toPush : CallerPoint → List QueueTuple
  | .locked tuple => [tuple]
  | _ => []

/-- What `part` says about the caller that holds the mutex, if one does. -/
def held (part : CallerPoint → List QueueTuple) (state : State Thread) :
    List QueueTuple :=
  match state.mutex with
  | some (.caller caller) => part (state.callers caller)
  | _ => []

section Held

variable {part : CallerPoint → List QueueTuple} {state : State Thread}

omit [DecidableEq Thread] in
theorem held_of_caller
    {caller : Caller Thread} (owner : state.mutex = some (.caller caller)) :
    held part state = part (state.callers caller) := by
  rw [held, owner]

omit [DecidableEq Thread] in
theorem held_of_free (free : state.mutex = none) :
    held part state = [] := by
  rw [held, free]

omit [DecidableEq Thread] in
theorem held_of_worker (owner : state.mutex = some .worker) :
    held part state = [] := by
  rw [held, owner]

omit [DecidableEq Thread] in
/-- A caller inside its critical section is the holder. -/
theorem held_at
    (ok : MutexOk state) {caller : Caller Thread} {point : CallerPoint}
    (isAt : state.callers caller = point) (inside : inCall point ≠ []) :
    held part state = part point := by
  subst isAt
  exact held_of_caller ((ok (.caller caller)).mp inside)

omit [DecidableEq Thread] in
/-- No caller holds the mutex before or after the worker releases it. -/
theorem held_release
    {state' : State Thread}
    (ok : MutexOk state) (holds : workerHolds state.worker)
    (free : state'.mutex = none) :
    held part state' = held part state :=
  (held_of_free free).trans (held_of_worker ((ok .worker).mp holds)).symm

/-- A call that starts is not the one which holds the mutex. -/
theorem held_call
    (ok : MutexOk state) {caller : Caller Thread}
    (idle : state.callers caller = .idle) (tuple : QueueTuple) :
    held part (next state (.call caller tuple)) = held part state := by
  simp only [held, next]
  split
  · rename_i owner isOwner
    have different : owner ≠ caller := by
      rintro rfl
      have inside := (ok (.caller owner)).mpr isOwner
      exact inside (by rw [idle]; rfl)
    rw [Function.update_of_ne different]
  · rfl

end Held

/-! ## The order of the tuples -/

/--
The queued tuples which have not been handed to `sendMsg_`: between the
hand-over and the pop, the front has been.
-/
def waiting (queue : List QueueTuple) : WorkerPoint → List QueueTuple
  | .dispatching _ => queue.tail
  | .relock _ => queue.tail
  | .pop _ => queue.tail
  | _ => queue

def notHanded (state : State Thread) : List QueueTuple :=
  waiting state.queue state.worker

/--
Where the worker's copy is in the queue: still at the front, and, once it has
been handed over, the last tuple handed over.
-/
def FrontAt (queue handed : List QueueTuple) : WorkerPoint → Prop
  | .unlock tuple => queue.head? = some tuple
  | .send tuple => queue.head? = some tuple
  | .dispatching tuple =>
      queue.head? = some tuple ∧ handed.getLast? = some tuple
  | .relock tuple =>
      queue.head? = some tuple ∧ handed.getLast? = some tuple
  | .pop tuple =>
      queue.head? = some tuple ∧ handed.getLast? = some tuple
  | _ => True

def FrontOk (state : State Thread) : Prop :=
  FrontAt state.queue state.handed state.worker

theorem frontAt_notifyAll
    {queue handed : List QueueTuple} {point : WorkerPoint}
    (front : FrontAt queue handed point) :
    FrontAt queue handed (notifyAll point) := by
  rw [notifyAll]
  split_ifs
  · trivial
  · exact front

/-- A push behind a non-empty queue does not move its front. -/
theorem frontAt_push
    {queue handed : List QueueTuple} {point : WorkerPoint}
    (front : FrontAt queue handed point) (tuple : QueueTuple) :
    FrontAt (queue ++ [tuple]) handed point := by
  have keeps : ∀ first, queue.head? = some first →
      (queue ++ [tuple]).head? = some first := by
    intro first isFirst
    rw [List.head?_append, isFirst]
    rfl
  cases point with
  | unlock first => exact keeps first front
  | send first => exact keeps first front
  | dispatching first => exact ⟨keeps first front.1, front.2⟩
  | relock first => exact ⟨keeps first front.1, front.2⟩
  | pop first => exact ⟨keeps first front.1, front.2⟩
  | _ => trivial

theorem frontOk_next
    (state : State Thread) (label : Label Thread)
    (front : FrontOk state) (enabled : Enabled state label) :
    FrontOk (next state label) := by
  rw [FrontOk] at front
  cases label with
  | call caller tuple => exact front
  | callLock caller tuple => exact front
  | callPush caller tuple => exact frontAt_push front tuple
  | callNotify caller tuple => exact frontAt_notifyAll front
  | callReturn caller tuple => exact front
  | test =>
      simp only [FrontOk, next]
      split_ifs <;> trivial
  | lock => trivial
  | predicate =>
      simp only [FrontOk, next]
      split_ifs <;> trivial
  | block => trivial
  | spuriousWake => trivial
  | wake => trivial
  | examine =>
      simp only [next]
      split
      · trivial
      · rename_i tuple rest isQueue
        simp only [FrontOk, FrontAt, isQueue, List.head?_cons]
  | unlock tuple =>
      rw [enabled] at front
      exact front
  | send tuple =>
      rw [enabled] at front
      exact ⟨front, List.getLast?_concat⟩
  | dispatched tuple =>
      rw [enabled.1] at front
      exact front
  | relock tuple =>
      rw [enabled.1] at front
      exact front
  | pop tuple => trivial
  | destructorStop => exact front
  | destructorNotify => exact frontAt_notifyAll front
  | destructorJoin => exact front

/-! ## One step of the history -/

/-- What a step pushes. -/
def pushedBy : Label Thread → List QueueTuple
  | .callPush _ tuple => [tuple]
  | _ => []

/-- The tuple of a call which takes the mutex in this step. -/
def acquiredBy : Label Thread → List QueueTuple
  | .callLock _ tuple => [tuple]
  | _ => []

/-- The tuple of a call which returns in this step. -/
def completedBy : Label Thread → List QueueTuple
  | .callReturn _ tuple => [tuple]
  | _ => []

theorem acquired_next (state : State Thread) (label : Label Thread) :
    (next state label).acquired = state.acquired ++ acquiredBy label := by
  cases label with
  | callLock caller tuple => rfl
  | examine =>
      simp only [next, acquiredBy, List.append_nil]
      split <;> rfl
  | _ => exact (List.append_nil _).symm

theorem completed_next (state : State Thread) (label : Label Thread) :
    (next state label).completed = state.completed ++ completedBy label := by
  cases label with
  | callReturn caller tuple => rfl
  | examine =>
      simp only [next, completedBy, List.append_nil]
      split <;> rfl
  | _ => exact (List.append_nil _).symm

/-- Everything that has been pushed: handed over, then still waiting. -/
def stream (state : State Thread) : List QueueTuple :=
  state.handed ++ notHanded state

theorem waiting_notifyAll (queue : List QueueTuple) (point : WorkerPoint) :
    waiting queue (notifyAll point) = waiting queue point := by
  cases point <;> rfl

/-- Once the front has been handed over, a push goes behind it. -/
theorem waiting_push
    {queue handed : List QueueTuple} {point : WorkerPoint}
    (front : FrontAt queue handed point) (tuple : QueueTuple) :
    waiting (queue ++ [tuple]) point = waiting queue point ++ [tuple] := by
  have behind : ∀ first, queue.head? = some first →
      (queue ++ [tuple]).tail = queue.tail ++ [tuple] := by
    intro first isFirst
    apply List.tail_append_of_ne_nil
    rintro rfl
    cases isFirst
  cases point with
  | dispatching first => exact behind first front.1
  | relock first => exact behind first front.1
  | pop first => exact behind first front.1
  | _ => rfl

omit [DecidableEq Thread] in
theorem stream_of_same
    {state state' : State Thread}
    (sameHanded : state'.handed = state.handed)
    (sameWaiting :
      waiting state'.queue state'.worker = waiting state.queue state.worker) :
    stream state' = stream state ++ [] := by
  rw [List.append_nil, stream, stream, notHanded, notHanded, sameHanded,
    sameWaiting]

/-- The stream grows by what a step pushes and is never reordered. -/
theorem stream_next
    (state : State Thread) (label : Label Thread)
    (front : FrontOk state) (enabled : Enabled state label) :
    stream (next state label) = stream state ++ pushedBy label := by
  rw [FrontOk] at front
  cases label with
  | callPush caller tuple =>
      -- the worker may be between hand-over and pop: the push goes behind
      show state.handed ++ waiting (state.queue ++ [tuple]) state.worker =
        state.handed ++ waiting state.queue state.worker ++ [tuple]
      rw [waiting_push front, List.append_assoc]
  | callNotify caller tuple =>
      exact stream_of_same rfl (waiting_notifyAll _ _)
  | test =>
      refine stream_of_same rfl ?_
      rw [enabled]
      simp only [next]
      split_ifs <;> rfl
  | lock => exact stream_of_same rfl (by rw [enabled.1]; rfl)
  | predicate =>
      refine stream_of_same rfl ?_
      rw [enabled]
      simp only [next]
      split_ifs <;> rfl
  | block => exact stream_of_same rfl (by rw [enabled]; rfl)
  | spuriousWake => exact stream_of_same rfl (by rw [enabled]; rfl)
  | wake => exact stream_of_same rfl (by rw [enabled.1]; rfl)
  | examine =>
      simp only [next]
      split
      · exact stream_of_same rfl (by rw [enabled]; rfl)
      · exact stream_of_same rfl (by rw [enabled]; rfl)
  | unlock tuple => exact stream_of_same rfl (by rw [enabled]; rfl)
  | send tuple =>
      -- the copy is still the front, so handing it over only moves the mark
      have isFront : state.queue.head? = some tuple := by
        rw [enabled] at front
        exact front
      have before : notHanded state = tuple :: state.queue.tail := by
        rw [notHanded, enabled]
        exact (List.cons_head?_tail isFront).symm
      show state.handed ++ [tuple] ++ state.queue.tail =
        stream state ++ []
      rw [List.append_nil, stream, before, List.append_assoc,
        List.singleton_append]
  | dispatched tuple => exact stream_of_same rfl (by rw [enabled.1]; rfl)
  | relock tuple => exact stream_of_same rfl (by rw [enabled.1]; rfl)
  | pop tuple => exact stream_of_same rfl (by rw [enabled]; rfl)
  | destructorNotify => exact stream_of_same rfl (waiting_notifyAll _ _)
  | _ => exact (List.append_nil _).symm

/-! ## The call that holds the mutex -/

/-- What the holder of the mutex is about to do before a step of a call;
`other` if the step is none. -/
def heldBefore (part : CallerPoint → List QueueTuple)
    (other : List QueueTuple) : Label Thread → List QueueTuple
  | .callLock _ _ => []
  | .callPush _ tuple => part (.locked tuple)
  | .callNotify _ tuple => part (.pushed tuple)
  | .callReturn _ tuple => part (.notified tuple)
  | _ => other

/-- What the holder of the mutex is about to do after a step of a call;
`other` if the step is none. -/
def heldAfter (part : CallerPoint → List QueueTuple)
    (other : List QueueTuple) : Label Thread → List QueueTuple
  | .callLock _ tuple => part (.locked tuple)
  | .callPush _ tuple => part (.pushed tuple)
  | .callNotify _ tuple => part (.notified tuple)
  | .callReturn _ _ => []
  | _ => other

section HeldSteps

variable (part : CallerPoint → List QueueTuple)
variable (state : State Thread) (label : Label Thread)

omit [DecidableEq Thread] in
theorem held_before
    (ok : MutexOk state) (enabled : Enabled state label) :
    held part state = heldBefore part (held part state) label := by
  cases label with
  | callLock caller tuple => exact held_of_free enabled.2
  | callPush caller tuple =>
      exact held_at ok enabled (List.cons_ne_nil _ _)
  | callNotify caller tuple =>
      exact held_at ok enabled (List.cons_ne_nil _ _)
  | callReturn caller tuple =>
      exact held_at ok enabled (List.cons_ne_nil _ _)
  | _ => rfl

theorem held_after
    (ok : MutexOk state) (enabled : Enabled state label) :
    held part (next state label) =
      heldAfter part (held part state) label := by
  have okNext := mutexOk_next state label ok enabled
  cases label with
  | call caller tuple => exact held_call ok enabled.1 tuple
  | callLock caller tuple =>
      exact held_at okNext (Function.update_self _ _ _)
        (List.cons_ne_nil _ _)
  | callPush caller tuple =>
      exact held_at okNext (Function.update_self _ _ _)
        (List.cons_ne_nil _ _)
  | callNotify caller tuple =>
      exact held_at okNext (Function.update_self _ _ _)
        (List.cons_ne_nil _ _)
  | callReturn caller tuple => exact held_of_free rfl
  | lock => exact (held_of_worker rfl).trans (held_of_free enabled.2).symm
  | block => exact held_release ok (by rw [enabled]; trivial) rfl
  | wake => exact (held_of_worker rfl).trans (held_of_free enabled.2).symm
  | examine =>
      have holds : workerHolds state.worker := by
        rw [enabled]
        trivial
      simp only [next]
      split
      · exact held_release ok holds rfl
      · rfl
  | unlock tuple => exact held_release ok (by rw [enabled]; trivial) rfl
  | relock tuple =>
      exact (held_of_worker rfl).trans (held_of_free enabled.2).symm
  | pop tuple => exact held_release ok (by rw [enabled]; trivial) rfl
  | _ => rfl

/-- A call takes the mutex before it pushes, and none comes in between. -/
theorem held_toPush_next
    (ok : MutexOk state) (enabled : Enabled state label) :
    held toPush state ++ acquiredBy label =
      pushedBy label ++ held toPush (next state label) := by
  rw [held_before toPush state label ok enabled,
    held_after toPush state label ok enabled]
  cases label with
  | callLock caller tuple => rfl
  | callPush caller tuple => rfl
  | callNotify caller tuple => rfl
  | callReturn caller tuple => rfl
  | _ => exact List.append_nil _

/-- A call takes the mutex before it returns, and none comes in between. -/
theorem held_inCall_next
    (ok : MutexOk state) (enabled : Enabled state label) :
    held inCall state ++ acquiredBy label =
      completedBy label ++ held inCall (next state label) := by
  rw [held_before inCall state label ok enabled,
    held_after inCall state label ok enabled]
  cases label with
  | callLock caller tuple => rfl
  | callPush caller tuple => rfl
  | callNotify caller tuple => rfl
  | callReturn caller tuple => rfl
  | _ => exact List.append_nil _

end HeldSteps

/-! ## Whole runs -/

/-- The invariant of the queue. -/
structure Fifo (state : State Thread) : Prop where
  mutex : MutexOk state
  front : FrontOk state
  order : stream state ++ held toPush state = state.acquired
  completed : state.completed ++ held inCall state = state.acquired

omit [DecidableEq Thread] in
theorem fifo_initial : Fifo (initial : State Thread) where
  mutex := by
    intro holder
    cases holder with
    | worker => exact iff_of_false not_false (by rintro ⟨⟩)
    | caller caller =>
        exact iff_of_false (fun inside => inside rfl) (by rintro ⟨⟩)
  front := True.intro
  order := rfl
  completed := rfl

theorem fifo_next
    (state : State Thread) (label : Label Thread)
    (fifo : Fifo state) (enabled : Enabled state label) :
    Fifo (next state label) where
  mutex := mutexOk_next state label fifo.mutex enabled
  front := frontOk_next state label fifo.front enabled
  order := by
    rw [stream_next state label fifo.front enabled, List.append_assoc,
      ← held_toPush_next state label fifo.mutex enabled,
      ← List.append_assoc, fifo.order, acquired_next]
  completed := by
    rw [completed_next, List.append_assoc,
      ← held_inCall_next state label fifo.mutex enabled,
      ← List.append_assoc, fifo.completed, acquired_next]

theorem fifo_of_reachable
    {state : State Thread} (reachable : Reachable (bus Thread) state) :
    Fifo state :=
  Run.invariant reachable fifo_initial
    fun state label fifo enabled _ => fifo_next state label fifo enabled

/-- No call of `sendMsg` is between taking the mutex and pushing. -/
def NonePushing (state : State Thread) : Prop :=
  ∀ caller tuple, state.callers caller ≠ .locked tuple

omit [DecidableEq Thread] in
theorem held_toPush_of_nonePushing
    {state : State Thread} (nonePushing : NonePushing state) :
    held toPush state = [] := by
  rw [held]
  split
  · rename_i caller isOwner
    cases isAt : state.callers caller with
    | locked tuple => exact absurd isAt (nonePushing caller tuple)
    | _ => rfl
  · rfl

/-- The worker pops the tuple that it has just handed over. -/
def PopsHandedFront (state : State Thread) : Prop :=
  ∀ tuple, state.worker = .pop tuple →
    state.queue.head? = some tuple ∧ state.handed.getLast? = some tuple

/--
In every reachable state the tuples handed to `sendMsg_` and the tuples that
wait in the queue are, in order, the tuples whose calls took the mutex, less
the one of a call which is still about to push; and a pop removes the tuple
handed over last.
-/
theorem queue_exactly_once_fifo
    (state : State Thread) (reachable : Reachable (bus Thread) state) :
    state.handed ++ notHanded state ++ held toPush state = state.acquired ∧
      (NonePushing state →
        state.handed ++ notHanded state = state.acquired) ∧
      PopsHandedFront state := by
  have fifo := fifo_of_reachable reachable
  have order : state.handed ++ notHanded state ++ held toPush state =
      state.acquired := fifo.order
  constructor
  · exact order
  constructor
  · intro nonePushing
    rw [held_toPush_of_nonePushing nonePushing, List.append_nil] at order
    exact order
  · intro tuple popping
    have front := fifo.front
    rw [FrontOk, popping] at front
    exact front

/-- A thread sends `hello`; its callback answers while the worker has the
mutex released, and the worker is about to pop. -/
def reentrantRun (hello answer : QueueTuple) : List (Label Unit) :=
  [ .call (.thread ()) hello, .test, .callLock (.thread ()) hello,
    .callPush (.thread ()) hello, .callNotify (.thread ()) hello,
    .callReturn (.thread ()) hello, .lock, .predicate, .examine,
    .unlock hello, .send hello, .call .callback answer,
    .callLock .callback answer, .callPush .callback answer,
    .callNotify .callback answer, .callReturn .callback answer,
    .dispatched hello, .destructorStop, .relock hello ]

def reentrantState : State Unit :=
  follow (bus Unit) initial
    (reentrantRun ⟨str "Room1", str "hello", str "cli1"⟩
      ⟨str "Room1", str "world", str "cli2"⟩)

theorem reentrantState_fifo :
    reentrantState.handed ++ notHanded reentrantState ++
        held toPush reentrantState = reentrantState.acquired ∧
      (NonePushing reentrantState →
        reentrantState.handed ++ notHanded reentrantState =
          reentrantState.acquired) ∧
      PopsHandedFront reentrantState :=
  queue_exactly_once_fifo reentrantState (run_follow (by decide))

end ServerUtils.Bus.QueueFifo
