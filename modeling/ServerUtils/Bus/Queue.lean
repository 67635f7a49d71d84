import Mathlib.Logic.Function.Basic
import ServerUtils.Foundation.Transition
import ServerUtils.Parser.StdString

/-!
# The message queue of the bus

`sendMsg`, `worker_` and `~myBus` as one machine over the mutex, the queue,
the stop flag and the condition variable.  Every step is what a thread does
between two points at which another thread can run.  A call of `sendMsg` is
made by one of arbitrarily many threads, or by a callback which the worker is
running; the destructor takes no lock.

The logs `acquired`, `handed` and `completed` are history: no step reads them.
-/

namespace ServerUtils.Bus.Queue

open ServerUtils.Foundation.Transition
open ServerUtils.Parser.StdString

/-- An element of `queue_`. -/
structure QueueTuple where
  room : Bytes
  msg : Bytes
  componentName : Bytes
deriving DecidableEq

/-- Who calls `sendMsg`: a thread, or the callback that the worker runs. -/
inductive Caller (Thread : Type) where
  | thread (id : Thread)
  | callback
deriving DecidableEq

/-- Who holds `mutex_`. -/
inductive Holder (Thread : Type) where
  | worker
  | caller (caller : Caller Thread)
deriving DecidableEq

/-- Where a caller is in `sendMsg`; the tuple is its argument. -/
inductive CallerPoint where
  | idle
  /-- before `unique_lock lock(mutex_)` -/
  | entered (tuple : QueueTuple)
  /-- before `queue_.push` -/
  | locked (tuple : QueueTuple)
  /-- before `cond_.notify_all` -/
  | pushed (tuple : QueueTuple)
  /-- before the lock is released on return -/
  | notified (tuple : QueueTuple)
deriving DecidableEq

/-- Where the worker is in `worker_`. -/
inductive WorkerPoint where
  /-- at `while (!stop_)` -/
  | test
  /-- before `unique_lock lock(mutex_)` -/
  | lock
  /-- in `cond_.wait`, about to evaluate the predicate -/
  | predicate
  /-- in `cond_.wait`, the predicate was false: about to release and block -/
  | block
  | blocked
  /-- notified, about to take the mutex again -/
  | woken
  /-- `cond_.wait` has returned -/
  | examine
  /-- the front has been copied, before `lock.unlock()` -/
  | unlock (tuple : QueueTuple)
  /-- before `sendMsg_` -/
  | send (tuple : QueueTuple)
  /-- inside `sendMsg_` -/
  | dispatching (tuple : QueueTuple)
  /-- before `lock.lock()` -/
  | relock (tuple : QueueTuple)
  /-- before `queue_.pop()` -/
  | pop (tuple : QueueTuple)
  | exited
deriving DecidableEq

/-- Where `~myBus` is. -/
inductive DestructorPoint where
  | notStarted
  /-- `stop_` is set, before `cond_.notify_all` -/
  | notify
  /-- in `thread_.join()` -/
  | join
  | returned
deriving DecidableEq

structure State (Thread : Type) where
  mutex : Option (Holder Thread)
  queue : List QueueTuple
  stop : Bool
  worker : WorkerPoint
  callers : Caller Thread → CallerPoint
  destructor : DestructorPoint
  /-- tuples in the order in which the calls of `sendMsg` took the mutex -/
  acquired : List QueueTuple
  /-- tuples handed to `sendMsg_`, in order -/
  handed : List QueueTuple
  /-- tuples whose call of `sendMsg` has returned, in order -/
  completed : List QueueTuple

inductive Label (Thread : Type) where
  | call (caller : Caller Thread) (tuple : QueueTuple)
  | callLock (caller : Caller Thread) (tuple : QueueTuple)
  | callPush (caller : Caller Thread) (tuple : QueueTuple)
  | callNotify (caller : Caller Thread) (tuple : QueueTuple)
  | callReturn (caller : Caller Thread) (tuple : QueueTuple)
  | test
  | lock
  | predicate
  | block
  | spuriousWake
  | wake
  | examine
  | unlock (tuple : QueueTuple)
  | send (tuple : QueueTuple)
  | dispatched (tuple : QueueTuple)
  | relock (tuple : QueueTuple)
  | pop (tuple : QueueTuple)
  | destructorStop
  | destructorNotify
  | destructorJoin

variable {Thread : Type}

/-- The worker is running callbacks. -/
def WorkerPoint.Dispatching : WorkerPoint → Prop
  | .dispatching _ => True
  | _ => False

instance (point : WorkerPoint) : Decidable point.Dispatching := by
  cases point <;> dsimp only [WorkerPoint.Dispatching] <;> infer_instance

/-- When a step may be taken. -/
def Enabled (state : State Thread) : Label Thread → Prop
  | .call caller _ =>
      state.callers caller = .idle ∧
        (caller = .callback → state.worker.Dispatching)
  | .callLock caller tuple =>
      state.callers caller = .entered tuple ∧ state.mutex = none
  | .callPush caller tuple => state.callers caller = .locked tuple
  | .callNotify caller tuple => state.callers caller = .pushed tuple
  | .callReturn caller tuple => state.callers caller = .notified tuple
  | .test => state.worker = .test
  | .lock => state.worker = .lock ∧ state.mutex = none
  | .predicate => state.worker = .predicate
  | .block => state.worker = .block
  | .spuriousWake => state.worker = .blocked
  | .wake => state.worker = .woken ∧ state.mutex = none
  | .examine => state.worker = .examine
  | .unlock tuple => state.worker = .unlock tuple
  | .send tuple => state.worker = .send tuple
  | .dispatched tuple =>
      state.worker = .dispatching tuple ∧ state.callers .callback = .idle
  | .relock tuple => state.worker = .relock tuple ∧ state.mutex = none
  | .pop tuple => state.worker = .pop tuple
  | .destructorStop => state.destructor = .notStarted
  | .destructorNotify => state.destructor = .notify
  | .destructorJoin =>
      state.destructor = .join ∧ state.worker = .exited

instance [DecidableEq Thread] (state : State Thread) (label : Label Thread) :
    Decidable (Enabled state label) := by
  cases label <;> dsimp only [Enabled] <;> infer_instance

/-- `cond_.notify_all()`: only the worker waits on `cond_`. -/
def notifyAll (point : WorkerPoint) : WorkerPoint :=
  if point = .blocked then .woken else point

/-- What a step does. -/
def next [DecidableEq Thread] (state : State Thread) :
    Label Thread → State Thread
  | .call caller tuple =>
      { state with
        callers := Function.update state.callers caller (.entered tuple) }
  | .callLock caller tuple =>
      { state with
        mutex := some (.caller caller)
        callers := Function.update state.callers caller (.locked tuple)
        acquired := state.acquired ++ [tuple] }
  | .callPush caller tuple =>
      { state with
        queue := state.queue ++ [tuple]
        callers := Function.update state.callers caller (.pushed tuple) }
  | .callNotify caller tuple =>
      { state with
        worker := notifyAll state.worker
        callers := Function.update state.callers caller (.notified tuple) }
  | .callReturn caller tuple =>
      { state with
        mutex := none
        callers := Function.update state.callers caller .idle
        completed := state.completed ++ [tuple] }
  | .test =>
      { state with worker := if state.stop then .exited else .lock }
  | .lock => { state with mutex := some .worker, worker := .predicate }
  | .predicate =>
      { state with
        worker :=
          if state.stop || !state.queue.isEmpty then .examine else .block }
  | .block => { state with mutex := none, worker := .blocked }
  | .spuriousWake => { state with worker := .woken }
  | .wake => { state with mutex := some .worker, worker := .predicate }
  | .examine =>
      match state.queue with
      | [] => { state with mutex := none, worker := .test }
      | front :: _ => { state with worker := .unlock front }
  | .unlock tuple => { state with mutex := none, worker := .send tuple }
  | .send tuple =>
      { state with
        worker := .dispatching tuple
        handed := state.handed ++ [tuple] }
  | .dispatched tuple => { state with worker := .relock tuple }
  | .relock tuple =>
      { state with mutex := some .worker, worker := .pop tuple }
  | .pop _ =>
      { state with
        mutex := none
        queue := state.queue.tail
        worker := .test }
  | .destructorStop =>
      { state with stop := true, destructor := .notify }
  | .destructorNotify =>
      { state with
        worker := notifyAll state.worker
        destructor := .join }
  | .destructorJoin => { state with destructor := .returned }

/-- The bus after `myBus()`: the worker thread has started. -/
def initial : State Thread where
  mutex := none
  queue := []
  stop := false
  worker := .test
  callers := fun _ => .idle
  destructor := .notStarted
  acquired := []
  handed := []
  completed := []

/-- The queue, the worker, the callers and the destructor together. -/
def bus (Thread : Type) [DecidableEq Thread] :
    Machine (State Thread) (Label Thread) where
  initial := initial
  Enabled := Enabled
  next := next

instance [DecidableEq Thread] (state : State Thread) (label : Label Thread) :
    Decidable ((bus Thread).Enabled state label) :=
  inferInstanceAs (Decidable (Enabled state label))

end ServerUtils.Bus.Queue
