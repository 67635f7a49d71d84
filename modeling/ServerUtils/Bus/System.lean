import ServerUtils.Bus.Delivery
import ServerUtils.Bus.QueueFifo

/-!
# The bus as a whole

The queue machine and the rooms in one state: where the worker hands a tuple
to `sendMsg_`, the rooms decide which callbacks are called.  Components
subscribe, unsubscribe and go between the steps of the queue.  No lock
protects the rooms, so a dispatch is one step only in runs in which no
subscription changes while the worker is inside `sendMsg_`.
-/

namespace ServerUtils.Bus.System

open ServerUtils.Foundation.Transition
open ServerUtils.Parser.StdString
open ServerUtils.Bus.Queue
open ServerUtils.Bus.Rooms
open ServerUtils.Bus.Delivery

variable {Thread Identity Callback : Type}

structure State (Thread Identity Callback : Type) where
  queue : Queue.State Thread
  rooms : Rooms.State Identity Callback
  /-- the calls of callbacks, in order -/
  calls : List (Invocation Identity Callback)
  /-- an exception has left the worker -/
  terminated : Bool

inductive Label (Thread Identity Callback : Type) where
  /-- a step of a caller, the worker or the destructor -/
  | queue (label : Queue.Label Thread)
  /-- `sendMsg_` with the iteration order of `rooms` -/
  | dispatch (tuple : QueueTuple) (order : List Bytes)
  | change (event : Event Identity Callback)

/-- The hand-over is the step `dispatch`. -/
def IsSend : Queue.Label Thread → Prop
  | .send _ => True
  | _ => False

def Enabled (state : State Thread Identity Callback) :
    Label Thread Identity Callback → Prop
  | .queue label =>
      state.terminated = false ∧ Queue.Enabled state.queue label ∧
        ¬ IsSend label
  | .dispatch tuple order =>
      state.terminated = false ∧ Queue.Enabled state.queue (.send tuple) ∧
        order.Perm state.rooms.rooms.keys
  | .change _ => state.terminated = false

instance decidableIsSend :
    ∀ label : Queue.Label Thread, Decidable (IsSend label)
  | .send _ => .isTrue True.intro
  | .call _ _ | .callLock _ _ | .callPush _ _ | .callNotify _ _
  | .callReturn _ _ | .test | .lock | .predicate | .block | .spuriousWake
  | .wake | .examine | .unlock _ | .dispatched _ | .relock _ | .pop _
  | .destructorStop | .destructorNotify | .destructorJoin =>
      .isFalse not_false

variable [DecidableEq Thread] [DecidableEq Identity]

/-- What a change does to the rooms and the components. -/
def change (rooms : Rooms.State Identity Callback) :
    Event Identity Callback → Rooms.State Identity Callback
  | .subscribe room component cb => subscribe rooms room component cb
  | .unsubscribe room component => unsubscribe rooms room component
  | .destroy component => destroy rooms component

def next (state : State Thread Identity Callback) :
    Label Thread Identity Callback → State Thread Identity Callback
  | .queue label => { state with queue := Queue.next state.queue label }
  | .dispatch tuple order =>
      match sendMsg_ order state.rooms tuple.room tuple.msg
          tuple.componentName with
      | .ok (rooms, calls) =>
          { state with
            queue := Queue.next state.queue (.send tuple)
            rooms := rooms
            calls := state.calls ++ calls }
      | .error _ => { state with terminated := true }
  | .change event => { state with rooms := change state.rooms event }

def initial (names : Identity → Bytes) : State Thread Identity Callback where
  queue := Queue.initial
  rooms := Rooms.initial names
  calls := []
  terminated := false

/-- The bus with components of the given names. -/
def system (Thread Callback : Type) [DecidableEq Thread]
    (names : Identity → Bytes) :
    Machine (State Thread Identity Callback)
      (Label Thread Identity Callback) where
  initial := initial names
  Enabled := Enabled
  next := next

/-- Subscriptions change only while the worker is outside `sendMsg_`. -/
def ChangesOutsideDispatch (state : State Thread Identity Callback) :
    Label Thread Identity Callback → Prop
  | .change _ => ¬ state.queue.worker.Dispatching
  | _ => True

instance decidableEnabled
    (names : Identity → Bytes) (state : State Thread Identity Callback) :
    ∀ label, Decidable ((system Thread Callback names).Enabled state label)
  | .queue _ => inferInstanceAs (Decidable (_ ∧ _ ∧ ¬ _))
  | .dispatch _ _ => inferInstanceAs (Decidable (_ ∧ _ ∧ _))
  | .change _ => inferInstanceAs (Decidable (_ = _))

instance decidableChangesOutsideDispatch
    (state : State Thread Identity Callback) :
    ∀ label, Decidable (ChangesOutsideDispatch state label)
  | .queue _ => .isTrue True.intro
  | .dispatch _ _ => .isTrue True.intro
  | .change _ => inferInstanceAs (Decidable (¬ _))

end ServerUtils.Bus.System
