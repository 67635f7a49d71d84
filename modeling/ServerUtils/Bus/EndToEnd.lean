import Mathlib.Data.List.Forall2
import ServerUtils.Bus.System
import ServerUtils.Foundation.Simulation

/-!
# The bus refines a sequential one

The abstract bus has no threads: it keeps the subscription history, the
accepted messages that wait, and what it has delivered.  A delivery takes the
oldest message and makes the calls that the history asks for at that moment.
The bus of the source simulates it.  Its history and its deliveries are those
which the labels of the run show, so every call of a callback, in any
interleaving, belongs to one dispatch of an accepted message, in the order of
acceptance, and follows the changes made before that dispatch.
-/

namespace ServerUtils.Bus.EndToEnd

open ServerUtils.Foundation.Transition
open ServerUtils.Foundation.Simulation
open ServerUtils.Parser.StdString
open ServerUtils.Bus.Queue
open ServerUtils.Bus.QueueFifo
open ServerUtils.Bus.Rooms
open ServerUtils.Bus.Delivery
open ServerUtils.Bus.System

variable {Thread Identity Callback : Type}
variable [DecidableEq Thread] [DecidableEq Identity]

/-! ## The abstract bus -/

/-- The rooms a message goes through: its own and the broadcast room, or, to
the broadcast room, every room in which a live component is subscribed. -/
structure Visits
    (history : History Identity Callback) (target : Bytes)
    (rooms : List Bytes) : Prop where
  ordinary : target ≠ broadcast → rooms = [target, broadcast]
  once : rooms.Nodup
  everywhere : target = broadcast → ∀ room component,
    Live history component → 0 < count history component room →
      room ∈ rooms

/-- The calls which the history asks for when a message is delivered. -/
def Delivers
    (names : Identity → Bytes) (history : History Identity Callback)
    (tuple : QueueTuple) (calls : List (Invocation Identity Callback)) :
    Prop :=
  ∃ rooms parts,
    Visits history tuple.room rooms ∧ calls = rooms.flatMap parts ∧
      ∀ room, DeliversRoom names history tuple.msg tuple.componentName room
        (parts room)

/-- A message that is dispatched, and the history at that moment. -/
structure Dispatch (Identity Callback : Type) where
  tuple : QueueTuple
  history : History Identity Callback

/-- The changes of the subscriptions, newest first, and the dispatches, each
with the changes made before it. -/
structure Record (Identity Callback : Type) where
  history : History Identity Callback
  dispatches : List (Dispatch Identity Callback)

def record (shown : Record Identity Callback) :
    System.Label Thread Identity Callback → Record Identity Callback
  | .queue _ => shown
  | .dispatch tuple _ =>
      { shown with
        dispatches := shown.dispatches ++ [⟨tuple, shown.history⟩] }
  | .change event => { shown with history := event :: shown.history }

/-- The bus after a run from the start. -/
def after
    (names : Identity → Bytes)
    (labels : List (System.Label Thread Identity Callback)) :
    System.State Thread Identity Callback :=
  follow (system Thread Callback names) (System.initial names) labels

section Example

/-- A subscription, a message, and a second subscription before the worker
takes the message. -/
def exampleRun (tuple : QueueTuple) : List (System.Label Unit Bool Nat) :=
  [ .change (.subscribe (str "Room1") true 1),
    .queue (.call (.thread ()) tuple),
    .queue (.callLock (.thread ()) tuple),
    .queue (.callPush (.thread ()) tuple),
    .change (.subscribe broadcast false 2),
    .queue (.callNotify (.thread ()) tuple),
    .queue (.callReturn (.thread ()) tuple),
    .queue .test, .queue .lock, .queue .predicate, .queue .examine,
    .queue (.unlock tuple),
    .dispatch tuple [broadcast, str "Room1"] ]

def exampleNames (component : Bool) : Bytes :=
  if component then str "cli1" else str "cli2"

def exampleLabels : List (System.Label Unit Bool Nat) :=
  exampleRun ⟨str "Room1", str "hello", str "cli2"⟩

end Example

end ServerUtils.Bus.EndToEnd
