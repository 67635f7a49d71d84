import Mathlib.Logic.Function.Basic
import ServerUtils.Foundation.Container
import ServerUtils.Parser.StdString

/-!
# The rooms of the bus and their components

The weak pointers of a room and the callbacks of a component, with the
insertions which `operator[]` makes on the way.  A weak pointer is named by
the component whose `ptr_` it observes, and it expires when that component
releases `ptr_`.  A component is any value of `Identity`: the maps hold
arbitrarily many.
-/

namespace ServerUtils.Bus.Rooms

open ServerUtils.Foundation.Container
open ServerUtils.Parser.StdString

variable {Identity Callback : Type}

/-- `std::bad_function_call`, the only exception of a dispatch. -/
structure BadFunctionCall where
deriving DecidableEq, Repr

/-- `iComponent`, as far as the bus uses it. -/
structure Component (Callback : Type) where
  name_ : Bytes
  /-- `ptr_` has not been released -/
  ptr_ : Bool
  /-- an entry which `operator[]` made holds an empty function -/
  callback_s : UnorderedMap Bytes (Option Callback)

namespace Component

/-- `iComponent::getName`. -/
def getName (component : Component Callback) : Bytes :=
  component.name_

/-- `iComponent::setCallback`. -/
def setCallback
    (component : Component Callback) (id : Bytes) (f : Callback) :
    Component Callback :=
  { component with callback_s := component.callback_s.insert id (some f) }

/-- `iComponent::sendMsg`: the tuple which it hands to the bus. -/
def sendMsg (component : Component Callback) (room msg : Bytes) :
    Bytes × Bytes × Bytes :=
  (room, msg, component.name_)

/-- `iComponent::recvMsg`: the callback which is called, with its argument. -/
def recvMsg (component : Component Callback) (room msg : Bytes) :
    Except BadFunctionCall ((Callback × Bytes) × Component Callback) :=
  match subscript none component.callback_s room with
  | (none, _) => .error {}
  | (some callback, callback_s) =>
      .ok ((callback, msg), { component with callback_s := callback_s })

end Component

/-- The rooms, and the components which their weak pointers observe. -/
structure State (Identity Callback : Type) where
  rooms : UnorderedMap Bytes (List Identity)
  components : Identity → Component Callback

/-- One call of a callback by the bus. -/
structure Invocation (Identity Callback : Type) where
  component : Identity
  callback : Callback
  msg : Bytes
deriving DecidableEq

/-- The room which receives every message. -/
def broadcast : Bytes := str "::broadcast::"

/-- A bus without subscriptions; the components have their names. -/
def initial (names : Identity → Bytes) : State Identity Callback where
  rooms := ∅
  components := fun component =>
    { name_ := names component, ptr_ := true, callback_s := ∅ }

/-- `component.lock()`. -/
def lock (state : State Identity Callback) (component : Identity) :
    Option Identity :=
  if (state.components component).ptr_ then some component else none

variable [DecidableEq Identity]

def State.setComponent
    (state : State Identity Callback) (identity : Identity)
    (component : Component Callback) : State Identity Callback :=
  { state with
    components := Function.update state.components identity component }

@[simp]
theorem State.setComponent_components
    (state : State Identity Callback) (identity other : Identity)
    (component : Component Callback) :
    (state.setComponent identity component).components other =
      if other = identity then component else state.components other :=
  Function.update_apply _ _ _ _

/-- A part of the components which an assignment does not change. -/
theorem State.setComponent_same
    {Part : Type} (part : Component Callback → Part)
    {state : State Identity Callback} {identity : Identity}
    {component : Component Callback}
    (same : part component = part (state.components identity))
    (other : Identity) :
    part ((state.setComponent identity component).components other) =
      part (state.components other) := by
  rw [State.setComponent_components]
  split_ifs with isIdentity
  · rw [same, isIdentity]
  · rfl

/-- `~iComponent` releases `ptr_`. -/
def destroy
    (state : State Identity Callback) (component : Identity) :
    State Identity Callback :=
  state.setComponent component
    { state.components component with ptr_ := false }

/-- `myBus::subscribe`. -/
def subscribe
    (state : State Identity Callback) (room : Bytes) (component : Identity)
    (cb : Callback) : State Identity Callback :=
  match lock state component with
  | none => state
  | some ptr =>
      let called := state.setComponent ptr
        ((state.components ptr).setCallback room cb)
      let (entries, rooms) := subscript [] called.rooms room
      { called with rooms := rooms.insert room (entries ++ [component]) }

/-- `myBus::subscribe_broadcast`. -/
def subscribeBroadcast
    (state : State Identity Callback) (component : Identity)
    (cb : Callback) : State Identity Callback :=
  subscribe state broadcast component cb

/-- `myBus::unsubscribe`: the first entry which locks to the component goes. -/
def unsubscribe
    (state : State Identity Callback) (room : Bytes)
    (component : Identity) : State Identity Callback :=
  match lock state component with
  | none => state
  | some ptr =>
      let (entries, rooms) := subscript [] state.rooms room
      { state with
        rooms := rooms.insert room
          (entries.eraseP fun cmp => lock state cmp = some ptr) }

/-- The loop of `SendOutMsgToRoomComponents` over the entries of the room. -/
def deliver (msg room from_componentName : Bytes) :
    List Identity → State Identity Callback →
      Except BadFunctionCall
        (State Identity Callback × List (Invocation Identity Callback))
  | [], state => .ok (state, [])
  | component :: rest, state =>
      match lock state component with
      | none => deliver msg room from_componentName rest state
      | some ptr =>
          if (state.components ptr).getName ≠ from_componentName then do
            let ((callback, argument), received) ←
              (state.components ptr).recvMsg room msg
            let (final, invocations) ←
              deliver msg room from_componentName rest
                (state.setComponent ptr received)
            return (final, ⟨ptr, callback, argument⟩ :: invocations)
          else
            deliver msg room from_componentName rest state

/-- `myBus::SendOutMsgToRoomComponents`. -/
def sendOutMsgToRoomComponents
    (state : State Identity Callback) (msg room from_componentName : Bytes) :
    Except BadFunctionCall
      (State Identity Callback × List (Invocation Identity Callback)) :=
  let (entries, rooms) := subscript [] state.rooms room
  deliver msg room from_componentName entries { state with rooms := rooms }

/-- The loop of `sendMsg_` over rooms, in some order. -/
def sendOutToRooms (msg componentName : Bytes) :
    List Bytes → State Identity Callback →
      Except BadFunctionCall
        (State Identity Callback × List (Invocation Identity Callback))
  | [], state => .ok (state, [])
  | room :: rest, state => do
      let (sent, invocations) ←
        sendOutMsgToRoomComponents state msg room componentName
      let (final, later) ← sendOutToRooms msg componentName rest sent
      return (final, invocations ++ later)

/-- `myBus::sendMsg_`; `order` is the iteration order of `rooms`. -/
def sendMsg_
    (order : List Bytes) (state : State Identity Callback)
    (room msg componentName : Bytes) :
    Except BadFunctionCall
      (State Identity Callback × List (Invocation Identity Callback)) :=
  if room = broadcast then
    sendOutToRooms msg componentName order state
  else do
    let (sent, invocations) ←
      sendOutMsgToRoomComponents state msg room componentName
    let (final, later) ←
      sendOutMsgToRoomComponents sent msg broadcast componentName
    return (final, invocations ++ later)

end ServerUtils.Bus.Rooms
