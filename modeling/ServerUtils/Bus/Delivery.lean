import ServerUtils.Bus.Rooms

/-!
# Delivery follows the subscription history

The bus is compared with the history of its subscriptions: a component has a
count and a latest callback for each room.  The invariant says that the room
vectors hold each live component as often as its count says, and that its
callback map answers with its latest callback.  A dispatch then makes exactly
the calls that the history asks for, and changes neither.
-/

namespace ServerUtils.Bus.Delivery

open ServerUtils.Foundation.Container
open ServerUtils.Parser.StdString
open ServerUtils.Bus.Rooms

variable {Identity Callback : Type}

/-! ## What a state shows -/

/-- The entries of a room. -/
def entries (state : State Identity Callback) (room : Bytes) :
    List Identity :=
  valueAt [] state.rooms room

/-- The callback of a component for a room; `none` is an empty function. -/
def callback
    (state : State Identity Callback) (component : Identity) (room : Bytes) :
    Option Callback :=
  valueAt none (state.components component).callback_s room

/-- Two states which only differ in what lookups have inserted. -/
structure SameSubscriptions (before after : State Identity Callback) :
    Prop where
  entries : ∀ room, entries after room = entries before room
  callback : ∀ component room,
    callback after component room = callback before component room
  name : ∀ component,
    (after.components component).name_ = (before.components component).name_
  alive : ∀ component,
    (after.components component).ptr_ = (before.components component).ptr_

theorem SameSubscriptions.refl (state : State Identity Callback) :
    SameSubscriptions state state :=
  ⟨fun _ => rfl, fun _ _ => rfl, fun _ => rfl, fun _ => rfl⟩

theorem SameSubscriptions.trans
    {first second third : State Identity Callback}
    (left : SameSubscriptions first second)
    (right : SameSubscriptions second third) :
    SameSubscriptions first third where
  entries := fun room => (right.entries room).trans (left.entries room)
  callback := fun component room =>
    (right.callback component room).trans (left.callback component room)
  name := fun component => (right.name component).trans (left.name component)
  alive := fun component =>
    (right.alive component).trans (left.alive component)

/-- The call which an entry of a room gets. -/
def invocation
    (state : State Identity Callback)
    (msg room from_componentName : Bytes) (component : Identity) :
    Option (Invocation Identity Callback) :=
  if (state.components component).ptr_ = true ∧
      (state.components component).name_ ≠ from_componentName then
    (callback state component room).map fun f => ⟨component, f, msg⟩
  else
    none

theorem invocation_eq_some_iff
    {state : State Identity Callback}
    {msg room from_componentName : Bytes} {component : Identity}
    {call : Invocation Identity Callback} :
    invocation state msg room from_componentName component = some call ↔
      ((state.components component).ptr_ = true ∧
        (state.components component).name_ ≠ from_componentName) ∧
      callback state component room = some call.callback ∧
      call.component = component ∧ call.msg = msg := by
  rw [invocation]
  split_ifs with called
  · rw [Option.map_eq_some_iff]
    constructor
    · rintro ⟨f, isCallback, rfl⟩
      exact ⟨called, isCallback, rfl, rfl⟩
    · rintro ⟨_, isCallback, rfl, rfl⟩
      exact ⟨call.callback, isCallback, rfl⟩
  · exact iff_of_false (fun impossible => by cases impossible)
      fun all => called all.1

/-- The calls which a room gets. -/
def roomCalls
    (state : State Identity Callback)
    (msg from_componentName room : Bytes) :
    List (Invocation Identity Callback) :=
  (entries state room).filterMap
    (invocation state msg room from_componentName)

theorem SameSubscriptions.invocation
    {before after : State Identity Callback}
    (same : SameSubscriptions before after)
    (msg room from_componentName : Bytes) :
    invocation after msg room from_componentName =
      invocation before msg room from_componentName := by
  funext component
  simp only [Delivery.invocation, same.callback, same.name, same.alive]

theorem SameSubscriptions.roomCalls
    {before after : State Identity Callback}
    (same : SameSubscriptions before after)
    (msg from_componentName room : Bytes) :
    roomCalls after msg from_componentName room =
      roomCalls before msg from_componentName room := by
  rw [Delivery.roomCalls, Delivery.roomCalls, same.entries, same.invocation]

/-- Every live component which a room holds has a callback for that room. -/
def Callable (state : State Identity Callback) : Prop :=
  ∀ room, ∀ component ∈ entries state room,
    (state.components component).ptr_ = true →
      callback state component room ≠ none

theorem SameSubscriptions.callable
    {before after : State Identity Callback}
    (same : SameSubscriptions before after) (callable : Callable before) :
    Callable after := by
  intro room component isEntry alive
  rw [same.callback]
  rw [same.entries] at isEntry
  rw [same.alive] at alive
  exact callable room component isEntry alive

/-! ## One dispatch -/

section Dispatch

variable [DecidableEq Identity]
variable (msg room from_componentName : Bytes)

theorem recvMsg_of_callback
    {component : Component Callback} {f : Callback}
    (isCallback : valueAt none component.callback_s room = some f) :
    component.recvMsg room msg =
      .ok ((f, msg),
        { component with
          callback_s := (subscript none component.callback_s room).2 }) := by
  have found : (subscript none component.callback_s room).1 = some f := by
    rw [subscript_fst, isCallback]
  rw [Component.recvMsg]
  split
  · rename_i isNone
    rw [isNone] at found
    cases found
  · rename_i isSome
    rw [isSome] at found ⊢
    cases found
    rfl

/-- A lookup in a callback map is not a change of subscription. -/
theorem sameSubscriptions_lookup
    (state : State Identity Callback) (component : Identity) :
    SameSubscriptions state
      (state.setComponent component
        { state.components component with
          callback_s :=
            (subscript none (state.components component).callback_s room).2 })
    where
  entries := fun _ => rfl
  callback := by
    intro other otherRoom
    rw [callback, callback, State.setComponent_components]
    split_ifs with same
    · subst same
      rw [valueAt_subscript]
    · rfl
  name := State.setComponent_same Component.name_ rfl
  alive := State.setComponent_same Component.ptr_ rfl

/-- The loop over the entries of a room calls each that is to be called. -/
theorem deliver_eq
    (pending : List Identity) (state : State Identity Callback)
    (callable : ∀ component ∈ pending,
      (state.components component).ptr_ = true →
        callback state component room ≠ none) :
    ∃ final,
      deliver msg room from_componentName pending state =
        .ok (final, pending.filterMap
          (invocation state msg room from_componentName)) ∧
      SameSubscriptions state final := by
  induction pending generalizing state with
  | nil => exact ⟨state, rfl, SameSubscriptions.refl state⟩
  | cons component rest ih =>
      have restCallable := fun other isRest =>
        callable other (List.mem_cons_of_mem _ isRest)
      rw [deliver, lock]
      by_cases alive : (state.components component).ptr_ = true
      · rw [if_pos alive]
        by_cases isSender :
            (state.components component).name_ = from_componentName
        · have silent : invocation state msg room from_componentName
              component = none := if_neg fun both => both.2 isSender
          rw [List.filterMap_cons_none silent]
          simp only [Component.getName, isSender, ne_eq, not_true,
            if_false]
          exact ih state restCallable
        · rcases Option.ne_none_iff_exists'.mp
            (callable component List.mem_cons_self alive) with
            ⟨f, isCallback⟩
          have called : invocation state msg room from_componentName
              component = some ⟨component, f, msg⟩ := by
            rw [invocation, if_pos ⟨alive, isSender⟩, isCallback]
            rfl
          have lookup := sameSubscriptions_lookup room state component
          rcases ih _ (fun other isRest isAlive => by
              rw [lookup.callback]
              rw [lookup.alive] at isAlive
              exact restCallable other isRest isAlive) with
            ⟨final, delivered, same⟩
          refine ⟨final, ?_, lookup.trans same⟩
          rw [List.filterMap_cons_some called, ← lookup.invocation]
          simp only [Component.getName, isSender, ne_eq, not_false_eq_true,
            if_true, recvMsg_of_callback msg room isCallback]
          simp only [bind, Except.bind, delivered]
          rfl
      · rw [if_neg alive]
        have silent : invocation state msg room from_componentName
            component = none := if_neg fun both => alive both.1
        rw [List.filterMap_cons_none silent]
        exact ih state restCallable

theorem sendOutMsgToRoomComponents_eq
    (state : State Identity Callback) (callable : Callable state) :
    ∃ final,
      sendOutMsgToRoomComponents state msg room from_componentName =
        .ok (final, roomCalls state msg from_componentName room) ∧
      SameSubscriptions state final := by
  have lookup : SameSubscriptions state
      { state with rooms := (subscript [] state.rooms room).2 } :=
    ⟨fun other => valueAt_subscript _ _ _, fun _ _ => rfl, fun _ => rfl,
      fun _ => rfl⟩
  rcases deliver_eq msg room from_componentName (entries state room)
      { state with rooms := (subscript [] state.rooms room).2 }
      (callable room) with
    ⟨final, delivered, same⟩
  refine ⟨final, ?_, lookup.trans same⟩
  rw [lookup.invocation] at delivered
  show deliver msg room from_componentName
    (subscript [] state.rooms room).1 _ = _
  rw [subscript_fst]
  exact delivered

/-- A loop over rooms makes the calls of each room in turn. -/
theorem sendOutToRooms_eq
    (rooms : List Bytes) (state : State Identity Callback)
    (callable : Callable state) :
    ∃ final,
      sendOutToRooms msg from_componentName rooms state =
        .ok (final, rooms.flatMap (roomCalls state msg from_componentName)) ∧
      SameSubscriptions state final := by
  induction rooms generalizing state with
  | nil => exact ⟨state, rfl, SameSubscriptions.refl state⟩
  | cons room rest ih =>
      rcases sendOutMsgToRoomComponents_eq msg room from_componentName state
          callable with
        ⟨middle, sent, same⟩
      rcases ih middle (same.callable callable) with
        ⟨final, delivered, later⟩
      refine ⟨final, ?_, same.trans later⟩
      have sameCalls : roomCalls middle msg from_componentName =
          roomCalls state msg from_componentName :=
        funext fun other => same.roomCalls msg from_componentName other
      rw [sendOutToRooms, sent]
      simp only [bind, Except.bind, delivered, sameCalls]
      rfl

/-- The rooms which a message goes through, in order. -/
def targets (order : List Bytes) (room : Bytes) : List Bytes :=
  if room = broadcast then order else [room, broadcast]

theorem sendMsg_eq_sendOutToRooms
    (order : List Bytes) (state : State Identity Callback) :
    sendMsg_ order state room msg from_componentName =
      sendOutToRooms msg from_componentName (targets order room) state := by
  rw [sendMsg_, targets]
  split_ifs with isBroadcast
  · rfl
  · simp only [sendOutToRooms, bind, Except.bind, pure, Except.pure]
    cases sendOutMsgToRoomComponents state msg room from_componentName with
    | error thrown => rfl
    | ok first =>
        dsimp only
        cases sendOutMsgToRoomComponents first.1 msg broadcast
            from_componentName with
        | error thrown => rfl
        | ok second => simp only [List.append_nil]

/-- A dispatch makes the calls of the rooms which it goes through. -/
theorem sendMsg_eq
    (order : List Bytes) (state : State Identity Callback)
    (callable : Callable state) :
    ∃ final,
      sendMsg_ order state room msg from_componentName =
        .ok (final, (targets order room).flatMap
          (roomCalls state msg from_componentName)) ∧
      SameSubscriptions state final := by
  rw [sendMsg_eq_sendOutToRooms]
  exact sendOutToRooms_eq msg from_componentName _ state callable

end Dispatch

/-! ## One change of the subscriptions -/

section Changes

variable [DecidableEq Identity]
variable {state : State Identity Callback} {component : Identity}

omit [DecidableEq Identity] in
theorem lock_of_alive
    (alive : (state.components component).ptr_ = true) :
    lock state component = some component :=
  if_pos alive

omit [DecidableEq Identity] in
theorem lock_of_dead
    (dead : ¬ (state.components component).ptr_ = true) :
    lock state component = none :=
  if_neg dead

omit [DecidableEq Identity] in
theorem eq_of_lock
    {ptr : Identity} (locked : lock state component = some ptr) :
    component = ptr := by
  rw [lock] at locked
  split_ifs at locked
  exact Option.some.inj locked

theorem entries_subscribe
    (alive : (state.components component).ptr_ = true)
    (room : Bytes) (cb : Callback) (other : Bytes) :
    entries (subscribe state room component cb) other =
      if other = room then entries state room ++ [component]
      else entries state other := by
  simp only [subscribe, lock_of_alive alive, entries, State.setComponent,
    valueAt_insert, subscript_fst, valueAt_subscript]

theorem components_subscribe
    (alive : (state.components component).ptr_ = true)
    (room : Bytes) (cb : Callback) :
    (subscribe state room component cb).components =
      (state.setComponent component
        ((state.components component).setCallback room cb)).components := by
  simp only [subscribe, lock_of_alive alive]

theorem callback_subscribe
    (alive : (state.components component).ptr_ = true)
    (room : Bytes) (cb : Callback) (other : Identity) (otherRoom : Bytes) :
    callback (subscribe state room component cb) other otherRoom =
      if room = otherRoom ∧ component = other then some cb
      else callback state other otherRoom := by
  rw [callback, callback, components_subscribe alive,
    State.setComponent_components]
  by_cases sameComponent : other = component
  · subst sameComponent
    simp only [if_true, Component.setCallback, valueAt_insert, and_true,
      eq_comm]
  · simp only [if_neg sameComponent, Ne.symm sameComponent, and_false,
      if_false]

/-- A weak pointer locks to the component only if it is that component's. -/
theorem entries_unsubscribe
    (alive : (state.components component).ptr_ = true)
    (room other : Bytes) :
    entries (unsubscribe state room component) other =
      if other = room then (entries state room).erase component
      else entries state other := by
  have same : (fun cmp => decide (lock state cmp = some component)) =
      (fun cmp => cmp == component) := by
    funext cmp
    rw [beq_eq_decide, decide_eq_decide]
    constructor
    · exact eq_of_lock
    · rintro rfl
      exact lock_of_alive alive
  simp only [unsubscribe, lock_of_alive alive, entries, valueAt_insert,
    subscript_fst, valueAt_subscript, same, List.erase_eq_eraseP']

theorem components_unsubscribe (room : Bytes) :
    (unsubscribe state room component).components = state.components := by
  rw [unsubscribe]
  split <;> rfl

end Changes

/-! ## The subscription history -/

/-- A change of the subscriptions; a broadcast subscription is one to the
room `broadcast`. -/
inductive Event (Identity Callback : Type) where
  | subscribe (room : Bytes) (component : Identity) (cb : Callback)
  | unsubscribe (room : Bytes) (component : Identity)
  | destroy (component : Identity)

/-- The changes so far, the newest first. -/
abbrev History (Identity Callback : Type) := List (Event Identity Callback)

section History

variable [DecidableEq Identity]

/-- The component has not been destroyed. -/
def Live : History Identity Callback → Identity → Prop
  | [], _ => True
  | .destroy other :: earlier, component =>
      other ≠ component ∧ Live earlier component
  | _ :: earlier, component => Live earlier component

instance decidableLive :
    ∀ (history : History Identity Callback) (component : Identity),
      Decidable (Live history component)
  | [], _ => .isTrue True.intro
  | .destroy _ :: earlier, component =>
      have := decidableLive earlier component
      inferInstanceAs (Decidable (_ ∧ _))
  | .subscribe _ _ _ :: earlier, component => decidableLive earlier component
  | .unsubscribe _ _ :: earlier, component => decidableLive earlier component

/-- How often the component is subscribed to the room. -/
def count : History Identity Callback → Identity → Bytes → Nat
  | [], _, _ => 0
  | .subscribe other owner _ :: earlier, component, room =>
      if other = room ∧ owner = component then
        count earlier component room + 1
      else
        count earlier component room
  | .unsubscribe other owner :: earlier, component, room =>
      if other = room ∧ owner = component ∧ Live earlier component then
        count earlier component room - 1
      else
        count earlier component room
  | .destroy _ :: earlier, component, room => count earlier component room

/-- The callback which the component registered last for the room. -/
def latest : History Identity Callback → Identity → Bytes → Option Callback
  | [], _, _ => none
  | .subscribe other owner cb :: earlier, component, room =>
      if other = room ∧ owner = component then some cb
      else latest earlier component room
  | .unsubscribe _ _ :: earlier, component, room =>
      latest earlier component room
  | .destroy _ :: earlier, component, room => latest earlier component room

/-- A component which is subscribed has registered a callback. -/
theorem latest_of_count
    {history : History Identity Callback} {component : Identity}
    {room : Bytes} (subscribed : 0 < count history component room) :
    latest history component room ≠ none := by
  induction history with
  | nil => exact absurd subscribed (lt_irrefl 0)
  | cons event earlier ih =>
      cases event with
      | subscribe other owner cb =>
          rw [latest]
          rw [count] at subscribed
          split_ifs at subscribed ⊢
          · exact Option.some_ne_none cb
          · exact ih subscribed
      | unsubscribe other owner =>
          rw [count] at subscribed
          split_ifs at subscribed
          · exact ih (Nat.lt_of_lt_of_le subscribed (Nat.sub_le _ _))
          · exact ih subscribed
      | destroy owner => exact ih subscribed

end History

/-! ## The bus refines its history -/

section Refinement

variable [DecidableEq Identity]

/-- The rooms and callback maps hold what the history says of the live
components. -/
structure Refines
    (names : Identity → Bytes) (history : History Identity Callback)
    (state : State Identity Callback) : Prop where
  name : ∀ component, (state.components component).name_ = names component
  alive : ∀ component,
    (state.components component).ptr_ = true ↔ Live history component
  entries : ∀ component, Live history component → ∀ room,
    (entries state room).count component = count history component room
  callback : ∀ component, Live history component → ∀ room,
    callback state component room = latest history component room

variable {names : Identity → Bytes} {history : History Identity Callback}
variable {state : State Identity Callback}

theorem refines_initial :
    Refines names [] (initial names : State Identity Callback) where
  name := fun _ => rfl
  alive := fun _ => iff_of_true rfl True.intro
  entries := by
    intro component _ room
    rw [entries, initial, valueAt_empty]
    rfl
  callback := by
    intro component _ room
    rw [callback, initial, valueAt_empty]
    rfl

/-- What lookups insert is not seen by the history. -/
theorem Refines.same
    (refines : Refines names history state)
    {after : State Identity Callback}
    (same : SameSubscriptions state after) :
    Refines names history after where
  name := fun component => (same.name component).trans (refines.name component)
  alive := fun component => by
    rw [same.alive]
    exact refines.alive component
  entries := fun component isLive room => by
    rw [same.entries]
    exact refines.entries component isLive room
  callback := fun component isLive room => by
    rw [same.callback]
    exact refines.callback component isLive room

/-- Subscribing an expired pointer does nothing, and counts for no live
component. -/
theorem Refines.subscribe_dead
    (refines : Refines names history state)
    (room : Bytes) {component : Identity} (cb : Callback)
    (dead : ¬ (state.components component).ptr_ = true) :
    Refines names (.subscribe room component cb :: history)
      (subscribe state room component cb) := by
  have unchanged : Rooms.subscribe state room component cb = state := by
    rw [Rooms.subscribe, lock_of_dead dead]
  have isOther : ∀ other otherRoom, Live history other →
      ¬ (room = otherRoom ∧ component = other) := by
    rintro other otherRoom isLive ⟨_, rfl⟩
    exact dead ((refines.alive component).mpr isLive)
  rw [unchanged]
  refine ⟨refines.name, refines.alive, ?_, ?_⟩
  · intro other isLive otherRoom
    rw [count, if_neg (isOther other otherRoom isLive)]
    exact refines.entries other isLive otherRoom
  · intro other isLive otherRoom
    rw [latest, if_neg (isOther other otherRoom isLive)]
    exact refines.callback other isLive otherRoom

theorem Refines.subscribe_alive
    (refines : Refines names history state)
    (room : Bytes) {component : Identity} (cb : Callback)
    (alive : (state.components component).ptr_ = true) :
    Refines names (.subscribe room component cb :: history)
      (subscribe state room component cb) where
  name := by
    intro other
    rw [components_subscribe alive, State.setComponent_same Component.name_]
    · exact refines.name other
    · rfl
  alive := by
    intro other
    rw [components_subscribe alive, State.setComponent_same Component.ptr_]
    · exact refines.alive other
    · rfl
  entries := by
    intro other isLive otherRoom
    rw [entries_subscribe alive, count]
    by_cases sameRoom : otherRoom = room
    · subst sameRoom
      rw [if_pos rfl, List.count_append, refines.entries other isLive,
        List.count_singleton]
      simp only [true_and, beq_iff_eq]
      split_ifs <;> rfl
    · rw [if_neg sameRoom, if_neg fun both => sameRoom both.1.symm]
      exact refines.entries other isLive otherRoom
  callback := by
    intro other isLive otherRoom
    rw [callback_subscribe alive, latest]
    split_ifs
    · rfl
    · exact refines.callback other isLive otherRoom

theorem Refines.subscribe
    (refines : Refines names history state)
    (room : Bytes) (component : Identity) (cb : Callback) :
    Refines names (.subscribe room component cb :: history)
      (subscribe state room component cb) := by
  by_cases alive : (state.components component).ptr_ = true
  · exact refines.subscribe_alive room cb alive
  · exact refines.subscribe_dead room cb alive

theorem Refines.unsubscribe
    (refines : Refines names history state)
    (room : Bytes) (component : Identity) :
    Refines names (.unsubscribe room component :: history)
      (unsubscribe state room component) where
  name := by
    intro other
    rw [components_unsubscribe]
    exact refines.name other
  alive := by
    intro other
    rw [components_unsubscribe]
    exact refines.alive other
  entries := by
    intro other isLive otherRoom
    rw [count]
    by_cases alive : (state.components component).ptr_ = true
    · rw [entries_unsubscribe alive]
      by_cases sameRoom : otherRoom = room
      · subst sameRoom
        have stillLive : Live history other := isLive
        rw [if_pos rfl, List.count_erase, refines.entries other isLive]
        simp only [true_and, beq_iff_eq, stillLive, and_true]
        split_ifs <;> rfl
      · rw [if_neg sameRoom, if_neg fun both => sameRoom both.1.symm]
        exact refines.entries other isLive otherRoom
    · -- an expired pointer: the history does not lower the count either
      have unchanged : Rooms.unsubscribe state room component = state := by
        rw [Rooms.unsubscribe, lock_of_dead alive]
      have isOther :
          ¬ (room = otherRoom ∧ component = other ∧ Live history other) := by
        rintro ⟨_, rfl, _⟩
        exact alive ((refines.alive component).mpr isLive)
      rw [unchanged, if_neg isOther]
      exact refines.entries other isLive otherRoom
  callback := by
    intro other isLive otherRoom
    rw [Delivery.callback, components_unsubscribe]
    exact refines.callback other isLive otherRoom

theorem Refines.destroy
    (refines : Refines names history state) (component : Identity) :
    Refines names (.destroy component :: history)
      (destroy state component) where
  name := by
    intro other
    rw [Rooms.destroy, State.setComponent_same Component.name_]
    · exact refines.name other
    · rfl
  alive := by
    intro other
    rw [Rooms.destroy, State.setComponent_components, Live]
    split_ifs with same
    · exact iff_of_false not_false fun both => both.1 same.symm
    · rw [refines.alive other]
      exact ⟨fun isLive => ⟨Ne.symm same, isLive⟩, And.right⟩
  entries := by
    intro other isLive otherRoom
    exact refines.entries other isLive.2 otherRoom
  callback := by
    intro other isLive otherRoom
    have different : other ≠ component := Ne.symm isLive.1
    rw [Delivery.callback, Rooms.destroy, State.setComponent_components,
      if_neg different]
    exact refines.callback other isLive.2 otherRoom

/-- Every live entry of a room was subscribed, so it has a callback. -/
theorem Refines.callable (refines : Refines names history state) :
    Callable state := by
  intro room component isEntry alive
  have isLive : Live history component := (refines.alive component).mp alive
  rw [refines.callback component isLive]
  apply latest_of_count
  rw [← refines.entries component isLive]
  exact List.count_pos_iff.mpr isEntry

end Refinement

/-! ## Runs -/

section Runs

variable [DecidableEq Identity]

/--
The states which a bus reaches by changes of its subscriptions and by
dispatches that come to their end, with the history of the changes.
-/
inductive Run (names : Identity → Bytes) :
    History Identity Callback → State Identity Callback → Prop where
  | initial : Run names [] (initial names)
  | subscribe {history : History Identity Callback}
      {state : State Identity Callback} (run : Run names history state)
      (room : Bytes) (component : Identity) (cb : Callback) :
      Run names (.subscribe room component cb :: history)
        (subscribe state room component cb)
  | subscribeBroadcast {history : History Identity Callback}
      {state : State Identity Callback} (run : Run names history state)
      (component : Identity) (cb : Callback) :
      Run names (.subscribe broadcast component cb :: history)
        (subscribeBroadcast state component cb)
  | unsubscribe {history : History Identity Callback}
      {state : State Identity Callback} (run : Run names history state)
      (room : Bytes) (component : Identity) :
      Run names (.unsubscribe room component :: history)
        (unsubscribe state room component)
  | destroy {history : History Identity Callback}
      {state : State Identity Callback} (run : Run names history state)
      (component : Identity) :
      Run names (.destroy component :: history) (destroy state component)
  | dispatch {history : History Identity Callback}
      {state final : State Identity Callback} (run : Run names history state)
      {order : List Bytes} (isOrder : order.Perm state.rooms.keys)
      {room msg componentName : Bytes}
      {calls : List (Invocation Identity Callback)}
      (sent : sendMsg_ order state room msg componentName =
        .ok (final, calls)) :
      Run names history final

theorem Run.refines
    {names : Identity → Bytes} {history : History Identity Callback}
    {state : State Identity Callback} (run : Run names history state) :
    Refines names history state := by
  induction run with
  | initial => exact refines_initial
  | subscribe run room component cb ih => exact ih.subscribe room component cb
  | subscribeBroadcast run component cb ih =>
      exact ih.subscribe broadcast component cb
  | unsubscribe run room component ih => exact ih.unsubscribe room component
  | destroy run component ih => exact ih.destroy component
  | dispatch run isOrder sent ih =>
      rcases sendMsg_eq _ _ _ _ _ ih.callable with ⟨other, sameSent, same⟩
      cases sent.symm.trans sameSent
      exact ih.same same

/-- The calls which the history asks for in a room: each live component other
than the sender as often as it is subscribed, its latest callback, with the
message. -/
structure DeliversRoom
    (names : Identity → Bytes) (history : History Identity Callback)
    (msg componentName room : Bytes)
    (calls : List (Invocation Identity Callback)) : Prop where
  times : ∀ component,
    calls.countP (fun call => call.component = component) =
      if Live history component ∧ names component ≠ componentName then
        count history component room
      else 0
  latest : ∀ call ∈ calls,
    latest history call.component room = some call.callback
  message : ∀ call ∈ calls, call.msg = msg

/-- An entry of a room is called if it is live and not the sender. -/
theorem Refines.isSome_invocation
    {names : Identity → Bytes} {history : History Identity Callback}
    {state : State Identity Callback}
    (refines : Refines names history state)
    (msg componentName : Bytes) {room : Bytes} {entry : Identity}
    (isEntry : entry ∈ Delivery.entries state room) :
    (invocation state msg room componentName entry).isSome = true ↔
      Live history entry ∧ names entry ≠ componentName := by
  simp only [invocation, refines.name, refines.alive]
  split_ifs with called
  · rw [Option.isSome_map]
    refine iff_of_true ?_ called
    apply Option.isSome_iff_ne_none.mpr
    exact refines.callable room entry isEntry
      ((refines.alive entry).mpr called.1)
  · exact iff_of_false Bool.false_ne_true called

/-- A call to a component comes from an entry of that component. -/
theorem invocation_calls_iff
    {state : State Identity Callback}
    {msg room componentName : Bytes} {entry component : Identity} :
    ((invocation state msg room componentName entry).map fun call =>
        decide (call.component = component)).getD false = true ↔
      entry = component ∧
        (invocation state msg room componentName entry).isSome = true := by
  cases isCall : invocation state msg room componentName entry with
  | none => exact iff_of_false Bool.false_ne_true fun both => by cases both.2
  | some call =>
      have isEntry : call.component = entry :=
        (invocation_eq_some_iff.mp isCall).2.2.1
      simp only [Option.map_some, Option.getD_some, decide_eq_true_eq,
        isEntry, Option.isSome_some, and_true]

theorem Refines.roomCalls
    {names : Identity → Bytes} {history : History Identity Callback}
    {state : State Identity Callback}
    (refines : Refines names history state)
    (msg componentName room : Bytes) :
    DeliversRoom names history msg componentName room
      (roomCalls state msg componentName room) where
  times := by
    intro component
    rw [Delivery.roomCalls, List.countP_filterMap]
    by_cases called : Live history component ∧
        names component ≠ componentName
    · rw [if_pos called, ← refines.entries component called.1, List.count]
      apply List.countP_congr
      intro entry isEntry
      rw [invocation_calls_iff, beq_iff_eq]
      constructor
      · exact And.left
      · rintro rfl
        exact ⟨rfl, (refines.isSome_invocation _ _ isEntry).mpr called⟩
    · rw [if_neg called, List.countP_eq_zero]
      intro entry isEntry isCalled
      rcases invocation_calls_iff.mp isCalled with ⟨rfl, isSome⟩
      exact called ((refines.isSome_invocation _ _ isEntry).mp isSome)
  latest := by
    intro call isCall
    rcases List.mem_filterMap.mp isCall with ⟨entry, _, isInvocation⟩
    rcases invocation_eq_some_iff.mp isInvocation with
      ⟨⟨alive, _⟩, isCallback, rfl, _⟩
    rw [← refines.callback _ ((refines.alive _).mp alive)]
    exact isCallback
  message := by
    intro call isCall
    rcases List.mem_filterMap.mp isCall with ⟨entry, _, isInvocation⟩
    exact (invocation_eq_some_iff.mp isInvocation).2.2.2

/-- A call is made to each component that the history asks to call. -/
theorem calls_component_iff
    {names : Identity → Bytes} {history : History Identity Callback}
    {state : State Identity Callback} (refines : Refines names history state)
    (msg componentName room : Bytes) (component : Identity) :
    (∃ call ∈ roomCalls state msg componentName room,
        call.component = component) ↔
      Live history component ∧ names component ≠ componentName ∧
        0 < count history component room := by
  have times :=
    (refines.roomCalls msg componentName room).times component
  have positive : (∃ call ∈ roomCalls state msg componentName room,
      call.component = component) ↔
        0 < (roomCalls state msg componentName room).countP
          fun call => call.component = component := by
    simp [List.countP_pos_iff]
  rw [positive, times]
  split_ifs with called
  · simp [called]
  · refine iff_of_false (lt_irrefl 0) fun all => ?_
    exact called ⟨all.1, all.2.1⟩

omit [DecidableEq Identity] in
theorem mem_keys_of_isEntry
    {state : State Identity Callback} {room : Bytes} {component : Identity}
    (isEntry : component ∈ Delivery.entries state room) :
    room ∈ state.rooms.keys := by
  by_contra notKey
  have absent : room ∉ state.rooms := by rwa [AList.mem_keys]
  rw [Delivery.entries, valueAt_of_not_mem absent] at isEntry
  exact List.not_mem_nil isEntry

omit [DecidableEq Identity] in
/-- A room without entries gets no call. -/
theorem roomCalls_of_not_mem
    {state : State Identity Callback} {room : Bytes}
    (absent : room ∉ state.rooms.keys) (msg componentName : Bytes) :
    roomCalls state msg componentName room = [] := by
  have isEmpty : entries state room = [] := by
    apply valueAt_of_not_mem
    rwa [AList.mem_keys]
  rw [roomCalls, isEmpty, List.filterMap_nil]

/--
A dispatch in any run returns.  To an ordinary room it makes the calls which
the history asks for in that room, then those of the broadcast room; to the
broadcast room it makes those of every room, each room once.  It leaves the
history, the room entries and the callbacks as they are.
-/
theorem dispatch_follows_history
    (names : Identity → Bytes) (history : History Identity Callback)
    (state : State Identity Callback) (run : Run names history state)
    (order : List Bytes) (isOrder : order.Perm state.rooms.keys)
    (room msg componentName : Bytes) :
    ∃ final calls,
      sendMsg_ order state room msg componentName = .ok (final, calls) ∧
      (room ≠ broadcast → ∃ first second,
        calls = first ++ second ∧
        DeliversRoom names history msg componentName room first ∧
        DeliversRoom names history msg componentName broadcast second) ∧
      (room = broadcast → ∃ parts,
        calls = order.flatMap parts ∧ order.Nodup ∧
        (∀ other, other ∉ order → parts other = []) ∧
        ∀ other,
          DeliversRoom names history msg componentName other
            (parts other)) ∧
      Run names history final ∧ SameSubscriptions state final := by
  have refines := run.refines
  have calls := refines.roomCalls msg componentName
  rcases sendMsg_eq msg room componentName order state refines.callable with
    ⟨final, sent, same⟩
  refine ⟨final, _, sent, ?_, ?_, run.dispatch isOrder sent, same⟩
  · intro ordinary
    refine ⟨_, _, ?_, calls room, calls broadcast⟩
    rw [targets, if_neg ordinary, List.flatMap_cons, List.flatMap_singleton]
  · intro isBroadcast
    refine ⟨roomCalls state msg componentName, ?_, ?_, ?_, calls⟩
    · rw [targets, if_pos isBroadcast]
    · exact isOrder.nodup_iff.mpr (AList.keys_nodup state.rooms)
    · intro other notInOrder
      apply roomCalls_of_not_mem
      intro isKey
      exact notInOrder (isOrder.mem_iff.mpr isKey)

end Runs

section Example

/-- Three components, the last two with the same name. -/
def exampleNames (component : Fin 3) : Bytes :=
  if component = 0 then str "sender" else str "cli"

/-- A double subscription of which one is taken back, a broadcast
subscription, and a subscriber that has gone. -/
def exampleHistory : History (Fin 3) Nat :=
  [ .destroy 2, .unsubscribe (str "Room1") 1, .subscribe (str "Room1") 2 4,
    .subscribe broadcast 0 3, .subscribe (str "Room1") 1 2,
    .subscribe (str "Room1") 1 1 ]

def exampleState : State (Fin 3) Nat :=
  destroy
    (unsubscribe
      (subscribe
        (subscribeBroadcast
          (subscribe
            (subscribe (initial exampleNames) (str "Room1") 1 1)
            (str "Room1") 1 2)
          0 3)
        (str "Room1") 2 4)
      (str "Room1") 1)
    2

theorem exampleState_dispatch :
    ∃ final calls,
      sendMsg_ exampleState.rooms.keys exampleState (str "Room1")
          (str "hello") (str "sender") = .ok (final, calls) ∧
      (str "Room1" ≠ broadcast → ∃ first second,
        calls = first ++ second ∧
        DeliversRoom exampleNames exampleHistory (str "hello") (str "sender")
          (str "Room1") first ∧
        DeliversRoom exampleNames exampleHistory (str "hello") (str "sender")
          broadcast second) ∧
      (str "Room1" = broadcast → ∃ parts,
        calls = exampleState.rooms.keys.flatMap parts ∧
        exampleState.rooms.keys.Nodup ∧
        (∀ other, other ∉ exampleState.rooms.keys → parts other = []) ∧
        ∀ other,
          DeliversRoom exampleNames exampleHistory (str "hello")
            (str "sender") other (parts other)) ∧
      Run exampleNames exampleHistory final ∧
      SameSubscriptions exampleState final := by
  have run : Run exampleNames exampleHistory exampleState :=
    .destroy (.unsubscribe (.subscribe (.subscribeBroadcast
      (.subscribe (.subscribe .initial _ _ _) _ _ _) _ _) _ _ _) _ _) _
  exact dispatch_follows_history exampleNames exampleHistory exampleState run
    exampleState.rooms.keys (List.Perm.refl _) (str "Room1") (str "hello")
    (str "sender")

end Example

end ServerUtils.Bus.Delivery
