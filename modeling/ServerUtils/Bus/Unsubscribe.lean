import ServerUtils.Bus.Delivery

/-!
# What unsubscribing takes away

`unsubscribe` erases the first entry of a component from a room, so it lowers
the number of entries by one.  A component that subscribed once is not called
for the room any more; one that subscribed twice, to change its callback say,
still is.  The calls of a dispatch are kept apart by room here, since the
results speak of the callback for one room.
-/

namespace ServerUtils.Bus.Unsubscribe

open ServerUtils.Foundation.Container
open ServerUtils.Parser.StdString
open ServerUtils.Bus.Rooms
open ServerUtils.Bus.Delivery

variable {Identity Callback : Type} [DecidableEq Identity]

/-! ## The calls of a dispatch by room -/

/-- `sendOutToRooms`, with the calls of each room under its name. -/
def sendOutByRoom (msg componentName : Bytes) :
    List Bytes → State Identity Callback →
      Except BadFunctionCall
        (State Identity Callback ×
          List (Bytes × List (Invocation Identity Callback)))
  | [], state => .ok (state, [])
  | room :: rest, state => do
      let (sent, invocations) ←
        sendOutMsgToRoomComponents state msg room componentName
      let (final, later) ← sendOutByRoom msg componentName rest sent
      return (final, (room, invocations) :: later)

/-- `sendMsg_`, with the calls of each room under its name. -/
def sendMsgByRoom
    (order : List Bytes) (state : State Identity Callback)
    (room msg componentName : Bytes) :
    Except BadFunctionCall
      (State Identity Callback ×
        List (Bytes × List (Invocation Identity Callback))) :=
  sendOutByRoom msg componentName (targets order room) state

/-- Without the names of the rooms it is the loop of the source. -/
theorem sendOutToRooms_eq_byRoom
    (msg componentName : Bytes) (rooms : List Bytes)
    (state : State Identity Callback) :
    sendOutToRooms msg componentName rooms state =
      (sendOutByRoom msg componentName rooms state).map fun result =>
        (result.1, result.2.flatMap Prod.snd) := by
  induction rooms generalizing state with
  | nil => rfl
  | cons room rest ih =>
      rw [sendOutToRooms, sendOutByRoom]
      cases sendOutMsgToRoomComponents state msg room componentName with
      | error thrown => rfl
      | ok first =>
          simp only [bind, Except.bind, ih]
          cases sendOutByRoom msg componentName rest first.1 <;> rfl

theorem sendMsg_eq_byRoom
    (order : List Bytes) (state : State Identity Callback)
    (room msg componentName : Bytes) :
    sendMsg_ order state room msg componentName =
      (sendMsgByRoom order state room msg componentName).map fun result =>
        (result.1, result.2.flatMap Prod.snd) := by
  rw [sendMsg_eq_sendOutToRooms, sendMsgByRoom, sendOutToRooms_eq_byRoom]

theorem sendOutByRoom_eq
    (msg componentName : Bytes) (rooms : List Bytes)
    (state : State Identity Callback) (callable : Callable state) :
    ∃ final,
      sendOutByRoom msg componentName rooms state =
        .ok (final, rooms.map fun room =>
          (room, roomCalls state msg componentName room)) := by
  induction rooms generalizing state with
  | nil => exact ⟨state, rfl⟩
  | cons room rest ih =>
      rcases sendOutMsgToRoomComponents_eq msg room componentName state
          callable with
        ⟨middle, sent, same⟩
      rcases ih middle (same.callable callable) with ⟨final, delivered⟩
      refine ⟨final, ?_⟩
      have sameCalls : roomCalls middle msg componentName =
          roomCalls state msg componentName :=
        funext fun other => same.roomCalls msg componentName other
      rw [sendOutByRoom, sent]
      simp only [bind, Except.bind, delivered, sameCalls]
      rfl

/-- A dispatch of the message calls the component's callback for `room`. -/
def CallsFor
    (order : List Bytes) (state : State Identity Callback)
    (target msg componentName : Bytes) (component : Identity)
    (room : Bytes) : Prop :=
  ∃ final byRoom calls call,
    sendMsgByRoom order state target msg componentName =
        .ok (final, byRoom) ∧
      (room, calls) ∈ byRoom ∧ call ∈ calls ∧ call.component = component

/-- The component is called for the rooms on the way of the message. -/
theorem callsFor_iff
    {order : List Bytes} {state : State Identity Callback}
    {target msg componentName : Bytes} {component : Identity} {room : Bytes}
    (callable : Callable state) :
    CallsFor order state target msg componentName component room ↔
      room ∈ targets order target ∧
        ∃ call ∈ roomCalls state msg componentName room,
          call.component = component := by
  rcases sendOutByRoom_eq msg componentName (targets order target) state
      callable with
    ⟨final, sent⟩
  constructor
  · rintro ⟨_, byRoom, calls, call, sent', isRoom, isCall, same⟩
    rw [sendMsgByRoom, sent] at sent'
    cases sent'
    rcases List.mem_map.mp isRoom with ⟨other, isTarget, equal⟩
    cases equal
    exact ⟨isTarget, call, isCall, same⟩
  · rintro ⟨isTarget, call, isCall, same⟩
    exact ⟨final, _, _, call, sent,
      List.mem_map.mpr ⟨room, isTarget, rfl⟩, isCall, same⟩

/-! ## After `unsubscribe` -/

/--
After the component has unsubscribed from the room at the end of the history,
no run in which it does not subscribe to the room again comes to a dispatch
that calls its callback for the room.
-/
def UnsubscribeEffective
    (names : Identity → Bytes) (history : History Identity Callback)
    (room : Bytes) (component : Identity) : Prop :=
  ∀ later state,
    Run names (later ++ .unsubscribe room component :: history) state →
      (∀ cb, .subscribe room component cb ∉ later) →
        ∀ order, order.Perm state.rooms.keys →
          ∀ target ∈ [room, broadcast], ∀ msg componentName,
            ¬ CallsFor order state target msg componentName component room

/-- Without a new subscription the count does not grow. -/
theorem count_append_le
    {room : Bytes} {component : Identity}
    (later earlier : History Identity Callback)
    (unrenewed : ∀ cb, .subscribe room component cb ∉ later) :
    count (later ++ earlier) component room ≤
      count earlier component room := by
  induction later with
  | nil => exact le_refl _
  | cons event later ih =>
      have before := ih fun cb member =>
        unrenewed cb (List.mem_cons_of_mem _ member)
      cases event with
      | subscribe other owner cb =>
          rw [List.cons_append, count, if_neg]
          · exact before
          · rintro ⟨rfl, rfl⟩
            exact unrenewed cb List.mem_cons_self
      | unsubscribe other owner =>
          rw [List.cons_append, count]
          split_ifs
          · exact (Nat.sub_le _ _).trans before
          · exact before
      | destroy owner => exact before

theorem count_unsubscribe
    {history : History Identity Callback} {component : Identity}
    (live : Live history component) (room : Bytes) :
    count (.unsubscribe room component :: history) component room =
      count history component room - 1 := by
  rw [count, if_pos ⟨rfl, rfl, live⟩]

omit [DecidableEq Identity] in
/-- The room with an entry is on the way of a message to it. -/
theorem mem_targets_self
    {state : State Identity Callback} {room : Bytes} {component : Identity}
    (isEntry : component ∈ entries state room) :
    room ∈ targets state.rooms.keys room := by
  rw [targets]
  split_ifs
  · exact mem_keys_of_isEntry isEntry
  · exact List.mem_cons_self

/--
In every run, unsubscribing a live component is effective exactly when the
room holds at most one entry of it.
-/
theorem unsubscribeEffective_iff_single
    (names : Identity → Bytes) (history : History Identity Callback)
    (state : State Identity Callback) (run : Run names history state)
    (room : Bytes) (component : Identity) (live : Live history component) :
    UnsubscribeEffective names history room component ↔
      (entries state room).count component ≤ 1 := by
  rw [run.refines.entries component live]
  constructor
  · intro effective
    by_contra several
    have after := run.unsubscribe room component
    have remains : 0 <
        count (.unsubscribe room component :: history) component room := by
      rw [count_unsubscribe live]
      omega
    have isEntry : component ∈
        entries (unsubscribe state room component) room := by
      rw [← List.count_pos_iff, after.refines.entries component live]
      exact remains
    -- any sender with another name will do
    have otherName : names component ≠ names component ++ [0] := by simp
    refine effective [] _ after (by simp) _ (List.Perm.refl _) room
      List.mem_cons_self [] (names component ++ [0]) ?_
    rw [callsFor_iff after.refines.callable]
    refine ⟨mem_targets_self isEntry, ?_⟩
    rw [calls_component_iff after.refines]
    exact ⟨live, otherName, remains⟩
  · intro single later final laterRun unrenewed order isOrder target _ msg
      componentName called
    rw [callsFor_iff laterRun.refines.callable,
      calls_component_iff laterRun.refines] at called
    have bound := count_append_le later
      (.unsubscribe room component :: history) unrenewed
    rw [count_unsubscribe live] at bound
    have positive := called.2.2.2
    omega

/-! ## A component that changed its callback -/

def twoNames (component : Nat) : Bytes :=
  if component = 0 then str "cli1" else str "cli2"

def renewedHistory : History Nat Nat :=
  [.subscribe (str "Room1") 0 2, .subscribe (str "Room1") 0 1]

def renewedState : State Nat Nat :=
  subscribe (subscribe (initial twoNames) (str "Room1") 0 1) (str "Room1") 0 2

theorem renewedState_run : Run twoNames renewedHistory renewedState :=
  .subscribe (.subscribe .initial _ _ _) _ _ _

theorem renewedState_effective_iff :
    UnsubscribeEffective twoNames renewedHistory (str "Room1") 0 ↔
      (entries renewedState (str "Room1")).count 0 ≤ 1 :=
  unsubscribeEffective_iff_single twoNames renewedHistory renewedState
    renewedState_run (str "Room1") 0 (by decide)

/-- After one `unsubscribe` the component still gets a message to the room. -/
theorem renewedState_still_called :
    Run twoNames renewedHistory renewedState ∧ Live renewedHistory 0 ∧
      ¬ UnsubscribeEffective twoNames renewedHistory (str "Room1") 0 := by
  refine ⟨renewedState_run, by decide, fun effective => ?_⟩
  have run : Run twoNames
      ([] ++ .unsubscribe (str "Room1") 0 :: renewedHistory)
      (unsubscribe renewedState (str "Room1") 0) :=
    renewedState_run.unsubscribe _ _
  refine effective [] _ run (by simp) _ (List.Perm.refl _) (str "Room1")
    List.mem_cons_self (str "hello") (str "cli2") ?_
  exact ⟨_, _, _, ⟨0, 2, str "hello"⟩, rfl, List.mem_cons_self,
    List.mem_cons_self, rfl⟩

end ServerUtils.Bus.Unsubscribe
