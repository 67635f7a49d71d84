import ServerUtils.Bus.Delivery

/-!
# Who gets a message, and how often

The bus excludes the sender of a message by its name, while its rooms hold
components by identity: a component with the name of the sender is excluded
as well.  And it goes through rooms one after the other: a component that is
entered in two of the rooms on the way of a message is called for both.
-/

namespace ServerUtils.Bus.Recipients

open ServerUtils.Foundation.Container
open ServerUtils.Parser.StdString
open ServerUtils.Bus.Rooms
open ServerUtils.Bus.Delivery

variable {Identity Callback : Type} [DecidableEq Identity]

/-- The worker sends the tuple which `sendMsg` queued. -/
def sendQueued
    (order : List Bytes) (state : State Identity Callback)
    (tuple : Bytes × Bytes × Bytes) :
    Except BadFunctionCall
      (State Identity Callback × List (Invocation Identity Callback)) :=
  sendMsg_ order state tuple.1 tuple.2.1 tuple.2.2

/-- The rooms whose entries a message to `target` is for. -/
def Visited (target room : Bytes) : Prop :=
  target = broadcast ∨ room = target ∨ room = broadcast

omit [DecidableEq Identity] in
theorem mem_targets_iff
    {order : List Bytes} {state : State Identity Callback}
    {target room : Bytes} {component : Identity}
    (isOrder : order.Perm state.rooms.keys)
    (isEntry : component ∈ entries state room) :
    room ∈ targets order target ↔ Visited target room := by
  rw [targets, Visited]
  split_ifs with isBroadcast
  · refine iff_of_true ?_ (Or.inl isBroadcast)
    exact isOrder.mem_iff.mpr (mem_keys_of_isEntry isEntry)
  · simp [isBroadcast]

/-! ## The sender -/

/-- The component is subscribed to the room or to the broadcast room. -/
def Subscribed
    (history : History Identity Callback) (component : Identity)
    (room : Bytes) : Prop :=
  0 < count history component room ∨ 0 < count history component broadcast

/-- The message reaches every live subscriber but the sender. -/
structure OnlySenderExcluded
    (history : History Identity Callback) (sender : Identity)
    (room msg : Bytes) (calls : List (Invocation Identity Callback)) :
    Prop where
  delivered : ∀ component, component ≠ sender → Live history component →
    Subscribed history component room →
      ∃ call ∈ calls, call.component = component ∧ call.msg = msg
  excluded : ∀ call ∈ calls, call.component ≠ sender

/-- No live subscriber of the room shares the name of the sender. -/
def SenderNameUnshared
    (names : Identity → Bytes) (history : History Identity Callback)
    (sender : Identity) (room : Bytes) : Prop :=
  ∀ component, component ≠ sender → Live history component →
    Subscribed history component room → names component ≠ names sender

/-- Who is called in the rooms on the way of a message. -/
theorem called_iff
    {names : Identity → Bytes} {history : History Identity Callback}
    {state : State Identity Callback} (refines : Refines names history state)
    (rooms : List Bytes) (msg componentName : Bytes) (component : Identity) :
    (∃ call ∈ rooms.flatMap (roomCalls state msg componentName),
        call.component = component) ↔
      Live history component ∧ names component ≠ componentName ∧
        ∃ room ∈ rooms, 0 < count history component room := by
  constructor
  · rintro ⟨call, isCall, same⟩
    rcases List.mem_flatMap.mp isCall with ⟨room, isRoom, inRoom⟩
    rcases (calls_component_iff refines msg componentName room component).mp
      ⟨call, inRoom, same⟩ with ⟨live, differs, subscribed⟩
    exact ⟨live, differs, room, isRoom, subscribed⟩
  · rintro ⟨live, differs, room, isRoom, subscribed⟩
    rcases (calls_component_iff refines msg componentName room component).mpr
      ⟨live, differs, subscribed⟩ with ⟨call, inRoom, same⟩
    exact ⟨call, List.mem_flatMap.mpr ⟨room, isRoom, inRoom⟩, same⟩

theorem message_of_mem
    {names : Identity → Bytes} {history : History Identity Callback}
    {state : State Identity Callback} (refines : Refines names history state)
    {rooms : List Bytes} {msg componentName : Bytes}
    {call : Invocation Identity Callback}
    (isCall : call ∈ rooms.flatMap (roomCalls state msg componentName)) :
    call.msg = msg := by
  rcases List.mem_flatMap.mp isCall with ⟨room, -, inRoom⟩
  exact (refines.roomCalls msg componentName room).message call inRoom

/-- A subscriber has an entry in a room on the way of the message. -/
theorem exists_target_of_subscribed
    {names : Identity → Bytes} {history : History Identity Callback}
    {state : State Identity Callback} (refines : Refines names history state)
    {order : List Bytes} (isOrder : order.Perm state.rooms.keys)
    {component : Identity} (live : Live history component) {target : Bytes}
    (subscribed : Subscribed history component target) :
    ∃ room ∈ targets order target, 0 < count history component room := by
  have onTheWay : ∀ room, Visited target room →
      0 < count history component room →
        ∃ room ∈ targets order target, 0 < count history component room := by
    intro room visited positive
    have isEntry : component ∈ entries state room := by
      rw [← List.count_pos_iff, refines.entries component live]
      exact positive
    exact ⟨room, (mem_targets_iff isOrder isEntry).mpr visited, positive⟩
  rcases subscribed with inTarget | inBroadcast
  · exact onTheWay target (Or.inr (Or.inl rfl)) inTarget
  · exact onTheWay broadcast (Or.inr (Or.inr rfl)) inBroadcast

/--
A message that a component sent, whenever it is dispatched, reaches every live
subscriber but its sender exactly when no such subscriber has the sender's
name.
-/
theorem onlySenderExcluded_iff_nameUnshared
    (names : Identity → Bytes) (earlier later : History Identity Callback)
    (sending state : State Identity Callback)
    (sent : Run names earlier sending) (run : Run names (later ++ earlier) state)
    (order : List Bytes) (isOrder : order.Perm state.rooms.keys)
    (sender : Identity) (room msg : Bytes) :
    ∃ final calls,
      sendQueued order state
          ((sending.components sender).sendMsg room msg) =
        .ok (final, calls) ∧
      (OnlySenderExcluded (later ++ earlier) sender room msg calls ↔
        SenderNameUnshared names (later ++ earlier) sender room) := by
  have refines := run.refines
  have isName : (sending.components sender).name_ = names sender :=
    sent.refines.name sender
  rcases sendMsg_eq msg room (names sender) order state refines.callable with
    ⟨final, delivered, -⟩
  have queued : sendQueued order state
      ((sending.components sender).sendMsg room msg) =
        sendMsg_ order state room msg (names sender) := by
    rw [sendQueued, Component.sendMsg, isName]
  refine ⟨final, _, queued.trans delivered, ?_⟩
  · have called := called_iff refines (targets order room) msg (names sender)
    constructor
    · rintro ⟨reaches, -⟩ component other live subscribed
      rcases reaches component other live subscribed with
        ⟨call, isCall, same, -⟩
      exact ((called component).mp ⟨call, isCall, same⟩).2.1
    · intro unshared
      refine ⟨?_, ?_⟩
      · intro component other live subscribed
        rcases (called component).mpr
          ⟨live, unshared component other live subscribed,
            exists_target_of_subscribed refines isOrder live subscribed⟩ with
          ⟨call, isCall, same⟩
        exact ⟨call, isCall, same, message_of_mem refines isCall⟩
      · intro call isCall same
        exact ((called sender).mp ⟨call, isCall, same⟩).2.1 rfl

/-! Two components with one name, of which one sends and one subscribes. -/

def sameName (_ : Nat) : Bytes := str "client"

def sameNameHistory : History Nat Nat :=
  [.subscribe (str "Room1") 1 7]

def sameNameState : State Nat Nat :=
  subscribe (initial sameName) (str "Room1") 1 7

theorem sameNameState_run : Run sameName sameNameHistory sameNameState :=
  .subscribe .initial _ _ _

theorem sameNameState_excluded_iff :
    ∃ final calls,
      sendQueued sameNameState.rooms.keys sameNameState
          ((sameNameState.components 0).sendMsg (str "Room1") (str "hello")) =
        .ok (final, calls) ∧
      (OnlySenderExcluded ([] ++ sameNameHistory) 0 (str "Room1")
          (str "hello") calls ↔
        SenderNameUnshared sameName ([] ++ sameNameHistory) 0
          (str "Room1")) :=
  onlySenderExcluded_iff_nameUnshared sameName sameNameHistory []
    sameNameState sameNameState sameNameState_run sameNameState_run
    sameNameState.rooms.keys (List.Perm.refl _) 0 (str "Room1") (str "hello")

/-- The subscriber does not get the message of the other component. -/
theorem sameNameState_subscriber_excluded :
    Run sameName sameNameHistory sameNameState ∧
      ∃ final,
        sendQueued sameNameState.rooms.keys sameNameState
            ((sameNameState.components 0).sendMsg (str "Room1")
              (str "hello")) =
          .ok (final, []) ∧
        ¬ OnlySenderExcluded sameNameHistory 0 (str "Room1") (str "hello")
          ([] : List (Invocation Nat Nat)) := by
  refine ⟨sameNameState_run, _, rfl, fun excluded => ?_⟩
  have subscribed : Subscribed sameNameHistory 1 (str "Room1") :=
    Or.inl (by decide)
  rcases excluded.delivered 1 (by decide) (by decide) subscribed with
    ⟨call, isCall, -⟩
  exact List.not_mem_nil isCall

/-! ## Copies -/

/-- No component is entered twice in a room. -/
def EnteredOnce (state : State Identity Callback) : Prop :=
  ∀ room, (entries state room).Nodup

/-- No component is called twice. -/
def AtMostOneCopy (calls : List (Invocation Identity Callback)) : Prop :=
  ∀ component, calls.countP (fun call => call.component = component) ≤ 1

/--
No component which can be called is entered in two of the rooms on the way of
the message.
-/
def OneRoomOnTheWay
    (names : Identity → Bytes) (history : History Identity Callback)
    (state : State Identity Callback) (target componentName : Bytes) : Prop :=
  ∀ component, Live history component → names component ≠ componentName →
    ∀ room room', Visited target room → Visited target room' →
      component ∈ entries state room → component ∈ entries state room' →
        room = room'

theorem atMostOneCopy_iff_nodup
    {calls : List (Invocation Identity Callback)} :
    AtMostOneCopy calls ↔ (calls.map Invocation.component).Nodup := by
  rw [List.nodup_iff_count_le_one]
  apply forall_congr'
  intro component
  rw [List.count, List.countP_map]
  rfl

/-- Pieces without repetition stay so together if no two have a member in
common. -/
theorem nodup_flatMap_iff
    {Index Member : Type} {indices : List Index} (distinct : indices.Nodup)
    {pieces : Index → List Member}
    (nodup : ∀ index ∈ indices, (pieces index).Nodup) :
    (indices.flatMap pieces).Nodup ↔
      ∀ first ∈ indices, ∀ second ∈ indices, ∀ member,
        member ∈ pieces first → member ∈ pieces second → first = second := by
  rw [List.nodup_flatMap, and_iff_right nodup]
  constructor
  · intro disjoint first isFirst second isSecond member inFirst inSecond
    have symmetric : Std.Symm (Function.onFun List.Disjoint pieces) :=
      ⟨fun _ _ apart _ inLeft inRight => apart inRight inLeft⟩
    by_contra differ
    exact disjoint.forall isFirst isSecond differ inFirst inSecond
  · intro separate
    apply distinct.pairwise_of_forall_ne
    intro first isFirst second isSecond differ member inFirst inSecond
    exact differ (separate first isFirst second isSecond member
      inFirst inSecond)

/-- The components which a room calls are its live entries but the sender. -/
theorem components_roomCalls
    {names : Identity → Bytes} {history : History Identity Callback}
    {state : State Identity Callback} (refines : Refines names history state)
    (msg componentName room : Bytes) :
    (roomCalls state msg componentName room).map Invocation.component =
      (entries state room).filter fun component =>
        Live history component ∧ names component ≠ componentName := by
  rw [roomCalls, List.map_filterMap, ← List.filterMap_eq_filter]
  apply List.filterMap_congr
  intro entry isEntry
  have isSome := refines.isSome_invocation msg componentName isEntry
  cases isCall : invocation state msg room componentName entry with
  | none =>
      rw [isCall] at isSome
      simp [Option.guard, ← isSome]
  | some call =>
      rw [isCall] at isSome
      have isEntry : call.component = entry :=
        (invocation_eq_some_iff.mp isCall).2.2.1
      simp [Option.guard, ← isSome, isEntry]

omit [DecidableEq Identity] in
theorem targets_nodup
    {state : State Identity Callback} {order : List Bytes}
    (isOrder : order.Perm state.rooms.keys) (target : Bytes) :
    (targets order target).Nodup := by
  rw [targets]
  split_ifs with isBroadcast
  · exact isOrder.nodup_iff.mpr (AList.keys_nodup state.rooms)
  · simp [isBroadcast]

/--
In every reached state in which no component is entered twice in a room, a
dispatch calls each component at most once exactly when no component that it
can call has entries in two of the rooms on the way of the message.
-/
theorem atMostOneCopy_iff_oneRoom
    (names : Identity → Bytes) (history : History Identity Callback)
    (state : State Identity Callback) (run : Run names history state)
    (once : EnteredOnce state)
    (order : List Bytes) (isOrder : order.Perm state.rooms.keys)
    (room msg componentName : Bytes) :
    ∃ final calls,
      sendMsg_ order state room msg componentName = .ok (final, calls) ∧
      (AtMostOneCopy calls ↔
        OneRoomOnTheWay names history state room componentName) := by
  have refines := run.refines
  rcases sendMsg_eq msg room componentName order state refines.callable with
    ⟨final, sent, -⟩
  refine ⟨final, _, sent, ?_⟩
  rw [atMostOneCopy_iff_nodup, List.map_flatMap]
  simp only [components_roomCalls refines msg componentName]
  rw [nodup_flatMap_iff (targets_nodup isOrder room)
    fun other _ => (once other).filter _]
  constructor
  · intro separate component live differs first second isFirst isSecond
      inFirst inSecond
    have called : decide (Live history component ∧
        names component ≠ componentName) = true :=
      decide_eq_true ⟨live, differs⟩
    exact separate first ((mem_targets_iff isOrder inFirst).mpr isFirst)
      second ((mem_targets_iff isOrder inSecond).mpr isSecond) component
      (List.mem_filter.mpr ⟨inFirst, called⟩)
      (List.mem_filter.mpr ⟨inSecond, called⟩)
  · intro single first isFirst second isSecond component inFirst inSecond
    rcases List.mem_filter.mp inFirst with ⟨entryFirst, called⟩
    rcases List.mem_filter.mp inSecond with ⟨entrySecond, -⟩
    rcases of_decide_eq_true called with ⟨live, differs⟩
    exact single component live differs first second
      ((mem_targets_iff isOrder entryFirst).mp isFirst)
      ((mem_targets_iff isOrder entrySecond).mp isSecond)
      entryFirst entrySecond

/-! One component in a room and in the broadcast room. -/

def clientNames (_ : Unit) : Bytes := str "client"

def bothRoomsHistory : History Unit Nat :=
  [.subscribe broadcast () 2, .subscribe (str "Room1") () 1]

def bothRoomsState : State Unit Nat :=
  subscribeBroadcast (subscribe (initial clientNames) (str "Room1") () 1) () 2

theorem bothRoomsState_run :
    Run clientNames bothRoomsHistory bothRoomsState :=
  .subscribeBroadcast (.subscribe .initial _ _ _) _ _

theorem bothRoomsState_enteredOnce : EnteredOnce bothRoomsState := by
  intro room
  rw [List.nodup_iff_count_le_one]
  intro component
  have differ : broadcast ≠ str "Room1" := by decide
  rw [bothRoomsState_run.refines.entries component True.intro room]
  simp only [bothRoomsHistory, count]
  split_ifs with inBroadcast inRoom
  · exact absurd (inBroadcast.1.trans inRoom.1.symm) differ
  · exact le_refl 1
  · exact le_refl 1
  · exact Nat.zero_le 1

theorem bothRoomsState_copies_iff :
    ∃ final calls,
      sendMsg_ bothRoomsState.rooms.keys bothRoomsState (str "Room1")
          (str "hello") (str "server") = .ok (final, calls) ∧
      (AtMostOneCopy calls ↔
        OneRoomOnTheWay clientNames bothRoomsHistory bothRoomsState
          (str "Room1") (str "server")) :=
  atMostOneCopy_iff_oneRoom clientNames bothRoomsHistory bothRoomsState
    bothRoomsState_run bothRoomsState_enteredOnce bothRoomsState.rooms.keys
    (List.Perm.refl _) (str "Room1") (str "hello") (str "server")

/-- A message to the room calls the component twice. -/
theorem bothRoomsState_two_copies :
    Run clientNames bothRoomsHistory bothRoomsState ∧
      EnteredOnce bothRoomsState ∧
      ∃ final calls,
        sendMsg_ bothRoomsState.rooms.keys bothRoomsState (str "Room1")
            (str "hello") (str "server") = .ok (final, calls) ∧
        ¬ AtMostOneCopy calls := by
  refine ⟨bothRoomsState_run, bothRoomsState_enteredOnce, _,
    [⟨(), 1, str "hello"⟩, ⟨(), 2, str "hello"⟩], rfl, fun atMostOne => ?_⟩
  exact absurd (atMostOne ()) (by decide)

end ServerUtils.Bus.Recipients
