import ServerUtils.Bus.Delivery
import ServerUtils.Foundation.Transition

/-!
# Delivery while components are destroyed

`sendMsg_` once more, one entry at a time: the worker locks the weak pointer,
asks for the name and calls `recvMsg` in separate steps, and another thread
may destroy components in between.  The weak pointer guards the cell `ptr_`,
not the component: it locks until `ptr_` is released, which is some time after
the destruction has begun, and a locked pointer does not hold a destruction
up.
-/

namespace ServerUtils.Bus.Lifetime

open ServerUtils.Foundation.Container
open ServerUtils.Foundation.Transition
open ServerUtils.Parser.StdString
open ServerUtils.Bus.Rooms
open ServerUtils.Bus.Delivery

variable {Identity Callback : Type}

/-- Where the worker is in `sendMsg_`, with the entries and the rooms that
remain. -/
inductive WorkerPoint (Identity : Type) where
  | idle
  /-- before the next room -/
  | rooms (remaining : List Bytes)
  /-- before `component.lock()` of the next entry -/
  | entries (room : Bytes) (pending : List Identity) (remaining : List Bytes)
  /-- locked, before `getName` -/
  | getName (room : Bytes) (ptr : Identity) (pending : List Identity)
      (remaining : List Bytes)
  /-- before `recvMsg` -/
  | recvMsg (room : Bytes) (ptr : Identity) (pending : List Identity)
      (remaining : List Bytes)
  /-- an exception has left the thread function -/
  | terminated
deriving DecidableEq

structure State (Identity Callback : Type) where
  bus : Rooms.State Identity Callback
  worker : WorkerPoint Identity
  msg : Bytes
  componentName : Bytes
  /-- the destructor of the component has begun -/
  destroying : Identity → Bool
  /-- the callbacks called so far -/
  calls : List (Invocation Identity Callback)

inductive Label (Identity Callback : Type) where
  | subscribe (room : Bytes) (component : Identity) (cb : Callback)
  | unsubscribe (room : Bytes) (component : Identity)
  | dispatch (order : List Bytes) (room msg componentName : Bytes)
  | worker
  | destroyBegin (component : Identity)
  | destroyRelease (component : Identity)

/-- When a step may be taken; the rooms only change between dispatches. -/
def Enabled (state : State Identity Callback) :
    Label Identity Callback → Prop
  | .subscribe _ _ _ => state.worker = .idle
  | .unsubscribe _ _ => state.worker = .idle
  | .dispatch order _ _ _ =>
      state.worker = .idle ∧ order.Perm state.bus.rooms.keys
  | .worker => state.worker ≠ .idle ∧ state.worker ≠ .terminated
  | .destroyBegin component => state.destroying component = false
  | .destroyRelease component => state.destroying component = true

variable [DecidableEq Identity]

/-- The next step of `sendMsg_`. -/
def workerNext (state : State Identity Callback) :
    State Identity Callback :=
  match state.worker with
  | .idle => state
  | .rooms [] => { state with worker := .idle }
  | .rooms (room :: remaining) =>
      let (entries, rooms) := subscript [] state.bus.rooms room
      { state with
        bus := { state.bus with rooms := rooms }
        worker := .entries room entries remaining }
  | .entries _ [] remaining => { state with worker := .rooms remaining }
  | .entries room (component :: pending) remaining =>
      match lock state.bus component with
      | none => { state with worker := .entries room pending remaining }
      | some ptr => { state with worker := .getName room ptr pending remaining }
  | .getName room ptr pending remaining =>
      if (state.bus.components ptr).getName ≠ state.componentName then
        { state with worker := .recvMsg room ptr pending remaining }
      else
        { state with worker := .entries room pending remaining }
  | .recvMsg room ptr pending remaining =>
      match (state.bus.components ptr).recvMsg room state.msg with
      | .error _ => { state with worker := .terminated }
      | .ok ((callback, argument), received) =>
          { state with
            bus := state.bus.setComponent ptr received
            worker := .entries room pending remaining
            calls := state.calls ++ [⟨ptr, callback, argument⟩] }
  | .terminated => state

/-- What a step does. -/
def next (state : State Identity Callback) :
    Label Identity Callback → State Identity Callback
  | .subscribe room component cb =>
      { state with bus := Rooms.subscribe state.bus room component cb }
  | .unsubscribe room component =>
      { state with bus := Rooms.unsubscribe state.bus room component }
  | .dispatch order room msg componentName =>
      { state with
        worker := .rooms (targets order room)
        msg := msg
        componentName := componentName }
  | .worker => workerNext state
  | .destroyBegin component =>
      { state with
        destroying := Function.update state.destroying component true }
  | .destroyRelease component =>
      { state with bus := Rooms.destroy state.bus component }

def initial (names : Identity → Bytes) : State Identity Callback where
  bus := Rooms.initial names
  worker := .idle
  msg := []
  componentName := []
  destroying := fun _ => false
  calls := []

/-- The worker's dispatches and the destruction of components. -/
def delivery (Callback : Type) (names : Identity → Bytes) :
    Machine (State Identity Callback) (Label Identity Callback) where
  initial := initial names
  Enabled := Enabled
  next := next

instance (state : State Identity Callback)
    (label : Label Identity Callback) : Decidable (Enabled state label) := by
  cases label <;> dsimp only [Enabled] <;> infer_instance

instance (names : Identity → Bytes) (state : State Identity Callback)
    (label : Label Identity Callback) :
    Decidable ((delivery Callback names).Enabled state label) :=
  inferInstanceAs (Decidable (Enabled state label))

/-! ## Touching a component -/

/-- The next step of the worker is `getName` or `recvMsg` on the component. -/
def Touches : WorkerPoint Identity → Identity → Prop
  | .getName _ ptr _ _, component => ptr = component
  | .recvMsg _ ptr _ _, component => ptr = component
  | _, _ => False

/-- The next step of the worker locks the component's weak pointer. -/
def Locks (state : State Identity Callback) (component : Identity) : Prop :=
  match state.worker with
  | .entries _ (entry :: _) _ => lock state.bus entry = some component
  | _ => False

/-- The worker does not touch a component whose destruction has begun. -/
def Safe (state : State Identity Callback) : Prop :=
  ∀ component, Touches state.worker component →
    state.destroying component = false

/--
No destruction begins while the worker has the component locked, and the
worker does not lock a component between the start of its destruction and the
release of `ptr_`.
-/
def Guarded (state : State Identity Callback) :
    Label Identity Callback → Prop
  | .destroyBegin component => ¬ Touches state.worker component
  | .worker => ∀ component, Locks state component →
      state.destroying component = false
  | _ => True

section Safety

variable {state : State Identity Callback}

omit [DecidableEq Identity] in
theorem safe_of_not_touches
    (apart : ∀ component, ¬ Touches state.worker component) : Safe state :=
  fun component touches => absurd touches (apart component)

/-- A step that neither locks nor goes on with a locked pointer. -/
theorem safe_workerNext_of_apart
    (noLock : ∀ component, ¬ Locks state component)
    (apart : ∀ component, ¬ Touches (workerNext state).worker component) :
    Safe (workerNext state) ↔ Guarded state .worker :=
  iff_of_true (safe_of_not_touches apart)
    fun component locks => absurd locks (noLock component)

theorem safe_workerNext_iff (safe : Safe state) :
    Safe (workerNext state) ↔ Guarded state .worker := by
  rcases state with ⟨bus, worker, msg, componentName, destroying, calls⟩
  cases worker with
  | idle =>
      exact safe_workerNext_of_apart (fun _ => not_false) fun _ => not_false
  | rooms remaining =>
      cases remaining with
      | nil =>
          exact safe_workerNext_of_apart (fun _ => not_false)
            fun _ => not_false
      | cons room rest =>
          exact safe_workerNext_of_apart (fun _ => not_false)
            fun _ => not_false
  | entries room pending remaining =>
      cases pending with
      | nil =>
          exact safe_workerNext_of_apart (fun _ => not_false)
            fun _ => not_false
      | cons entry rest =>
          cases locked : lock bus entry with
          | none =>
              apply safe_workerNext_of_apart
              · intro component locks
                cases locked.symm.trans locks
              · intro component
                simp only [workerNext, locked]
                exact not_false
          | some ptr =>
              simp only [Safe, Guarded, Locks, workerNext, locked, Touches,
                Option.some.injEq]
  | getName room ptr pending remaining =>
      refine iff_of_true ?_ fun _ locks => locks.elim
      simp only [workerNext]
      split_ifs
      · exact safe
      · exact safe_of_not_touches fun _ => not_false
  | recvMsg room ptr pending remaining =>
      refine safe_workerNext_of_apart (fun _ => not_false) ?_
      intro component
      simp only [workerNext]
      split <;> exact not_false
  | terminated =>
      exact safe_workerNext_of_apart (fun _ => not_false) fun _ => not_false

/-- One step keeps the worker away from dying components exactly when it is
guarded. -/
theorem safe_next_iff
    (label : Label Identity Callback) (safe : Safe state)
    (enabled : Enabled state label) :
    Safe (next state label) ↔ Guarded state label := by
  cases label with
  | subscribe room component cb => exact iff_of_true safe True.intro
  | unsubscribe room component => exact iff_of_true safe True.intro
  | dispatch order room msg componentName =>
      exact iff_of_true (safe_of_not_touches fun _ => not_false) True.intro
  | worker => exact safe_workerNext_iff safe
  | destroyBegin component =>
      constructor
      · intro safeNext touches
        have still := safeNext component touches
        simp only [next, Function.update_self] at still
        cases still
      · intro apart other touches
        have different : other ≠ component := by
          rintro rfl
          exact apart touches
        simp only [next, Function.update_of_ne different]
        exact safe other touches
  | destroyRelease component => exact iff_of_true safe True.intro

end Safety

/--
The worker stays away from components whose destruction has begun in exactly
those runs in which every destruction begins while the component is not
locked, and every lock falls outside the time between the start of a
destruction and the release of `ptr_`.
-/
theorem safe_along_iff_guarded
    (names : Identity → Bytes) (labels : List (Label Identity Callback))
    (follows : Follows (delivery Callback names) anyStep (initial names)
      labels) :
    Along (delivery Callback names) Safe (initial names) labels ↔
      Follows (delivery Callback names) Guarded (initial names) labels := by
  have start : Safe (initial names : State Identity Callback) :=
    safe_of_not_touches fun _ => not_false
  apply along_iff_follows start _ follows
  intro state label safe enabled
  exact safe_next_iff label safe enabled

def oneName (_ : Unit) : Bytes := str "cli1"

/-- One subscriber, and a message from another component up to the point at
which the subscriber is locked. -/
def lockedRun : List (Label Unit Nat) :=
  [ .subscribe (str "Room1") () 1,
    .dispatch [str "Room1"] (str "Room1") (str "hello") (str "cli2"),
    .worker, .worker ]

/-- The subscriber is destroyed after the message has reached it. -/
def servedRun : List (Label Unit Nat) :=
  lockedRun ++ [.worker, .worker, .destroyBegin (), .destroyRelease ()]

theorem servedRun_safe_iff_guarded :
    Along (delivery Nat oneName) Safe (initial oneName) servedRun ↔
      Follows (delivery Nat oneName) Guarded (initial oneName) servedRun :=
  safe_along_iff_guarded oneName servedRun (by decide)

/-- The subscriber's destruction begins between the lock and `getName`. -/
def dyingState : State Unit Nat :=
  follow (delivery Nat oneName) (initial oneName)
    (lockedRun ++ [.destroyBegin ()])

theorem dyingState_touched :
    Reachable (delivery Nat oneName) dyingState ∧
      Enabled dyingState .worker ∧
      Touches dyingState.worker () ∧
      dyingState.destroying () = true := by
  refine ⟨run_follow (by decide), by decide, rfl, rfl⟩

/-! ## The steps of one dispatch -/

section Dispatch

/-- Only the worker moves. -/
def WorkerOnly (_ : State Identity Callback) :
    Label Identity Callback → Prop
  | .worker => True
  | _ => False

variable {names : Identity → Bytes}
variable {msg componentName : Bytes} {destroying : Identity → Bool}

/-- A step of the worker, then the rest of its run. -/
theorem run_worker
    {state middle final : State Identity Callback}
    (busy : state.worker ≠ .idle ∧ state.worker ≠ .terminated)
    (isNext : workerNext state = middle)
    (run : Run (delivery Callback names) WorkerOnly middle final) :
    Run (delivery Callback names) WorkerOnly state final := by
  subst isNext
  have enabled : (delivery Callback names).Enabled state .worker := busy
  exact Run.trans ((Run.refl state).step enabled True.intro) run

/-- Undisturbed, the steps over the entries of a room are `deliver`. -/
theorem run_deliver
    (room : Bytes) (remaining : List Bytes) (pending : List Identity)
    (bus final : Rooms.State Identity Callback)
    (earlier calls : List (Invocation Identity Callback))
    (delivered : deliver msg room componentName pending bus =
      .ok (final, calls)) :
    Run (delivery Callback names) WorkerOnly
      ⟨bus, .entries room pending remaining, msg, componentName, destroying,
        earlier⟩
      ⟨final, .rooms remaining, msg, componentName, destroying,
        earlier ++ calls⟩ := by
  induction pending generalizing bus earlier calls with
  | nil =>
      cases delivered
      rw [List.append_nil]
      refine run_worker (by simp) rfl ?_
      exact .refl _
  | cons entry rest ih =>
      rw [deliver] at delivered
      cases locked : lock bus entry with
      | none =>
          simp only [locked] at delivered
          have isSkipped : workerNext
              ⟨bus, .entries room (entry :: rest) remaining, msg,
                componentName, destroying, earlier⟩ =
              ⟨bus, .entries room rest remaining, msg, componentName,
                destroying, earlier⟩ := by
            simp only [workerNext, locked]
          refine run_worker (by simp) isSkipped ?_
          exact ih bus earlier calls delivered
      | some ptr =>
          simp only [locked] at delivered
          have isLocked : workerNext
              ⟨bus, .entries room (entry :: rest) remaining, msg,
                componentName, destroying, earlier⟩ =
              ⟨bus, .getName room ptr rest remaining, msg, componentName,
                destroying, earlier⟩ := by
            simp only [workerNext, locked]
          refine run_worker (by simp) isLocked ?_
          split_ifs at delivered with called
          · rcases bind_eq_ok_iff.mp delivered with
              ⟨⟨⟨callback, argument⟩, component⟩, received, continues⟩
            rcases bind_eq_ok_iff.mp continues with
              ⟨⟨last, later⟩, delivers, isResult⟩
            cases isResult
            refine run_worker (by simp) (if_pos called) ?_
            have isReceived : workerNext
                ⟨bus, .recvMsg room ptr rest remaining, msg,
                  componentName, destroying, earlier⟩ =
                ⟨bus.setComponent ptr component,
                  .entries room rest remaining, msg, componentName,
                  destroying,
                  earlier ++ [⟨ptr, callback, argument⟩]⟩ := by
              simp only [workerNext, received]
            refine run_worker (by simp) isReceived ?_
            have grouped := List.append_cons earlier
              ⟨ptr, callback, argument⟩ later
            rw [grouped]
            exact ih _ _ _ delivers
          · refine run_worker (by simp) (if_neg called) ?_
            exact ih bus earlier calls delivered

/-- Undisturbed, the steps over a list of rooms are `sendOutToRooms`. -/
theorem run_sendOutToRooms
    (remaining : List Bytes) (bus final : Rooms.State Identity Callback)
    (earlier calls : List (Invocation Identity Callback))
    (sent : sendOutToRooms msg componentName remaining bus =
      .ok (final, calls)) :
    Run (delivery Callback names) WorkerOnly
      ⟨bus, .rooms remaining, msg, componentName, destroying, earlier⟩
      ⟨final, .idle, msg, componentName, destroying, earlier ++ calls⟩ := by
  induction remaining generalizing bus earlier calls with
  | nil =>
      cases sent
      rw [List.append_nil]
      refine run_worker (by simp) rfl ?_
      exact .refl _
  | cons room rest ih =>
      rw [sendOutToRooms] at sent
      rcases bind_eq_ok_iff.mp sent with ⟨⟨middle, calls⟩, first, continues⟩
      rcases bind_eq_ok_iff.mp continues with
        ⟨⟨last, later⟩, sends, isResult⟩
      cases isResult
      refine run_worker (by simp) rfl ?_
      rw [← List.append_assoc]
      exact Run.trans (run_deliver room rest _ _ _ _ _ first)
        (ih _ _ _ sends)

/--
A dispatch that nothing disturbs takes the bus where `sendMsg_` takes it, and
makes the same calls.
-/
theorem run_dispatch
    (state : State Identity Callback) (isIdle : state.worker = .idle)
    {order : List Bytes} (isOrder : order.Perm state.bus.rooms.keys)
    {room : Bytes} {final : Rooms.State Identity Callback}
    {calls : List (Invocation Identity Callback)}
    (sent : sendMsg_ order state.bus room msg componentName =
      .ok (final, calls)) :
    Enabled state (.dispatch order room msg componentName) ∧
      Run (delivery Callback names) WorkerOnly
        (next state (.dispatch order room msg componentName))
        { state with
          bus := final
          msg := msg
          componentName := componentName
          calls := state.calls ++ calls } := by
  rw [sendMsg_eq_sendOutToRooms] at sent
  constructor
  · exact ⟨isIdle, isOrder⟩
  · rcases state with ⟨bus, worker, _, _, destroying, earlier⟩
    cases isIdle
    exact run_sendOutToRooms (targets order room) bus final earlier calls sent

end Dispatch

end ServerUtils.Bus.Lifetime
