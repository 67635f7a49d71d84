import ServerUtils.Bus.Delivery
import ServerUtils.Foundation.Transition

/-!
# Delivery while components unsubscribe

The range-for of `SendOutMsgToRoomComponents` over the vector of a room, by
position: the end position is fixed when the loop starts, and `unsubscribe`
may erase an entry of the vector between any two steps of the loop, from a
callback or from another thread.  An erased entry makes the vector shorter
than the loop assumes.  The loop is only safe if nothing is erased before it
has read the last position.
-/

namespace ServerUtils.Bus.Iteration

open ServerUtils.Foundation.Container
open ServerUtils.Foundation.Transition
open ServerUtils.Parser.StdString
open ServerUtils.Bus.Rooms
open ServerUtils.Bus.Delivery

variable {Identity Callback : Type}

/-- Where the loop is. -/
inductive LoopPoint (Identity : Type) where
  /-- before the comparison with the end position -/
  | test
  /-- before `component.lock()` of the entry at the position -/
  | lock
  /-- locked, before `getName` -/
  | getName (ptr : Identity)
  /-- before `recvMsg` -/
  | recvMsg (ptr : Identity)
  /-- the entry is dealt with, before the increment -/
  | increment
  | finished
  /-- a position past the end of the vector has been read -/
  | overrun
  /-- an exception has left the loop -/
  | terminated
deriving DecidableEq

structure State (Identity Callback : Type) where
  bus : Rooms.State Identity Callback
  point : LoopPoint Identity
  position : Nat
  /-- the end position, from the start of the loop -/
  finish : Nat
  /-- the callbacks called so far -/
  calls : List (Invocation Identity Callback)

inductive Label (Identity : Type) where
  | loop
  | unsubscribe (component : Identity)
deriving DecidableEq

/-- The loop moves until it ends; anyone may unsubscribe at any time. -/
def Enabled (state : State Identity Callback) : Label Identity → Prop
  | .loop =>
      state.point ≠ .finished ∧ state.point ≠ .overrun ∧
        state.point ≠ .terminated
  | .unsubscribe _ => True

variable [DecidableEq Identity]

/-- The next step of the loop. -/
def loopNext
    (room msg from_componentName : Bytes) (state : State Identity Callback) :
    State Identity Callback :=
  match state.point with
  | .test =>
      if state.position = state.finish then { state with point := .finished }
      else { state with point := .lock }
  | .lock =>
      match (entries state.bus room)[state.position]? with
      | none => { state with point := .overrun }
      | some component =>
          match Rooms.lock state.bus component with
          | none => { state with point := .increment }
          | some ptr => { state with point := .getName ptr }
  | .getName ptr =>
      if (state.bus.components ptr).getName ≠ from_componentName then
        { state with point := .recvMsg ptr }
      else { state with point := .increment }
  | .recvMsg ptr =>
      match (state.bus.components ptr).recvMsg room msg with
      | .error _ => { state with point := .terminated }
      | .ok ((callback, argument), received) =>
          { state with
            bus := state.bus.setComponent ptr received
            point := .increment
            calls := state.calls ++ [⟨ptr, callback, argument⟩] }
  | .increment => { state with point := .test, position := state.position + 1 }
  | .finished => state
  | .overrun => state
  | .terminated => state

/-- What a step does. -/
def next
    (room msg from_componentName : Bytes) (state : State Identity Callback) :
    Label Identity → State Identity Callback
  | .loop => loopNext room msg from_componentName state
  | .unsubscribe component =>
      { state with bus := Rooms.unsubscribe state.bus room component }

/-- The loop at its start: `rooms[room]` has been looked up. -/
def start (bus : Rooms.State Identity Callback) (room : Bytes) :
    State Identity Callback where
  bus := { bus with rooms := (subscript [] bus.rooms room).2 }
  point := .test
  position := 0
  finish := (entries bus room).length
  calls := []

/-- One execution of `SendOutMsgToRoomComponents`. -/
def iteration
    (bus : Rooms.State Identity Callback)
    (room msg from_componentName : Bytes) :
    Machine (State Identity Callback) (Label Identity) where
  initial := start bus room
  Enabled := Enabled
  next := next room msg from_componentName

instance decidableEnabled (state : State Identity Callback) :
    (label : Label Identity) → Decidable (Enabled state label)
  | .loop => inferInstanceAs (Decidable (_ ∧ _ ∧ _))
  | .unsubscribe _ => .isTrue True.intro

instance (bus : Rooms.State Identity Callback)
    (room msg from_componentName : Bytes) (state : State Identity Callback)
    (label : Label Identity) :
    Decidable
      ((iteration bus room msg from_componentName).Enabled state label) :=
  inferInstanceAs (Decidable (Enabled state label))

/-! ## When erasing is harmless -/

/-- How many positions the loop still reads. -/
def unread (state : State Identity Callback) : Nat :=
  match state.point with
  | .test | .lock => state.finish - state.position
  | .getName _ | .recvMsg _ | .increment =>
      state.finish - (state.position + 1)
  | .finished | .overrun | .terminated => 0

/-- The call of `unsubscribe` finds an entry to erase. -/
def Erases
    (room : Bytes) (state : State Identity Callback) (component : Identity) :
    Prop :=
  (state.bus.components component).ptr_ = true ∧
    component ∈ entries state.bus room

/-- Nothing is erased before the loop has read the last position. -/
def Guarded (room : Bytes) (state : State Identity Callback) :
    Label Identity → Prop
  | .loop => True
  | .unsubscribe component =>
      Erases room state component → unread state = 0

/--
The loop stays inside the vector, and when it has finished, each live
component with another name than the sender's, of which no entry has been
asked to be erased, has been called once for each of its entries.
-/
structure Robust
    (bus : Rooms.State Identity Callback)
    (room msg from_componentName : Bytes) (labels : List (Label Identity)) :
    Prop where
  inside : Along (iteration bus room msg from_componentName)
    (fun state => state.point ≠ .overrun) (start bus room) labels
  times : (follow (iteration bus room msg from_componentName)
      (start bus room) labels).point = .finished →
    ∀ component, (bus.components component).ptr_ = true →
      (bus.components component).name_ ≠ from_componentName →
        .unsubscribe component ∉ labels →
          (follow (iteration bus room msg from_componentName)
            (start bus room) labels).calls.countP
              (fun call => call.component = component) =
            (entries bus room).count component

/-! ## What no interleaving changes -/

section Steps

variable {bus : Rooms.State Identity Callback}
variable {room msg from_componentName : Bytes}
variable {state : State Identity Callback}

/-- The component which the loop has locked. -/
def Locked : LoopPoint Identity → Identity → Prop
  | .getName ptr, component => ptr = component
  | .recvMsg ptr, component => ptr = component
  | _, _ => False

/--
The components are those of the start, the vector has only lost entries, and
a locked component is a live entry of the start.
-/
structure Kept
    (bus : Rooms.State Identity Callback) (room : Bytes)
    (state : State Identity Callback) : Prop where
  name : ∀ component,
    (state.bus.components component).name_ = (bus.components component).name_
  alive : ∀ component,
    (state.bus.components component).ptr_ = (bus.components component).ptr_
  callback : ∀ component,
    callback state.bus component room = callback bus component room
  vector : (entries state.bus room).Sublist (entries bus room)
  finish : state.finish = (entries bus room).length
  locked : ∀ component, Locked state.point component →
    component ∈ entries bus room ∧ (bus.components component).ptr_ = true
  running : state.point ≠ .terminated

omit [DecidableEq Identity] in
theorem kept_start : Kept bus room (start bus room) where
  name := fun _ => rfl
  alive := fun _ => rfl
  callback := fun _ => rfl
  vector := by
    rw [start, entries, valueAt_subscript]
    exact List.Sublist.refl _
  finish := rfl
  locked := fun _ impossible => impossible.elim
  running := by simp [start]

/-- The vector after an `unsubscribe`. -/
theorem entries_after_unsubscribe (component : Identity) :
    entries (Rooms.unsubscribe state.bus room component) room =
      if (state.bus.components component).ptr_ = true then
        (entries state.bus room).erase component
      else entries state.bus room := by
  split_ifs with alive
  · rw [entries_unsubscribe alive, if_pos rfl]
  · rw [Rooms.unsubscribe, lock_of_dead alive]

theorem Kept.unsubscribe
    (kept : Kept bus room state) (component : Identity) :
    Kept bus room
      { state with bus := Rooms.unsubscribe state.bus room component } where
  name := by
    intro other
    rw [components_unsubscribe]
    exact kept.name other
  alive := by
    intro other
    rw [components_unsubscribe]
    exact kept.alive other
  callback := by
    intro other
    rw [Delivery.callback, components_unsubscribe]
    exact kept.callback other
  vector := by
    rw [entries_after_unsubscribe]
    split_ifs
    · exact List.erase_sublist.trans kept.vector
    · exact kept.vector
  finish := kept.finish
  locked := kept.locked
  running := kept.running

/-- The steps of the loop over the entries of `bus`, case by case. -/
inductive LoopStep
    (bus : Rooms.State Identity Callback)
    (room msg from_componentName : Bytes) :
    State Identity Callback → State Identity Callback → Prop where
  | finish {state : State Identity Callback}
      (point : state.point = .test) (last : state.position = state.finish) :
      LoopStep bus room msg from_componentName state
        { state with point := .finished }
  | enter {state : State Identity Callback}
      (point : state.point = .test) (more : state.position ≠ state.finish) :
      LoopStep bus room msg from_componentName state
        { state with point := .lock }
  | overrun {state : State Identity Callback}
      (point : state.point = .lock)
      (past : (entries state.bus room).length ≤ state.position) :
      LoopStep bus room msg from_componentName state
        { state with point := .overrun }
  | expired {state : State Identity Callback} {component : Identity}
      (point : state.point = .lock)
      (entry : (entries state.bus room)[state.position]? = some component)
      (dead : ¬ (bus.components component).ptr_ = true) :
      LoopStep bus room msg from_componentName state
        { state with point := .increment }
  | locked {state : State Identity Callback} {component : Identity}
      (point : state.point = .lock)
      (entry : (entries state.bus room)[state.position]? = some component)
      (alive : (bus.components component).ptr_ = true) :
      LoopStep bus room msg from_componentName state
        { state with point := .getName component }
  | other {state : State Identity Callback} {component : Identity}
      (point : state.point = .getName component)
      (differs : (bus.components component).name_ ≠ from_componentName) :
      LoopStep bus room msg from_componentName state
        { state with point := .recvMsg component }
  | sender {state : State Identity Callback} {component : Identity}
      (point : state.point = .getName component)
      (same : (bus.components component).name_ = from_componentName) :
      LoopStep bus room msg from_componentName state
        { state with point := .increment }
  | call {state : State Identity Callback} {component : Identity}
      {f : Callback} (point : state.point = .recvMsg component)
      (isCallback : callback bus component room = some f) :
      LoopStep bus room msg from_componentName state
        { state with
          bus := state.bus.setComponent component
            { state.bus.components component with
              callback_s := (subscript none
                (state.bus.components component).callback_s room).2 }
          point := .increment
          calls := state.calls ++ [⟨component, f, msg⟩] }
  | increment {state : State Identity Callback}
      (point : state.point = .increment) :
      LoopStep bus room msg from_componentName state
        { state with point := .test, position := state.position + 1 }

/-- The callback of a locked component is called. -/
theorem loopStep_of_recvMsg
    (callable : Callable bus) (kept : Kept bus room state) {ptr : Identity}
    (point : state.point = .recvMsg ptr) :
    LoopStep bus room msg from_componentName state
      (loopNext room msg from_componentName state) := by
  rcases kept.locked ptr (by rw [point]; rfl) with ⟨isEntry, alive⟩
  rcases Option.ne_none_iff_exists'.mp (callable room ptr isEntry alive) with
    ⟨f, isCallback⟩
  have found : valueAt none (state.bus.components ptr).callback_s room =
      some f := (kept.callback ptr).trans isCallback
  have step : LoopStep bus room msg from_componentName state _ :=
    .call point isCallback
  rw [loopNext, point]
  simp only [recvMsg_of_callback msg room found]
  exact step

/-- What the loop locks is an entry of the vector. -/
theorem loopStep_of_lock
    (kept : Kept bus room state) (point : state.point = .lock) :
    LoopStep bus room msg from_componentName state
      (loopNext room msg from_componentName state) := by
  rw [loopNext, point]
  cases entry : (entries state.bus room)[state.position]? with
  | none =>
      simp only
      exact .overrun point (List.getElem?_eq_none_iff.mp entry)
  | some component =>
      by_cases alive : (bus.components component).ptr_ = true
      · have isLocked : Rooms.lock state.bus component = some component :=
          lock_of_alive ((kept.alive component).trans alive)
        simp only [isLocked]
        exact .locked point entry alive
      · have isExpired : Rooms.lock state.bus component = none := by
          apply lock_of_dead
          rw [kept.alive]
          exact alive
        simp only [isExpired]
        exact .expired point entry alive

theorem loopStep_of_enabled
    (callable : Callable bus) (kept : Kept bus room state)
    (enabled : Enabled state .loop) :
    LoopStep bus room msg from_componentName state
      (loopNext room msg from_componentName state) := by
  rcases enabled with ⟨notFinished, notOverrun, notTerminated⟩
  cases point : state.point with
  | test =>
      rw [loopNext, point]
      split_ifs with last
      · exact .finish point last
      · exact .enter point last
  | lock => exact loopStep_of_lock kept point
  | getName ptr =>
      rw [loopNext, point]
      simp only [Component.getName, kept.name]
      split_ifs with differs
      · exact .other point differs
      · exact .sender point (not_not.mp differs)
  | recvMsg ptr => exact loopStep_of_recvMsg callable kept point
  | increment =>
      rw [loopNext, point]
      exact .increment point
  | finished => exact absurd point notFinished
  | overrun => exact absurd point notOverrun
  | terminated => exact absurd point notTerminated

omit [DecidableEq Identity] in
/-- A step that only moves the loop to a point without a locked component. -/
theorem Kept.move
    (kept : Kept bus room state) {point : LoopPoint Identity}
    (position : Nat) (free : ∀ component, ¬ Locked point component)
    (running : point ≠ .terminated) :
    Kept bus room { state with point := point, position := position } :=
  { kept with
    locked := fun component isLocked => absurd isLocked (free component)
    running := running }

theorem Kept.loop
    (kept : Kept bus room state) {after : State Identity Callback}
    (step : LoopStep bus room msg from_componentName state after) :
    Kept bus room after := by
  cases step with
  | finish _ _ => exact kept.move _ (fun _ => not_false) (by simp)
  | enter _ _ => exact kept.move _ (fun _ => not_false) (by simp)
  | overrun _ _ => exact kept.move _ (fun _ => not_false) (by simp)
  | expired _ _ _ => exact kept.move _ (fun _ => not_false) (by simp)
  | @locked component _ entry alive =>
      have isEntry : component ∈ entries bus room :=
        kept.vector.subset (List.mem_of_getElem? entry)
      refine { kept with locked := ?_, running := by simp }
      rintro other rfl
      exact ⟨isEntry, alive⟩
  | @other component point _ =>
      have stillLocked := kept.locked component (by rw [point]; rfl)
      refine { kept with locked := ?_, running := by simp }
      rintro same rfl
      exact stillLocked
  | sender _ _ => exact kept.move _ (fun _ => not_false) (by simp)
  | @call component f _ _ =>
      have lookup := sameSubscriptions_lookup room state.bus component
      exact
        { name := fun other => (lookup.name other).trans (kept.name other)
          alive := fun other => (lookup.alive other).trans (kept.alive other)
          callback := fun other =>
            (lookup.callback other room).trans (kept.callback other)
          vector := kept.vector
          finish := kept.finish
          locked := fun _ impossible => impossible.elim
          running := by simp }
  | increment _ => exact kept.move _ (fun _ => not_false) (by simp)

theorem Kept.next
    (callable : Callable bus) (kept : Kept bus room state)
    (label : Label Identity) (enabled : Enabled state label) :
    Kept bus room (next room msg from_componentName state label) := by
  cases label with
  | loop => exact kept.loop (loopStep_of_enabled callable kept enabled)
  | unsubscribe component => exact kept.unsubscribe component

end Steps

/-! ## An entry is erased too early -/

section Overrun

variable {bus : Rooms.State Identity Callback}
variable {room msg from_componentName : Bytes}
variable {state : State Identity Callback}

/-- The vector is shorter than the loop assumes, and the loop reads on. -/
structure Short (room : Bytes) (state : State Identity Callback) : Prop where
  shorter : (entries state.bus room).length < state.finish
  ahead : state.point = .overrun ∨ 0 < unread state

/-- The loop itself does not change the vector. -/
theorem LoopStep.vector
    {after : State Identity Callback}
    (step : LoopStep bus room msg from_componentName state after) :
    entries after.bus room = entries state.bus room ∧
      after.finish = state.finish := by
  cases step <;> exact ⟨rfl, rfl⟩

/-- A step overruns, keeps the number of unread positions, or reads a position
inside the vector. -/
theorem LoopStep.unread
    {after : State Identity Callback}
    (step : LoopStep bus room msg from_componentName state after) :
    state.point ≠ .overrun ∧
      (after.point = .overrun ∨ unread after = unread state ∨
        (state.position < (entries state.bus room).length ∧
          unread after = state.finish - (state.position + 1))) := by
  cases step with
  | finish point last => simp [Iteration.unread, point, last]
  | enter point more => simp [Iteration.unread, point]
  | overrun point past => simp [point]
  | expired point entry dead =>
      have inside := (List.getElem?_eq_some_iff.mp entry).1
      simp [Iteration.unread, point, inside]
  | locked point entry alive =>
      have inside := (List.getElem?_eq_some_iff.mp entry).1
      simp [Iteration.unread, point, inside]
  | other point differs => simp [Iteration.unread, point]
  | sender point same => simp [Iteration.unread, point]
  | call point isCallback => simp [Iteration.unread, point]
  | increment point => simp [Iteration.unread, point]

theorem LoopStep.unread_le
    {after : State Identity Callback}
    (step : LoopStep bus room msg from_componentName state after) :
    Iteration.unread after ≤ Iteration.unread state := by
  cases step with
  | finish point last => simp [Iteration.unread]
  | enter point more => simp [Iteration.unread, point]
  | overrun point past => simp [Iteration.unread]
  | expired point entry dead =>
      simp only [Iteration.unread, point]
      omega
  | locked point entry alive =>
      simp only [Iteration.unread, point]
      omega
  | other point differs => simp [Iteration.unread, point]
  | sender point same => simp [Iteration.unread, point]
  | call point isCallback => simp [Iteration.unread, point]
  | increment point => simp [Iteration.unread, point]

theorem Short.loop
    (short : Short room state) {after : State Identity Callback}
    (step : LoopStep bus room msg from_componentName state after) :
    Short room after := by
  rcases step.vector with ⟨sameVector, sameFinish⟩
  rcases step.unread with ⟨notOverrun, moves⟩
  have shorter := short.shorter
  refine ⟨by rw [sameVector, sameFinish]; exact shorter, ?_⟩
  rcases moves with isOverrun | same | ⟨inside, remains⟩
  · exact Or.inl isOverrun
  · rw [same]
    exact Or.inr (short.ahead.resolve_left notOverrun)
  · right
    omega

theorem Short.unsubscribe
    (short : Short room state) (component : Identity) :
    Short room
      { state with bus := Rooms.unsubscribe state.bus room component } where
  shorter := by
    rw [entries_after_unsubscribe]
    split_ifs
    · exact List.length_erase_le.trans_lt short.shorter
    · exact short.shorter
  ahead := short.ahead

/-- Erasing an entry that the loop still counts on leaves the vector short. -/
theorem short_of_not_guarded
    (kept : Kept bus room state) {label : Label Identity}
    (unguarded : ¬ Guarded room state label) :
    Short room (next room msg from_componentName state label) := by
  cases label with
  | loop => exact absurd True.intro unguarded
  | unsubscribe component =>
      simp only [Guarded, Classical.not_imp] at unguarded
      rcases unguarded with ⟨⟨alive, isEntry⟩, ahead⟩
      refine ⟨?_, Or.inr (Nat.pos_of_ne_zero ahead)⟩
      have bound := kept.vector.length_le
      have positive := List.length_pos_of_mem isEntry
      rw [next, entries_after_unsubscribe, if_pos alive,
        List.length_erase_of_mem isEntry]
      have isFinish := kept.finish
      show (entries state.bus room).length - 1 < state.finish
      omega

/-- A vector that is short stays so until the loop has overrun. -/
theorem Short.follow
    (callable : Callable bus) (kept : Kept bus room state)
    (short : Short room state) {labels : List (Label Identity)}
    (follows : Follows (iteration bus room msg from_componentName) anyStep
      state labels) :
    Short room
      (follow (iteration bus room msg from_componentName) state labels) := by
  induction labels generalizing state with
  | nil => exact short
  | cons label labels ih =>
      rcases follows with ⟨enabled, -, remaining⟩
      refine ih (kept.next callable label enabled) ?_ remaining
      cases label with
      | loop => exact short.loop (loopStep_of_enabled callable kept enabled)
      | unsubscribe component => exact short.unsubscribe component

/-- A run with an unguarded step leaves the vector short. -/
theorem short_of_unguarded
    (callable : Callable bus) (kept : Kept bus room state)
    {labels : List (Label Identity)}
    (follows : Follows (iteration bus room msg from_componentName) anyStep
      state labels)
    (unguarded : ¬ Follows (iteration bus room msg from_componentName)
      (Guarded room) state labels) :
    Short room
      (follow (iteration bus room msg from_componentName) state labels) := by
  induction labels generalizing state with
  | nil => exact absurd True.intro unguarded
  | cons label labels ih =>
      rcases follows with ⟨enabled, -, remaining⟩
      have keptNext : Kept bus room
          (next room msg from_componentName state label) :=
        kept.next callable label enabled
      by_cases guarded : Guarded room state label
      · apply ih keptNext remaining
        intro later
        exact unguarded ⟨enabled, guarded, later⟩
      · exact (short_of_not_guarded kept guarded).follow callable keptNext
          remaining

end Overrun

/-! ## Nothing is erased too early -/

section Served

variable {bus : Rooms.State Identity Callback}
variable {room msg from_componentName : Bytes}
variable {state : State Identity Callback}

/-- How many entries have been dealt with. -/
def handled (state : State Identity Callback) : Nat :=
  match state.point with
  | .increment => state.position + 1
  | _ => state.position

/-- What the loop knows of the entry at its position. -/
def AtEntry
    (bus : Rooms.State Identity Callback) (room from_componentName : Bytes)
    (state : State Identity Callback) : Prop :=
  match state.point with
  | .test => state.position ≤ state.finish
  | .lock | .increment => state.position < state.finish
  | .getName ptr =>
      (entries bus room)[state.position]? = some ptr ∧
        (bus.components ptr).ptr_ = true
  | .recvMsg ptr =>
      (entries bus room)[state.position]? = some ptr ∧
        (bus.components ptr).ptr_ = true ∧
          (bus.components ptr).name_ ≠ from_componentName
  | .finished => state.position = state.finish
  | .overrun => False
  | .terminated => True

/-- The loop has made the calls of the entries it has dealt with, and the
vector is whole as long as there are others. -/
structure Served
    (bus : Rooms.State Identity Callback)
    (room msg from_componentName : Bytes)
    (state : State Identity Callback) : Prop where
  whole : 0 < unread state → entries state.bus room = entries bus room
  atEntry : AtEntry bus room from_componentName state
  calls : state.calls =
    ((entries bus room).take (handled state)).filterMap
      (invocation bus msg room from_componentName)

omit [DecidableEq Identity] in
theorem served_start : Served bus room msg from_componentName
    (start bus room) where
  whole := fun _ => valueAt_subscript _ _ _
  atEntry := Nat.zero_le _
  calls := rfl

omit [DecidableEq Identity] in
/-- The calls of one more entry. -/
theorem calls_take_succ
    {position : Nat} {component : Identity}
    (entry : (entries bus room)[position]? = some component) :
    ((entries bus room).take (position + 1)).filterMap
        (invocation bus msg room from_componentName) =
      ((entries bus room).take position).filterMap
          (invocation bus msg room from_componentName) ++
        (invocation bus msg room from_componentName component).toList := by
  rw [List.take_add_one, entry, List.filterMap_append]
  cases isCall : invocation bus msg room from_componentName component with
  | none => simp [isCall]
  | some call => simp [isCall]

omit [DecidableEq Identity] in
/-- Before it locks, the loop is at an entry of a vector that is whole. -/
theorem Served.at_lock
    (served : Served bus room msg from_componentName state)
    (point : state.point = .lock) :
    state.position < state.finish ∧
      entries state.bus room = entries bus room ∧
      state.calls = ((entries bus room).take state.position).filterMap
        (invocation bus msg room from_componentName) := by
  have atEntry := served.atEntry
  have calls := served.calls
  simp only [AtEntry, point] at atEntry
  simp only [handled, point] at calls
  have ahead : 0 < unread state := by
    simp only [unread, point]
    omega
  exact ⟨atEntry, served.whole ahead, calls⟩

omit [DecidableEq Identity] in
/-- The entry at the position is dealt with: it has been called or skipped. -/
theorem served_increment
    (isFinish : state.finish = (entries bus room).length)
    (point : state.point = .increment) {component : Identity}
    (whole : 0 < unread state → entries state.bus room = entries bus room)
    (entry : (entries bus room)[state.position]? = some component)
    (calls : state.calls =
      ((entries bus room).take state.position).filterMap
          (invocation bus msg room from_componentName) ++
        (invocation bus msg room from_componentName component).toList) :
    Served bus room msg from_componentName state where
  whole := whole
  atEntry := by
    simp only [AtEntry, point]
    rw [isFinish]
    exact (List.getElem?_eq_some_iff.mp entry).1
  calls := by
    simp only [handled, point]
    rw [calls, calls_take_succ entry]

theorem Served.loop
    (kept : Kept bus room state)
    (served : Served bus room msg from_componentName state)
    {after : State Identity Callback}
    (step : LoopStep bus room msg from_componentName state after) :
    Served bus room msg from_componentName after := by
  have whole : 0 < unread after →
      entries after.bus room = entries bus room := fun ahead =>
    step.vector.1.trans (served.whole (ahead.trans_le step.unread_le))
  have atEntry := served.atEntry
  have calls := served.calls
  cases step with
  | finish point last =>
      simp only [handled, point] at calls
      exact ⟨whole, last, calls⟩
  | enter point more =>
      simp only [AtEntry, point] at atEntry
      simp only [handled, point] at calls
      exact ⟨whole, Nat.lt_of_le_of_ne atEntry more, calls⟩
  | overrun point past =>
      rcases served.at_lock point with ⟨inside, isWhole, _⟩
      rw [isWhole, ← kept.finish] at past
      exact absurd inside (Nat.not_lt.mpr past)
  | @expired component point entry dead =>
      rcases served.at_lock point with ⟨_, isWhole, before⟩
      rw [isWhole] at entry
      refine served_increment kept.finish rfl whole entry ?_
      have silent : invocation bus msg room from_componentName component =
          none := if_neg fun both => dead both.1
      rw [silent, Option.toList_none, List.append_nil]
      exact before
  | locked point entry alive =>
      rcases served.at_lock point with ⟨_, isWhole, before⟩
      rw [isWhole] at entry
      exact ⟨whole, ⟨entry, alive⟩, before⟩
  | other point differs =>
      simp only [AtEntry, point] at atEntry
      simp only [handled, point] at calls
      exact ⟨whole, ⟨atEntry.1, atEntry.2, differs⟩, calls⟩
  | @sender component point same =>
      simp only [AtEntry, point] at atEntry
      simp only [handled, point] at calls
      refine served_increment kept.finish rfl whole atEntry.1 ?_
      have silent : invocation bus msg room from_componentName component =
          none := if_neg fun both => both.2 same
      rw [silent, Option.toList_none, List.append_nil]
      exact calls
  | @call component f point isCallback =>
      simp only [AtEntry, point] at atEntry
      simp only [handled, point] at calls
      refine served_increment kept.finish rfl whole atEntry.1 ?_
      have called : invocation bus msg room from_componentName component =
          some ⟨component, f, msg⟩ := by
        rw [invocation, if_pos atEntry.2, isCallback]
        rfl
      rw [called, Option.toList_some, ← calls]
  | increment point =>
      simp only [AtEntry, point] at atEntry
      simp only [handled, point] at calls
      exact ⟨whole, atEntry, calls⟩

theorem Served.unsubscribe
    (served : Served bus room msg from_componentName state)
    {component : Identity}
    (guarded : Guarded room state (.unsubscribe component)) :
    Served bus room msg from_componentName
      { state with bus := Rooms.unsubscribe state.bus room component } where
  whole := by
    intro ahead
    have notErased : ¬ Erases room state component := fun erases =>
      absurd (guarded erases) (Nat.ne_of_gt ahead)
    rw [entries_after_unsubscribe]
    split_ifs with alive
    · rw [List.erase_of_not_mem fun isEntry => notErased ⟨alive, isEntry⟩]
      exact served.whole ahead
    · exact served.whole ahead
  atEntry := served.atEntry
  calls := served.calls

/-- What holds in every state of a guarded run. -/
structure Intact
    (bus : Rooms.State Identity Callback)
    (room msg from_componentName : Bytes)
    (state : State Identity Callback) : Prop where
  kept : Kept bus room state
  served : Served bus room msg from_componentName state

omit [DecidableEq Identity] in
theorem intact_start : Intact bus room msg from_componentName
    (start bus room) :=
  ⟨kept_start, served_start⟩

theorem Intact.next
    (callable : Callable bus)
    (intact : Intact bus room msg from_componentName state)
    (label : Label Identity) (enabled : Enabled state label)
    (guarded : Guarded room state label) :
    Intact bus room msg from_componentName
      (next room msg from_componentName state label) where
  kept := intact.kept.next callable label enabled
  served := by
    cases label with
    | loop =>
        exact intact.served.loop intact.kept
          (loopStep_of_enabled callable intact.kept enabled)
    | unsubscribe component => exact intact.served.unsubscribe guarded

omit [DecidableEq Identity] in
theorem Intact.not_overrun
    (intact : Intact bus room msg from_componentName state) :
    state.point ≠ .overrun := by
  intro isOverrun
  have atEntry := intact.served.atEntry
  simp only [AtEntry, isOverrun] at atEntry

omit [DecidableEq Identity] in
/-- A finished guarded loop has made the calls of an undisturbed one. -/
theorem calls_of_finished
    (intact : Intact bus room msg from_componentName state)
    (finished : state.point = .finished) :
    state.calls = roomCalls bus msg from_componentName room := by
  have atEntry := intact.served.atEntry
  have calls := intact.served.calls
  simp only [AtEntry, finished] at atEntry
  simp only [handled, finished, atEntry, intact.kept.finish,
    List.take_length]
    at calls
  exact calls

end Served

/-! ## Every interleaving -/

section Interleavings

variable {names : Identity → Bytes} {history : History Identity Callback}
variable {bus : Rooms.State Identity Callback}
variable {room msg from_componentName : Bytes}
variable {labels : List (Label Identity)}

/-- The calls of an undisturbed loop, counted. -/
theorem countP_roomCalls
    (refines : Refines names history bus) {component : Identity}
    (alive : (bus.components component).ptr_ = true)
    (differs : (bus.components component).name_ ≠ from_componentName) :
    (roomCalls bus msg from_componentName room).countP
        (fun call => call.component = component) =
      (entries bus room).count component := by
  have live : Live history component := (refines.alive component).mp alive
  rw [refines.name] at differs
  rw [(refines.roomCalls msg from_componentName room).times component,
    if_pos ⟨live, differs⟩, refines.entries component live]

/-- Guarded runs are robust in every state. -/
theorem robust_of_guarded
    (refines : Refines names history bus)
    (guarded : Follows (iteration bus room msg from_componentName)
      (Guarded room) (start bus room) labels) :
    Robust bus room msg from_componentName labels := by
  have preserved : ∀ (state : State Identity Callback)
      (label : Label Identity),
      Intact bus room msg from_componentName state →
        Enabled state label → Guarded room state label →
          Intact bus room msg from_componentName
            (next room msg from_componentName state label) :=
    fun _ label intact => intact.next refines.callable label
  constructor
  · exact along_of_invariant intact_start preserved
      (fun _ intact => intact.not_overrun) guarded
  · intro finished component alive differs _
    have atEnd : Intact bus room msg from_componentName _ :=
      (run_follow guarded).invariant intact_start preserved
    rw [calls_of_finished atEnd finished]
    exact countP_roomCalls refines alive differs

/-- The loop has come to its end, or past the end of the vector. -/
def Complete (state : State Identity Callback) : Prop :=
  state.point = .finished ∨ state.point = .overrun

/-- A complete run with an unguarded step is not robust. -/
theorem not_robust_of_unguarded
    (refines : Refines names history bus)
    (follows : Follows (iteration bus room msg from_componentName) anyStep
      (start bus room) labels)
    (complete : Complete (follow (iteration bus room msg from_componentName)
      (start bus room) labels))
    (unguarded : ¬ Follows (iteration bus room msg from_componentName)
      (Guarded room) (start bus room) labels) :
    ¬ Robust bus room msg from_componentName labels := by
  intro robust
  have notOverrun := robust.inside.last
  have short := short_of_unguarded refines.callable kept_start follows
    unguarded
  have ahead := short.ahead.resolve_left notOverrun
  have finished := complete.resolve_right notOverrun
  simp only [unread, finished] at ahead
  exact absurd ahead (lt_irrefl 0)

/--
In every reachable bus, under every interleaving of `unsubscribe` calls: if
nothing is erased before the loop has read the last position, the loop stays
inside the vector and calls each component that stays subscribed as often as
it is entered; and of the loops that come to an end, only these do.
-/
theorem robust_iff_guarded
    (names : Identity → Bytes) (history : History Identity Callback)
    (bus : Rooms.State Identity Callback)
    (run : Delivery.Run names history bus)
    (room msg from_componentName : Bytes) (labels : List (Label Identity))
    (follows : Follows (iteration bus room msg from_componentName) anyStep
      (start bus room) labels) :
    (Follows (iteration bus room msg from_componentName) (Guarded room)
          (start bus room) labels →
        Robust bus room msg from_componentName labels) ∧
      (Complete (follow (iteration bus room msg from_componentName)
          (start bus room) labels) →
        (Robust bus room msg from_componentName labels ↔
          Follows (iteration bus room msg from_componentName) (Guarded room)
            (start bus room) labels)) := by
  refine ⟨robust_of_guarded run.refines, fun complete => ?_⟩
  refine ⟨fun robust => ?_, robust_of_guarded run.refines⟩
  by_contra unguarded
  exact not_robust_of_unguarded run.refines follows complete unguarded robust

end Interleavings

/-! ## A subscriber that unsubscribes in its callback -/

def subscriberNames (component : Fin 2) : Bytes :=
  if component = 0 then str "cli1" else str "cli2"

def twoSubscribers : Rooms.State (Fin 2) Nat :=
  subscribe (subscribe (initial subscriberNames) (str "Room1") 0 1)
    (str "Room1") 1 2

theorem twoSubscribers_run :
    Delivery.Run subscriberNames
      [.subscribe (str "Room1") 1 2, .subscribe (str "Room1") 0 1]
      twoSubscribers :=
  .subscribe (.subscribe .initial _ _ _) _ _ _

/-- One entry: the test, the lock, the name, the call and the increment. -/
def entrySteps : List (Label (Fin 2)) :=
  [.loop, .loop, .loop, .loop]

/-- The last subscriber unsubscribes in its callback. -/
def lastUnsubscribes : List (Label (Fin 2)) :=
  entrySteps ++ [.loop] ++ entrySteps ++ [.unsubscribe 1, .loop, .loop]

/-- The first subscriber unsubscribes in its callback. -/
def firstUnsubscribes : List (Label (Fin 2)) :=
  entrySteps ++ [.unsubscribe 0, .loop, .loop, .loop]

theorem lastUnsubscribes_robust_iff :
    (Follows (iteration twoSubscribers (str "Room1") (str "hello")
            (str "server"))
          (Guarded (str "Room1")) (start twoSubscribers (str "Room1"))
          lastUnsubscribes →
        Robust twoSubscribers (str "Room1") (str "hello") (str "server")
          lastUnsubscribes) ∧
      (Complete (follow (iteration twoSubscribers (str "Room1")
            (str "hello") (str "server"))
          (start twoSubscribers (str "Room1")) lastUnsubscribes) →
        (Robust twoSubscribers (str "Room1") (str "hello") (str "server")
            lastUnsubscribes ↔
          Follows (iteration twoSubscribers (str "Room1") (str "hello")
              (str "server"))
            (Guarded (str "Room1")) (start twoSubscribers (str "Room1"))
            lastUnsubscribes)) :=
  robust_iff_guarded subscriberNames _ twoSubscribers twoSubscribers_run
    (str "Room1") (str "hello") (str "server") lastUnsubscribes (by decide)

/-- The second subscriber is skipped, and the loop reads past the end. -/
theorem firstUnsubscribes_not_robust :
    Follows (iteration twoSubscribers (str "Room1") (str "hello")
          (str "server")) anyStep (start twoSubscribers (str "Room1"))
        firstUnsubscribes ∧
      (follow (iteration twoSubscribers (str "Room1") (str "hello")
        (str "server")) (start twoSubscribers (str "Room1"))
          firstUnsubscribes).calls.countP (fun call => call.component = 1) =
        0 ∧
      ¬ Robust twoSubscribers (str "Room1") (str "hello") (str "server")
        firstUnsubscribes := by
  refine ⟨by decide, by decide, fun robust => ?_⟩
  exact robust.inside.last (by decide)

end ServerUtils.Bus.Iteration
