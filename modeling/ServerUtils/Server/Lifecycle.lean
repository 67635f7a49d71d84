import Mathlib.Algebra.BigOperators.Group.List.Basic
import Mathlib.Algebra.GroupWithZero.Nat
import ServerUtils.Server.FairService

/-!
# Running, stopping and destroying the server

`run` sets `running` and starts a thread with the select loop, `stop` clears
`running`, and the destructor of the server joins the threads of its pool one
after the other.  Every thread is a select loop of its own on the shared
flag.  The owner calls `run`, `stop` and the destructor in any order; after
the destructor has begun it calls nothing more.

The calls of the listeners return: one that blocks, as in `SSL_accept`, keeps
its thread from ending.  The members of the server behind `tp`, with `mtx` and
`ip` among them, are destroyed before `tp` joins the threads which still use
them; here they last as long as the threads.
-/

namespace ServerUtils.Server.Lifecycle

open ServerUtils.Foundation.Transition
open ServerUtils.Server.SelectLoop
open ServerUtils.Server.FairService

/-- A thread of `tp`. -/
inductive LoopThread where
  /-- in `tcp_listen` -/
  | starting
  /-- `tcp_listen` has failed, `loop` has returned -/
  | failed
  | listening (server_socket : Int) (state : SelectLoop.State)

/-- Where the owner of the server is. -/
inductive OwnerPoint where
  | idle
  /-- in `run`, `running` is set -/
  | starting
  /-- in the destructor, this many threads have been joined -/
  | joining (joined : Nat)
  | destroyed
deriving DecidableEq

structure State where
  running : Bool
  /-- `tp` -/
  threads : List LoopThread
  owner : OwnerPoint

inductive Label where
  | setRunning
  | spawn
  | stop
  | destroy
  | join
  | destroyed
  /-- `tcp_listen` of a thread returns -/
  | listen (index : Nat) (server_socket : Int)
  /-- a step of a thread's loop -/
  | step (index : Nat) (label : SelectLoop.Label)

/-- The thread has ended, so that joining it returns. -/
def LoopThread.Ended : LoopThread → Prop
  | .starting => False
  | .failed => True
  | .listening _ state => state.point = .returned

/-- What `loop` reads when it copies `running`. -/
def Reads (running : Bool) : SelectLoop.Label → Prop
  | .iterate read => read = running
  | _ => True

def Enabled (state : State) : Label → Prop
  | .setRunning => state.owner = .idle
  | .spawn => state.owner = .starting
  | .stop => state.owner = .idle
  | .destroy => state.owner = .idle
  | .join =>
      ∃ joined, state.owner = .joining joined ∧
        ∃ thread, state.threads[joined]? = some thread ∧ thread.Ended
  | .destroyed => state.owner = .joining state.threads.length
  | .listen index _ => state.threads[index]? = some .starting
  | .step index label =>
      ∃ server_socket loop,
        state.threads[index]? = some (.listening server_socket loop) ∧
          SelectLoop.Enabled server_socket loop label ∧
          Reads state.running label

/-- `loop` after `tcp_listen` has returned. -/
def afterListen (server_socket : Int) : LoopThread :=
  if server_socket = -1 then .failed
  else .listening server_socket (SelectLoop.initial server_socket)

def stepThread (label : SelectLoop.Label) : LoopThread → LoopThread
  | .listening server_socket loop =>
      .listening server_socket (SelectLoop.next loop label)
  | thread => thread

def next (state : State) : Label → State
  | .setRunning => { state with running := true, owner := .starting }
  | .spawn =>
      { state with
        threads := state.threads ++ [.starting]
        owner := .idle }
  | .stop => { state with running := false }
  | .destroy => { state with owner := .joining 0 }
  | .join =>
      match state.owner with
      | .joining joined => { state with owner := .joining (joined + 1) }
      | _ => state
  | .destroyed => { state with owner := .destroyed }
  | .listen index server_socket =>
      { state with
        threads :=
          state.threads.modify index fun _ => afterListen server_socket }
  | .step index label =>
      { state with
        threads := state.threads.modify index (stepThread label) }

/-- The server after its constructor. -/
def initial : State where
  running := false
  threads := []
  owner := .idle

def lifecycle : Machine State Label where
  initial := initial
  Enabled := Enabled
  next := next

/-- The descriptors that the system hands out fit into an `fd_set`. -/
def DescriptorsFit (_ : State) : Label → Prop
  | .listen _ server_socket => server_socket < fdSetSize
  | .step _ label => AcceptsInRange label
  | _ => True

/-! ## One thread -/

/-- The steps a loop has to go until it tests `running` again, and the test
itself. -/
def pointWeight : Point → Nat
  | .top => 1
  | .select => 1027
  | .scan position => (fdSetSize - position).toNat + 2
  | .returned => 0

def threadWeight : LoopThread → Nat
  | .starting => 2
  | .failed => 0
  | .listening _ loop => pointWeight loop.point

/-- The scan of a loop stays inside an `fd_set`. -/
def ThreadInRange : LoopThread → Prop
  | .listening _ loop => InRange loop
  | _ => True

theorem inRange_afterListen
    {server_socket : Int} (fits : server_socket < fdSetSize) :
    ThreadInRange (afterListen server_socket) := by
  rw [afterListen]
  split_ifs
  · trivial
  · exact ⟨fits, fun _ scanning => by cases scanning⟩

theorem weight_afterListen (server_socket : Int) :
    threadWeight (afterListen server_socket) < threadWeight .starting := by
  rw [afterListen]
  split_ifs
  · exact Nat.zero_lt_two
  · exact Nat.one_lt_two

/-- Once `running` is cleared, every step brings a loop nearer to its end. -/
theorem weight_next
    {server_socket : Int} {loop : SelectLoop.State}
    {label : SelectLoop.Label}
    (inRange : InRange loop)
    (enabled : SelectLoop.Enabled server_socket loop label)
    (reads : Reads false label) :
    pointWeight (SelectLoop.next loop label).point <
      pointWeight loop.point := by
  have scanned : ∀ position, AtSocket loop position →
      pointWeight (.scan (position + 1)) < pointWeight loop.point := by
    rintro position ⟨scanning, inBound⟩
    have inside : position < fdSetSize := inBound.trans_lt inRange.fdmax
    rw [scanning, pointWeight, pointWeight]
    omega
  cases label with
  | iterate running =>
      have isTop : loop.point = .top := enabled
      have isStopped : running = false := reads
      rw [isTop, isStopped]
      exact Nat.zero_lt_one
  | select status ready left =>
      have isSelect : loop.point = .select := enabled
      have moved : (selectNext loop status ready left).point = .top ∨
          (selectNext loop status ready left).point = .scan 0 := by
        rw [selectNext]
        split_ifs
        · exact .inl rfl
        · exact .inr rfl
        · exact .inr rfl
      rw [isSelect, SelectLoop.next]
      rcases moved with isTop | scanning
      · rw [isTop]
        decide
      · rw [scanning]
        decide
  | skip position => exact scanned position enabled.1
  | accept position newfd left =>
      have moved : (SelectLoop.next loop (.accept position newfd left)).point =
          .scan (position + 1) := by
        rw [SelectLoop.next, acceptNext]
        split_ifs <;> rfl
      rw [moved]
      exact scanned position enabled.1
  | data position left =>
      have moved : (SelectLoop.next loop (.data position left)).point =
          .scan (position + 1) := by
        cases left <;> rfl
      rw [moved]
      exact scanned position enabled.1
  | endPass position =>
      have scanning : loop.point = .scan position := enabled.1
      rw [scanning]
      exact Nat.lt_add_left _ Nat.one_lt_two

/-! ## The pool -/

section Pool

variable {Element : Type} {elements : List Element} {index : Nat}
variable {old : Element} (change : Element → Element)

theorem sum_map_modify
    (weight : Element → Nat) (isAt : elements[index]? = some old) :
    ((elements.modify index change).map weight).sum + weight old =
      (elements.map weight).sum + weight (change old) := by
  induction elements generalizing index with
  | nil => cases isAt
  | cons first rest ih =>
      cases index with
      | zero =>
          cases isAt
          simp only [List.modify_zero_cons, List.map_cons, List.sum_cons]
          omega
      | succ index =>
          have shifted := ih isAt
          simp only [List.modify_succ_cons, List.map_cons, List.sum_cons]
          omega

/-- The elements after one has changed. -/
theorem getElem?_modify_cases
    (isAt : elements[index]? = some old) {other : Nat} {element : Element}
    (isElement : (elements.modify index change)[other]? = some element) :
    (other = index ∧ element = change old) ∨
      (other ≠ index ∧ elements[other]? = some element) := by
  by_cases same : other = index
  · subst same
    rw [List.getElem?_modify_eq, isAt] at isElement
    exact .inl ⟨rfl, (Option.some.inj isElement).symm⟩
  · rw [List.getElem?_modify_ne _ _ (Ne.symm same)] at isElement
    exact .inr ⟨same, isElement⟩

end Pool

/-- The threads which the destructor has joined. -/
def joinedCount (state : State) : Nat :=
  match state.owner with
  | .joining joined => joined
  | .destroyed => state.threads.length
  | _ => 0

theorem joinedCount_joining
    {state : State} {joined : Nat} (isJoining : state.owner = .joining joined) :
    joinedCount state = joined := by
  rw [joinedCount, isJoining]

/-- The scans stay in range, and what has been joined has ended. -/
structure Sound (state : State) : Prop where
  inRange : ∀ thread ∈ state.threads, ThreadInRange thread
  joined : joinedCount state ≤ state.threads.length
  ended : ∀ (index : Nat) (thread : LoopThread), index < joinedCount state →
    state.threads[index]? = some thread → thread.Ended

theorem sound_initial : Sound initial where
  inRange := List.forall_mem_nil _
  joined := le_rfl
  ended := fun index _ below => absurd below (Nat.not_lt_zero index)

/-- A thread that takes a step has not been joined. -/
theorem Sound.modify
    {state : State} (sound : Sound state) {index : Nat} {old : LoopThread}
    (isAt : state.threads[index]? = some old) (active : ¬ old.Ended)
    {change : LoopThread → LoopThread}
    (inRange : ThreadInRange (change old)) :
    Sound { state with threads := state.threads.modify index change } := by
  have sameCount : joinedCount
      { state with threads := state.threads.modify index change } =
        joinedCount state := by
    simp only [joinedCount, List.length_modify]
  refine ⟨?_, ?_, ?_⟩
  · intro thread isThread
    rcases List.getElem?_of_mem isThread with ⟨other, isOther⟩
    rcases getElem?_modify_cases change isAt isOther with
      ⟨_, rfl⟩ | ⟨_, wasThread⟩
    · exact inRange
    · exact sound.inRange thread (List.mem_of_getElem? wasThread)
  · rw [sameCount, List.length_modify]
    exact sound.joined
  · rw [sameCount]
    intro other thread below isThread
    rcases getElem?_modify_cases change isAt isThread with
      ⟨rfl, _⟩ | ⟨_, wasThread⟩
    · exact absurd (sound.ended _ old below isAt) active
    · exact sound.ended other thread below wasThread

/-- A loop that can take a step has not returned. -/
theorem not_ended_of_enabled
    {server_socket : Int} {loop : SelectLoop.State}
    {label : SelectLoop.Label}
    (enabled : SelectLoop.Enabled server_socket loop label) :
    ¬ (LoopThread.listening server_socket loop).Ended := by
  intro ended
  have isReturned : loop.point = .returned := ended
  cases label with
  | iterate running => cases isReturned.symm.trans enabled
  | select status ready left => cases isReturned.symm.trans enabled
  | skip position => cases isReturned.symm.trans enabled.1.1
  | accept position newfd left => cases isReturned.symm.trans enabled.1.1
  | data position left => cases isReturned.symm.trans enabled.1.1
  | endPass position => cases isReturned.symm.trans enabled.1

theorem sound_next
    (state : State) (label : Label) (sound : Sound state)
    (enabled : Enabled state label) (fits : DescriptorsFit state label) :
    Sound (next state label) := by
  -- before the destructor nothing has been joined
  have early : ∀ owner threads running,
      joinedCount ⟨running, threads, owner⟩ = 0 →
      (∀ thread ∈ threads, ThreadInRange thread) →
      Sound ⟨running, threads, owner⟩ := by
    intro owner threads running none inRange
    refine ⟨inRange, ?_, ?_⟩
    · rw [none]
      exact Nat.zero_le _
    · rw [none]
      exact fun index thread below => absurd below (Nat.not_lt_zero index)
  cases label with
  | setRunning => exact early _ _ _ rfl sound.inRange
  | spawn =>
      refine early _ _ _ rfl ?_
      rw [List.forall_mem_append, List.forall_mem_singleton]
      exact ⟨sound.inRange, True.intro⟩
  | stop =>
      have isIdle : state.owner = .idle := enabled
      refine early _ _ _ ?_ sound.inRange
      rw [joinedCount, isIdle]
  | destroy => exact early _ _ _ rfl sound.inRange
  | join =>
      rcases enabled with ⟨joined, isJoining, thread, isThread, ended⟩
      have count := joinedCount_joining isJoining
      have isNext : next state .join =
          { state with owner := .joining (joined + 1) } := by
        rw [next, isJoining]
      rw [isNext]
      refine ⟨sound.inRange, (List.getElem?_eq_some_iff.mp isThread).1, ?_⟩
      intro index other below isOther
      rcases Nat.lt_succ_iff_lt_or_eq.mp below with before | rfl
      · exact sound.ended index other (count ▸ before) isOther
      · rw [Option.some.inj (isOther.symm.trans isThread)]
        exact ended
  | destroyed =>
      have isJoining : state.owner = .joining state.threads.length := enabled
      have count := joinedCount_joining isJoining
      refine ⟨sound.inRange, le_rfl, ?_⟩
      intro index thread below
      exact sound.ended index thread (count ▸ below)
  | listen index server_socket =>
      exact sound.modify enabled not_false (inRange_afterListen fits)
  | step index label =>
      rcases enabled with ⟨server_socket, loop, isAt, enabled, _⟩
      exact sound.modify isAt (not_ended_of_enabled enabled)
        (inRange_next loop label
          (sound.inRange _ (List.mem_of_getElem? isAt)) enabled fits)

/-! ## The destructor after a stop -/

/-- The destructor has begun. -/
def Leaving (state : State) : Prop :=
  (∃ joined, state.owner = .joining joined) ∨ state.owner = .destroyed

/-- The destructor has begun on a stopped server. -/
structure Stopped (state : State) : Prop where
  sound : Sound state
  leaving : Leaving state
  stopped : state.running = false

def ownerWeight (state : State) : Nat :=
  match state.owner with
  | .joining joined => state.threads.length - joined + 1
  | _ => 0

def measure (state : State) : Nat :=
  (state.threads.map threadWeight).sum + ownerWeight state

theorem Leaving.ne_idle
    {state : State} (leaving : Leaving state) : state.owner ≠ .idle := by
  intro isIdle
  rcases leaving with ⟨joined, isJoining⟩ | isDestroyed
  · cases isIdle.symm.trans isJoining
  · cases isIdle.symm.trans isDestroyed

theorem Leaving.ne_starting
    {state : State} (leaving : Leaving state) :
    state.owner ≠ .starting := by
  intro isStarting
  rcases leaving with ⟨joined, isJoining⟩ | isDestroyed
  · cases isStarting.symm.trans isJoining
  · cases isStarting.symm.trans isDestroyed

/-- A thread's step does not concern the owner. -/
theorem measure_modify
    {state : State} {index : Nat} {old : LoopThread}
    (isAt : state.threads[index]? = some old)
    {change : LoopThread → LoopThread}
    (lower : threadWeight (change old) < threadWeight old) :
    measure { state with threads := state.threads.modify index change } <
      measure state := by
  have sum := sum_map_modify change threadWeight isAt
  have sameOwner : ownerWeight
      { state with threads := state.threads.modify index change } =
        ownerWeight state := by
    simp only [ownerWeight, List.length_modify]
  rw [measure, measure, sameOwner]
  show ((state.threads.modify index change).map threadWeight).sum +
    ownerWeight state < _
  omega

theorem stopped_next
    (state : State) (label : Label) (stopped : Stopped state)
    (enabled : Enabled state label) (fits : DescriptorsFit state label) :
    Stopped (next state label) := by
  have sound := sound_next state label stopped.sound enabled fits
  cases label with
  | setRunning => exact absurd enabled stopped.leaving.ne_idle
  | spawn => exact absurd enabled stopped.leaving.ne_starting
  | stop => exact absurd enabled stopped.leaving.ne_idle
  | destroy => exact absurd enabled stopped.leaving.ne_idle
  | join =>
      rcases enabled with ⟨joined, isJoining, _⟩
      have isNext : next state .join =
          { state with owner := .joining (joined + 1) } := by
        rw [next, isJoining]
      rw [isNext] at sound ⊢
      exact ⟨sound, .inl ⟨_, rfl⟩, stopped.stopped⟩
  | destroyed => exact ⟨sound, .inr rfl, stopped.stopped⟩
  | listen index server_socket =>
      exact ⟨sound, stopped.leaving, stopped.stopped⟩
  | step index label => exact ⟨sound, stopped.leaving, stopped.stopped⟩

theorem measure_next
    (state : State) (label : Label) (stopped : Stopped state)
    (enabled : Enabled state label) (_ : DescriptorsFit state label) :
    measure (next state label) < measure state := by
  cases label with
  | setRunning => exact absurd enabled stopped.leaving.ne_idle
  | spawn => exact absurd enabled stopped.leaving.ne_starting
  | stop => exact absurd enabled stopped.leaving.ne_idle
  | destroy => exact absurd enabled stopped.leaving.ne_idle
  | join =>
      rcases enabled with ⟨joined, isJoining, thread, isThread, _⟩
      have below : joined < state.threads.length :=
        (List.getElem?_eq_some_iff.mp isThread).1
      simp only [measure, ownerWeight, next, isJoining]
      omega
  | destroyed =>
      have isJoining : state.owner = .joining state.threads.length := enabled
      simp only [measure, ownerWeight, next, isJoining]
      omega
  | listen index server_socket =>
      exact measure_modify enabled (weight_afterListen server_socket)
  | step index label =>
      rcases enabled with ⟨server_socket, loop, isAt, enabled, reads⟩
      rw [stopped.stopped] at reads
      exact measure_modify isAt (weight_next
        (stopped.sound.inRange _ (List.mem_of_getElem? isAt)) enabled reads)

/-- A loop that has not returned can go on. -/
theorem loop_enabled
    (server_socket : Int) (running : Bool) {loop : SelectLoop.State}
    (active : loop.point ≠ .returned) :
    ∃ label, SelectLoop.Enabled server_socket loop label ∧
      Reads running label ∧ AcceptsInRange label := by
  cases isAt : loop.point with
  | top => exact ⟨.iterate running, isAt, rfl, True.intro⟩
  | select => exact ⟨.select 0 ∅ false, isAt, True.intro, True.intro⟩
  | scan position =>
      rcases scan_enabled server_socket isAt with ⟨label, enabled, posix⟩
      refine ⟨label, enabled, ?_, posix.acceptsInRange⟩
      cases label with
      | iterate read => cases isAt.symm.trans enabled
      | _ => trivial
  | returned => exact absurd isAt active

/-- Until the destructor returns, some step can be taken. -/
theorem destroyed_of_settled
    {state : State} (sound : Sound state) (leaving : Leaving state)
    (settled : Settled lifecycle DescriptorsFit state) :
    state.owner = .destroyed := by
  have stuck : ∀ label, DescriptorsFit state label → ¬ Enabled state label :=
    fun label fits enabled => settled label enabled fits
  rcases leaving with ⟨joined, isJoining⟩ | isDestroyed
  · exfalso
    have bound := sound.joined
    rw [joinedCount_joining isJoining] at bound
    rcases Nat.lt_or_eq_of_le bound with below | atEnd
    · have isThread : state.threads[joined]? = some state.threads[joined] :=
        List.getElem?_eq_getElem below
      generalize state.threads[joined] = thread at isThread
      cases thread with
      | starting =>
          exact stuck (.listen joined (-1))
            (by decide : (-1 : Int) < fdSetSize) isThread
      | failed =>
          exact stuck .join True.intro
            ⟨joined, isJoining, .failed, isThread, True.intro⟩
      | listening server_socket loop =>
          by_cases returned : loop.point = .returned
          · exact stuck .join True.intro
              ⟨joined, isJoining, _, isThread, returned⟩
          · rcases loop_enabled server_socket state.running returned with
              ⟨label, enabled, reads, fits⟩
            exact stuck (.step joined label) fits
              ⟨server_socket, loop, isThread, enabled, reads⟩
    · apply stuck .destroyed True.intro
      show state.owner = _
      rw [isJoining, atEnd]
  · exact isDestroyed

/-! ## The destructor without a stop -/

/-- The thread is inside its loop. -/
def Looping : LoopThread → Prop
  | .listening _ loop => loop.point ≠ .returned
  | _ => False

/-- The destructor has not got past a loop which finds `running` set. -/
structure Hangs (index : Nat) (state : State) : Prop where
  waiting : ∃ joined, state.owner = .joining joined ∧ joined ≤ index
  running : state.running = true
  looping : ∃ thread, state.threads[index]? = some thread ∧ Looping thread

/-- A loop that finds `running` set goes on. -/
theorem point_next_ne_returned
    {server_socket : Int} {loop : SelectLoop.State}
    {label : SelectLoop.Label}
    (enabled : SelectLoop.Enabled server_socket loop label)
    (reads : Reads true label) :
    (SelectLoop.next loop label).point ≠ .returned := by
  cases label with
  | iterate running =>
      have isRunning : running = true := reads
      rw [isRunning]
      rintro ⟨⟩
  | select status ready left =>
      rw [SelectLoop.next, selectNext]
      split_ifs <;> rintro ⟨⟩
  | skip position => rintro ⟨⟩
  | accept position newfd left =>
      rw [SelectLoop.next, acceptNext]
      split_ifs <;> rintro ⟨⟩
  | data position left => cases left <;> rintro ⟨⟩
  | endPass position => rintro ⟨⟩

theorem Hangs.modify
    {index other : Nat} {state : State} (hangs : Hangs index state)
    {old : LoopThread} (isAt : state.threads[other]? = some old)
    {change : LoopThread → LoopThread}
    (keeps : Looping old → Looping (change old)) :
    Hangs index
      { state with threads := state.threads.modify other change } := by
  rcases hangs.looping with ⟨thread, isThread, looping⟩
  refine ⟨hangs.waiting, hangs.running, ?_⟩
  by_cases same : other = index
  · subst same
    cases isAt.symm.trans isThread
    refine ⟨change old, ?_, keeps looping⟩
    rw [List.getElem?_modify_eq, isAt]
    rfl
  · refine ⟨thread, ?_, looping⟩
    rw [List.getElem?_modify_ne _ _ same]
    exact isThread

theorem hangs_next
    (index : Nat) (state : State) (label : Label)
    (hangs : Hangs index state) (enabled : Enabled state label) :
    Hangs index (next state label) := by
  rcases hangs.waiting with ⟨joined, isJoining, before⟩
  rcases hangs.looping with ⟨thread, isThread, looping⟩
  have leaving : Leaving state := .inl ⟨joined, isJoining⟩
  cases label with
  | setRunning => exact absurd enabled leaving.ne_idle
  | spawn => exact absurd enabled leaving.ne_starting
  | stop => exact absurd enabled leaving.ne_idle
  | destroy => exact absurd enabled leaving.ne_idle
  | join =>
      rcases enabled with ⟨other, isOther, joinable, isJoinable, ended⟩
      cases isJoining.symm.trans isOther
      -- a looping thread cannot be joined, so the destructor is before it
      have different : joined ≠ index := by
        rintro rfl
        cases isThread.symm.trans isJoinable
        cases thread with
        | listening server_socket loop => exact looping ended
        | _ => exact looping
      have isNext : next state .join =
          { state with owner := .joining (joined + 1) } := by
        rw [next, isJoining]
      rw [isNext]
      exact ⟨⟨_, rfl, Nat.lt_of_le_of_ne before different⟩, hangs.running,
        hangs.looping⟩
  | destroyed =>
      have isLast : state.owner = .joining state.threads.length := enabled
      cases isJoining.symm.trans isLast
      have below : index < state.threads.length :=
        (List.getElem?_eq_some_iff.mp isThread).1
      exact absurd before (Nat.not_le_of_lt below)
  | listen other server_socket =>
      exact hangs.modify enabled fun impossible => impossible.elim
  | step other label =>
      rcases enabled with ⟨server_socket, loop, isAt, enabled, reads⟩
      rw [hangs.running] at reads
      exact hangs.modify isAt fun _ => point_next_ne_returned enabled reads

theorem sound_of_reached
    {state : State} (reached : ReachableBy lifecycle DescriptorsFit state) :
    Sound state :=
  Run.invariant reached sound_initial sound_next

/-- Every thread of the server has ended. -/
def AllEnded (state : State) : Prop :=
  ∀ thread ∈ state.threads, thread.Ended

theorem allEnded_of_destroyed
    {state : State} (sound : Sound state)
    (isDestroyed : state.owner = .destroyed) : AllEnded state := by
  intro thread isThread
  rcases List.getElem?_of_mem isThread with ⟨index, isAt⟩
  apply sound.ended index thread _ isAt
  rw [joinedCount, isDestroyed]
  exact (List.getElem?_eq_some_iff.mp isAt).1

/--
A destructor that begins on a stopped server returns, if descriptors fit into
an `fd_set`: the threads and the destructor can only take a bounded number of
steps, whatever the schedule and whatever the clients do, and where none is
left the destructor has returned and every thread has ended.  One that begins
while `running` is set never returns if a loop is listening.
-/
theorem destructor_returns_after_stop
    (state : State) (reached : ReachableBy lifecycle DescriptorsFit state)
    (begun : state.owner = .joining 0) :
    (state.running = false →
      ∃ bound, ∀ labels, Follows lifecycle DescriptorsFit state labels →
        labels.length ≤ bound ∧
        (Settled lifecycle DescriptorsFit (follow lifecycle state labels) →
          (follow lifecycle state labels).owner = .destroyed ∧
            AllEnded (follow lifecycle state labels))) ∧
      (state.running = true → (∃ thread ∈ state.threads, Looping thread) →
        ∀ later, Run lifecycle anyStep state later →
          later.owner ≠ .destroyed) := by
  have sound := sound_of_reached reached
  constructor
  · intro isStopped
    have start : Stopped state := ⟨sound, .inl ⟨0, begun⟩, isStopped⟩
    refine ⟨measure state, fun labels follows => ⟨?_, ?_⟩⟩
    · exact length_le_of_decreasing start stopped_next measure_next follows
    · intro settled
      have stopped : Stopped (follow lifecycle state labels) :=
        (run_follow follows).invariant start stopped_next
      have isDestroyed :=
        destroyed_of_settled stopped.sound stopped.leaving settled
      exact ⟨isDestroyed, allEnded_of_destroyed stopped.sound isDestroyed⟩
  · rintro isRunning ⟨thread, isThread, looping⟩ later run isDestroyed
    rcases List.getElem?_of_mem isThread with ⟨index, isAt⟩
    have start : Hangs index state :=
      ⟨⟨0, begun, Nat.zero_le _⟩, isRunning, thread, isAt, looping⟩
    have hangs : Hangs index later :=
      run.invariant start fun state label hangs enabled _ =>
        hangs_next index state label hangs enabled
    rcases hangs.waiting with ⟨joined, isJoining, _⟩
    cases isJoining.symm.trans isDestroyed

/-- The server runs, and its loop is in `select`. -/
def selecting : List Label :=
  [.setRunning, .spawn, .listen 0 3, .step 0 (.iterate true)]

/-- The server is stopped before its destructor is called. -/
def stoppedState : State :=
  follow lifecycle initial (selecting ++ [.stop, .destroy])

/-- The destructor is called while the loop goes on. -/
def unstoppedState : State :=
  follow lifecycle initial (selecting ++ [.destroy])

theorem follows_selecting {later : List Label}
    (follows : Follows lifecycle DescriptorsFit
      (follow lifecycle initial selecting) later) :
    Follows lifecycle DescriptorsFit initial (selecting ++ later) := by
  refine follows_append.mpr ⟨⟨rfl, True.intro, rfl, True.intro, rfl,
    (by decide : (3 : Int) < fdSetSize), ?_, True.intro, True.intro⟩, follows⟩
  exact ⟨3, SelectLoop.initial 3, rfl, rfl, rfl⟩

theorem selecting_destructor_returns :
    (∃ bound, ∀ labels, Follows lifecycle DescriptorsFit stoppedState labels →
      labels.length ≤ bound ∧
      (Settled lifecycle DescriptorsFit
          (follow lifecycle stoppedState labels) →
        (follow lifecycle stoppedState labels).owner = .destroyed ∧
          AllEnded (follow lifecycle stoppedState labels))) ∧
    ∀ later, Run lifecycle anyStep unstoppedState later →
      later.owner ≠ .destroyed := by
  constructor
  · refine (destructor_returns_after_stop stoppedState (run_follow ?_) rfl).1
      rfl
    exact follows_selecting ⟨rfl, True.intro, rfl, True.intro, True.intro⟩
  · refine (destructor_returns_after_stop unstoppedState (run_follow ?_)
      rfl).2 rfl ⟨_, List.mem_singleton_self _, ?_⟩
    · exact follows_selecting ⟨rfl, True.intro, True.intro⟩
    · exact fun isReturned => by cases isReturned

end ServerUtils.Server.Lifecycle
