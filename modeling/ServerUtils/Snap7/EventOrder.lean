import ServerUtils.Snap7.EventQueue

/-!
# What picking events returns

As long as there is one consumer, no `Extract` begins while the only event
that waits is still being copied, and no `Flush` meets an `Extract`, the
answers of `PickEvent` are those of a queue of at most `Max` events that serves
the calls one after the other.  Two consumers can pick the same event.  Without
the second condition an event can mix with the block that was in its place
before, which is the event accepted `FCapacity` events earlier; one consumer
gets the events in order in any case.
-/

namespace ServerUtils.Snap7.EventQueue

open ServerUtils.Foundation.Ring
open ServerUtils.Foundation.Transition

variable {Consumer Position Byte : Type*}
variable {Max : Nat}

/-! ## The indices -/

section Indices

variable {queue : TMsgEventQueue Position Byte} {count : Nat}

/-- The indices say that so many events wait. -/
structure Indexed (queue : TMsgEventQueue Position Byte) (Max count : Nat) :
    Prop where
  max : queue.Max = Max
  inside : queue.IndexOut ≤ Max
  indexIn : queue.IndexIn = place Max queue.IndexOut count
  atMost : count ≤ Max

theorem Indexed.empty_iff (indexed : Indexed queue Max count) :
    queue.empty = true ↔ count = 0 := by
  have isStart : place Max queue.IndexOut 0 = queue.IndexOut :=
    place_zero indexed.inside
  rw [TMsgEventQueue.empty, beq_iff_eq, indexed.indexIn]
  conv_lhs => rhs; rw [← isStart]
  rw [eq_comm, place_eq_iff (Nat.zero_le count), eq_comm]
  simpa using indexed.atMost

/-- The comparison in `Full` is with the index behind `IndexIn`. -/
theorem full_iff_following
    (insideIn : queue.IndexIn ≤ queue.Max)
    (insideOut : queue.IndexOut ≤ queue.Max) :
    queue.full = true ↔
      following queue.Max queue.IndexIn = queue.IndexOut := by
  rw [TMsgEventQueue.full, following, Bool.or_eq_true, Bool.and_eq_true,
    beq_iff_eq, beq_iff_eq, beq_iff_eq]
  split
  · omega
  · omega

theorem Indexed.full_iff (indexed : Indexed queue Max count) :
    queue.full = true ↔ count = Max := by
  have isMax := indexed.max
  subst isMax
  have insideIn : queue.IndexIn ≤ queue.Max := by
    rw [indexed.indexIn]
    exact place_le _ _ _
  rw [full_iff_following insideIn indexed.inside, indexed.indexIn,
    following_place]
  constructor
  · intro same
    by_contra notFull
    have isStart : place queue.Max queue.IndexOut 0 = queue.IndexOut :=
      place_zero indexed.inside
    have isLess : count < queue.Max :=
      Nat.lt_of_le_of_ne indexed.atMost notFull
    exact place_ne (Nat.succ_pos count) (by omega)
      (isStart.trans same.symm)
  · rintro rfl
    have turned := place_turn queue.Max queue.IndexOut 0
    rw [Nat.zero_add] at turned
    rw [turned, place_zero indexed.inside]

/-- `IndexIn` moves. -/
theorem Indexed.moveIn
    (indexed : Indexed queue Max count) (room : count < Max) :
    Indexed { queue with IndexIn := queue.advance queue.IndexIn } Max
      (count + 1) where
  max := indexed.max
  inside := indexed.inside
  indexIn := by
    rw [TMsgEventQueue.advance, indexed.max, indexed.indexIn]
    exact following_place _ _ _
  atMost := room

/-- `IndexOut` moves. -/
theorem Indexed.moveOut (indexed : Indexed queue Max (count + 1)) :
    Indexed { queue with IndexOut := following Max queue.IndexOut } Max
      count where
  max := indexed.max
  inside := by
    rw [following_eq_place indexed.inside]
    exact place_le _ _ _
  indexIn := by
    rw [place_following indexed.inside, Nat.add_comm]
    exact indexed.indexIn
  atMost := Nat.le_of_succ_le indexed.atMost

/-- Writing into a block does not move the indices. -/
theorem Indexed.write
    (indexed : Indexed queue Max count)
    (Buffer : Nat → Block Position Byte) :
    Indexed { queue with Buffer := Buffer } Max count :=
  ⟨indexed.max, indexed.inside, indexed.indexIn, indexed.atMost⟩

end Indices

/-! ## A copy under way -/

section Copy

variable {source target : Block Position Byte} {copied : Position → Bool}

/-- The copied positions of the target are those of the source. -/
def Copied (copied : Position → Bool) (source target : Block Position Byte) :
    Prop :=
  ∀ position, copied position = true → target position = source position

theorem Copied.nothing : Copied (fun _ => false) source target := by
  intro position isCopied
  cases isCopied

theorem Copied.position [DecidableEq Position]
    (isCopy : Copied copied source target) (position : Position) :
    Copied (Function.update copied position true) source
      (Function.update target position (source position)) := by
  intro other isCopied
  by_cases same : other = position
  · subst same
    rw [Function.update_self]
  · rw [Function.update_of_ne same] at isCopied ⊢
    exact isCopy other isCopied

theorem Copied.done
    (isCopy : Copied copied source target) (done : Done copied) :
    target = source := by
  funext position
  exact isCopy position (done position)

end Copy

/-! ## The answers of a queue -/

section Answers

variable {Buffer : Nat → Block Position Byte}
variable {state : State Consumer Position Byte}
variable {fifo : Fifo (Block Position Byte)}

/-- No `Extract` begins while the only event that waits is being copied, and
no `Flush` meets an `Extract`. -/
def Calm (state : State Consumer Position Byte) :
    Label Consumer Position Byte → Prop
  | .pickEvent _ _ =>
      state.inserter ≠ .flushed ∧
        ∀ event copied, state.inserter = .copying event copied →
          state.queue.IndexIn ≠ state.queue.advance state.queue.IndexOut
  | .flushIn => ∀ consumer, state.pickers consumer = .outside
  | _ => True

/-- The ring holds the events that wait, the last one as far as it has been
copied. -/
def RingOk (Max : Nat) (queue : TMsgEventQueue Position Byte)
    (waiting : List (Block Position Byte)) : Inserter Position Byte → Prop
  | .flushed => queue.Max = Max ∧ queue.IndexIn = 0
  | .copying event copied =>
      Indexed queue Max waiting.length ∧
        ∃ earlier, waiting = earlier ++ [event] ∧
          Holds Max queue.Buffer queue.IndexOut earlier ∧
          Copied copied event (queue.Buffer queue.IndexIn)
  | .inserting _ =>
      Indexed queue Max waiting.length ∧ waiting.length < Max ∧
        Holds Max queue.Buffer queue.IndexOut waiting
  | _ =>
      Indexed queue Max waiting.length ∧
        Holds Max queue.Buffer queue.IndexOut waiting

/-- The event being extracted is the first one that waits, and it has been
copied in. -/
def PickerOk (Max : Nat) (queue : TMsgEventQueue Position Byte)
    (waiting : List (Block Position Byte))
    (inserter : Inserter Position Byte) : Picker Position Byte → Prop
  | .outside => True
  | .extracting IdxOut event copied =>
      IdxOut = following Max queue.IndexOut ∧ inserter ≠ .flushed ∧
        ∃ head behind, waiting = head :: behind ∧
          queue.Buffer IdxOut = head ∧ Copied copied head event ∧
          ∀ last isCopied, inserter = .copying last isCopied → behind ≠ []

/-- The queue behaves like the abstract one. -/
structure Refines (Max : Nat) (state : State Consumer Position Byte)
    (fifo : Fifo (Block Position Byte)) : Prop where
  answers : state.answers = fifo.answers
  ring : RingOk Max state.queue fifo.waiting state.inserter
  alone : Alone state.pickers
  pickers : ∀ consumer,
    PickerOk Max state.queue fifo.waiting state.inserter
      (state.pickers consumer)

section Ring

variable {queue : TMsgEventQueue Position Byte}
variable {waiting behind : List (Block Position Byte)}
variable {head : Block Position Byte}
variable {inserter other : Inserter Position Byte}
variable {picker : Picker Position Byte}

/-- The indices are right but within `Flush`. -/
theorem RingOk.indexed
    (ring : RingOk Max queue waiting inserter)
    (notFlushed : inserter ≠ .flushed) :
    Indexed queue Max waiting.length := by
  cases inserter with
  | flushed => exact absurd rfl notFlushed
  | outside => exact ring.1
  | entered event => exact ring.1
  | inserting event => exact ring.1
  | copying event copied => exact ring.1
  | flushing => exact ring.1

/-- The first event that waits has been copied in. -/
theorem RingOk.isThere
    (ring : RingOk Max queue (head :: behind) inserter)
    (notFlushed : inserter ≠ .flushed)
    (settled : ∀ event copied, inserter = .copying event copied →
      behind ≠ []) :
    queue.Buffer (following Max queue.IndexOut) = head := by
  have inside := (ring.indexed notFlushed).inside
  cases inserter with
  | flushed => exact absurd rfl notFlushed
  | outside => exact ring.2.head inside
  | entered event => exact ring.2.head inside
  | inserting event => exact ring.2.2.head inside
  | flushing => exact ring.2.head inside
  | copying event copied =>
      rcases ring with ⟨_, earlier, isWaiting, holds, _⟩
      cases earlier with
      | nil =>
          exact absurd (List.cons.inj isWaiting).2
            (settled event copied rfl)
      | cons first earlier =>
          rw [(List.cons.inj isWaiting).1]
          exact holds.head inside

/-- The first event that waits is taken off. -/
theorem RingOk.moveOut
    (ring : RingOk Max queue (head :: behind) inserter)
    (notFlushed : inserter ≠ .flushed)
    (settled : ∀ event copied, inserter = .copying event copied →
      behind ≠ []) :
    RingOk Max { queue with IndexOut := following Max queue.IndexOut } behind
      inserter := by
  have indexed := ring.indexed notFlushed
  have moved := indexed.moveOut
  cases inserter with
  | flushed => exact absurd rfl notFlushed
  | outside => exact ⟨moved, ring.2.tail indexed.inside⟩
  | entered event => exact ⟨moved, ring.2.tail indexed.inside⟩
  | flushing => exact ⟨moved, ring.2.tail indexed.inside⟩
  | inserting event =>
      exact ⟨moved, Nat.lt_of_succ_lt ring.2.1,
        ring.2.2.tail indexed.inside⟩
  | copying event copied =>
      rcases ring with ⟨_, earlier, isWaiting, holds, isCopy⟩
      refine ⟨moved, ?_⟩
      cases earlier with
      | nil =>
          exact absurd (List.cons.inj isWaiting).2
            (settled event copied rfl)
      | cons first earlier =>
          exact ⟨earlier, (List.cons.inj isWaiting).2,
            holds.tail indexed.inside, isCopy⟩

/-- What the picker relies on does not change outside of the copying of an
event and of `Flush`. -/
theorem PickerOk.enter
    (ok : PickerOk Max queue waiting inserter picker)
    (notCopying : ∀ event copied, other ≠ .copying event copied)
    (notFlushed : other ≠ .flushed) :
    PickerOk Max queue waiting other picker := by
  cases picker with
  | outside => exact True.intro
  | extracting IdxOut event copied =>
      rcases ok with ⟨isIndex, _, head, behind, isWaiting, isThere, isCopy, _⟩
      refine ⟨isIndex, notFlushed, head, behind, isWaiting, isThere, isCopy,
        ?_⟩
      intro last isCopied isCopying
      exact absurd isCopying (notCopying last isCopied)

end Ring

/-- Entering the critical section. -/
theorem Refines.enter
    (refines : Refines Max state fifo) (isOutside : state.inserter = .outside)
    {inserter : Inserter Position Byte}
    (isEntry : (∃ event, inserter = .entered event) ∨ inserter = .flushing) :
    Refines Max { state with inserter := inserter } fifo := by
  have ring := refines.ring
  rw [isOutside] at ring
  rcases isEntry with ⟨event, rfl⟩ | rfl
  · exact ⟨refines.answers, ring, refines.alone,
      fun consumer => (refines.pickers consumer).enter (by simp) (by simp)⟩
  · exact ⟨refines.answers, ring, refines.alone,
      fun consumer => (refines.pickers consumer).enter (by simp) (by simp)⟩

variable [DecidableEq Consumer] [DecidableEq Position]

theorem Refines.testFull
    (refines : Refines Max state fifo) {event : Block Position Byte}
    (isEntered : state.inserter = .entered event) :
    (state.queue.full = true →
      Refines Max (next state .testFull) (fifo.call Max (.insert event))) ∧
    (state.queue.full = false → Refines Max (next state .testFull) fifo) := by
  have ring := refines.ring
  rw [isEntered] at ring
  rcases ring with ⟨indexed, holds⟩
  constructor
  · intro isFull
    have noRoom : ¬ fifo.waiting.length < Max := by
      rw [indexed.full_iff.mp isFull]
      exact Nat.lt_irrefl Max
    simp only [next, nextInserter, isEntered, isFull, if_true, Fifo.call,
      if_neg noRoom]
    exact ⟨refines.answers, ⟨indexed, holds⟩, refines.alone,
      fun consumer => (refines.pickers consumer).enter (by simp) (by simp)⟩
  · intro notFull
    have room : fifo.waiting.length < Max := by
      refine Nat.lt_of_le_of_ne indexed.atMost fun isMax => ?_
      rw [indexed.full_iff.mpr isMax] at notFull
      cases notFull
    simp only [next, nextInserter, isEntered, notFull, Bool.false_eq_true,
      if_false]
    exact ⟨refines.answers, ⟨indexed, room, holds⟩, refines.alone,
      fun consumer => (refines.pickers consumer).enter (by simp) (by simp)⟩

/-- The event is put behind the others, although it is not there yet. -/
theorem Refines.moveIn
    (refines : Refines Max state fifo) {event : Block Position Byte}
    (isInserting : state.inserter = .inserting event) :
    Refines Max (next state .moveIn) (fifo.call Max (.insert event)) := by
  have ring := refines.ring
  rw [isInserting] at ring
  rcases ring with ⟨indexed, room, holds⟩
  simp only [next, nextInserter, isInserting, Fifo.call, if_pos room]
  constructor
  case answers => exact refines.answers
  case ring =>
    have moved := indexed.moveIn room
    refine ⟨?_, fifo.waiting, rfl, holds, .nothing⟩
    rw [List.length_append]
    exact moved
  case alone => exact refines.alone
  case pickers =>
    intro consumer
    have ok := refines.pickers consumer
    show PickerOk Max _ (fifo.waiting ++ [event]) _ (state.pickers consumer)
    cases isPicker : state.pickers consumer with
    | outside => exact True.intro
    | extracting IdxOut picked copied =>
        rw [isPicker] at ok
        rcases ok with
          ⟨isIndex, _, head, behind, isWaiting, isThere, isCopy, _⟩
        refine ⟨isIndex, by simp, head, behind ++ [event], ?_, isThere,
          isCopy, ?_⟩
        · simp [isWaiting]
        · intro last isCopied _
          exact List.append_ne_nil_of_right_ne_nil behind
            (List.cons_ne_nil _ _)

/-- A position is copied into the last block. -/
theorem Refines.copyIn
    (refines : Refines Max state fifo) {event : Block Position Byte}
    {copied : Position → Bool}
    (isCopying : state.inserter = .copying event copied)
    (position : Position) :
    Refines Max (next state (.copyIn position)) fifo := by
  have ring := refines.ring
  rw [isCopying] at ring
  rcases ring with ⟨indexed, earlier, isWaiting, holds, isCopy⟩
  have lengthIs : fifo.waiting.length = earlier.length + 1 := by
    simp [isWaiting]
  have isIn := indexed.indexIn
  rw [lengthIs] at isIn
  have withinTurn : earlier.length + 1 ≤ Max + 1 := by
    rw [← lengthIs]
    exact Nat.le_succ_of_le indexed.atMost
  simp only [next, nextInserter, isCopying]
  constructor
  case answers => exact refines.answers
  case ring =>
    refine ⟨indexed.write _, earlier, isWaiting, ?_, ?_⟩
    · have written := holds.write (Nat.lt_succ_self _) withinTurn
        (Function.update (state.queue.Buffer state.queue.IndexIn) position
          (event position))
      rwa [← isIn] at written
    · simp only [Function.update_self]
      exact isCopy.position position
  case alone => exact refines.alone
  case pickers =>
    intro consumer
    have ok := refines.pickers consumer
    show PickerOk Max _ fifo.waiting _ (state.pickers consumer)
    cases isPicker : state.pickers consumer with
    | outside => exact True.intro
    | extracting IdxOut picked isCopied =>
        rw [isPicker] at ok
        rcases ok with
          ⟨isIndex, _, head, behind, isHead, isThere, isCopied', apart⟩
        have isLater : behind ≠ [] := apart event copied isCopying
        have differs : IdxOut ≠ state.queue.IndexIn := by
          rw [isIndex, following_eq_place indexed.inside, isIn]
          have something : 0 < behind.length :=
            List.length_pos_iff.mpr isLater
          rw [isHead, List.length_cons] at lengthIs
          exact place_ne (by omega) (by omega)
        refine ⟨isIndex, by simp, head, behind, isHead, ?_, isCopied',
          fun _ _ _ => isLater⟩
        rw [← isThere]
        exact Function.update_of_ne differs _ _

/-- The event is there when its inserter leaves. -/
theorem Refines.leave
    (refines : Refines Max state fifo) {event : Block Position Byte}
    {copied : Position → Bool}
    (isCopying : state.inserter = .copying event copied)
    (done : Done copied) :
    Refines Max (next state .leave) fifo := by
  have ring := refines.ring
  rw [isCopying] at ring
  rcases ring with ⟨indexed, earlier, isWaiting, holds, isCopy⟩
  simp only [next, nextInserter, isCopying]
  refine ⟨refines.answers, ⟨indexed, ?_⟩, refines.alone,
    fun consumer => (refines.pickers consumer).enter (by simp) (by simp)⟩
  rw [isWaiting]
  apply holds.append
  have isIn := indexed.indexIn
  rw [isWaiting, List.length_append] at isIn
  rw [← isCopy.done done, isIn]
  rfl

/-- `Flush` empties the queue while nobody is in `Extract`. -/
theorem Refines.flushOut
    (refines : Refines Max state fifo) (isFlushed : state.inserter = .flushed) :
    Refines Max (next state .flushOut) (fifo.call Max .flush) := by
  have ring := refines.ring
  rw [isFlushed] at ring
  rcases ring with ⟨isMax, isIn⟩
  simp only [next, nextInserter, isFlushed, Fifo.call]
  refine ⟨refines.answers, ⟨⟨isMax, Nat.zero_le _, ?_, Nat.zero_le _⟩,
    .nil _⟩, refines.alone, fun consumer => ?_⟩
  · rw [List.length_nil, place_zero (Nat.zero_le _)]
    exact isIn
  · have picker := refines.pickers consumer
    show PickerOk Max _ [] .outside (state.pickers consumer)
    cases isPicker : state.pickers consumer with
    | outside => exact True.intro
    | extracting IdxOut event copied =>
        rw [isFlushed, isPicker] at picker
        exact absurd rfl picker.2.1

/-- `Extract` finds the queue empty or chooses the first event. -/
theorem Refines.pickEvent
    (refines : Refines Max state fifo) {consumer : Consumer}
    {lpdata : Block Position Byte}
    (isOne : OneConsumer state (.pickEvent consumer lpdata))
    (calm : Calm state (.pickEvent consumer lpdata)) :
    (state.queue.empty = true →
      Refines Max (next state (.pickEvent consumer lpdata))
        (fifo.call Max .pick)) ∧
    (state.queue.empty = false →
      Refines Max (next state (.pickEvent consumer lpdata)) fifo) := by
  rcases calm with ⟨notFlushed, calm⟩
  have indexed := refines.ring.indexed notFlushed
  constructor
  · intro isEmpty
    have nothing : fifo.waiting = [] :=
      List.length_eq_zero_iff.mp (indexed.empty_iff.mp isEmpty)
    have same : fifo.call Max .pick =
        { fifo with answers := fifo.answers ++ [none] } := by
      simp [Fifo.call, nothing]
    rw [same]
    simp only [next, isEmpty, if_true]
    exact ⟨congrArg (· ++ [none]) refines.answers, refines.ring,
      refines.alone, refines.pickers⟩
  · intro notEmpty
    simp only [next, notEmpty, Bool.false_eq_true, if_false]
    refine ⟨refines.answers, refines.ring,
      .update (fun other _ => isOne other) _,
      forall_update_of_alone (fun other _ => isOne other) True.intro ?_⟩
    have ring := refines.ring
    cases isWaiting : fifo.waiting with
    | nil =>
        rw [indexed.empty_iff.mpr (by rw [isWaiting]; rfl)] at notEmpty
        cases notEmpty
    | cons head behind =>
        have settled : ∀ last isCopied,
            state.inserter = .copying last isCopied → behind ≠ [] := by
          rintro last isCopied isCopying rfl
          refine calm last isCopied isCopying ?_
          rw [indexed.indexIn, isWaiting, TMsgEventQueue.advance, indexed.max,
            following_eq_place indexed.inside]
          rfl
        rw [isWaiting] at ring
        have isIndex : state.queue.advance state.queue.IndexOut =
            following Max state.queue.IndexOut := by
          rw [TMsgEventQueue.advance, indexed.max]
        refine ⟨isIndex, notFlushed, head, behind, rfl, ?_, .nothing, settled⟩
        rw [isIndex]
        exact ring.isThere notFlushed settled

/-- A position of the first event is copied out. -/
theorem Refines.copyOut
    (refines : Refines Max state fifo) {consumer : Consumer} {IdxOut : Nat}
    {event : Block Position Byte} {copied : Position → Bool}
    (isPicking : state.pickers consumer = .extracting IdxOut event copied)
    (position : Position) :
    Refines Max (next state (.copyOut consumer position)) fifo := by
  have others : ∀ other, other ≠ consumer →
      state.pickers other = .outside := by
    intro other isOther
    exact refines.alone.outside (by simp [isPicking]) isOther
  have picker := refines.pickers consumer
  rw [isPicking] at picker
  rcases picker with
    ⟨isIndex, notFlushed, head, behind, isWaiting, isThere, isCopy, apart⟩
  simp only [next, nextPicker, isPicking]
  refine ⟨refines.answers, refines.ring, .update others _,
    forall_update_of_alone others True.intro
      ⟨isIndex, notFlushed, head, behind, isWaiting, isThere, ?_, apart⟩⟩
  rw [isThere]
  exact isCopy.position position

/-- The first event is taken off. -/
theorem Refines.moveOut
    (refines : Refines Max state fifo) {consumer : Consumer} {IdxOut : Nat}
    {event : Block Position Byte} {copied : Position → Bool}
    (isPicking : state.pickers consumer = .extracting IdxOut event copied)
    (done : Done copied) :
    Refines Max (next state (.moveOut consumer)) (fifo.call Max .pick) := by
  have others : ∀ other, other ≠ consumer →
      state.pickers other = .outside := by
    intro other isOther
    exact refines.alone.outside (by simp [isPicking]) isOther
  have ring := refines.ring
  have picker := refines.pickers consumer
  rw [isPicking] at picker
  rcases picker with
    ⟨rfl, notFlushed, head, behind, isWaiting, isThere, isCopy, apart⟩
  rw [isWaiting] at ring
  have isHead : event = head := isCopy.done done
  simp only [next, nextPicker, isPicking, Fifo.call, isWaiting, isHead,
    List.head?_cons, List.tail_cons]
  exact ⟨congrArg (· ++ [some head]) refines.answers,
    ring.moveOut notFlushed apart, .update others _,
    forall_update_of_alone others True.intro True.intro⟩

/-- What one step means for the abstract queue. -/
theorem refines_next
    (label : Label Consumer Position Byte)
    (refines : Refines Max state (.serve Max state.calls))
    (enabled : Enabled state label) (isOne : OneConsumer state label)
    (calm : Calm state label) :
    Refines Max (next state label) (.serve Max (next state label).calls) := by
  cases label with
  | doEvent event => exact refines.enter enabled (.inl ⟨event, rfl⟩)
  | eventsFlush => exact refines.enter enabled (.inr rfl)
  | testFull =>
      rcases enabled with ⟨event, isEntered⟩
      rcases refines.testFull isEntered with ⟨refused, notRefused⟩
      cases isFull : state.queue.full with
      | true =>
          have isCall : (next state .testFull).calls =
              state.calls ++ [.insert event] := by
            simp [next, nextInserter, isEntered, isFull]
          rw [isCall, Fifo.serve_append]
          exact refused isFull
      | false =>
          have isCall : (next state .testFull).calls = state.calls := by
            simp [next, nextInserter, isEntered, isFull]
          rw [isCall]
          exact notRefused isFull
  | moveIn =>
      rcases enabled with ⟨event, isInserting⟩
      have isCall : (next state .moveIn).calls =
          state.calls ++ [.insert event] := by
        simp [next, nextInserter, isInserting]
      rw [isCall, Fifo.serve_append]
      exact refines.moveIn isInserting
  | copyIn position =>
      rcases enabled with ⟨event, copied, isCopying, _⟩
      have isCall : (next state (.copyIn position)).calls = state.calls := by
        simp [next, nextInserter, isCopying]
      rw [isCall]
      exact refines.copyIn isCopying position
  | leave =>
      rcases enabled with ⟨event, copied, isCopying, done⟩
      have isCall : (next state .leave).calls = state.calls := by
        simp [next, nextInserter, isCopying]
      rw [isCall]
      exact refines.leave isCopying done
  | flushIn =>
      have isFlushing : state.inserter = .flushing := enabled
      have areOutside : ∀ consumer, state.pickers consumer = .outside := calm
      have indexed := refines.ring.indexed (by simp [isFlushing])
      simp only [next, nextInserter, isFlushing]
      refine ⟨refines.answers, ⟨indexed.max, rfl⟩, refines.alone,
        fun consumer => ?_⟩
      rw [areOutside consumer]
      exact True.intro
  | flushOut =>
      have isFlushed : state.inserter = .flushed := enabled
      have isCall : (next state .flushOut).calls =
          state.calls ++ [.flush] := by
        simp [next, nextInserter, isFlushed]
      rw [isCall, Fifo.serve_append]
      exact refines.flushOut isFlushed
  | pickEvent consumer lpdata =>
      rcases refines.pickEvent isOne calm with ⟨nothing, something⟩
      cases isEmpty : state.queue.empty with
      | true =>
          have isCall : (next state (.pickEvent consumer lpdata)).calls =
              state.calls ++ [.pick] := by
            simp [next, isEmpty]
          rw [isCall, Fifo.serve_append]
          exact nothing isEmpty
      | false =>
          have isCall : (next state (.pickEvent consumer lpdata)).calls =
              state.calls := by
            simp [next, isEmpty]
          rw [isCall]
          exact something isEmpty
  | copyOut consumer position =>
      rcases enabled with ⟨IdxOut, event, copied, isPicking, _⟩
      have isCall : (next state (.copyOut consumer position)).calls =
          state.calls := by
        simp [next, nextPicker, isPicking]
      rw [isCall]
      exact refines.copyOut isPicking position
  | moveOut consumer =>
      rcases enabled with ⟨IdxOut, event, copied, isPicking, done⟩
      have isCall : (next state (.moveOut consumer)).calls =
          state.calls ++ [.pick] := by
        simp [next, nextPicker, isPicking]
      rw [isCall, Fifo.serve_append]
      exact refines.moveOut isPicking done

/--
In every calm interleaving of insertions, flushes and extractions with one
consumer at a time, `PickEvent` has answered as a queue of at most `Max` events
does that serves the calls in the order in which they took effect.  But between
the two writes of `Flush`, `IndexIn` and `IndexOut` say how many events wait in
this queue, and the ring holds them, the last one as far as it has been copied.
-/
theorem answers_follow_calls
    (reached : ReachableBy (machine Consumer Max Buffer)
      (fun state label => OneConsumer state label ∧ Calm state label) state) :
    state.answers = (Fifo.serve Max state.calls).answers ∧
      RingOk Max state.queue (Fifo.serve Max state.calls).waiting
        state.inserter := by
  have refines : Refines Max state (.serve Max state.calls) := by
    apply Run.invariant reached
    case start =>
      refine ⟨rfl, ⟨⟨rfl, Nat.zero_le _, ?_, Nat.zero_le _⟩, .nil _⟩,
        ?_, fun _ => True.intro⟩
      · exact (place_zero (Nat.zero_le Max)).symm
      · intro first second isInside
        exact absurd rfl isInside
    case preserved =>
      rintro state label refines enabled ⟨isOne, calm⟩
      exact refines_next label refines enabled isOne calm
  exact ⟨refines.answers, refines.ring⟩

end Answers

/-! ## Two events -/

section Example

/-- A queue for two events of two positions, and two consumers. -/
def exampleMachine : Machine (State Bool Bool Nat) (Label Bool Bool Nat) :=
  machine Bool 2 fun _ _ => 0

/-- The second event is inserted while the first one is being extracted. -/
def exampleLabels : List (Label Bool Bool Nat) :=
  [.doEvent fun _ => 7, .testFull, .moveIn, .copyIn false, .copyIn true,
    .leave, .pickEvent true fun _ => 0, .copyOut true true,
    .doEvent fun _ => 8, .testFull, .moveIn, .copyOut true false,
    .copyIn true, .moveOut true]

theorem exampleLabels_follows :
    Follows exampleMachine
      (fun state label => OneConsumer state label ∧ Calm state label)
      exampleMachine.initial exampleLabels := by
  simp [exampleLabels, exampleMachine, Follows, machine, initial, Enabled,
    OneConsumer, Calm, next, nextInserter, nextPicker, TMsgEventQueue.create,
    TMsgEventQueue.full, TMsgEventQueue.empty, TMsgEventQueue.advance,
    following, Done, Function.update]

theorem exampleLabels_answers :
    let state := follow exampleMachine exampleMachine.initial exampleLabels
    state.answers = (Fifo.serve 2 state.calls).answers ∧
      RingOk 2 state.queue (Fifo.serve 2 state.calls).waiting
        state.inserter :=
  answers_follow_calls (run_follow exampleLabels_follows)

/-- Two consumers in `Extract` at once get the one event both. -/
example :
    (follow exampleMachine exampleMachine.initial
      [.doEvent fun _ => 7, .testFull, .moveIn, .copyIn false, .copyIn true,
        .leave, .pickEvent true fun _ => 0, .pickEvent false fun _ => 0,
        .copyOut true true, .copyOut true false, .copyOut false true,
        .copyOut false false, .moveOut true, .moveOut false]).answers =
      [some fun _ => 7, some fun _ => 7] := by
  simp [exampleMachine, follow, machine, initial, next, nextInserter,
    nextPicker, TMsgEventQueue.create, TMsgEventQueue.full,
    TMsgEventQueue.empty, TMsgEventQueue.advance, following]
  funext position
  cases position
  · rfl
  · rfl

end Example

end ServerUtils.Snap7.EventQueue
