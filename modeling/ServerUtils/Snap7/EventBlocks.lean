import ServerUtils.Snap7.EventOrder

/-!
# What an early extraction picks

`Insert` moves `IndexIn` first and copies the event behind, so an `Extract`
that meets it reads a block which is still being copied.  Without flushes, one
consumer gets the events in the order in which they were accepted in any
interleaving, but each position of the event with number `n` is that of the
event or that of the block which was in its place: the event accepted
`FCapacity` events earlier, or what the buffer held when it was allocated.
-/

namespace ServerUtils.Snap7.EventQueue

open ServerUtils.Foundation.Ring
open ServerUtils.Foundation.Transition

variable {Consumer Position Byte : Type*}
variable {Max : Nat} {Buffer : Nat → Block Position Byte}

/-- Nobody calls `EventsFlush`. -/
def NoFlush (_ : State Consumer Position Byte) :
    Label Consumer Position Byte → Prop
  | .eventsFlush => False
  | _ => True

/-- The blocks of the new buffer in the order in which they are replaced. -/
def oldBlocks (Max : Nat) (Buffer : Nat → Block Position Byte) :
    List (Block Position Byte) :=
  (List.range (Max + 1)).map fun index => Buffer (place Max 0 (index + 1))

/-- Everything that has been in the ring, the oldest first. -/
def timeline (Max : Nat) (Buffer : Nat → Block Position Byte)
    (accepted : List (Block Position Byte)) : List (Block Position Byte) :=
  oldBlocks Max Buffer ++ accepted

/-- The copied positions of a block are those of the event with a number, or
of the block that was in its place. -/
def MixedAt (Max : Nat) (Buffer : Nat → Block Position Byte)
    (accepted : List (Block Position Byte)) (number : Nat)
    (copied : Position → Bool) (block : Block Position Byte) : Prop :=
  ∃ old event,
    (timeline Max Buffer accepted)[number]? = some old ∧
      accepted[number]? = some event ∧
        ∀ position, copied position = true →
          block position = old position ∨ block position = event position

section Timeline

variable {accepted : List (Block Position Byte)}

@[simp]
theorem length_oldBlocks :
    (oldBlocks Max Buffer).length = Max + 1 := by
  simp [oldBlocks]

@[simp]
theorem length_timeline :
    (timeline Max Buffer accepted).length = Max + 1 + accepted.length := by
  simp [timeline]

/-- An event takes the place of the one `FCapacity` events earlier. -/
theorem timeline_turn (number : Nat) :
    (timeline Max Buffer accepted)[number + (Max + 1)]? =
      accepted[number]? := by
  rw [timeline, List.getElem?_append_right (by simp)]
  simp

theorem timeline_append (more : List (Block Position Byte)) :
    timeline Max Buffer (accepted ++ more) =
      timeline Max Buffer accepted ++ more := by
  rw [timeline, timeline, List.append_assoc]

/-- What has been picked does not change. -/
theorem MixedAt.append
    {number : Nat} {copied : Position → Bool} {block : Block Position Byte}
    (mixed : MixedAt Max Buffer accepted number copied block)
    (more : List (Block Position Byte)) :
    MixedAt Max Buffer (accepted ++ more) number copied block := by
  rcases mixed with ⟨old, event, isOld, isEvent, isMixed⟩
  refine ⟨old, event, ?_, ?_, isMixed⟩
  · rw [timeline_append, List.getElem?_append_left
      (List.getElem?_eq_some_iff.mp isOld).1]
    exact isOld
  · rw [List.getElem?_append_left (List.getElem?_eq_some_iff.mp isEvent).1]
    exact isEvent

end Timeline

/-! ## The newest blocks -/

/-- The ring holds the newest `FCapacity` blocks, the last one as far as it has
been copied. -/
def NewestOk (Max : Nat) (Buffer : Nat → Block Position Byte)
    (queue : TMsgEventQueue Position Byte)
    (accepted : List (Block Position Byte)) :
    Inserter Position Byte → Prop
  | .copying event copied =>
      ∃ earlier old, accepted = earlier ++ [event] ∧
        (timeline Max Buffer earlier)[earlier.length]? = some old ∧
          Holds Max queue.Buffer queue.IndexIn
            ((timeline Max Buffer earlier).drop (earlier.length + 1)) ∧
            ∀ position, queue.Buffer queue.IndexIn position =
              if copied position then event position else old position
  | .flushing | .flushed => False
  | _ =>
      Holds Max queue.Buffer queue.IndexIn
        ((timeline Max Buffer accepted).drop accepted.length)

/-- What the picker has copied so far. -/
def PartOk (Max : Nat) (Buffer : Nat → Block Position Byte)
    (accepted : List (Block Position Byte)) (number : Nat) :
    Picker Position Byte → Prop
  | .outside => True
  | .extracting IdxOut event copied =>
      IdxOut = place Max 0 (number + 1) ∧ number < accepted.length ∧
        MixedAt Max Buffer accepted number copied event

/-- The events that have been picked. -/
def State.picked (state : State Consumer Position Byte) :
    List (Block Position Byte) :=
  state.answers.filterMap id

/-- The order of the events in any interleaving with one consumer. -/
structure Ordered (Max : Nat) (Buffer : Nat → Block Position Byte)
    (state : State Consumer Position Byte)
    (picked : List (Block Position Byte)) : Prop where
  indexed : Indexed state.queue Max
    (state.accepted.length - picked.length)
  notAhead : picked.length ≤ state.accepted.length
  indexOut : state.queue.IndexOut = place Max 0 picked.length
  room : ∀ event, state.inserter = .inserting event →
    state.accepted.length - picked.length < Max
  newest : NewestOk Max Buffer state.queue state.accepted state.inserter
  alone : Alone state.pickers
  parts : ∀ consumer,
    PartOk Max Buffer state.accepted picked.length (state.pickers consumer)
  picks : ∀ (number : Nat) (event : Block Position Byte),
    picked[number]? = some event →
      MixedAt Max Buffer state.accepted number (fun _ => true) event

section Cells

variable {queue : TMsgEventQueue Position Byte}
variable {accepted : List (Block Position Byte)}
variable {inserter : Inserter Position Byte}

/-- A block that has been copied in is behind `IndexIn` by a whole turn. -/
theorem cell_of_holds
    {start number : Nat} {event : Block Position Byte}
    (isIn : queue.IndexIn = place Max 0 start)
    (holds : Holds Max queue.Buffer queue.IndexIn
      ((timeline Max Buffer accepted).drop start))
    (isNew : start ≤ number + (Max + 1))
    (isEvent : accepted[number]? = some event) :
    queue.Buffer (place Max 0 (number + 1)) = event := by
  have isThere := holds (number + (Max + 1) - start) event
  rw [List.getElem?_drop, Nat.add_sub_cancel' isNew, timeline_turn, isIn,
    place_place] at isThere
  have turned : start + (number + (Max + 1) - start + 1) =
      number + 1 + (Max + 1) := by
    omega
  rw [turned, place_turn] at isThere
  exact isThere isEvent

/-- The block of an event that waits is the event or is being copied. -/
theorem NewestOk.cell
    (newest : NewestOk Max Buffer queue accepted inserter)
    (isIn : queue.IndexIn = place Max 0 accepted.length)
    {number : Nat} (waits : number < accepted.length)
    (isNew : accepted.length ≤ number + Max) :
    MixedAt Max Buffer accepted number (fun _ => true)
      (queue.Buffer (place Max 0 (number + 1))) := by
  have isEvent : accepted[number]? = some accepted[number] :=
    List.getElem?_eq_getElem waits
  have inTimeline : number < (timeline Max Buffer accepted).length := by
    rw [length_timeline]
    omega
  have isOld : (timeline Max Buffer accepted)[number]? =
      some (timeline Max Buffer accepted)[number] :=
    List.getElem?_eq_getElem inTimeline
  have whole
      (isThere : queue.Buffer (place Max 0 (number + 1)) =
        accepted[number]) :
      MixedAt Max Buffer accepted number (fun _ => true)
        (queue.Buffer (place Max 0 (number + 1))) :=
    ⟨_, _, isOld, isEvent, fun position _ => .inr (congrFun isThere position)⟩
  cases inserter with
  | flushing => exact newest.elim
  | flushed => exact newest.elim
  | outside => exact whole (cell_of_holds isIn newest (by omega) isEvent)
  | entered event => exact whole (cell_of_holds isIn newest (by omega) isEvent)
  | inserting event =>
      exact whole (cell_of_holds isIn newest (by omega) isEvent)
  | copying event copied =>
      rcases newest with ⟨earlier, old, rfl, isOldBlock, holds, isLast⟩
      simp only [List.length_append, List.length_singleton] at isIn waits isNew
      rcases Nat.lt_or_eq_of_le (Nat.le_of_lt_succ waits) with
        isEarlier | rfl
      · refine whole (cell_of_holds isIn holds (by omega) ?_)
        rw [List.getElem?_append_left isEarlier] at isEvent
        exact isEvent
      · refine ⟨old, event, ?_, by simp, ?_⟩
        · rw [timeline_append, List.getElem?_append_left
            (List.getElem?_eq_some_iff.mp isOldBlock).1]
          exact isOldBlock
        · intro position _
          rw [← isIn, isLast position]
          split
          · exact .inr rfl
          · exact .inl rfl

end Cells

/-! ## The steps -/

section Steps

variable {state : State Consumer Position Byte}
variable {picked : List (Block Position Byte)}

/-- A new buffer is its own past. -/
theorem ordered_initial :
    Ordered Max Buffer (initial Max Buffer : State Consumer Position Byte) [] where
  indexed := ⟨rfl, Nat.zero_le _, (place_zero (Nat.zero_le Max)).symm,
    Nat.zero_le _⟩
  notAhead := Nat.le_refl _
  indexOut := (place_zero (Nat.zero_le Max)).symm
  room := by simp [initial]
  newest := by
    intro index block isBlock
    have isOld : (oldBlocks Max Buffer)[index]? = some block := by
      simpa [timeline, initial] using isBlock
    rcases List.getElem?_eq_some_iff.mp isOld with ⟨inside, isThere⟩
    rw [← isThere]
    simp [oldBlocks, initial, TMsgEventQueue.create]
  alone := by
    intro first second isInside
    exact absurd rfl isInside
  parts := fun _ => True.intro
  picks := by simp

/-- `IndexIn` counts the accepted events. -/
theorem Ordered.indexIn (ordered : Ordered Max Buffer state picked) :
    state.queue.IndexIn = place Max 0 state.accepted.length := by
  rw [ordered.indexed.indexIn, ordered.indexOut, place_place,
    Nat.add_sub_cancel' ordered.notAhead]

/-- No more than `Max` events wait. -/
theorem Ordered.notBehind (ordered : Ordered Max Buffer state picked) :
    state.accepted.length ≤ picked.length + Max := by
  have atMost := ordered.indexed.atMost
  omega

/-- Outside of `Insert`'s copying, the newest blocks are whole. -/
theorem Ordered.enter
    (ordered : Ordered Max Buffer state picked)
    (inserter : Inserter Position Byte)
    (newest : NewestOk Max Buffer state.queue state.accepted inserter)
    (room : ∀ event, inserter = .inserting event →
      state.accepted.length - picked.length < Max)
    (calls : List (Call (Block Position Byte))) :
    Ordered Max Buffer
      { state with inserter := inserter, calls := calls } picked where
  indexed := ordered.indexed
  notAhead := ordered.notAhead
  indexOut := ordered.indexOut
  room := room
  newest := newest
  alone := ordered.alone
  parts := ordered.parts
  picks := ordered.picks

variable [DecidableEq Consumer] [DecidableEq Position]

theorem Ordered.testFull
    (ordered : Ordered Max Buffer state picked) {event : Block Position Byte}
    (isEntered : state.inserter = .entered event) :
    Ordered Max Buffer (next state .testFull) picked := by
  have newest := ordered.newest
  rw [isEntered] at newest
  cases isFull : state.queue.full with
  | true =>
      simp only [next, nextInserter, isEntered, isFull, if_true]
      exact ordered.enter .outside newest (by simp) _
  | false =>
      simp only [next, nextInserter, isEntered, isFull, Bool.false_eq_true,
        if_false]
      refine ordered.enter (.inserting event) newest (fun _ _ => ?_) _
      refine Nat.lt_of_le_of_ne ordered.indexed.atMost fun isMax => ?_
      rw [ordered.indexed.full_iff.mpr isMax] at isFull
      cases isFull

/-- The oldest block is the place of the new event. -/
theorem Ordered.moveIn
    (ordered : Ordered Max Buffer state picked) {event : Block Position Byte}
    (isInserting : state.inserter = .inserting event) :
    Ordered Max Buffer (next state .moveIn) picked := by
  have newest := ordered.newest
  rw [isInserting] at newest
  have inside : state.queue.IndexIn ≤ Max := by
    rw [ordered.indexIn]
    exact place_le _ _ _
  have notAhead := ordered.notAhead
  have counted : (state.accepted ++ [event]).length - picked.length =
      state.accepted.length - picked.length + 1 := by
    rw [List.length_append, List.length_singleton]
    omega
  simp only [next, nextInserter, isInserting]
  constructor
  case indexed =>
    have moved := ordered.indexed.moveIn (ordered.room event isInserting)
    rw [← counted] at moved
    exact moved
  case notAhead =>
    rw [List.length_append]
    exact Nat.le_add_right_of_le notAhead
  case indexOut => exact ordered.indexOut
  case room => simp
  case newest =>
    have inTimeline : state.accepted.length <
        (timeline Max Buffer state.accepted).length := by
      rw [length_timeline]
      omega
    have isDrop := List.drop_eq_getElem_cons inTimeline
    have holds : Holds Max state.queue.Buffer state.queue.IndexIn
        ((timeline Max Buffer state.accepted).drop state.accepted.length) :=
      newest
    rw [isDrop] at holds
    have isFollowing : state.queue.advance state.queue.IndexIn =
        following Max state.queue.IndexIn := by
      rw [TMsgEventQueue.advance, ordered.indexed.max]
    refine ⟨state.accepted, _, rfl, List.getElem?_eq_getElem inTimeline,
      ?_, ?_⟩
    · rw [isFollowing]
      exact holds.tail inside
    · intro position
      simp only [Bool.false_eq_true, if_false]
      rw [isFollowing]
      exact congrFun (holds.head inside) position
  case alone => exact ordered.alone
  case parts =>
    intro consumer
    have part := ordered.parts consumer
    show PartOk Max Buffer _ _ (state.pickers consumer)
    cases isPicker : state.pickers consumer with
    | outside => exact True.intro
    | extracting IdxOut picked copied =>
        rw [isPicker] at part
        rcases part with ⟨isIndex, waits, mixed⟩
        refine ⟨isIndex, ?_, mixed.append _⟩
        rw [List.length_append]
        exact Nat.lt_add_right _ waits
  case picks =>
    intro number picked isPicked
    exact (ordered.picks number picked isPicked).append _

/-- A position of the new event replaces the old one. -/
theorem Ordered.copyIn
    (ordered : Ordered Max Buffer state picked) {event : Block Position Byte}
    {copied : Position → Bool}
    (isCopying : state.inserter = .copying event copied)
    (position : Position) :
    Ordered Max Buffer (next state (.copyIn position)) picked := by
  have newest := ordered.newest
  rw [isCopying] at newest
  rcases newest with ⟨earlier, old, isAccepted, isOld, holds, isLast⟩
  simp only [next, nextInserter, isCopying]
  constructor
  case indexed => exact ordered.indexed.write _
  case notAhead => exact ordered.notAhead
  case indexOut => exact ordered.indexOut
  case room => simp
  case alone => exact ordered.alone
  case parts => exact ordered.parts
  case picks => exact ordered.picks
  case newest =>
    refine ⟨earlier, old, isAccepted, isOld, ?_, ?_⟩
    · have behindAll : ((timeline Max Buffer earlier).drop
          (earlier.length + 1)).length < Max + 1 := by
        rw [List.length_drop, length_timeline]
        omega
      have inside : state.queue.IndexIn ≤ Max := by
        rw [ordered.indexIn]
        exact place_le _ _ _
      have turned := place_turn Max state.queue.IndexIn 0
      rw [Nat.zero_add, place_zero inside] at turned
      have written := holds.write behindAll (Nat.le_refl _)
        (Function.update (state.queue.Buffer state.queue.IndexIn) position
          (event position))
      rwa [turned] at written
    · intro other
      by_cases same : other = position
      · subst same
        simp
      · simp only [Function.update_self, Function.update_of_ne same]
        exact isLast other

/-- The new event is whole. -/
theorem Ordered.leave
    (ordered : Ordered Max Buffer state picked) {event : Block Position Byte}
    {copied : Position → Bool}
    (isCopying : state.inserter = .copying event copied)
    (done : Done copied) :
    Ordered Max Buffer (next state .leave) picked := by
  have newest := ordered.newest
  rw [isCopying] at newest
  rcases newest with ⟨earlier, old, isAccepted, isOld, holds, isLast⟩
  simp only [next, nextInserter, isCopying]
  refine ordered.enter .outside ?_ (by simp) _
  have isEvent : state.queue.Buffer state.queue.IndexIn = event := by
    funext position
    rw [isLast position, if_pos (done position)]
  have inside : state.queue.IndexIn ≤ Max := by
    rw [ordered.indexIn]
    exact place_le _ _ _
  have isLength : ((timeline Max Buffer earlier).drop
      (earlier.length + 1)).length = Max := by
    rw [List.length_drop, length_timeline]
    omega
  have turned := place_turn Max state.queue.IndexIn 0
  rw [Nat.zero_add, place_zero inside] at turned
  have isThere : state.queue.Buffer (place Max state.queue.IndexIn
      (((timeline Max Buffer earlier).drop (earlier.length + 1)).length + 1)) =
        event := by
    rw [isLength, turned]
    exact isEvent
  have whole := holds.append isThere
  have isShort : earlier.length + 1 ≤ (timeline Max Buffer earlier).length := by
    rw [length_timeline]
    omega
  have isDrop : (timeline Max Buffer state.accepted).drop
      state.accepted.length =
        (timeline Max Buffer earlier).drop (earlier.length + 1) ++
          [event] := by
    rw [isAccepted, timeline_append, List.length_append, List.length_singleton,
      List.drop_append_of_le_length isShort]
  rw [← isDrop] at whole
  exact whole

/-- `Extract` finds nothing, or chooses the next event. -/
theorem Ordered.pickEvent
    (ordered : Ordered Max Buffer state picked)
    {consumer : Consumer} {lpdata : Block Position Byte}
    (isOne : OneConsumer state (.pickEvent consumer lpdata)) :
    Ordered Max Buffer (next state (.pickEvent consumer lpdata)) picked := by
  have notAhead := ordered.notAhead
  cases isEmpty : state.queue.empty with
  | true =>
      simp only [next, isEmpty, if_true]
      exact ⟨ordered.indexed, notAhead, ordered.indexOut, ordered.room,
        ordered.newest, ordered.alone, ordered.parts, ordered.picks⟩
  | false =>
      have waits : picked.length < state.accepted.length := by
        refine Nat.lt_of_le_of_ne notAhead fun isSame => ?_
        rw [ordered.indexed.empty_iff.mpr (by omega)] at isEmpty
        cases isEmpty
      have inTimeline : picked.length <
          (timeline Max Buffer state.accepted).length := by
        rw [length_timeline]
        omega
      simp only [next, isEmpty, Bool.false_eq_true, if_false]
      refine ⟨ordered.indexed, notAhead, ordered.indexOut, ordered.room,
        ordered.newest, .update (fun other _ => isOne other) _,
        forall_update_of_alone (fun other _ => isOne other) True.intro ?_,
        ordered.picks⟩
      refine ⟨?_, waits, _, _, List.getElem?_eq_getElem inTimeline,
        List.getElem?_eq_getElem waits, ?_⟩
      · rw [TMsgEventQueue.advance, ordered.indexed.max, ordered.indexOut,
          following_place]
      · intro position isCopied
        cases isCopied

/-- A position of the next event is read as it is now. -/
theorem Ordered.copyOut
    (ordered : Ordered Max Buffer state picked) {consumer : Consumer}
    {IdxOut : Nat} {event : Block Position Byte} {copied : Position → Bool}
    (isPicking : state.pickers consumer = .extracting IdxOut event copied)
    (position : Position) :
    Ordered Max Buffer (next state (.copyOut consumer position)) picked := by
  have others : ∀ other, other ≠ consumer →
      state.pickers other = .outside := by
    intro other isOther
    exact ordered.alone.outside (by simp [isPicking]) isOther
  have part := ordered.parts consumer
  rw [isPicking] at part
  rcases part with ⟨isIndex, waits, old, new, isOld, isNew, isMixed⟩
  rcases ordered.newest.cell ordered.indexIn waits ordered.notBehind with
    ⟨old', new', isOld', isNew', isNow⟩
  cases isOld.symm.trans isOld'
  cases isNew.symm.trans isNew'
  simp only [next, nextPicker, isPicking]
  refine ⟨ordered.indexed, ordered.notAhead, ordered.indexOut, ordered.room,
    ordered.newest, .update others _,
    forall_update_of_alone others True.intro
      ⟨isIndex, waits, old, new, isOld, isNew, ?_⟩,
    ordered.picks⟩
  intro other isCopied
  by_cases same : other = position
  · subst same
    rw [Function.update_self, isIndex]
    exact isNow other rfl
  · rw [Function.update_of_ne same] at isCopied ⊢
    exact isMixed other isCopied

/-- The next event is picked. -/
theorem Ordered.moveOut
    (ordered : Ordered Max Buffer state picked) {consumer : Consumer}
    {IdxOut : Nat} {event : Block Position Byte} {copied : Position → Bool}
    (isPicking : state.pickers consumer = .extracting IdxOut event copied)
    (done : Done copied) :
    Ordered Max Buffer (next state (.moveOut consumer))
      (picked ++ [event]) := by
  have others : ∀ other, other ≠ consumer →
      state.pickers other = .outside := by
    intro other isOther
    exact ordered.alone.outside (by simp [isPicking]) isOther
  have part := ordered.parts consumer
  rw [isPicking] at part
  rcases part with ⟨rfl, waits, old, new, isOld, isNew, isMixed⟩
  have counted : state.accepted.length - picked.length =
      state.accepted.length - (picked ++ [event]).length + 1 := by
    rw [List.length_append, List.length_singleton]
    omega
  have isNext : following Max state.queue.IndexOut =
      place Max 0 (picked.length + 1) := by
    rw [ordered.indexOut, following_place]
  have indexed := ordered.indexed
  rw [counted] at indexed
  have moved := indexed.moveOut
  rw [isNext] at moved
  simp only [next, nextPicker, isPicking]
  constructor
  case indexed => exact moved
  case notAhead =>
    rw [List.length_append]
    exact waits
  case indexOut => rw [List.length_append, List.length_singleton]
  case room =>
    intro inserting isInserting
    have room := ordered.room inserting isInserting
    show state.accepted.length - (picked ++ [event]).length < Max
    omega
  case newest => exact ordered.newest
  case alone => exact .update others _
  case parts => exact forall_update_of_alone others True.intro True.intro
  case picks =>
    intro number other isThere
    rcases Nat.lt_or_ge number picked.length with isEarlier | isBehind
    · rw [List.getElem?_append_left isEarlier] at isThere
      exact ordered.picks number other isThere
    · rw [List.getElem?_append_right isBehind] at isThere
      rcases List.getElem?_eq_some_iff.mp isThere with ⟨isFirst, isEvent⟩
      have isLast : number = picked.length := by
        simp only [List.length_singleton] at isFirst
        omega
      subst isLast
      have isEvent : other = event := by simpa using isEvent.symm
      subst isEvent
      exact ⟨old, new, isOld, isNew,
        fun position _ => isMixed position (done position)⟩

theorem ordered_next
    (label : Label Consumer Position Byte)
    (ordered : Ordered Max Buffer state state.picked)
    (enabled : Enabled state label) (isOne : OneConsumer state label)
    (noFlush : NoFlush state label) :
    Ordered Max Buffer (next state label) (next state label).picked := by
  have newest := ordered.newest
  cases label with
  | doEvent event =>
      have isOutside : state.inserter = .outside := enabled
      rw [isOutside] at newest
      exact ordered.enter (.entered event) newest (by simp) _
  | eventsFlush => exact noFlush.elim
  | testFull =>
      rcases enabled with ⟨event, isEntered⟩
      have same : (next state .testFull).picked = state.picked := by
        simp only [State.picked, next, nextInserter, isEntered]
        split
        · rfl
        · rfl
      rw [same]
      exact ordered.testFull isEntered
  | moveIn =>
      rcases enabled with ⟨event, isInserting⟩
      have same : (next state .moveIn).picked = state.picked := by
        simp [State.picked, next, nextInserter, isInserting]
      rw [same]
      exact ordered.moveIn isInserting
  | copyIn position =>
      rcases enabled with ⟨event, copied, isCopying, _⟩
      have same : (next state (.copyIn position)).picked = state.picked := by
        simp [State.picked, next, nextInserter, isCopying]
      rw [same]
      exact ordered.copyIn isCopying position
  | leave =>
      rcases enabled with ⟨event, copied, isCopying, done⟩
      have same : (next state .leave).picked = state.picked := by
        simp [State.picked, next, nextInserter, isCopying]
      rw [same]
      exact ordered.leave isCopying done
  | flushIn =>
      have isFlushing : state.inserter = .flushing := enabled
      rw [isFlushing] at newest
      exact newest.elim
  | flushOut =>
      have isFlushed : state.inserter = .flushed := enabled
      rw [isFlushed] at newest
      exact newest.elim
  | pickEvent consumer lpdata =>
      have same : (next state (.pickEvent consumer lpdata)).picked =
          state.picked := by
        simp only [State.picked, next]
        split
        · simp
        · rfl
      rw [same]
      exact ordered.pickEvent isOne
  | copyOut consumer position =>
      rcases enabled with ⟨IdxOut, event, copied, isPicking, _⟩
      have same : (next state (.copyOut consumer position)).picked =
          state.picked := by
        simp [State.picked, next, nextPicker, isPicking]
      rw [same]
      exact ordered.copyOut isPicking position
  | moveOut consumer =>
      rcases enabled with ⟨IdxOut, event, copied, isPicking, done⟩
      have more : (next state (.moveOut consumer)).picked =
          state.picked ++ [event] := by
        simp [State.picked, next, nextPicker, isPicking]
      rw [more]
      exact ordered.moveOut isPicking done

/--
In any interleaving of insertions and extractions with one consumer at a time,
no more events are picked than were accepted, no more than `Max` of the
accepted events wait, and each position of the event that was picked with a
number is that of the event accepted with this number or of the block that was
in its place.
-/
theorem picks_keep_order
    (reached : ReachableBy (machine Consumer Max Buffer)
      (fun state label => OneConsumer state label ∧ NoFlush state label)
      state) :
    state.picked.length ≤ state.accepted.length ∧
      state.accepted.length ≤ state.picked.length + Max ∧
        ∀ (number : Nat) (event : Block Position Byte),
          state.picked[number]? = some event →
            MixedAt Max Buffer state.accepted number (fun _ => true) event := by
  have ordered : Ordered Max Buffer state state.picked := by
    apply Run.invariant reached ordered_initial
    rintro state label ordered enabled ⟨isOne, noFlush⟩
    exact ordered_next label ordered enabled isOne noFlush
  exact ⟨ordered.notAhead, ordered.notBehind, ordered.picks⟩

end Steps

/-! ## An early extraction -/

section Example

/-- The event is picked when one of its two positions has been copied. -/
def earlyLabels : List (Label Bool Bool Nat) :=
  [.doEvent fun _ => 7, .testFull, .moveIn, .copyIn false,
    .pickEvent true fun _ => 1, .copyOut true true, .copyOut true false,
    .moveOut true]

theorem earlyLabels_follows :
    Follows exampleMachine
      (fun state label => OneConsumer state label ∧ NoFlush state label)
      exampleMachine.initial earlyLabels := by
  simp [earlyLabels, exampleMachine, Follows, machine, initial, Enabled,
    OneConsumer, NoFlush, next, nextInserter, nextPicker, TMsgEventQueue.create,
    TMsgEventQueue.full, TMsgEventQueue.empty, TMsgEventQueue.advance,
    following, Done, Function.update]

theorem earlyLabels_picks :
    let state := follow exampleMachine exampleMachine.initial earlyLabels
    state.picked.length ≤ state.accepted.length ∧
      state.accepted.length ≤ state.picked.length + 2 ∧
        ∀ (number : Nat) (event : Block Bool Nat),
          state.picked[number]? = some event →
            MixedAt 2 (fun _ _ => 0) state.accepted number (fun _ => true)
              event :=
  picks_keep_order (run_follow earlyLabels_follows)

/-- The event that was picked is neither the old block nor the new event. -/
example :
    (follow exampleMachine exampleMachine.initial earlyLabels).picked =
      [fun position => if position then 0 else 7] := by
  simp [earlyLabels, exampleMachine, follow, machine, initial, next,
    nextInserter, nextPicker, State.picked, TMsgEventQueue.create,
    TMsgEventQueue.full, TMsgEventQueue.empty, TMsgEventQueue.advance,
    following]
  funext position
  cases position
  · rfl
  · rfl

end Example

end ServerUtils.Snap7.EventQueue
