import ServerUtils.Foundation.Ring
import ServerUtils.Foundation.Simulation

/-!
# The event queue of a snap7 server

`DoEvent` inserts events into a ring of `FCapacity` blocks, and `PickEvent`
extracts them.  Everyone who inserts or flushes holds `CSEvent`, so there is
one of them at a time; `PickEvent` takes no lock, so any number of threads may
be in it.  A step writes one shared index, or copies one position of a block,
or is the test with which `Insert` or `Extract` begins.  `Insert` moves
`IndexIn` before it copies the event, and `Flush` sets both indices, while an
`Extract` may be under way.
-/

namespace ServerUtils.Snap7.EventQueue

open ServerUtils.Foundation.Ring
open ServerUtils.Foundation.Transition

/-- The contents of an event or of a block of the ring. -/
abbrev Block (Position Byte : Type*) := Position → Byte

/-- `TMsgEventQueue`, with `FCapacity` one more than `Max`. -/
structure TMsgEventQueue (Position Byte : Type*) where
  Max : Nat
  Buffer : Nat → Block Position Byte
  IndexIn : Nat
  IndexOut : Nat

variable {Position Byte : Type*}

namespace TMsgEventQueue

variable (queue : TMsgEventQueue Position Byte)

/-- The constructor.  `Buffer` is not initialised. -/
def create (Max : Nat) (Buffer : Nat → Block Position Byte) :
    TMsgEventQueue Position Byte where
  Max := Max
  Buffer := Buffer
  IndexIn := 0
  IndexOut := 0

def empty : Bool := queue.IndexIn == queue.IndexOut

def full : Bool :=
  queue.IndexOut == queue.IndexIn + 1 ||
    (queue.IndexIn == queue.Max && queue.IndexOut == 0)

/-- `if (Index < Max) Index++; else Index = 0;`. -/
def advance (Index : Nat) : Nat := following queue.Max Index

end TMsgEventQueue

/-! ## What the calls mean -/

/-- The calls that were made, for the history. -/
inductive Call (Event : Type*) where
  | insert (event : Event)
  | pick
  | flush

/-- A queue of at most `Max` events, and the answers it has given. -/
structure Fifo (Event : Type*) where
  waiting : List Event
  answers : List (Option Event)

namespace Fifo

variable {Event : Type*}

def call (Max : Nat) (fifo : Fifo Event) : Call Event → Fifo Event
  | .insert event =>
      if fifo.waiting.length < Max then
        { fifo with waiting := fifo.waiting ++ [event] }
      else fifo
  | .pick =>
      { waiting := fifo.waiting.tail
        answers := fifo.answers ++ [fifo.waiting.head?] }
  | .flush => { fifo with waiting := [] }

/-- The queue after calls that come one after the other. -/
def serve (Max : Nat) (calls : List (Call Event)) : Fifo Event :=
  calls.foldl (call Max) ⟨[], []⟩

theorem serve_append (Max : Nat) (calls : List (Call Event))
    (last : Call Event) :
    serve Max (calls ++ [last]) = (serve Max calls).call Max last := by
  rw [serve, List.foldl_append]
  rfl

end Fifo

/-! ## The threads -/

/-- The thread in `CSEvent`. -/
inductive Inserter (Position Byte : Type*) where
  | outside
  /-- In `Insert`, before `Full`. -/
  | entered (event : Block Position Byte)
  /-- The queue was not full. -/
  | inserting (event : Block Position Byte)
  /-- `IndexIn` has moved, and `memcpy` has copied some positions. -/
  | copying (event : Block Position Byte) (copied : Position → Bool)
  /-- In `Flush`. -/
  | flushing
  /-- `IndexIn` is 0, `IndexOut` not yet. -/
  | flushed

/-- A thread that calls `PickEvent`. -/
inductive Picker (Position Byte : Type*) where
  | outside
  /-- In `Extract`, with what `memcpy` has copied so far. -/
  | extracting (IdxOut : Nat) (event : Block Position Byte)
      (copied : Position → Bool)

structure State (Consumer Position Byte : Type*) where
  queue : TMsgEventQueue Position Byte
  inserter : Inserter Position Byte
  pickers : Consumer → Picker Position Byte
  /-- The events for which `IndexIn` has moved. -/
  accepted : List (Block Position Byte)
  /-- What the calls of `PickEvent` have returned. -/
  answers : List (Option (Block Position Byte))
  /-- The calls in the order in which they took effect: an insertion at
  `IndexIn` or where it finds the queue full, an extraction at `IndexOut` or
  where it finds the queue empty. -/
  calls : List (Call (Block Position Byte))

inductive Label (Consumer Position Byte : Type*) where
  | doEvent (event : Block Position Byte)
  | testFull
  | moveIn
  | copyIn (position : Position)
  | leave
  | eventsFlush
  | flushIn
  | flushOut
  /-- `Extract` up to the choice of the block, into the caller's `lpdata`. -/
  | pickEvent (consumer : Consumer) (lpdata : Block Position Byte)
  | copyOut (consumer : Consumer) (position : Position)
  | moveOut (consumer : Consumer)

/-- Whether a `memcpy` has copied everything. -/
def Done (copied : Position → Bool) : Prop := ∀ position, copied position

variable {Consumer : Type*}

def Enabled (state : State Consumer Position Byte) :
    Label Consumer Position Byte → Prop
  | .doEvent _ => state.inserter = .outside
  | .testFull => ∃ event, state.inserter = .entered event
  | .moveIn => ∃ event, state.inserter = .inserting event
  | .copyIn position => ∃ event copied,
      state.inserter = .copying event copied ∧ copied position = false
  | .leave => ∃ event copied,
      state.inserter = .copying event copied ∧ Done copied
  | .eventsFlush => state.inserter = .outside
  | .flushIn => state.inserter = .flushing
  | .flushOut => state.inserter = .flushed
  | .pickEvent consumer _ => state.pickers consumer = .outside
  | .copyOut consumer position => ∃ IdxOut event copied,
      state.pickers consumer = .extracting IdxOut event copied ∧
        copied position = false
  | .moveOut consumer => ∃ IdxOut event copied,
      state.pickers consumer = .extracting IdxOut event copied ∧ Done copied

variable [DecidableEq Consumer] [DecidableEq Position]

/-- The holder of `CSEvent` takes its next step. -/
def nextInserter (state : State Consumer Position Byte)
    (position : Option Position) : State Consumer Position Byte :=
  match state.inserter with
  | .outside => state
  | .entered event =>
      if state.queue.full then
        { state with
          inserter := .outside
          calls := state.calls ++ [.insert event] }
      else { state with inserter := .inserting event }
  | .inserting event =>
      { state with
        queue := { state.queue with
          IndexIn := state.queue.advance state.queue.IndexIn }
        inserter := .copying event fun _ => false
        accepted := state.accepted ++ [event]
        calls := state.calls ++ [.insert event] }
  | .copying event copied =>
      match position with
      | none => { state with inserter := .outside }
      | some position =>
          let PBlock := Function.update
            (state.queue.Buffer state.queue.IndexIn) position (event position)
          { state with
            queue := { state.queue with
              Buffer := Function.update state.queue.Buffer
                state.queue.IndexIn PBlock }
            inserter :=
              .copying event (Function.update copied position true) }
  | .flushing =>
      { state with
        queue := { state.queue with IndexIn := 0 }, inserter := .flushed }
  | .flushed =>
      { state with
        queue := { state.queue with IndexOut := 0 }
        inserter := .outside
        calls := state.calls ++ [.flush] }

/-- A thread in `Extract` takes its next step. -/
def nextPicker (state : State Consumer Position Byte) (consumer : Consumer)
    (position : Option Position) : State Consumer Position Byte :=
  match state.pickers consumer with
  | .outside => state
  | .extracting IdxOut event copied =>
      match position with
      | some position =>
          { state with
            pickers := Function.update state.pickers consumer
              (.extracting IdxOut
                (Function.update event position
                  (state.queue.Buffer IdxOut position))
                (Function.update copied position true)) }
      | none =>
          { state with
            queue := { state.queue with IndexOut := IdxOut }
            pickers := Function.update state.pickers consumer .outside
            answers := state.answers ++ [some event]
            calls := state.calls ++ [.pick] }

def next (state : State Consumer Position Byte) :
    Label Consumer Position Byte → State Consumer Position Byte
  | .doEvent event => { state with inserter := .entered event }
  | .eventsFlush => { state with inserter := .flushing }
  | .copyIn position => nextInserter state (some position)
  | .testFull | .moveIn | .leave | .flushIn | .flushOut =>
      nextInserter state none
  | .pickEvent consumer lpdata =>
      if state.queue.empty then
        { state with
          answers := state.answers ++ [none]
          calls := state.calls ++ [.pick] }
      else
        { state with
          pickers := Function.update state.pickers consumer
            (.extracting (state.queue.advance state.queue.IndexOut) lpdata
              fun _ => false) }
  | .copyOut consumer position => nextPicker state consumer (some position)
  | .moveOut consumer => nextPicker state consumer none

/-- A new queue, and nobody in it. -/
def initial (Max : Nat) (Buffer : Nat → Block Position Byte) :
    State Consumer Position Byte where
  queue := .create Max Buffer
  inserter := .outside
  pickers := fun _ => .outside
  accepted := []
  answers := []
  calls := []

/-- Inserting, flushing and picking in any interleaving. -/
def machine (Consumer : Type*) [DecidableEq Consumer]
    (Max : Nat) (Buffer : Nat → Block Position Byte) :
    Machine (State Consumer Position Byte)
      (Label Consumer Position Byte) where
  initial := initial Max Buffer
  Enabled := Enabled
  next := next

/-- One consumer: `PickEvent` is called while nobody else is in it.  The
source leaves this to its callers. -/
def OneConsumer (state : State Consumer Position Byte) :
    Label Consumer Position Byte → Prop
  | .pickEvent _ _ => ∀ consumer, state.pickers consumer = .outside
  | _ => True

/-- At most one thread is in `Extract`. -/
def Alone (pickers : Consumer → Picker Position Byte) : Prop :=
  ∀ first second, pickers first ≠ .outside → pickers second ≠ .outside →
    first = second

section Alone

variable {pickers : Consumer → Picker Position Byte} {consumer : Consumer}

omit [DecidableEq Consumer] [DecidableEq Position] in
theorem Alone.outside
    (alone : Alone pickers) (isInside : pickers consumer ≠ .outside)
    {other : Consumer} (isOther : other ≠ consumer) :
    pickers other = .outside := by
  by_contra isInside'
  exact isOther (alone other consumer isInside' isInside)

omit [DecidableEq Position] in
/-- A thread moves while the others are outside. -/
theorem Alone.update
    (others : ∀ other, other ≠ consumer → pickers other = .outside)
    (picker : Picker Position Byte) :
    Alone (Function.update pickers consumer picker) := by
  have isConsumer : ∀ other,
      Function.update pickers consumer picker other ≠ .outside →
        other = consumer := by
    intro other isInside
    by_contra isOther
    rw [Function.update_of_ne isOther] at isInside
    exact isInside (others other isOther)
  intro first second isFirst isSecond
  rw [isConsumer first isFirst, isConsumer second isSecond]

omit [DecidableEq Position] in
/-- A property of the threads in `Extract` is one of the thread that moves. -/
theorem forall_update_of_alone
    {property : Picker Position Byte → Prop}
    (others : ∀ other, other ≠ consumer → pickers other = .outside)
    (ofOutside : property .outside) {picker : Picker Position Byte}
    (ofPicker : property picker) (other : Consumer) :
    property (Function.update pickers consumer picker other) := by
  by_cases same : other = consumer
  · rw [same, Function.update_self]
    exact ofPicker
  · rw [Function.update_of_ne same, others other same]
    exact ofOutside

end Alone

end ServerUtils.Snap7.EventQueue
