import Mathlib.Data.Finset.Erase
import Mathlib.Data.Finset.Insert
import Mathlib.Data.Int.Order.Basic
import ServerUtils.Foundation.Transition

/-!
# The select loop of the TCP server

`TCPServer::loop` after `tcp_listen` has returned a server socket.  The
results of `select` and `accept`, the value of `running` and what the event
listeners leave in `close_sock` come with the labels.  Descriptors and `fdmax`
are the source's `int`s, and an `fd_set` is a finite set of them.

`log` and `pass` are history: no step reads them.
-/

namespace ServerUtils.Server.SelectLoop

open ServerUtils.Foundation.Transition

/-- `FD_SETSIZE`. -/
def fdSetSize : Int := 1024

/-- The event types which the loop emits. -/
inductive EventType where
  | timeoutSelect
  | newConnection
  | acceptSuccess
  | dataAvailable
  | errSelect
  | errAccept
deriving DecidableEq, Repr

/-- `event_t`; a `sock` which the loop does not set is zero. -/
structure Event where
  t : EventType
  sock : Int
deriving DecidableEq, Repr

/-- What the loop does to the outside. -/
inductive Action where
  | emit (event : Event)
  /-- `accept` has returned this -/
  | accept (newfd : Int)
  | close (fd : Int)
deriving DecidableEq, Repr

def emitPlain (t : EventType) : Action := .emit ⟨t, 0⟩

def emitData (sock : Int) : Action := .emit ⟨.dataAvailable, sock⟩

/-- Where the loop is. -/
inductive Point where
  /-- at `while (live)` -/
  | top
  /-- before `select` -/
  | select
  /-- at the test of the inner loop -/
  | scan (master_socket : Int)
  | returned
deriving DecidableEq

structure State where
  refset : Finset Int
  rdset : Finset Int
  fdmax : Int
  close_sock : Bool
  msocket : Int
  point : Point
  log : List Action
  /-- what was done since `select` returned last -/
  pass : List Action

/-- The steps; `left` is what the listeners leave in `close_sock`. -/
inductive Label where
  | iterate (running : Bool)
  | select (status : Int) (ready : Finset Int) (left : Bool)
  | skip (master_socket : Int)
  | accept (master_socket newfd : Int) (left : Bool)
  | data (master_socket : Int) (left : Bool)
  | endPass (master_socket : Int)

/-- The scan is at a descriptor below its bound. -/
def AtSocket (state : State) (master_socket : Int) : Prop :=
  state.point = .scan master_socket ∧ master_socket ≤ state.fdmax

instance (state : State) (master_socket : Int) :
    Decidable (AtSocket state master_socket) :=
  inferInstanceAs (Decidable (_ ∧ _))

/-- When a step may be taken. -/
def Enabled (server_socket : Int) (state : State) : Label → Prop
  | .iterate _ => state.point = .top
  | .select _ _ _ => state.point = .select
  | .skip master_socket =>
      AtSocket state master_socket ∧ master_socket ∉ state.rdset
  | .accept master_socket _ _ =>
      AtSocket state master_socket ∧ master_socket ∈ state.rdset ∧
        master_socket = server_socket
  | .data master_socket _ =>
      AtSocket state master_socket ∧ master_socket ∈ state.rdset ∧
        master_socket ≠ server_socket
  | .endPass master_socket =>
      state.point = .scan master_socket ∧ state.fdmax < master_socket

instance (server_socket : Int) (state : State) (label : Label) :
    Decidable (Enabled server_socket state label) := by
  cases label <;> dsimp only [Enabled] <;> infer_instance

/-- Record what a step does to the outside. -/
def State.act (state : State) (actions : List Action) : State :=
  { state with
    log := state.log ++ actions
    pass := state.pass ++ actions }

/-- Parts (1) to (3) of the loop: what `select` returns. -/
def selectNext
    (state : State) (status : Int) (ready : Finset Int) (left : Bool) :
    State :=
  if status = -1 then
    { state.act [emitPlain .errSelect] with
      rdset := ready
      close_sock := left
      point := .top }
  else if status = 0 then
    { { state with pass := [] }.act [emitPlain .timeoutSelect] with
      rdset := ready
      close_sock := left
      point := .scan 0 }
  else
    { state with
      rdset := ready
      point := .scan 0
      pass := [] }

/-- Part (3.2): a new connection. -/
def acceptNext
    (state : State) (master_socket newfd : Int) (left : Bool) : State :=
  if newfd = -1 then
    { state.act [emitPlain .newConnection, .accept newfd,
        emitPlain .errAccept] with
      close_sock := left
      point := .scan (master_socket + 1) }
  else
    { state.act [emitPlain .newConnection, .accept newfd,
        emitPlain .acceptSuccess] with
      refset := insert newfd state.refset
      fdmax := if newfd > state.fdmax then newfd else state.fdmax
      close_sock := left
      point := .scan (master_socket + 1) }

/-- Part (3.3): data on a client socket. -/
def dataNext (state : State) (master_socket : Int) (left : Bool) : State :=
  if left then
    { state.act [emitData master_socket, .close master_socket] with
      msocket := master_socket
      close_sock := false
      refset := state.refset.erase master_socket
      fdmax :=
        if master_socket = state.fdmax then state.fdmax - 1 else state.fdmax
      point := .scan (master_socket + 1) }
  else
    { state.act [emitData master_socket] with
      msocket := master_socket
      close_sock := left
      point := .scan (master_socket + 1) }

/-- What a step does. -/
def next (state : State) : Label → State
  | .iterate running =>
      if running then
        { state with rdset := state.refset, point := .select }
      else
        { state with point := .returned }
  | .select status ready left => selectNext state status ready left
  | .skip master_socket =>
      { state with point := .scan (master_socket + 1) }
  | .accept master_socket newfd left =>
      acceptNext state master_socket newfd left
  | .data master_socket left => dataNext state master_socket left
  | .endPass _ => { state with point := .top }

/-- The loop before its first iteration. -/
def initial (server_socket : Int) : State where
  refset := {server_socket}
  rdset := ∅
  fdmax := server_socket
  close_sock := false
  msocket := 0
  point := .top
  log := []
  pass := []

/-- The loop on a server socket. -/
def loop (server_socket : Int) : Machine State Label where
  initial := initial server_socket
  Enabled := Enabled server_socket
  next := next

instance (server_socket : Int) (state : State) (label : Label) :
    Decidable ((loop server_socket).Enabled state label) :=
  inferInstanceAs (Decidable (Enabled server_socket state label))

/-! ## The environment -/

/-- One action on the set of open descriptors. -/
def openAfter (descriptors : Finset Int) : Action → Finset Int
  | .emit _ => descriptors
  | .accept newfd =>
      if newfd = -1 then descriptors else insert newfd descriptors
  | .close fd => descriptors.erase fd

/-- The server socket and the descriptors accepted and not yet closed. -/
def openDescriptors (server_socket : Int) (log : List Action) : Finset Int :=
  log.foldl openAfter {server_socket}

/-- `select` reports a subset of what it was given, and `accept` fails or
returns a descriptor which is in range and not open. -/
def Posix (server_socket : Int) (state : State) : Label → Prop
  | .select _ ready _ => ready ⊆ state.rdset
  | .accept _ newfd _ =>
      newfd = -1 ∨
        (0 ≤ newfd ∧ newfd < fdSetSize ∧
          newfd ∉ openDescriptors server_socket state.log)
  | _ => True

instance (server_socket : Int) (state : State) (label : Label) :
    Decidable (Posix server_socket state label) := by
  cases label <;> dsimp only [Posix] <;> infer_instance

/-- What `accept` returns fits into an `fd_set`. -/
def AcceptsInRange : Label → Prop
  | .accept _ newfd _ => newfd < fdSetSize
  | _ => True

theorem Posix.acceptsInRange
    {server_socket : Int} {state : State} {label : Label}
    (posix : Posix server_socket state label) : AcceptsInRange label := by
  cases label with
  | accept master_socket newfd left =>
      rcases posix with rfl | ⟨_, inRange, _⟩
      · exact (by decide : (-1 : Int) < fdSetSize)
      · exact inRange
  | _ => exact True.intro

end ServerUtils.Server.SelectLoop
