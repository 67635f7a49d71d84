import Mathlib.Data.Finset.Basic
import ServerUtils.Foundation.Simulation
import ServerUtils.Server.FairService
import ServerUtils.Server.SecureLayer

/-!
# The server as clients see it

An abstract server knows the connected clients and whether it has answered a
request yet.  A client connects, then it has exchanges, and the first exchange
from which the server closes ends its session.  The three layers simulate it:
whatever clients, TLS and `select` do, everything that the layers emit and
write, and what the loop does to client sockets, is read off a list of steps
that the abstract server can take.
-/

namespace ServerUtils.Server.Sessions

open ServerUtils.Foundation.Transition
open ServerUtils.Foundation.Simulation
open ServerUtils.Parser.StdString
open ServerUtils.Server.SelectLoop
open ServerUtils.Server.FairService
open ServerUtils.Server.SecureLayer

/-! ## The abstract server -/

/-- What comes of a data event. -/
inductive Outcome where
  /-- `SSL_accept` has failed -/
  | refused
  /-- nothing was read -/
  | silent
  | request (text : Bytes)
deriving DecidableEq, Repr

def Outcome.isRequest : Outcome → Bool
  | .request _ => true
  | _ => false

/-- A step in which a client is involved. -/
inductive Act where
  | connect (fd : Int)
  | exchange (fd : Int) (outcome : Outcome) (closed : Bool)
deriving DecidableEq, Repr

/-- The connected clients; `closing` is set by the first request. -/
structure ClientView where
  connected : Finset Int
  closing : Bool
  transcript : List Act

/-- A new client has a socket of its own; an exchange is with a connected
client, and from the first request on every exchange closes. -/
def ActEnabled (server_socket : Int) (view : ClientView) : Act → Prop
  | .connect fd => fd ≠ server_socket ∧ fd ∉ view.connected
  | .exchange fd outcome closed =>
      fd ∈ view.connected ∧
        closed = (view.closing || outcome.isRequest)

def actNext (view : ClientView) (act : Act) : ClientView :=
  match act with
  | .connect fd =>
      { view with
        connected := insert fd view.connected
        transcript := view.transcript ++ [act] }
  | .exchange fd outcome closed =>
      { connected :=
          if closed then view.connected.erase fd else view.connected
        closing := view.closing || outcome.isRequest
        transcript := view.transcript ++ [act] }

/-- The server without sockets, buffers and scans. -/
def clientSessions (server_socket : Int) (closing : Bool) :
    Machine ClientView Act where
  initial := ⟨∅, closing, []⟩
  Enabled := ActEnabled server_socket
  next := actNext

/-- The `ssl` events of an exchange. -/
def Outcome.sslEvents (fd : Int) : Outcome → List SecureLayer.Event
  | .refused => [⟨.acceptError, none, none⟩]
  | .silent => [⟨.acceptOk, none, some fd⟩]
  | .request text =>
      [⟨.acceptOk, none, some fd⟩, ⟨.rdataReady, some text, some fd⟩]

/-- What is written in an exchange: two pieces for a request. -/
def Outcome.responses (fd : Int) : Outcome → List (Int × Bytes)
  | .request _ =>
      [ (fd, str "HTTP/1.0 200 OK\r\nServer: EKRServer\r\n\r\n"),
        (fd, str "Teapot\r\n") ]
  | _ => []

def Act.sslEvents : Act → List SecureLayer.Event
  | .connect _ => []
  | .exchange fd outcome _ => outcome.sslEvents fd

def Act.responses : Act → List (Int × Bytes)
  | .connect _ => []
  | .exchange fd outcome _ => outcome.responses fd

/-- What the loop does to the client's socket. -/
def Act.loopActions : Act → List Action
  | .connect fd => [.accept fd]
  | .exchange fd _ closed =>
      emitData fd :: if closed then [.close fd] else []

/-- The actions of the loop that concern a client's socket. -/
def visible : Action → Bool
  | .emit event => event.t = .dataAvailable
  | .accept newfd => newfd ≠ -1
  | .close _ => true

/-- What the loop does to a client's socket is visible. -/
theorem filter_loopActions (act : Act)
    (isSocket : ∀ fd, act = .connect fd → fd ≠ -1) :
    act.loopActions.filter visible = act.loopActions := by
  cases act with
  | connect fd => simp [Act.loopActions, visible, isSocket fd rfl]
  | exchange fd outcome closed => cases closed <;> rfl

theorem transcript_follow
    (server_socket : Int) (closing : Bool) (view : ClientView)
    (acts : List Act) :
    (follow (clientSessions server_socket closing) view acts).transcript =
      view.transcript ++ acts := by
  induction acts generalizing view with
  | nil => exact (List.append_nil _).symm
  | cons act acts ih =>
      have appended : (actNext view act).transcript =
          view.transcript ++ [act] := by
        cases act <;> rfl
      refine (ih (actNext view act)).trans ?_
      rw [appended, List.append_assoc, List.singleton_append]

/-! ## What `ssl::observe` does -/

/-- What comes of the data event. -/
def outcome (e : Connection) : Outcome :=
  if e.accept < 0 then .refused
  else if 0 < e.readbuf.length then .request e.readbuf
  else .silent

theorem observe_eq (ssl : Ssl) (e : Connection) :
    observe ssl e =
      ({ close_connection := ssl.close_connection || (outcome e).isRequest
         emitted := ssl.emitted ++ (outcome e).sslEvents e.sock
         written := ssl.written ++ (outcome e).responses e.sock },
        ssl.close_connection || (outcome e).isRequest) := by
  by_cases failed : e.accept < 0
  · simp [observe, outcome, failed, Ssl.emit, Outcome.isRequest,
      Outcome.sslEvents, Outcome.responses]
  · by_cases delivered : 0 < e.readbuf.length
    · simp [observe, outcome, failed, delivered, Ssl.emit, httpObserve,
        Ssl.sendResponse, Outcome.isRequest, Outcome.sslEvents,
        Outcome.responses]
    · simp [observe, outcome, failed, delivered, Ssl.emit,
        Outcome.isRequest, Outcome.sslEvents, Outcome.responses]

/-! ## The simulation -/

/-- The environment of the loop, seen from the three layers. -/
def PosixLayers (server_socket : Int) (layers : Layers) :
    Layers.Label → Prop
  | .loop label => Posix server_socket layers.loop label
  | .data _ => True

instance decidablePosixLayers (server_socket : Int) (layers : Layers) :
    ∀ label, Decidable (PosixLayers server_socket layers label)
  | .loop label => inferInstanceAs (Decidable (Posix _ _ label))
  | .data _ => .isTrue True.intro

/-- What the abstract server says about the layers. -/
structure Shows
    (server_socket : Int) (layers : Layers) (view : ClientView) : Prop where
  books : Bookkeeping server_socket layers.loop
  refset : layers.loop.refset = insert server_socket view.connected
  outside : server_socket ∉ view.connected
  closing : layers.ssl.close_connection = view.closing
  emitted : layers.ssl.emitted = view.transcript.flatMap Act.sslEvents
  written : layers.ssl.written = view.transcript.flatMap Act.responses
  log : layers.loop.log.filter visible =
    view.transcript.flatMap Act.loopActions

section Steps

variable {server_socket : Int} {closing : Bool}
variable {layers : Layers} {view : ClientView}

/-- A step of the loop in which no client is involved. -/
theorem Shows.quiet
    (shows : Shows server_socket layers view) {loop : SelectLoop.State}
    (books : Bookkeeping server_socket loop)
    (sameRefset : loop.refset = layers.loop.refset)
    (actions : List Action)
    (logged : loop.log = layers.loop.log ++ actions)
    (invisible : actions.filter visible = []) :
    Shows server_socket { layers with loop := loop } view where
  books := books
  refset := sameRefset.trans shows.refset
  outside := shows.outside
  closing := shows.closing
  emitted := shows.emitted
  written := shows.written
  log := by
    show loop.log.filter visible = _
    rw [logged, List.filter_append, invisible, List.append_nil]
    exact shows.log

theorem Shows.select
    (shows : Shows server_socket layers view)
    {status : Int} {ready : Finset Int} {left : Bool}
    (books : Bookkeeping server_socket
      (selectNext layers.loop status ready left)) :
    Shows server_socket
      { layers with loop := selectNext layers.loop status ready left }
      view := by
  by_cases failed : status = -1
  · have isNext : selectNext layers.loop status ready left = _ :=
      if_pos failed
    rw [isNext] at books ⊢
    exact shows.quiet books rfl [emitPlain .errSelect] rfl rfl
  have isNext : selectNext layers.loop status ready left = _ :=
    if_neg failed
  rw [isNext] at books ⊢
  by_cases timeout : status = 0
  · rw [if_pos timeout] at books ⊢
    exact shows.quiet books rfl [emitPlain .timeoutSelect] rfl rfl
  · rw [if_neg timeout] at books ⊢
    exact shows.quiet books rfl [] (List.append_nil _).symm rfl

/-- A failed `accept` is not seen; otherwise a client has connected. -/
theorem Shows.accept
    (shows : Shows server_socket layers view)
    {position newfd : Int} {left : Bool}
    (posix : Posix server_socket layers.loop (.accept position newfd left))
    (books : Bookkeeping server_socket
      (acceptNext layers.loop position newfd left)) :
    ∃ acts,
      Follows (clientSessions server_socket closing) anyStep view acts ∧
        Shows server_socket
          { layers with loop := acceptNext layers.loop position newfd left }
          (follow (clientSessions server_socket closing) view acts) := by
  by_cases failed : newfd = -1
  · have isNext : acceptNext layers.loop position newfd left = _ :=
      if_pos failed
    refine ⟨[], True.intro, ?_⟩
    rw [isNext] at books ⊢
    refine shows.quiet books rfl
      [emitPlain .newConnection, .accept newfd, emitPlain .errAccept] rfl ?_
    rw [failed]
    rfl
  · have isNext : acceptNext layers.loop position newfd left = _ :=
      if_neg failed
    have fresh : newfd ∉ layers.loop.refset := by
      rw [shows.books.refset]
      exact (posix.resolve_left failed).2.2
    rw [shows.refset, Finset.mem_insert, not_or] at fresh
    refine ⟨[.connect newfd], ⟨fresh, True.intro, True.intro⟩, ?_⟩
    rw [isNext] at books ⊢
    refine ⟨books, ?_, ?_, shows.closing, ?_, ?_, ?_⟩
    · show insert newfd layers.loop.refset =
        insert server_socket (insert newfd view.connected)
      rw [shows.refset, Finset.insert_comm]
    · show server_socket ∉ insert newfd view.connected
      rw [Finset.mem_insert, not_or]
      exact ⟨Ne.symm fresh.1, shows.outside⟩
    · show layers.ssl.emitted =
        (view.transcript ++ [Act.connect newfd]).flatMap Act.sslEvents
      rw [List.flatMap_append, ← shows.emitted]
      exact (List.append_nil _).symm
    · show layers.ssl.written =
        (view.transcript ++ [Act.connect newfd]).flatMap Act.responses
      rw [List.flatMap_append, ← shows.written]
      exact (List.append_nil _).symm
    · show (layers.loop.log ++ [emitPlain .newConnection, .accept newfd,
          emitPlain .acceptSuccess]).filter visible =
        (view.transcript ++ [Act.connect newfd]).flatMap Act.loopActions
      rw [List.filter_append, List.flatMap_append, shows.log,
        List.flatMap_singleton, ← filter_loopActions (.connect newfd)]
      · rfl
      · rintro _ ⟨⟩
        exact failed

theorem dataNext_refset
    (loop : SelectLoop.State) (sock : Int) (left : Bool) :
    (dataNext loop sock left).refset =
      if left then loop.refset.erase sock else loop.refset := by
  cases left <;> rfl

theorem dataNext_log
    (loop : SelectLoop.State) (sock : Int) (left : Bool) :
    (dataNext loop sock left).log =
      loop.log ++ emitData sock :: if left then [.close sock] else [] := by
  cases left <;> rfl

/-- A data event is an exchange with a connected client. -/
theorem Shows.serve
    (shows : Shows server_socket layers view) {e : Connection}
    (enabled : SelectLoop.Enabled server_socket layers.loop
      (.data e.sock (observe layers.ssl e).2)) :
    ∃ acts,
      Follows (clientSessions server_socket closing) anyStep view acts ∧
        Shows server_socket (layers.serve e)
          (follow (clientSessions server_socket closing) view acts) := by
  have isClient : e.sock ∈ view.connected := by
    have isReady := (shows.books.serving e.sock enabled.1.1).pending e.sock
      enabled.2.1 le_rfl
    rw [shows.refset, Finset.mem_insert] at isReady
    exact isReady.resolve_left enabled.2.2
  have left : (observe layers.ssl e).2 =
      (view.closing || (outcome e).isRequest) := by
    rw [observe_eq, shows.closing]
  refine ⟨[.exchange e.sock (outcome e) (observe layers.ssl e).2],
    ⟨⟨isClient, left⟩, True.intro, True.intro⟩, ?_⟩
  refine ⟨bookkeeping_data shows.books _ enabled, ?_, ?_, ?_, ?_, ?_, ?_⟩
  · show (dataNext layers.loop e.sock (observe layers.ssl e).2).refset =
      insert server_socket (if (observe layers.ssl e).2 then
        view.connected.erase e.sock else view.connected)
    rw [dataNext_refset, shows.refset]
    split_ifs
    · exact Finset.erase_insert_of_ne enabled.2.2.symm
    · rfl
  · show server_socket ∉ if (observe layers.ssl e).2 then
        view.connected.erase e.sock else view.connected
    split_ifs
    · exact fun isMember => shows.outside (Finset.mem_of_mem_erase isMember)
    · exact shows.outside
  · show (observe layers.ssl e).1.close_connection = _
    rw [observe_eq, shows.closing]
    rfl
  · show (observe layers.ssl e).1.emitted =
      (view.transcript ++ [Act.exchange _ _ _]).flatMap Act.sslEvents
    rw [observe_eq, List.flatMap_append, shows.emitted,
      List.flatMap_singleton]
    rfl
  · show (observe layers.ssl e).1.written =
      (view.transcript ++ [Act.exchange _ _ _]).flatMap Act.responses
    rw [observe_eq, List.flatMap_append, shows.written,
      List.flatMap_singleton]
    rfl
  · show (dataNext layers.loop e.sock (observe layers.ssl e).2).log.filter
        visible =
      (view.transcript ++ [Act.exchange e.sock (outcome e)
        (observe layers.ssl e).2]).flatMap Act.loopActions
    rw [dataNext_log, List.filter_append, List.flatMap_append, shows.log,
      List.flatMap_singleton]
    exact congrArg _ (filter_loopActions (.exchange _ _ _) (by rintro _ ⟨⟩))

end Steps

theorem server_simulated
    (server_socket : Int) (closing : Bool) (listening : 0 ≤ server_socket) :
    Simulates (server server_socket closing) (PosixLayers server_socket)
      (clientSessions server_socket closing) (Shows server_socket) where
  start :=
    { books := bookkeeping_initial listening
      refset := rfl
      outside := Finset.notMem_empty _
      closing := rfl
      emitted := rfl
      written := rfl
      log := rfl }
  step := by
    intro layers view label shows enabled posix
    cases label with
    | data e => exact shows.serve enabled
    | loop label =>
        have books := bookkeeping_next layers.loop label shows.books
          enabled.1 posix
        cases label with
        | iterate running =>
            refine ⟨[], True.intro, shows.quiet books ?_ [] ?_ rfl⟩
            · cases running <;> rfl
            · cases running <;> exact (List.append_nil _).symm
        | select status ready left =>
            exact ⟨[], True.intro, shows.select books⟩
        | skip position =>
            exact ⟨[], True.intro, shows.quiet books rfl []
              (List.append_nil _).symm rfl⟩
        | accept position newfd left => exact shows.accept posix books
        | data position left => exact enabled.2.elim
        | endPass position =>
            exact ⟨[], True.intro, shows.quiet books rfl []
              (List.append_nil _).symm rfl⟩

/--
As long as `select` reports a part of what it was given and `accept` fails or
returns a descriptor which is in range and not open, the server has gone
through a list of steps that the abstract server can take, whatever TLS and the
clients do: the events of the `ssl` object, the responses it wrote and what the
loop did to client sockets are, in order, those of these steps; and the loop
selects on its own socket and the connected clients.
-/
theorem server_serves_sessions
    (server_socket : Int) (closing : Bool) (listening : 0 ≤ server_socket)
    (layers : Layers)
    (reached : ReachableBy (server server_socket closing)
      (PosixLayers server_socket) layers) :
    ∃ acts,
      Follows (clientSessions server_socket closing) anyStep
          (clientSessions server_socket closing).initial acts ∧
        layers.ssl.emitted = acts.flatMap Act.sslEvents ∧
        layers.ssl.written = acts.flatMap Act.responses ∧
        layers.loop.log.filter visible = acts.flatMap Act.loopActions ∧
        layers.loop.refset = insert server_socket
          (follow (clientSessions server_socket closing)
            (clientSessions server_socket closing).initial acts).connected := by
  rcases (server_simulated server_socket closing listening).reachable
      reached with
    ⟨view, reachable, shows⟩
  rcases Run.exists_follows reachable with ⟨acts, follows, rfl⟩
  have transcript := transcript_follow server_socket closing
    (clientSessions server_socket closing).initial acts
  have emitted := shows.emitted
  have written := shows.written
  have log := shows.log
  rw [transcript] at emitted written log
  exact ⟨acts, follows, emitted, written, log, shows.refset⟩

/-- Two clients: the handshake of one fails, the other sends a request. -/
def twoClients : List Layers.Label :=
  [ .loop (.iterate true), .loop (.select 1 {3} false),
    .loop (.skip 0), .loop (.skip 1), .loop (.skip 2),
    .loop (.accept 3 4 false), .loop (.skip 4), .loop (.endPass 5),
    .loop (.iterate true), .loop (.select 2 {3, 4} false),
    .loop (.skip 0), .loop (.skip 1), .loop (.skip 2),
    .loop (.accept 3 5 false), .data ⟨4, -1, []⟩,
    .loop (.skip 5), .loop (.endPass 6),
    .loop (.iterate true), .loop (.select 1 {5} false),
    .loop (.skip 0), .loop (.skip 1), .loop (.skip 2), .loop (.skip 3),
    .loop (.skip 4), .data ⟨5, 1, [(1, .bytes (str "GET"))]⟩ ]

def twoClientsLayers : Layers :=
  follow (server 3 false) (server 3 false).initial twoClients

theorem twoClients_serves_sessions :
    ∃ acts,
      Follows (clientSessions 3 false) anyStep
          (clientSessions 3 false).initial acts ∧
        twoClientsLayers.ssl.emitted = acts.flatMap Act.sslEvents ∧
        twoClientsLayers.ssl.written = acts.flatMap Act.responses ∧
        twoClientsLayers.loop.log.filter visible =
          acts.flatMap Act.loopActions ∧
        twoClientsLayers.loop.refset = insert 3
          (follow (clientSessions 3 false)
            (clientSessions 3 false).initial acts).connected :=
  server_serves_sessions 3 false (by decide) twoClientsLayers
    (run_follow (by decide))

end ServerUtils.Server.Sessions
