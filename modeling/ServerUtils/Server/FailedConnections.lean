import ServerUtils.Server.Isolation

/-!
# Connections without a request

A connection whose handshake fails, or on which nothing is read, should be
dropped.  `ssl::observe` asks for that only through `close_connection`, which
the failure itself does not set: it depends on the events before.  And a
handshake that `SSL_accept` ends with 0 is taken for a successful one.
-/

namespace ServerUtils.Server.FailedConnections

open ServerUtils.Foundation.Transition
open ServerUtils.Parser.StdString
open ServerUtils.Server.SelectLoop
open ServerUtils.Server.SecureLayer
open ServerUtils.Server.Isolation

/-- The handshake is not completed, or no bytes are read. -/
def Fails (e : Connection) : Prop :=
  e.accept ≤ 0 ∨ ∀ result ∈ sslReads e.answers, result.data = []

instance (e : Connection) : Decidable (Fails e) :=
  inferInstanceAs (Decidable (_ ∨ _))

/-- The `ssl` events of the last step. -/
def newEvents (before after : Layers) : List SecureLayer.Event :=
  after.ssl.emitted.drop before.ssl.emitted.length

/-- A failed handshake is not announced as a connection or a request, and the
loop has closed the socket and does not select on it any more. -/
structure Dropped (before after : Layers) (e : Connection) : Prop where
  silent : e.accept ≤ 0 → ∀ event ∈ newEvents before after,
    event.t ≠ .acceptOk ∧ event.t ≠ .rdataReady
  closed : after.loop.log =
    before.loop.log ++ [emitData e.sock, .close e.sock]
  removed : e.sock ∉ after.loop.refset

variable {layers : Layers} {e : Connection}

/-- The event that follows `SSL_accept`. -/
theorem newEvents_serve (layers : Layers) (e : Connection) :
    newEvents layers (layers.serve e) =
      if e.accept < 0 then [⟨.acceptError, none, none⟩]
      else
        ⟨.acceptOk, none, some e.sock⟩ ::
          if 0 < e.readbuf.length then
            [⟨.rdataReady, some e.readbuf, some e.sock⟩]
          else [] := by
  have emitted : (layers.serve e).ssl.emitted = _ :=
    observe_emitted layers.ssl e
  rw [newEvents, emitted, List.drop_left]

/-- Nothing is announced exactly when `SSL_accept` has reported a failure. -/
theorem silent_iff (notCompleted : e.accept ≤ 0) :
    (∀ event ∈ newEvents layers (layers.serve e),
        event.t ≠ .acceptOk ∧ event.t ≠ .rdataReady) ↔
      e.accept ≠ 0 := by
  rw [newEvents_serve]
  by_cases failed : e.accept < 0
  · simp [failed, ne_of_lt failed]
  · have isZero : e.accept = 0 := le_antisymm notCompleted (not_lt.mp failed)
    simp [isZero]

theorem not_delivers_of_fails (fails : Fails e) (nonzero : e.accept ≠ 0) :
    ¬ Delivers e := by
  rintro ⟨nonneg, result, isFirst, hasBytes⟩
  rcases fails with notCompleted | noBytes
  · exact nonzero (le_antisymm notCompleted nonneg)
  · exact hasBytes (noBytes result (List.mem_of_head? isFirst))

/-- A connection without a request is dropped exactly when `SSL_accept` has
not returned 0 and the flag was up before. -/
theorem dropped_serve_iff (layers : Layers) (fails : Fails e) :
    Dropped layers (layers.serve e) e ↔
      e.accept ≠ 0 ∧ layers.ssl.close_connection = true := by
  have asked : Closes layers.loop e.sock (observe layers.ssl e).2 ↔
      layers.ssl.close_connection = true ∨ Delivers e := by
    rw [closes_iff, observe_closeSock_iff]
  constructor
  · intro dropped
    have nonzero : e.accept ≠ 0 := by
      intro isZero
      exact (silent_iff (le_of_eq isZero)).mp
        (dropped.silent (le_of_eq isZero)) isZero
    have notDelivered := not_delivers_of_fails fails nonzero
    exact ⟨nonzero, (asked.mp dropped.closed).resolve_right notDelivered⟩
  · rintro ⟨nonzero, isUp⟩
    have closes := asked.mpr (Or.inl isUp)
    have left := (closes_iff _ _ _).mp closes
    refine ⟨fun notCompleted => (silent_iff notCompleted).mpr nonzero,
      closes, ?_⟩
    show e.sock ∉ (dataNext layers.loop e.sock (observe layers.ssl e).2).refset
    rw [left]
    exact Finset.notMem_erase e.sock layers.loop.refset

/-- The server after a list of steps. -/
def reached
    (server_socket : Int) (close_connection : Bool)
    (labels : List Layers.Label) : Layers :=
  follow (server server_socket close_connection)
    (server server_socket close_connection).initial labels

/-- The flag in every state that the server reaches. -/
theorem closeConnection_reached_iff
    (server_socket : Int) (close_connection : Bool)
    (labels : List Layers.Label) :
    (reached server_socket close_connection labels).ssl.close_connection =
        true ↔
      ClosingBefore close_connection (connections labels) := by
  rw [reached, ssl_follow, handled_closeConnection_iff]
  rfl

/--
In every run of the server: a connection without a request is dropped exactly
when `SSL_accept` has not returned 0, and `close_connection` was true from the
beginning or an earlier event has delivered a request.
-/
theorem dropped_iff_closingBefore
    (server_socket : Int) (close_connection : Bool)
    (labels : List Layers.Label) (e : Connection) (fails : Fails e) :
    Dropped (reached server_socket close_connection labels)
        (reached server_socket close_connection (labels ++ [.data e])) e ↔
      e.accept ≠ 0 ∧
        ClosingBefore close_connection (connections labels) := by
  have isServed : reached server_socket close_connection
        (labels ++ [.data e]) =
      (reached server_socket close_connection labels).serve e :=
    follow_append _ _ _ _
  rw [isServed, dropped_serve_iff _ fails, closeConnection_reached_iff]

/-- The loop accepts a client, and `select` reports data on it. -/
def clientSteps : List Layers.Label :=
  [.loop (.iterate true), .loop (.select 1 {3} false), .loop (.skip 0),
    .loop (.skip 1), .loop (.skip 2), .loop (.accept 3 4 false),
    .loop (.skip 4), .loop (.endPass 5), .loop (.iterate true),
    .loop (.select 1 {4} false), .loop (.skip 0), .loop (.skip 1),
    .loop (.skip 2), .loop (.skip 3)]

/-- The client does not speak TLS. -/
def plainClient : Connection where
  sock := 4
  accept := -1
  answers := []

theorem plainClient_dropped_iff :
    Dropped (reached 3 true clientSteps)
        (reached 3 true (clientSteps ++ [.data plainClient])) plainClient ↔
      plainClient.accept ≠ 0 ∧
        ClosingBefore true (connections clientSteps) :=
  dropped_iff_closingBefore 3 true clientSteps plainClient (by decide)

/-- Before the first request, the failed client stays in `refset`. -/
theorem plainClient_not_dropped :
    Follows (server 3 false) anyStep (server 3 false).initial
        (clientSteps ++ [.data plainClient]) ∧
      Fails plainClient ∧
      4 ∈ (reached 3 false
        (clientSteps ++ [.data plainClient])).loop.refset ∧
      ¬ Dropped (reached 3 false clientSteps)
        (reached 3 false (clientSteps ++ [.data plainClient]))
        plainClient := by
  have stays : 4 ∈ (reached 3 false
      (clientSteps ++ [.data plainClient])).loop.refset := by
    decide
  refine ⟨by decide, by decide, stays, fun dropped => ?_⟩
  exact dropped.removed stays

end ServerUtils.Server.FailedConnections
