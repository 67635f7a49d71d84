import ServerUtils.Server.SecureLayer

/-!
# What one connection decides about another

`http::observe` sets `close_connection`, `ssl::observe` copies it to
`close_sock` after every event, and the loop resets only the latter.  So the
flag is up from the first request that was delivered, whoever sent it.
-/

namespace ServerUtils.Server.Isolation

open ServerUtils.Foundation.Transition
open ServerUtils.Parser.StdString
open ServerUtils.Server.SelectLoop
open ServerUtils.Server.SecureLayer

/-! ## One event -/

/-- `SSL_accept` does not fail, and the first `SSL_read` returns bytes. -/
def Delivers (e : Connection) : Prop :=
  0 ≤ e.accept ∧ ∃ result ∈ (sslReads e.answers).head?, result.data ≠ []

instance (e : Connection) : Decidable (Delivers e) :=
  inferInstanceAs (Decidable (_ ∧ _))

/-- `recvall` returns bytes when its first `SSL_read` does. -/
theorem readbuf_ne_nil_iff (e : Connection) :
    e.readbuf ≠ [] ↔
      ∃ result ∈ (sslReads e.answers).head?, result.data ≠ [] := by
  rw [e.readbuf_eq]
  cases e.answers with
  | nil => simp [sslReads]
  | cons answer answers =>
      rcases answer with ⟨status, result⟩
      by_cases quiet : status ≤ 0
      · simp [sslReads, quiet]
      · by_cases empty : result.data = []
        · simp [sslReads, quiet, empty, bufSizz]
        · simp [sslReads, quiet, empty]

/-- What `ssl::observe` leaves in `close_sock`. -/
theorem observe_closeSock_iff (ssl : Ssl) (e : Connection) :
    (observe ssl e).2 = true ↔ ssl.close_connection = true ∨ Delivers e := by
  rw [Delivers, ← readbuf_ne_nil_iff]
  by_cases failed : e.accept < 0
  · simp [observe, failed, Ssl.emit]
  · by_cases empty : e.readbuf = []
    · simp [observe, failed, empty, Ssl.emit]
    · simp [observe, failed, empty, Ssl.emit, httpObserve,
        List.length_pos_iff, not_lt.mp failed]

/-! ## Histories -/

/-- The object after a history of events. -/
def handled (ssl : Ssl) (history : List Connection) : Ssl :=
  history.foldl (fun ssl e => (observe ssl e).1) ssl

/-- The flag after a history. -/
theorem handled_closeConnection_iff (ssl : Ssl) (history : List Connection) :
    (handled ssl history).close_connection = true ↔
      ssl.close_connection = true ∨ ∃ e ∈ history, Delivers e := by
  induction history generalizing ssl with
  | nil => simp [handled]
  | cons e history ih =>
      have first : (observe ssl e).1.close_connection = true ↔
          ssl.close_connection = true ∨ Delivers e :=
        observe_closeSock_iff ssl e
      have later := ih (observe ssl e).1
      rw [first, or_assoc] at later
      simpa [handled] using later

/-- What the last event of a history leaves in `close_sock`. -/
def finalCloseSock
    (close_connection : Bool) (history : List Connection)
    (last : Connection) : Bool :=
  (observe (handled (.initial close_connection) history) last).2

/-- The flag is up before the last event: it was to begin with, or an earlier
event has delivered a request. -/
def ClosingBefore
    (close_connection : Bool) (history : List Connection) : Prop :=
  close_connection = true ∨ ∃ e ∈ history, Delivers e

theorem finalCloseSock_iff
    (close_connection : Bool) (history : List Connection)
    (last : Connection) :
    finalCloseSock close_connection history last = true ↔
      Delivers last ∨ ClosingBefore close_connection history := by
  rw [finalCloseSock, observe_closeSock_iff, handled_closeConnection_iff]
  exact or_comm

/-! ## The loop -/

/-- On a data event the loop closes the socket. -/
def Closes (state : SelectLoop.State) (sock : Int) (left : Bool) : Prop :=
  (dataNext state sock left).log =
    state.log ++ [emitData sock, .close sock]

theorem closes_iff
    (state : SelectLoop.State) (sock : Int) (left : Bool) :
    Closes state sock left ↔ left = true := by
  cases left <;> simp [Closes, dataNext, State.act]

/-- The events which a list of labels has for the `ssl` object. -/
def connections (labels : List Layers.Label) : List Connection :=
  labels.filterMap fun
    | .loop _ => none
    | .data e => some e

variable {server_socket : Int} {close_connection : Bool}

/-- Only data events reach the `ssl` object. -/
theorem ssl_follow (layers : Layers) (labels : List Layers.Label) :
    (follow (server server_socket close_connection) layers labels).ssl =
      handled layers.ssl (connections labels) := by
  induction labels generalizing layers with
  | nil => rfl
  | cons label labels ih =>
      cases label with
      | loop step => exact ih _
      | data e => exact ih (layers.serve e)

/-- In a run of the server, the loop takes what the history of its data events
leaves in `close_sock`. -/
theorem loop_follow_data (labels : List Layers.Label) (last : Connection) :
    (follow (server server_socket close_connection)
        (server server_socket close_connection).initial
        (labels ++ [.data last])).loop =
      dataNext
        (follow (server server_socket close_connection)
          (server server_socket close_connection).initial labels).loop
        last.sock
        (finalCloseSock close_connection (connections labels) last) := by
  have reached :
      (follow (server server_socket close_connection)
        (server server_socket close_connection).initial labels).ssl =
        handled (.initial close_connection) (connections labels) :=
    ssl_follow _ labels
  rw [follow_append, finalCloseSock, ← reached]
  rfl

/-! ## Isolation -/

/-- Two data events leave the same `close_sock`, and the loop closes the
socket after both or after neither. -/
structure SameOutcome (sock sock' : Int) (left left' : Bool) : Prop where
  closeSock : left = left'
  closes : ∀ state state' : SelectLoop.State,
    Closes state sock left ↔ Closes state' sock' left'

theorem sameOutcome_iff (sock sock' : Int) (left left' : Bool) :
    SameOutcome sock sock' left left' ↔ (left = true ↔ left' = true) := by
  constructor
  · intro same
    rw [same.closeSock]
  · intro same
    refine ⟨Bool.eq_iff_iff.mpr same, ?_⟩
    intro state state'
    rw [closes_iff, closes_iff]
    exact same

/--
The final event has the same outcome after two histories when it delivers a
request itself, or when the flag was up before it in both or in neither.
-/
theorem sameOutcome_iff_delivers_or_closingBefore
    (close_connection close_connection' : Bool)
    (history history' : List Connection)
    {last last' : Connection}
    (sameAccept : last'.accept = last.accept)
    (sameReads : sslReads last'.answers = sslReads last.answers) :
    SameOutcome last.sock last'.sock
        (finalCloseSock close_connection history last)
        (finalCloseSock close_connection' history' last') ↔
      Delivers last ∨
        (ClosingBefore close_connection history ↔
          ClosingBefore close_connection' history') := by
  have sameDelivery : Delivers last' ↔ Delivers last := by
    rw [Delivers, Delivers, sameAccept, sameReads]
  rw [sameOutcome_iff, finalCloseSock_iff, finalCloseSock_iff, sameDelivery]
  by_cases delivers : Delivers last
  · simp [delivers]
  · simp [delivers]

/-- A client whose request arrives. -/
def request : Connection where
  sock := 4
  accept := 1
  answers := [(1, .bytes (str "GET / HTTP/1.0\r\n\r\n"))]

/-- A client that does not speak TLS. -/
def failedHandshake : Connection where
  sock := 5
  accept := -1
  answers := []

/-- The socket of a failed handshake stays open until somebody has been
served. -/
theorem failedHandshake_outcome_depends :
    ¬ SameOutcome failedHandshake.sock failedHandshake.sock
      (finalCloseSock false [request] failedHandshake)
      (finalCloseSock false [] failedHandshake) := by
  rw [sameOutcome_iff]
  decide

theorem failedHandshake_sameOutcome_iff :
    SameOutcome failedHandshake.sock failedHandshake.sock
        (finalCloseSock false [request] failedHandshake)
        (finalCloseSock false [] failedHandshake) ↔
      Delivers failedHandshake ∨
        (ClosingBefore false [request] ↔ ClosingBefore false []) :=
  sameOutcome_iff_delivers_or_closingBefore false false [request] [] rfl rfl

end ServerUtils.Server.Isolation
