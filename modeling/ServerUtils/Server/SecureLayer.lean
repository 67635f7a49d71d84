import ServerUtils.Parser.StdString
import ServerUtils.Server.SelectLoop

/-!
# The TLS and HTTP layers of the server

`ssl::observe` handles the data events of the select loop and passes requests
to `http::observe`, which is attached to `RDATA_READY`.  The transport below
them, `select` on the socket and `SSL_read`, is a parameter of `recvall`.

The results of one connection may also be given as a list, in the order in
which `recvall` asks for them.  This is no restriction: whatever the transport,
a call of `recvall` that returns has asked for finitely many.

`emitted` and `written` are history: no layer reads them.
-/

namespace ServerUtils.Server.SecureLayer

open ServerUtils.Foundation.Transition
open ServerUtils.Parser.StdString
open ServerUtils.Server.SelectLoop

/-! ## Reading a request -/

/-- `BUFSIZZ`. -/
def bufSizz : Nat := 2048

/-- What `SSL_read` returns. -/
inductive ReadResult where
  /-- a negative number -/
  | failed
  /-- the number of these bytes, which it has written to the buffer -/
  | bytes (data : Bytes)
deriving DecidableEq, Repr

/-- The bytes which a call of `SSL_read` adds to the request. -/
def ReadResult.data : ReadResult → Bytes
  | .failed => []
  | .bytes data => data

/-- A connection seen through `uselect` and `SSL_read`. -/
structure Transport (Channel : Type*) where
  uselect : Channel → Int
  sslRead : Channel → Nat → ReadResult × Channel

variable {Channel : Type*}

/-- The loop of `recvall`; out of fuel is `none`. -/
def recvallLoop (transport : Transport Channel) :
    Nat → Channel → Bytes → Option Bytes
  | 0, _, _ => none
  | fuel + 1, channel, buffer =>
      if transport.uselect channel ≤ 0 then
        some buffer
      else
        match transport.sslRead channel bufSizz with
        | (.failed, _) => some buffer
        | (.bytes data, channel) =>
            if data.length = bufSizz then
              recvallLoop transport fuel channel (buffer ++ data)
            else
              some (buffer ++ data)

/-- `recvall`. -/
def recvall
    (transport : Transport Channel) (fuel : Nat) (channel : Channel) :
    Option Bytes :=
  recvallLoop transport fuel channel []

variable {transport : Transport Channel} {channel : Channel} {buffer : Bytes}

/-- The loop only appends to its buffer. -/
theorem recvallLoop_append (fuel : Nat) (channel : Channel) (buffer : Bytes) :
    recvallLoop transport fuel channel buffer =
      (recvall transport fuel channel).map (buffer ++ ·) := by
  unfold recvall
  induction fuel generalizing channel buffer with
  | zero => rfl
  | succ fuel ih =>
      unfold recvallLoop
      split
      · simp
      · split
        · simp
        · rename_i data rest _
          split
          · rw [ih rest (buffer ++ data), ih rest ([] ++ data),
              Option.map_map]
            simp [Function.comp_def]
          · simp

/-- One iteration of the loop. -/
theorem recvall_succ
    {result : ReadResult} {rest : Channel}
    (asked : transport.sslRead channel bufSizz = (result, rest)) (fuel : Nat) :
    recvall transport (fuel + 1) channel =
      if transport.uselect channel ≤ 0 then
        some []
      else if result.data.length = bufSizz then
        (recvall transport fuel rest).map (result.data ++ ·)
      else
        some result.data := by
  unfold recvall
  rw [recvallLoop, asked]
  split
  · rfl
  · cases result with
    | failed => rfl
    | bytes data =>
        simp only [ReadResult.data, List.nil_append]
        rw [recvallLoop_append]
        rfl

/-- More fuel does not change what is returned. -/
theorem recvall_add
    {fuel : Nat} (returns : recvall transport fuel channel = some buffer)
    (more : Nat) :
    recvall transport (fuel + more) channel = some buffer := by
  induction fuel generalizing channel buffer with
  | zero => cases returns
  | succ fuel ih =>
      rcases asked : transport.sslRead channel bufSizz with ⟨result, rest⟩
      rw [recvall_succ asked] at returns
      rw [Nat.add_right_comm, recvall_succ asked]
      split_ifs at returns ⊢
      · exact returns
      · rcases Option.map_eq_some_iff.mp returns with ⟨tail, read, rfl⟩
        rw [ih read]
        rfl
      · exact returns

/-- The answers to the calls of `uselect` and `SSL_read`, one pair for each
iteration; after them the socket is quiet. -/
abbrev Answers := List (Int × ReadResult)

/-- The transport which gives the listed answers. -/
def scripted : Transport Answers where
  uselect answers := (answers.head?.map Prod.fst).getD 0
  sslRead answers _ :=
    ((answers.head?.map Prod.snd).getD .failed, answers.tail)

/-- The results of the calls of `SSL_read` which `recvall` makes. -/
def sslReads : Answers → List ReadResult
  | [] => []
  | (status, result) :: answers =>
      if status ≤ 0 then
        []
      else
        result ::
          if result.data.length = bufSizz then sslReads answers else []

theorem recvall_scripted_cons
    (fuel : Nat) (status : Int) (result : ReadResult) (answers : Answers) :
    recvall scripted (fuel + 1) ((status, result) :: answers) =
      if status ≤ 0 then
        some []
      else if result.data.length = bufSizz then
        (recvall scripted fuel answers).map (result.data ++ ·)
      else
        some result.data :=
  recvall_succ rfl fuel

/-- On listed answers `recvall` returns what the calls of `SSL_read` gave. -/
theorem recvall_scripted (answers : Answers) :
    recvall scripted (answers.length + 1) answers =
      some ((sslReads answers).flatMap ReadResult.data) := by
  induction answers with
  | nil => rfl
  | cons answer answers ih =>
      rcases answer with ⟨status, result⟩
      rw [List.length_cons, recvall_scripted_cons, ih, sslReads]
      split_ifs
      · rfl
      · simp
      · simp

/-- The answers which a transport gives to a call of `recvall`. -/
def answersOf (transport : Transport Channel) : Nat → Channel → Answers
  | 0, _ => []
  | fuel + 1, channel =>
      match transport.sslRead channel bufSizz with
      | (result, rest) =>
          (transport.uselect channel, result) ::
            answersOf transport fuel rest

/-- A call of `recvall` that returns is one on a list of answers. -/
theorem recvall_answersOf
    {fuel : Nat} (returns : recvall transport fuel channel = some buffer) :
    recvall scripted ((answersOf transport fuel channel).length + 1)
      (answersOf transport fuel channel) = some buffer := by
  rw [recvall_scripted]
  induction fuel generalizing channel buffer with
  | zero => cases returns
  | succ fuel ih =>
      rcases asked : transport.sslRead channel bufSizz with ⟨result, rest⟩
      rw [recvall_succ asked] at returns
      rw [answersOf, asked, sslReads]
      split_ifs at returns ⊢
      · exact returns
      · rcases Option.map_eq_some_iff.mp returns with ⟨tail, read, rfl⟩
        rw [List.flatMap_cons, Option.some.inj (ih read)]
      · simpa using returns

/-! ## The layers -/

/-- The event types of `ssl`. -/
inductive EventType where
  | acceptError
  | acceptOk
  | rdataReady
deriving DecidableEq, Repr

/-- `securelayer::event_t`; an `SSL` object is named by its socket. -/
structure Event where
  t : EventType
  request : Option Bytes
  u_ssl : Option Int
deriving DecidableEq, Repr

/-- The `ssl` object; `written` is what `SSL_write` was given. -/
structure Ssl where
  close_connection : Bool
  emitted : List Event
  written : List (Int × Bytes)
deriving DecidableEq, Repr

/-- The object before its first event; nothing sets `close_connection`. -/
def Ssl.initial (close_connection : Bool) : Ssl where
  close_connection := close_connection
  emitted := []
  written := []

/-- `send_response`. -/
def Ssl.sendResponse (ssl : Ssl) (resp : Bytes) (u_ssl : Int) : Ssl :=
  { ssl with written := ssl.written ++ [(u_ssl, resp)] }

/-- `http::observe`. -/
def httpObserve (ssl : Ssl) (e : Event) : Ssl :=
  let answered :=
    match e.u_ssl with
    | none => ssl
    | some u_ssl =>
        (ssl.sendResponse
          (str "HTTP/1.0 200 OK\r\nServer: EKRServer\r\n\r\n")
          u_ssl).sendResponse (str "Teapot\r\n") u_ssl
  { answered with close_connection := true }

/-- `interrupt[e.t].emit(e)`, with the `http` object on `RDATA_READY`. -/
def Ssl.emit (ssl : Ssl) (e : Event) : Ssl :=
  let logged := { ssl with emitted := ssl.emitted ++ [e] }
  match e.t with
  | .rdataReady => httpObserve logged e
  | _ => logged

/-- A data event of the loop, and what OpenSSL and `select` answer on it. -/
structure Connection where
  sock : Int
  accept : Int
  answers : Answers
deriving DecidableEq, Repr

/-- What `recvall` returns on a connection. -/
def Connection.readbuf (connection : Connection) : Bytes :=
  (recvall scripted (connection.answers.length + 1)
    connection.answers).getD []

theorem Connection.readbuf_eq (connection : Connection) :
    connection.readbuf =
      (sslReads connection.answers).flatMap ReadResult.data := by
  rw [readbuf, recvall_scripted]
  rfl

/-- `ssl::observe`: the object, and what it leaves in `close_sock`. -/
def observe (ssl : Ssl) (e : Connection) : Ssl × Bool :=
  let handled :=
    if e.accept < 0 then
      ssl.emit ⟨.acceptError, none, none⟩
    else
      let accepted := ssl.emit ⟨.acceptOk, none, some e.sock⟩
      let readbuf := e.readbuf
      if 0 < readbuf.length then
        accepted.emit ⟨.rdataReady, some readbuf, some e.sock⟩
      else
        accepted
  (handled, handled.close_connection)

/-- The events of `ssl::observe`. -/
theorem observe_emitted (ssl : Ssl) (e : Connection) :
    (observe ssl e).1.emitted =
      ssl.emitted ++
        if e.accept < 0 then [⟨.acceptError, none, none⟩]
        else
          ⟨.acceptOk, none, some e.sock⟩ ::
            if 0 < e.readbuf.length then
              [⟨.rdataReady, some e.readbuf, some e.sock⟩]
            else [] := by
  by_cases failed : e.accept < 0
  · simp [observe, failed, Ssl.emit]
  · by_cases delivered : 0 < e.readbuf.length
    · simp [observe, failed, delivered, Ssl.emit, httpObserve,
        Ssl.sendResponse]
    · simp [observe, failed, delivered, Ssl.emit]

/-! ## The server -/

/-- The three layers. -/
structure Layers where
  loop : SelectLoop.State
  ssl : Ssl

inductive Layers.Label where
  /-- a step of the loop without a data event -/
  | loop (label : SelectLoop.Label)
  | data (e : Connection)

/-- The listeners of the other events leave `close_sock` alone. -/
def Quiet (close_sock : Bool) : SelectLoop.Label → Prop
  | .data _ _ => False
  | .select _ _ left => left = close_sock
  | .accept _ _ left => left = close_sock
  | _ => True

/-- Part (3.3) of the loop with the `ssl` object on `DATA_AVAILABLE`. -/
def Layers.serve (layers : Layers) (e : Connection) : Layers :=
  let (ssl, left) := observe layers.ssl e
  { loop := dataNext layers.loop e.sock left
    ssl := ssl }

/-- The server on a server socket. -/
def server
    (server_socket : Int) (close_connection : Bool) :
    Machine Layers Layers.Label where
  initial :=
    { loop := SelectLoop.initial server_socket
      ssl := .initial close_connection }
  Enabled state label :=
    match label with
    | .loop step =>
        SelectLoop.Enabled server_socket state.loop step ∧
          Quiet state.loop.close_sock step
    | .data e =>
        SelectLoop.Enabled server_socket state.loop
          (.data e.sock (observe state.ssl e).2)
  next state label :=
    match label with
    | .loop step => { state with loop := SelectLoop.next state.loop step }
    | .data e => state.serve e

instance decidableQuiet (close_sock : Bool) :
    (label : SelectLoop.Label) → Decidable (Quiet close_sock label)
  | .iterate _ => .isTrue True.intro
  | .select _ _ left => inferInstanceAs (Decidable (left = close_sock))
  | .skip _ => .isTrue True.intro
  | .accept _ _ left => inferInstanceAs (Decidable (left = close_sock))
  | .data _ _ => .isFalse not_false
  | .endPass _ => .isTrue True.intro

instance decidableEnabled
    (server_socket : Int) (close_connection : Bool) (state : Layers) :
    (label : Layers.Label) →
      Decidable ((server server_socket close_connection).Enabled state label)
  | .loop step =>
      inferInstanceAs (Decidable
        (SelectLoop.Enabled server_socket state.loop step ∧
          Quiet state.loop.close_sock step))
  | .data e =>
      inferInstanceAs (Decidable
        (SelectLoop.Enabled server_socket state.loop
          (.data e.sock (observe state.ssl e).2)))

end ServerUtils.Server.SecureLayer
