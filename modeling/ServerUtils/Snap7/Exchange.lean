import ServerUtils.Snap7.MicroClient
import ServerUtils.Snap7.Telegrams

/-!
# A client and a worker at the ends of a connection

What the client sends, the worker receives before it acts, and what the worker
sends, the client receives.  Between two exchanges nothing is under way on
either side.  Then a request of at most 4089 bytes is executed, and the client
finds the answer in the payload of its `PDU`.
-/

namespace ServerUtils.Snap7.Exchange

open ServerUtils.Parser.StdString
open ServerUtils.Foundation.BlockCopy
open ServerUtils.Snap7.MsgSocket
open ServerUtils.Snap7.IsoTcp
open ServerUtils.Snap7.IsoTcp.TIsoTcpSocket
open ServerUtils.Snap7.Fragments
open ServerUtils.Snap7.Reassembly
open ServerUtils.Snap7.S7Server
open ServerUtils.Snap7.MicroClient

/-- The other side: a worker, and what the local object `Answer` holds at first
in each of its calls. -/
structure Served where
  worker : TS7Worker
  Answer : Nat → Memory UInt8

/-- The worker receives what has been sent, acts once, and its answer comes
back. -/
def workerPeer (others : OtherCommands) : Peer Served :=
  fun client served => do
    let worker := { served.worker with
      iso := { served.worker.iso with
        waiting := served.worker.iso.waiting ++ client.sent } }
    let (goesOn, worker) ← executeRecv others worker (served.Answer 0)
    .ok ({ client with
        waiting := client.waiting ++ worker.iso.sent
        closed := client.closed || !goesOn
        sent := [] },
      { worker := { worker with iso := { worker.iso with sent := [] } }
        Answer := fun call => served.Answer (call + 1) })

/-- Nothing is under way on this side, and its sends are whole. -/
structure Quiet (socket : TIsoTcpSocket) : Prop where
  waiting : socket.waiting = []
  arrivals : socket.arrivals = []
  closed : socket.closed = false
  sends : socket.sends = []
  sent : socket.sent = []

/-- A client and its worker between two jobs.  The server has areas of its own
and no callback. -/
structure Idle (client : TSnap7MicroClient) (served : Served) : Prop where
  asker : Quiet client.iso
  worker : Quiet served.worker.iso
  own : served.worker.OnRWArea = none

/-- The payload of `PDU` when it has been filled in. -/
theorem load_put (self : TSnap7MicroClient) (bytes : Bytes) :
    load (self.put 0 bytes).iso.PDU DataHeaderSize bytes.length = bytes :=
  load_store

theorem quiet_put
    {self : TSnap7MicroClient} (quiet : Quiet self.iso) (bytes : Bytes) :
    Quiet (self.put 0 bytes).iso :=
  ⟨quiet.waiting, quiet.arrivals, quiet.closed, quiet.sends, quiet.sent⟩

/-- The telegram with which `isoSendBuffer` sends a payload. -/
def wire (payload : Bytes) : Bytes := (dataTelegram pdu_EoT payload).bytes

theorem length_wire (payload : Bytes) :
    (wire payload).length = DataHeaderSize + payload.length := by
  rw [wire, Telegram.bytes, List.length_append, Telegram.length_header]
  rfl

/-- `PDU` after a telegram has been sent or received. -/
def withTelegram (PDU : Memory UInt8) (payload : Bytes) : Memory UInt8 :=
  store PDU 0 (wire payload)

section Socket

variable {self : TIsoTcpSocket} {payload : Bytes}

/-- The payload of a telegram is found behind the headers. -/
theorem load_withTelegram (PDU : Memory UInt8) (payload : Bytes) :
    load (withTelegram PDU payload) DataHeaderSize payload.length =
      payload := by
  have isPlace : DataHeaderSize =
      0 + (dataTelegram pdu_EoT payload).header.length := by
    rw [Telegram.length_header, Nat.zero_add]
  rw [withTelegram, wire, Telegram.bytes, ← store_append, ← isPlace]
  exact load_store

/-- The payload of a telegram stands behind the headers. -/
theorem stands_withTelegram (PDU : Memory UInt8) (payload : Bytes) :
    Stands (withTelegram PDU payload) DataHeaderSize payload := by
  have whole := stands_store PDU 0 (wire payload)
  rw [wire, Telegram.bytes, stands_append, Telegram.length_header,
    Nat.zero_add] at whole
  exact whole.2

/-- The headers of a telegram. -/
theorem headers_withTelegram
    (PDU : Memory UInt8)
    (fits : payload.length + DataHeaderSize ≤ IsoPayload_Size) :
    pduSize (withTelegram PDU payload) = payload.length + DataHeaderSize ∧
      hLength (withTelegram PDU payload) = 2 ∧
      pduType (withTelegram PDU payload) = pdu_type_DT := by
  refine ⟨pduSize_of_lengthBytes ?_ rfl rfl, rfl, rfl⟩
  simp only [IsoPayload_Size] at fits
  omega

theorem isoSendBuffer_of_quiet
    (noErrors : self.sends = []) (fits : payload.length ≤ IsoPayload_Size) :
    self.isoSendBuffer payload =
      (0, { self with
        PDU := withTelegram self.PDU payload
        sent := self.sent ++ wire payload
        LastTcpError := 0
        LastIsoError := 0 }) := by
  have inFrame : 0 < payload.length + DataHeaderSize ∧
      payload.length + DataHeaderSize ≤ IsoFrameSize :=
    ⟨Nat.succ_pos _, Nat.add_le_add_right fits _⟩
  simp only [isoSendBuffer, if_pos inFrame, TMsgSocket.sendPacket, clrIsoError,
    noErrors, List.headD_nil, List.tail_nil, Send.taken, if_true]
  rfl

/-- A packet that waits when nothing more is to arrive. -/
theorem recvPacketInto_of_waiting
    {packet rest : Bytes} {address : Nat} (notEmpty : packet ≠ [])
    (waits : self.waiting = packet ++ rest) (noArrivals : self.arrivals = [])
    (inside : address + packet.length ≤ IsoFrameSize) :
    self.recvPacketInto address packet.length =
      .ok { self with
        waiting := rest
        LastTcpError := 0
        PDU := store self.PDU address packet } := by
  have enough : packet.length ≤ self.waiting.length := by
    rw [waits, List.length_append]
    exact Nat.le_add_right _ _
  have received := TMsgSocket.recvPacket_of_waiting
    (List.length_pos_iff.mpr notEmpty) enough
  rw [waits, List.take_left, List.drop_left] at received
  simp only [recvPacketInto, received, bind, Except.bind, TMsgSocket.arrive,
    noArrivals, List.headD_nil, List.tail_nil, List.append_nil]
  rw [if_neg]
  rintro ⟨_, outside⟩
  exact absurd inside (Nat.not_le_of_lt outside)

/-- A telegram that waits is received whole. -/
theorem isoRecvFragment_of_wire
    (notEmpty : payload ≠ [])
    (fits : payload.length + DataHeaderSize ≤ IsoPayload_Size)
    (waits : self.waiting = wire payload) (noArrivals : self.arrivals = []) :
    self.isoRecvFragment DataHeaderSize IsoPayload_Size =
      .ok ⟨0, payload.length, true,
        { self with
          waiting := []
          LastTcpError := 0
          LastIsoError := 0
          PDU := withTelegram self.PDU payload }⟩ := by
  let telegram := dataTelegram pdu_EoT payload
  have positive : 0 < payload.length := List.length_pos_iff.mpr notEmpty
  have headerWaits : self.clrIsoError.waiting = telegram.header ++ payload := by
    exact waits
  have isSize : pduSize (store self.PDU 0 telegram.header) =
      payload.length + DataHeaderSize := by
    refine pduSize_of_lengthBytes ?_ rfl rfl
    simp only [IsoPayload_Size] at fits
    omega
  have inside : DataHeaderSize + payload.length ≤ IsoFrameSize := by
    rw [IsoFrameSize, Nat.add_comm]
    exact Nat.add_le_add_right (Nat.le_of_add_right_le fits) _
  have together : store (store self.PDU 0 telegram.header) DataHeaderSize
      payload = withTelegram self.PDU payload := by
    have isPlace : DataHeaderSize = 0 + telegram.header.length := by
      rw [Telegram.length_header, Nat.zero_add]
    rw [isPlace, store_append]
    rfl
  let headed : TIsoTcpSocket :=
    { self with
      waiting := payload
      LastTcpError := 0
      LastIsoError := 0
      PDU := store self.PDU 0 telegram.header }
  have isHeader :
      self.clrIsoError.recvPacketInto 0 DataHeaderSize = .ok headed :=
    recvPacketInto_of_waiting (List.cons_ne_nil _ _) headerWaits
      noArrivals (by decide : 0 + 7 ≤ IsoFrameSize)
  have isChecked : headed.checkPDU pdu_type_DT = headed.clrIsoError := by
    refine checkPDU_eq rfl ?_ ?_ (by decide : 2 ≤ (2 : UInt8).toNat)
    · rw [isSize]
      exact Nat.le_add_left _ _
    · rw [isSize]
      exact fits
  have payloadWaits : headed.clrIsoError.waiting = payload ++ [] :=
    (List.append_nil payload).symm
  have received := recvPacketInto_of_waiting notEmpty payloadWaits noArrivals
    inside
  have isPayload : headed.recvPayload DataHeaderSize IsoPayload_Size
      pdu_type_DT true =
        .ok ⟨0, payload.length, true,
          { headed with
            waiting := []
            PDU := withTelegram self.PDU payload }⟩ := by
    have isLength : pduSize headed.PDU - DataHeaderSize = payload.length := by
      rw [isSize, Nat.add_sub_cancel]
    simp only [recvPayload, isChecked, isLength]
    rw [if_neg (fun isError => isError rfl), if_pos positive,
      if_pos (Nat.le_of_add_right_le fits), received]
    simp only [bind, Except.bind]
    rw [if_neg (fun isError => isError rfl)]
    have isPDU : store headed.clrIsoError.PDU DataHeaderSize payload =
        withTelegram self.PDU payload := together
    rw [isPDU]
    rfl
  have isType : pduType headed.PDU = pdu_type_DT := rfl
  have isEoT : (eoT_Num headed.PDU &&& 0x80 == 0x80) = true := by
    have isLast : eoT_Num headed.PDU = pdu_EoT := rfl
    rw [isLast]
    decide
  have notOther :
      ¬ (pdu_type_DT = pdu_type_CR ∨ pdu_type_DT = pdu_type_DR) := by
    decide
  rw [isoRecvFragment, isHeader]
  simp only [bind, Except.bind]
  rw [if_neg (fun isError => isError rfl), isType, if_neg notOther,
    if_pos rfl, isEoT]
  exact isPayload

/-- `isoRecvPDU` on one telegram that waits. -/
theorem isoRecvPDU_of_wire
    (notEmpty : payload ≠ [])
    (fits : payload.length + DataHeaderSize ≤ IsoPayload_Size)
    (waits : self.waiting = wire payload) (noArrivals : self.arrivals = []) :
    self.isoRecvPDU =
      .ok (0, { self with
        waiting := []
        LastTcpError := 0
        LastIsoError := 0
        PDU := withTelegram self.PDU payload }) := by
  have isWaiting : self.clrIsoError.waiting = wire payload := waits
  have fragment := isoRecvFragment_of_wire notEmpty fits isWaiting noArrivals
  have room : 0 < IsoPayload_Size := by decide
  have isLoop : recvLoop (MaxIsoFragments - 1) self.clrIsoError
      DataHeaderSize 0 = _ :=
    recvLoop_of_end room fragment (by simp)
  have sameSize : store (withTelegram self.PDU payload) 2
      (lengthBytes (0 + payload.length + DataHeaderSize)) =
        withTelegram self.PDU payload := by
    rw [Nat.zero_add]
    exact store_load (withTelegram self.PDU payload) 2 2
  rw [isoRecvPDU, isLoop]
  simp only [bind, Except.bind, if_true]
  rw [← sameSize]
  rfl

/-- `isoRecvBuffer` on one telegram that waits. -/
theorem isoRecvBuffer_of_wire
    (notEmpty : payload ≠ [])
    (fits : payload.length + DataHeaderSize ≤ IsoPayload_Size)
    (waits : self.waiting = wire payload) (noArrivals : self.arrivals = []) :
    self.isoRecvBuffer =
      .ok (0, payload, { self with
        waiting := []
        LastTcpError := 0
        LastIsoError := 0
        PDU := withTelegram self.PDU payload }) := by
  rw [isoRecvBuffer_of_isoRecvPDU
    (isoRecvPDU_of_wire notEmpty fits waits noArrivals)]
  have isSize := (headers_withTelegram self.PDU fits).1
  simp only [isSize, Nat.add_sub_cancel, load_withTelegram]

end Socket

/-! ## One exchange -/

section Exchange

variable {others : OtherCommands} {worker after : TS7Worker}
variable {Answer : Memory UInt8} {request answer : Bytes}
variable {World : Type}

/-- The worker when it has received a request. -/
def received (worker : TS7Worker) (request : Bytes) : TS7Worker :=
  { worker with
    iso := { worker.iso with
      waiting := []
      LastTcpError := 0
      LastIsoError := 0
      PDU := withTelegram worker.iso.PDU request } }

/-- A request that waits is executed. -/
theorem executeRecv_of_wire
    (notEmpty : request ≠ [])
    (fits : request.length + DataHeaderSize ≤ IsoPayload_Size)
    (waits : worker.iso.waiting = wire request)
    (noArrivals : worker.iso.arrivals = []) :
    executeRecv others worker Answer =
      isoPerformCommand others (received worker request) Answer
        request.length := by
  rcases headers_withTelegram worker.iso.PDU fits with
    ⟨isSize, _, isType⟩
  have positive : 0 < request.length := List.length_pos_iff.mpr notEmpty
  have isValid : isoPeek (withTelegram worker.iso.PDU request) =
      .pkValidData := by
    rw [isoPeek, isSize, isType, if_neg (by omega), if_neg (by omega)]
    rfl
  rw [executeRecv, isoRecvPDU_of_wire notEmpty fits waits noArrivals]
  simp only [bind, Except.bind, if_true, isValid, isSize,
    Nat.add_sub_cancel]
  rfl

/-- The worker has sent an answer, and nothing else is under way. -/
structure Sends (worker : TS7Worker) (answer : Bytes) : Prop where
  quiet : Quiet { worker.iso with sent := [] }
  sent : worker.iso.sent = wire answer

/-- The worker when its answer has been taken away. -/
def taken (worker : TS7Worker) : TS7Worker :=
  { worker with iso := { worker.iso with sent := [] } }

/-- The client when the exchange is over. -/
def answered (client : TIsoTcpSocket) (request answer : Bytes) :
    TIsoTcpSocket :=
  { client with
    LastTcpError := 0
    LastIsoError := 0
    PDU := withTelegram (withTelegram client.PDU request) answer }

theorem Quiet.answered
    {client : TIsoTcpSocket} (quiet : Quiet client) :
    Quiet (answered client request answer) :=
  ⟨quiet.waiting, quiet.arrivals, quiet.closed, quiet.sends, quiet.sent⟩

/-- The client when it has sent a request. -/
def asked (client : TIsoTcpSocket) (request : Bytes) : TIsoTcpSocket :=
  { client with
    PDU := withTelegram client.PDU request
    sent := client.sent ++ wire request
    LastTcpError := 0
    LastIsoError := 0 }

section Client

variable {client : TIsoTcpSocket} {served : Served} {Size : Nat}

/-- The worker performs the command that it has been sent. -/
theorem workerPeer_of_asked
    (clientQuiet : Quiet client) (workerQuiet : Quiet served.worker.iso)
    (length : request.length = Size) (positive : 0 < Size)
    (fits : Size + DataHeaderSize ≤ IsoPayload_Size) :
    workerPeer others (asked client request) served =
      (isoPerformCommand others (received served.worker request)
        (served.Answer 0) Size).bind fun (goesOn, after) =>
          .ok ({ asked client request with
              waiting := client.waiting ++ after.iso.sent
              closed := client.closed || !goesOn
              sent := [] },
            ⟨taken after, fun call => served.Answer (call + 1)⟩) := by
  have notEmpty : request ≠ [] := by
    rw [← List.length_pos_iff, length]
    exact positive
  have requestFits : request.length + DataHeaderSize ≤ IsoPayload_Size := by
    rw [length]
    exact fits
  let waking : TS7Worker :=
    { served.worker with
      iso := { served.worker.iso with
        waiting := served.worker.iso.waiting ++ (asked client request).sent } }
  have waits : waking.iso.waiting = wire request := by
    show served.worker.iso.waiting ++ (client.sent ++ wire request) = _
    rw [workerQuiet.waiting, clientQuiet.sent]
    rfl
  have executed : executeRecv others waking (served.Answer 0) =
      isoPerformCommand others (received served.worker request)
        (served.Answer 0) Size := by
    rw [executeRecv_of_wire notEmpty requestFits waits workerQuiet.arrivals,
      length]
    rfl
  rw [workerPeer]
  simp only [bind, Except.bind]
  rw [executed]
  rfl

/-- A request is sent before the worker acts. -/
theorem exchange_of_asked
    {peer : Peer World} {world : World}
    (clientQuiet : Quiet client)
    (isRequest : load client.PDU DataHeaderSize Size = request)
    (fits : Size + DataHeaderSize ≤ IsoPayload_Size) :
    isoExchangeBuffer peer client world Size =
      (peer (asked client request) world).bind fun (client, world) =>
        client.isoRecvBuffer.bind fun (Result, _, client) =>
          .ok (Result, client, world) := by
  have length : request.length ≤ IsoPayload_Size := by
    rw [← isRequest, length_load]
    exact Nat.le_of_add_right_le fits
  have noErrors : client.clrIsoError.sends = [] := clientQuiet.sends
  rw [isoExchangeBuffer, isRequest, isoSendBuffer_of_quiet noErrors length]
  rfl

/-- The client finds the answer to its request. -/
theorem exchange_of_answer
    (clientQuiet : Quiet client) (workerQuiet : Quiet served.worker.iso)
    (isRequest : load client.PDU DataHeaderSize Size = request)
    (positive : 0 < Size) (fits : Size + DataHeaderSize ≤ IsoPayload_Size)
    (performed : isoPerformCommand others (received served.worker request)
      (served.Answer 0) Size = .ok (true, after))
    (sends : Sends after answer) (notEmpty : answer ≠ [])
    (answerFits : answer.length + DataHeaderSize ≤ IsoPayload_Size) :
    isoExchangeBuffer (workerPeer others) client served Size =
      .ok (0, answered client request answer,
        ⟨taken after, fun call => served.Answer (call + 1)⟩) := by
  have length : request.length = Size := by
    rw [← isRequest, length_load]
  have acted := @workerPeer_of_asked others request client served Size
    clientQuiet workerQuiet length positive fits
  let answering : TIsoTcpSocket :=
    { asked client request with
      waiting := client.waiting ++ after.iso.sent
      closed := client.closed || !true
      sent := [] }
  have answerWaits : answering.waiting = wire answer := by
    show client.waiting ++ after.iso.sent = _
    rw [clientQuiet.waiting, sends.sent]
    rfl
  have isReceived := isoRecvBuffer_of_wire notEmpty answerFits answerWaits
    clientQuiet.arrivals
  rw [exchange_of_asked clientQuiet isRequest fits, acted, performed]
  simp only [Except.bind]
  rw [isReceived]
  simp [answered, answering, asked, clientQuiet.waiting, clientQuiet.sent]

/-- Where the worker fails, the exchange does. -/
theorem exchange_of_fault
    {fault : Fault}
    (clientQuiet : Quiet client) (workerQuiet : Quiet served.worker.iso)
    (isRequest : load client.PDU DataHeaderSize Size = request)
    (positive : 0 < Size) (fits : Size + DataHeaderSize ≤ IsoPayload_Size)
    (fails : isoPerformCommand others (received served.worker request)
      (served.Answer 0) Size = .error fault) :
    isoExchangeBuffer (workerPeer others) client served Size =
      .error fault := by
  have length : request.length = Size := by
    rw [← isRequest, length_load]
  rw [exchange_of_asked clientQuiet isRequest fits,
    workerPeer_of_asked clientQuiet workerQuiet length positive fits, fails]
  rfl

end Client

end Exchange

end ServerUtils.Snap7.Exchange
