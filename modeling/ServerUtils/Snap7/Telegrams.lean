import ServerUtils.Snap7.Reassembly

/-!
# Payloads from one side to the other

One side calls `isoSendBuffer` for one payload after the other, the other side
calls `isoRecvBuffer` until a call fails.  `isoSendBuffer` takes payloads of up
to 4096 bytes, but `CheckPDU` wants the headers to fit in as well, so a payload
above 4089 bytes is sent and then rejected.  Up to the first such payload the
receiver gets what was sent, at any timing and wherever the connection breaks.
A short send leaves a part of a telegram on the wire, so what is said is about
the calls before the first one.
-/

namespace ServerUtils.Snap7.Telegrams

open ServerUtils.Parser.StdString
open ServerUtils.Foundation.BlockCopy
open ServerUtils.Snap7.MsgSocket
open ServerUtils.Snap7.IsoTcp
open ServerUtils.Snap7.IsoTcp.TIsoTcpSocket
open ServerUtils.Snap7.Fragments
open ServerUtils.Snap7.Reassembly

/-- The telegrams that `isoSendBuffer` sends for the payloads. -/
def telegramsOf (payloads : List Bytes) : List Telegram :=
  payloads.map (dataTelegram pdu_EoT)

/-! ## Sending -/

/-- The payloads which `isoSendBuffer` takes without an error, and the socket
after all of them. -/
def sendAll : TIsoTcpSocket → List Bytes → List Bytes × TIsoTcpSocket
  | self, [] => ([], self)
  | self, Data :: payloads =>
      let (Result, self) := self.isoSendBuffer Data
      let (accepted, self) := sendAll self payloads
      (if Result = 0 then Data :: accepted else accepted, self)

/-- A payload that is taken fits, and its telegram is sent. -/
theorem isoSendBuffer_cases
    (self : TIsoTcpSocket) (Data : Bytes)
    (undivided : (self.sends.headD .whole).Undivided) :
    ((self.isoSendBuffer Data).1 = 0 ∧ Data.length ≤ IsoPayload_Size ∧
      (self.isoSendBuffer Data).2.sent =
        self.sent ++ (dataTelegram pdu_EoT Data).bytes) ∨
    ((self.isoSendBuffer Data).1 ≠ 0 ∧
      (self.isoSendBuffer Data).2.sent = self.sent) := by
  have notEmpty : dataHeader (Data.length + DataHeaderSize) ++ Data ≠ [] :=
    List.cons_ne_nil _ _
  by_cases fits : 0 < Data.length + DataHeaderSize ∧
      Data.length + DataHeaderSize ≤ IsoFrameSize
  · cases isSend : self.sends.headD .whole with
    | whole =>
        have isSent := @TMsgSocket.sendPacket_of_whole
          self.clrIsoError.toTMsgSocket isSend
        simp only [isoSendBuffer, if_pos fits, isSent]
        exact .inl ⟨rfl, Nat.le_of_add_le_add_right fits.2, rfl⟩
    | short count errno =>
        rw [isSend] at undivided
        rcases undivided with ⟨rfl, isReason⟩
        have isSent := @TMsgSocket.sendPacket_of_nothing
          self.clrIsoError.toTMsgSocket errno isSend _ notEmpty
        simp only [isoSendBuffer, if_pos fits, isSent, ne_eq, isReason,
          not_false_eq_true, if_true]
        exact .inr ⟨setIsoError_ne_zero _ (by decide), rfl⟩
  · simp only [isoSendBuffer, if_neg fits]
    exact .inr ⟨setIsoError_ne_zero _ (by decide), rfl⟩

/-- A call of `isoSendBuffer` uses up one send at most. -/
theorem sends_isoSendBuffer (self : TIsoTcpSocket) (Data : Bytes) :
    (self.isoSendBuffer Data).2.sends = self.sends.tail ∨
      (self.isoSendBuffer Data).2.sends = self.sends := by
  simp only [isoSendBuffer]
  split_ifs
  · exact .inl rfl
  · exact .inl rfl
  · exact .inr rfl

/-- No send is short in this many calls. -/
def Undivided (self : TIsoTcpSocket) (calls : Nat) : Prop :=
  ∀ send ∈ self.sends.take calls, send.Undivided

instance (self : TIsoTcpSocket) (calls : Nat) :
    Decidable (Undivided self calls) :=
  inferInstanceAs (Decidable (∀ send ∈ _, Send.Undivided send))

theorem Undivided.first
    {self : TIsoTcpSocket} {calls : Nat}
    (undivided : Undivided self (calls + 1)) :
    (self.sends.headD .whole).Undivided := by
  cases isSends : self.sends with
  | nil => exact True.intro
  | cons send sends =>
      rw [Undivided, isSends] at undivided
      exact undivided send List.mem_cons_self

theorem Undivided.later
    {self : TIsoTcpSocket} {calls : Nat}
    (undivided : Undivided self (calls + 1)) (Data : Bytes) :
    Undivided (self.isoSendBuffer Data).2 calls := by
  intro send isLater
  apply undivided
  rcases sends_isoSendBuffer self Data with isTail | isSame
  · rw [isTail] at isLater
    cases isSends : self.sends with
    | nil =>
        rw [isSends, List.tail_nil, List.take_nil] at isLater
        cases isLater
    | cons first sends =>
        rw [isSends, List.tail_cons] at isLater
        exact List.mem_cons_of_mem _ isLater
  · rw [isSame] at isLater
    exact (List.take_subset_take_left _ (Nat.le_succ calls)) isLater

/-- What is sent are the telegrams of the payloads that were taken. -/
theorem sent_of_sendAll
    (self : TIsoTcpSocket) (payloads : List Bytes)
    (undivided : Undivided self payloads.length) :
    (sendAll self payloads).2.sent =
        self.sent ++ onWire (telegramsOf (sendAll self payloads).1) ∧
      ∀ payload ∈ (sendAll self payloads).1,
        payload.length ≤ IsoPayload_Size := by
  induction payloads generalizing self with
  | nil => simp [sendAll, telegramsOf, onWire]
  | cons Data payloads ih =>
      rcases ih (self.isoSendBuffer Data).2 (undivided.later Data) with
        ⟨isSent, fit⟩
      rw [sendAll]
      rcases isoSendBuffer_cases self Data undivided.first with
        ⟨noError, fits, oneSent⟩ | ⟨isError, noneSent⟩
      · simp only [noError, if_true]
        rw [isSent, oneSent]
        refine ⟨by simp [telegramsOf, onWire], ?_⟩
        rw [List.forall_mem_cons]
        exact ⟨fits, fit⟩
      · simp only [isError, if_false]
        rw [isSent, noneSent]
        exact ⟨rfl, fit⟩

/-! ## Receiving -/

/-- The payloads of at most `count` calls of `isoRecvBuffer`, up to the first
call that fails. -/
def recvAll : Nat → TIsoTcpSocket → List Bytes
  | 0, _ => []
  | count + 1, self =>
      match self.isoRecvBuffer with
      | .ok (0, bytes, after) => bytes :: recvAll count after
      | _ => []

/-- The telegram in front of a stream is determined by it. -/
theorem bytes_append_inj
    {first second : Telegram} {behindFirst behindSecond : Bytes}
    (firstFits : first.payload.length ≤ IsoPayload_Size)
    (secondFits : second.payload.length ≤ IsoPayload_Size)
    (same : first.bytes ++ behindFirst = second.bytes ++ behindSecond) :
    first = second ∧ behindFirst = behindSecond := by
  rw [Telegram.bytes, Telegram.bytes, List.append_assoc, List.append_assoc]
    at same
  rcases List.append_inj same rfl with ⟨sameHeader, sameRest⟩
  simp only [Telegram.header, lengthBytes, List.cons_append,
    List.nil_append, List.cons.injEq, and_true] at sameHeader
  rcases sameHeader with
    ⟨sameVersion, sameReserved, sameHigh, sameLow, sameHLength, sameType,
      sameEoT⟩
  have high := congrArg UInt8.toNat sameHigh
  have low := congrArg UInt8.toNat sameLow
  simp only [UInt8.toNat_ofNat'] at high low
  simp only [IsoPayload_Size] at firstFits secondFits
  have sameLength : first.payload.length = second.payload.length := by
    simp only [DataHeaderSize] at high low
    omega
  rcases List.append_inj sameRest sameLength with ⟨samePayload, sameBehind⟩
  refine ⟨?_, sameBehind⟩
  cases first
  cases second
  rw [Telegram.mk.injEq]
  exact ⟨sameVersion, sameReserved, sameHLength, sameType, sameEoT,
    samePayload⟩

section Receive

variable {self after : TIsoTcpSocket}

/-- A payload that is received is the only one of its telegram. -/
theorem load_of_single
    {telegram : Telegram}
    (reassembled : Reassembled self [telegram] after) :
    load after.PDU DataHeaderSize (pduSize after.PDU - DataHeaderSize) =
      telegram.payload := by
  rw [load_of_reassembled reassembled]
  have isCarried : carried [telegram] = telegram.payload := by
    simp [carried]
  rw [isCarried]
  exact load_store

theorem ends_dataTelegram (payload : Bytes) :
    (dataTelegram pdu_EoT payload).ends = true := by
  have isEnd : (pdu_EoT &&& 0x80 == 0x80) = true := by decide
  simp only [Telegram.ends, dataTelegram, isEnd, Bool.or_true]

/-- The telegram in front of what has been sent is that of the first
payload. -/
theorem first_of_sent
    {payload : Bytes} {payloads : List Bytes} {telegram : Telegram}
    {behind later : Bytes}
    (fit : payload.length ≤ IsoPayload_Size)
    (fits : telegram.payload.length ≤ IsoPayload_Size)
    (sent : telegram.bytes ++ behind <+:
      onWire (telegramsOf (payload :: payloads)) ++ later) :
    telegram = dataTelegram pdu_EoT payload ∧
      behind <+: onWire (telegramsOf payloads) ++ later := by
  rcases sent with ⟨missing, isSent⟩
  rw [List.append_assoc] at isSent
  have isFirst : telegram.bytes ++ (behind ++ missing) =
      (dataTelegram pdu_EoT payload).bytes ++
        (onWire (telegramsOf payloads) ++ later) := by
    simpa [telegramsOf, onWire] using isSent
  rcases bytes_append_inj fits fit isFirst with ⟨isTelegram, isBehind⟩
  exact ⟨isTelegram, missing, isBehind⟩

/-- At any timing, a payload that is received is the next one of the stream,
and it leaves room for the headers. -/
theorem next_of_isoRecvBuffer
    {payload bytes later : Bytes} {payloads : List Bytes}
    (fit : payload.length ≤ IsoPayload_Size)
    (sent : self.stream <+:
      onWire (telegramsOf (payload :: payloads)) ++ later)
    (received : self.isoRecvBuffer = .ok (0, bytes, after)) :
    bytes = payload ∧ bytes.length + DataHeaderSize ≤ IsoPayload_Size ∧
      after.stream <+: onWire (telegramsOf payloads) ++ later := by
  rcases bind_eq_ok_iff.mp received with ⟨⟨Result, socket⟩, isPDU, isBytes⟩
  dsimp only at isBytes
  split_ifs at isBytes with noError
  · subst noError
    cases isBytes
    rcases reassembled_of_isoRecvPDU isPDU with
      ⟨earlier, last, acceptable, _, reassembled⟩
    have isStream : self.stream =
        onWire (earlier ++ [last]) ++ after.stream := reassembled.stream
    rw [isStream] at sent
    cases earlier with
    | nil =>
        have valid := acceptable.valid last (by simp)
        have fits := Nat.le_of_add_right_le valid.fits
        have sentLast : last.bytes ++ after.stream <+:
            onWire (telegramsOf (payload :: payloads)) ++ later := by
          simpa [onWire] using sent
        rcases first_of_sent fit fits sentLast with ⟨isLast, sentLater⟩
        rw [load_of_single reassembled, isLast]
        rw [isLast] at valid
        exact ⟨rfl, valid.fits, sentLater⟩
    | cons first others =>
        have valid := acceptable.valid first (by simp)
        have fits := Nat.le_of_add_right_le valid.fits
        have sentFirst : first.bytes ++ (onWire (others ++ [last]) ++
            after.stream) <+:
              onWire (telegramsOf (payload :: payloads)) ++ later := by
          simpa [onWire] using sent
        rcases first_of_sent fit fits sentFirst with ⟨isFirst, _⟩
        have unfinished := acceptable.unfinished first (by simp)
        rw [isFirst, ends_dataTelegram] at unfinished
        cases unfinished
  · injection isBytes with isTriple
    exact absurd (congrArg Prod.fst isTriple) noError

/-- Nothing is received from an empty stream. -/
theorem stream_of_isoRecvBuffer
    {bytes : Bytes} (received : self.isoRecvBuffer = .ok (0, bytes, after)) :
    self.stream ≠ [] := by
  rcases bind_eq_ok_iff.mp received with ⟨⟨Result, socket⟩, isPDU, isBytes⟩
  dsimp only at isBytes
  split_ifs at isBytes with noError
  · subst noError
    cases isBytes
    rcases reassembled_of_isoRecvPDU isPDU with
      ⟨earlier, last, acceptable, _, reassembled⟩
    intro isEmpty
    have isStream : self.stream =
        onWire (earlier ++ [last]) ++ after.stream := reassembled.stream
    rw [isEmpty] at isStream
    have noLast : last.bytes = [] := by
      simp only [onWire, List.flatMap_append, List.flatMap_singleton,
        List.nil_eq, List.append_eq_nil_iff] at isStream
      exact isStream.1.2
    rw [Telegram.bytes, Telegram.header] at noLast
    cases noLast
  · injection isBytes with isTriple
    exact absurd (congrArg Prod.fst isTriple) noError

/-- A payload that leaves room for the headers is received when its telegram
waits. -/
theorem isoRecvBuffer_of_payload
    {payload rest : Bytes}
    (fits : payload.length + DataHeaderSize ≤ IsoPayload_Size)
    (waits : (dataTelegram pdu_EoT payload).bytes ++ rest <+:
      self.waiting) :
    ∃ after, self.isoRecvBuffer = .ok (0, payload, after) ∧
      rest <+: after.waiting := by
  have acceptable :
      Acceptable [] (dataTelegram pdu_EoT payload) := by
    have valid : (dataTelegram pdu_EoT payload).Valid :=
      ⟨fits, (by decide : 2 ≤ (2 : UInt8).toNat), .inr (.inr rfl)⟩
    refine acceptableFrom_last valid (ends_dataTelegram payload)
      (by decide) ?_
    exact Nat.le_of_add_right_le fits
  have onlyWaits : onWire ([] ++ [dataTelegram pdu_EoT payload]) ++ rest <+:
      self.waiting := by
    simpa [onWire] using waits
  have inside : Inside [dataTelegram pdu_EoT payload] := by
    refine inside_of_contiguous ⟨.inr rfl, True.intro⟩ ?_
    simpa [carried, dataTelegram] using Nat.le_of_add_right_le fits
  rcases (isoRecvPDU_of_waiting acceptable onlyWaits).2 inside with
    ⟨after, isAfter, reassembled, remaining⟩
  refine ⟨after, ?_, remaining⟩
  rw [isoRecvBuffer_of_isoRecvPDU isAfter, load_of_single reassembled]
  rfl

end Receive

/-- Nothing but what has been sent is received, in its order, as long as no
more calls are made or nothing else is sent. -/
theorem recvAll_prefix
    {payloads : List Bytes} {later : Bytes} {count : Nat}
    {self : TIsoTcpSocket}
    (fit : ∀ payload ∈ payloads, payload.length ≤ IsoPayload_Size)
    (sent : self.stream <+: onWire (telegramsOf payloads) ++ later)
    (covered : count ≤ payloads.length ∨ later = []) :
    recvAll count self <+: payloads.takeWhile fun payload =>
      payload.length + DataHeaderSize ≤ IsoPayload_Size := by
  induction count generalizing self payloads with
  | zero => exact List.nil_prefix
  | succ count ih =>
      rw [recvAll]
      split
      case h_1 bytes after received =>
          cases payloads with
          | nil =>
              have isNothing : later = [] :=
                covered.resolve_left (Nat.not_succ_le_zero _)
              subst isNothing
              exact absurd (List.eq_nil_of_prefix_nil sent)
                (stream_of_isoRecvBuffer received)
          | cons payload payloads =>
              rw [List.forall_mem_cons] at fit
              rcases next_of_isoRecvBuffer fit.1 sent received with
                ⟨rfl, leavesRoom, sentLater⟩
              rw [List.takeWhile_cons_of_pos (by simpa using leavesRoom)]
              exact List.cons_prefix_cons.mpr ⟨rfl,
                ih fit.2 sentLater (covered.imp_left Nat.le_of_succ_le_succ)⟩
      case h_2 => exact List.nil_prefix

/-- What waits is received. -/
theorem prefix_recvAll
    {payloads : List Bytes} {count : Nat} {self : TIsoTcpSocket}
    (fit : ∀ payload ∈ payloads,
      payload.length + DataHeaderSize ≤ IsoPayload_Size)
    (enough : payloads.length ≤ count)
    (waits : onWire (telegramsOf payloads) <+: self.waiting) :
    payloads <+: recvAll count self := by
  induction payloads generalizing self count with
  | nil => exact List.nil_prefix
  | cons payload payloads ih =>
      cases count with
      | zero => exact absurd enough (Nat.not_succ_le_zero _)
      | succ count =>
          rw [List.forall_mem_cons] at fit
          have firstWaits : (dataTelegram pdu_EoT payload).bytes ++
              onWire (telegramsOf payloads) <+: self.waiting := by
            simpa [telegramsOf, onWire] using waits
          rcases isoRecvBuffer_of_payload fit.1 firstWaits with
            ⟨after, received, laterWaits⟩
          rw [recvAll, received]
          exact List.cons_prefix_cons.mpr
            ⟨rfl, ih fit.2 (Nat.le_of_succ_le_succ enough) laterWaits⟩

/--
One side sends payloads, none of them by a short send, and then it may send
other bytes; the other side gets some of all these bytes.  At any timing, what
as many calls of `isoRecvBuffer` hand over up to the first one that fails are
payloads that `isoSendBuffer` took, in their order, before the first one of
more than 4089 bytes.  Once their bytes have arrived all of these are handed
over, so what was taken is handed over exactly when no taken payload is longer.
-/
theorem payloads_transported
    (sender receiver : TIsoTcpSocket) (payloads : List Bytes) (later : Bytes)
    (fresh : sender.sent = [])
    (undivided : Undivided sender payloads.length)
    (arrives : receiver.stream <+: (sendAll sender payloads).2.sent ++ later) :
    let accepted := (sendAll sender payloads).1
    let received := accepted.takeWhile fun payload =>
      payload.length + DataHeaderSize ≤ IsoPayload_Size
    (∀ count, count ≤ accepted.length ∨ later = [] →
      recvAll count receiver <+: received) ∧
    ((sendAll sender payloads).2.sent <+: receiver.waiting →
      recvAll accepted.length receiver = received ∧
      (recvAll accepted.length receiver = accepted ↔
        ∀ payload ∈ accepted,
          payload.length + DataHeaderSize ≤ IsoPayload_Size)) := by
  intro accepted received
  rcases sent_of_sendAll sender payloads undivided with ⟨isSent, fit⟩
  rw [fresh, List.nil_append] at isSent
  rw [isSent] at arrives ⊢
  have isPrefix (count : Nat)
      (covered : count ≤ accepted.length ∨ later = []) :
      recvAll count receiver <+: received :=
    recvAll_prefix fit arrives covered
  refine ⟨isPrefix, fun allArrived => ?_⟩
  have isReceived : recvAll accepted.length receiver = received := by
    have isTaken : received <+: accepted := List.takeWhile_prefix _
    have waits : onWire (telegramsOf received) <+: receiver.waiting :=
      ((isTaken.map (dataTelegram pdu_EoT)).flatMap Telegram.bytes).trans
        allArrived
    have leavesRoom : ∀ payload ∈ received,
        payload.length + DataHeaderSize ≤ IsoPayload_Size := by
      intro payload isReceived
      simpa using List.mem_takeWhile_imp isReceived
    have others := prefix_recvAll leavesRoom isTaken.length_le waits
    exact (isPrefix _ (.inl (Nat.le_refl _))).eq_of_length_le
      others.length_le
  refine ⟨isReceived, ?_⟩
  rw [isReceived, List.takeWhile_eq_self_iff]
  simp

section Example

/-- A side that sends two payloads, but fails to send one between them.  The
fourth send takes five bytes of a telegram, and `errno` is 0 then. -/
def exampleSender : TIsoTcpSocket :=
  { connection [] with
    sends := [.whole, .short 0 WSAETIMEDOUT, .whole, .short 5 0] }

def examplePayloads : List Bytes := [str "read", str "write", str "stop"]

/-- What is sent after the payloads. -/
def exampleLater : Bytes := (dataTelegram pdu_EoT (str "start")).bytes.take 5

/-- The other side, where the last bytes come later. -/
def exampleReceiver : TIsoTcpSocket :=
  { connection [] with
    waiting := (sendAll exampleSender examplePayloads).2.sent
    arrivals := [exampleLater] }

theorem examplePayloads_transported :
    let accepted := (sendAll exampleSender examplePayloads).1
    let received := accepted.takeWhile fun payload =>
      payload.length + DataHeaderSize ≤ IsoPayload_Size
    (∀ count, count ≤ accepted.length ∨ exampleLater = [] →
      recvAll count exampleReceiver <+: received) ∧
    ((sendAll exampleSender examplePayloads).2.sent <+:
        exampleReceiver.waiting →
      recvAll accepted.length exampleReceiver = received ∧
      (recvAll accepted.length exampleReceiver = accepted ↔
        ∀ payload ∈ accepted,
          payload.length + DataHeaderSize ≤ IsoPayload_Size)) :=
  payloads_transported exampleSender exampleReceiver examplePayloads
    exampleLater rfl (by decide) (by decide)

/-- The short send is not reported, and its payload counts as taken. -/
example :
    (sendAll exampleSender (examplePayloads ++ [str "start"])).1 =
      [str "read", str "stop", str "start"] := by
  decide

end Example

end ServerUtils.Snap7.Telegrams
