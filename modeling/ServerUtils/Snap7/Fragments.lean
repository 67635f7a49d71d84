import ServerUtils.Snap7.IsoTcp

/-!
# Receiving the fragments of a telegram

`isoRecvPDU` accepts the streams that begin with a list of telegrams of which
only the last ends the transmission.  The loop adds the offset of all earlier
fragments to `pData` each time, and not the size of the last one, so from the
third fragment on a payload goes behind its place: the payloads are put
together only where the ones that are not empty are two neighbours, and the
copy can go past the end of `PDU` although the size check has passed.
-/

namespace ServerUtils.Snap7.Fragments

open ServerUtils.Parser.StdString
open ServerUtils.Foundation.BlockCopy
open ServerUtils.Snap7.MsgSocket
open ServerUtils.Snap7.IsoTcp
open ServerUtils.Snap7.IsoTcp.TIsoTcpSocket

/-! ## One telegram of the stream -/

/-- A telegram as it stands in the stream. -/
structure Telegram where
  Version : UInt8
  Reserved : UInt8
  HLength : UInt8
  PDUType : UInt8
  EoT_Num : UInt8
  payload : Bytes

namespace Telegram

/-- The bytes of the headers. -/
def header (telegram : Telegram) : Bytes :=
  [telegram.Version, telegram.Reserved] ++
    lengthBytes (telegram.payload.length + DataHeaderSize) ++
    [telegram.HLength, telegram.PDUType, telegram.EoT_Num]

def bytes (telegram : Telegram) : Bytes :=
  telegram.header ++ telegram.payload

/-- The telegram passes `CheckPDU` and the `switch` before it. -/
structure Valid (telegram : Telegram) : Prop where
  fits : telegram.payload.length + DataHeaderSize ≤ IsoPayload_Size
  hLength : 2 ≤ telegram.HLength.toNat
  isKnown : telegram.PDUType = pdu_type_CR ∨
    telegram.PDUType = pdu_type_DR ∨ telegram.PDUType = pdu_type_DT

/-- The telegram ends the transmission. -/
def ends (telegram : Telegram) : Bool :=
  telegram.PDUType == pdu_type_CR || telegram.PDUType == pdu_type_DR ||
    telegram.EoT_Num &&& 0x80 == 0x80

@[simp]
theorem length_header (telegram : Telegram) :
    telegram.header.length = DataHeaderSize := rfl

end Telegram

/-- A data telegram with the headers that `isoSendBuffer` builds. -/
def dataTelegram (EoT_Num : UInt8) (payload : Bytes) : Telegram :=
  ⟨isoTcpVersion, 0, 2, pdu_type_DT, EoT_Num, payload⟩

/-- The two length bytes read back. -/
theorem pduSize_of_lengthBytes
    {pPDU : Memory UInt8} {IsoSize : Nat} (small : IsoSize < 65536)
    (high : pPDU 2 = UInt8.ofNat (IsoSize / 256))
    (low : pPDU 3 = UInt8.ofNat IsoSize) :
    pduSize pPDU = IsoSize := by
  rw [pduSize, high, low]
  simp only [UInt8.toNat_ofNat']
  omega

/-- Every two bytes are the length bytes of some size. -/
theorem lengthBytes_of_bytes (high low : UInt8) :
    lengthBytes (high.toNat * 256 + low.toNat) = [high, low] := by
  have isHigh : (high.toNat * 256 + low.toNat) / 256 = high.toNat := by
    have isByte : low.toNat < 256 := low.toNat_lt
    omega
  have isLow : UInt8.ofNat (high.toNat * 256 + low.toNat) = low := by
    apply UInt8.toNat.inj
    have isByte : low.toNat < 256 := low.toNat_lt
    simp only [UInt8.toNat_ofNat']
    omega
  rw [lengthBytes, isHigh, isLow, UInt8.ofNat_toNat]

/-- The headers of a telegram read back from the start of `PDU`. -/
theorem fields_of_header
    (memory : Memory UInt8) {telegram : Telegram} (valid : telegram.Valid) :
    let PDU := store memory 0 telegram.header
    pduSize PDU = telegram.payload.length + DataHeaderSize ∧
      hLength PDU = telegram.HLength ∧ pduType PDU = telegram.PDUType ∧
      eoT_Num PDU = telegram.EoT_Num := by
  refine ⟨pduSize_of_lengthBytes ?_ rfl rfl, rfl, rfl, rfl⟩
  have fits := valid.fits
  simp only [IsoPayload_Size] at fits
  omega

/-! ## One packet -/

/-- The copy of a packet to `address` would go past the end of `PDU`. -/
def Overruns (address : Nat) (packet : Bytes) : Prop :=
  packet ≠ [] ∧ IsoFrameSize < address + packet.length

instance (address : Nat) (packet : Bytes) :
    Decidable (Overruns address packet) :=
  inferInstanceAs (Decidable (_ ∧ _))

/-- A packet of the stream has been copied to `address`. -/
structure Reads
    (before : TIsoTcpSocket) (address : Nat) (packet : Bytes)
    (after : TIsoTcpSocket) : Prop where
  stream : before.stream = packet ++ after.stream
  PDU : after.PDU = store before.PDU address packet
  inside : ¬ Overruns address packet
  noTcpError : after.LastTcpError = 0
  sameIsoError : after.LastIsoError = before.LastIsoError

section Packet

variable {self after : TIsoTcpSocket} {Size : Nat}

/-- A packet that waits is read, and what waits behind it waits on. -/
theorem reads_of_waiting
    (address : Nat) {packet rest : Bytes} (notEmpty : packet ≠ [])
    (waits : packet ++ rest <+: self.waiting) :
    (IsoFrameSize < address + packet.length →
      self.recvPacketInto address packet.length = .error .overrun) ∧
    (address + packet.length ≤ IsoFrameSize →
      ∃ after, self.recvPacketInto address packet.length = .ok after ∧
        Reads self address packet after ∧ rest <+: after.waiting) := by
  rcases waits with ⟨more, isWaiting⟩
  have enough : packet.length ≤ self.waiting.length := by
    rw [← isWaiting]
    simp only [List.length_append]
    omega
  have received := TMsgSocket.recvPacket_of_waiting
    (List.length_pos_iff.mpr notEmpty) enough
  have isTaken : self.waiting.take packet.length = packet := by
    rw [← isWaiting, List.append_assoc, List.take_left]
  have isLeft : self.waiting.drop packet.length = rest ++ more := by
    rw [← isWaiting, List.append_assoc, List.drop_left]
  rw [isTaken, isLeft] at received
  simp only [recvPacketInto, received, bind, Except.bind]
  constructor
  · intro isOutside
    rw [if_pos ⟨notEmpty, isOutside⟩]
  · intro isInside
    rw [if_neg fun outside => Nat.not_lt_of_le isInside outside.2]
    refine ⟨_, rfl, ⟨?_, rfl, ?_, rfl, rfl⟩, ?_⟩
    · rw [← TMsgSocket.stream_arrive self.toTMsgSocket]
      simp [TMsgSocket.stream, TMsgSocket.arrive, ← isWaiting]
    · exact fun outside => Nat.not_lt_of_le isInside outside.2
    · exact ⟨more ++ self.arrivals.headD [], by simp⟩

/-- Whatever the timing, a call without an error has read a packet. -/
theorem reads_of_noError
    (received : self.recvPacketInto address Size = .ok after)
    (noError : after.LastTcpError = 0) :
    ∃ packet, packet.length = Size ∧ Reads self address packet after := by
  rcases bind_eq_ok_iff.mp received with ⟨⟨packet, socket⟩, isPacket, isAfter⟩
  dsimp only at isAfter
  split_ifs at isAfter with overruns
  cases isAfter
  rcases TMsgSocket.stream_of_recvPacket isPacket noError with
    ⟨hasSize, isStream⟩
  exact ⟨packet, hasSize, isStream, rfl, overruns, noError, rfl⟩

end Packet

/-! ## One fragment -/

/-- The telegram is the next one of the stream, and its payload has been
copied to `From`. -/
structure Takes
    (before : TIsoTcpSocket) (From : Nat) (telegram : Telegram)
    (after : TIsoTcpSocket) : Prop where
  stream : before.stream = telegram.bytes ++ after.stream
  PDU : after.PDU =
    store (store before.PDU 0 telegram.header) From telegram.payload
  inside : ¬ Overruns From telegram.payload
  noTcpError : after.LastTcpError = 0
  noIsoError : after.LastIsoError = 0

/-- An error leaves a result that is not zero. -/
theorem setIsoError_ne_zero
    (self : TIsoTcpSocket) {Error : Nat} (isError : Error ≠ 0) :
    (self.setIsoError Error).LastIsoError ≠ 0 := by
  intro isZero
  exact isError (Nat.or_eq_zero_iff.mp isZero).1

section Check

variable {self : TIsoTcpSocket} {PDUType : UInt8}

/-- `CheckPDU` accepts a PDU of the expected type that has room for its
headers and fits in the payload buffer. -/
theorem checkPDU_eq
    (isType : pduType self.PDU = PDUType)
    (hasHeader : 7 ≤ pduSize self.PDU)
    (fits : pduSize self.PDU ≤ IsoPayload_Size)
    (longHeader : 2 ≤ (hLength self.PDU).toNat) :
    self.checkPDU PDUType = self.clrIsoError := by
  rw [checkPDU, if_neg]
  rintro (isShort | isLong | isShortHeader | isOther)
  · exact absurd isShort (Nat.not_lt_of_le hasHeader)
  · exact absurd isLong (Nat.not_lt_of_le fits)
  · exact absurd isShortHeader (Nat.not_lt_of_le longHeader)
  · exact isOther isType

theorem checkPDU_noError
    (noError : (self.checkPDU PDUType).LastIsoError = 0) :
    self.checkPDU PDUType = self.clrIsoError ∧
      7 ≤ pduSize self.PDU ∧ pduSize self.PDU ≤ IsoPayload_Size ∧
      2 ≤ (hLength self.PDU).toNat := by
  rw [checkPDU] at noError ⊢
  split_ifs at noError ⊢ with isBad
  · exact absurd noError
      (setIsoError_ne_zero self.clrIsoError (by decide))
  · refine ⟨rfl, ?_, ?_, ?_⟩
    · exact Nat.le_of_not_lt fun isShort => isBad (.inl isShort)
    · exact Nat.le_of_not_lt fun isLong => isBad (.inr (.inl isLong))
    · exact Nat.le_of_not_lt fun isShort =>
        isBad (.inr (.inr (.inl isShort)))

end Check

section OneFragment

variable {self : TIsoTcpSocket} {Max : Nat} {telegram : Telegram}

/-- The part after the `switch`, on a telegram whose payload waits. -/
theorem recvPayload_of_waiting
    (From : Nat) {rest : Bytes} (EoT : Bool) (valid : telegram.Valid)
    (isSize : pduSize self.PDU = telegram.payload.length + DataHeaderSize)
    (isHLength : hLength self.PDU = telegram.HLength)
    (isType : pduType self.PDU = telegram.PDUType)
    (waits : telegram.payload ++ rest <+: self.waiting)
    (fits : telegram.payload.length ≤ Max) :
    (Overruns From telegram.payload →
      self.recvPayload From Max telegram.PDUType EoT = .error .overrun) ∧
    (¬ Overruns From telegram.payload →
      ∃ after,
        self.recvPayload From Max telegram.PDUType EoT =
          .ok ⟨0, telegram.payload.length, EoT, after⟩ ∧
        self.stream = telegram.payload ++ after.stream ∧
        after.PDU = store self.PDU From telegram.payload ∧
        after.LastTcpError = 0 ∧ after.LastIsoError = 0 ∧
        rest <+: after.waiting) := by
  have isChecked : self.checkPDU telegram.PDUType = self.clrIsoError := by
    refine checkPDU_eq isType ?_ ?_ ?_
    · rw [isSize]
      exact Nat.le_add_left 7 _
    · rw [isSize]
      exact valid.fits
    · rw [isHLength]
      exact valid.hLength
  have isLength : pduSize self.PDU - DataHeaderSize =
      telegram.payload.length := by
    rw [isSize, Nat.add_sub_cancel]
  simp only [recvPayload, isChecked, isLength]
  rw [if_neg (fun isError => isError rfl)]
  by_cases isEmpty : telegram.payload = []
  · rw [isEmpty]
    refine ⟨fun overruns => absurd rfl overruns.1, fun _ => ?_⟩
    refine ⟨self.clrIsoError, rfl, rfl, store_nil.symm, rfl, rfl, ?_⟩
    rw [isEmpty] at waits
    exact waits
  · rw [if_pos (List.length_pos_iff.mpr isEmpty), if_pos fits]
    have isWaiting : telegram.payload ++ rest <+: self.clrIsoError.waiting :=
      waits
    rcases reads_of_waiting From isEmpty isWaiting with
      ⟨overrun, received⟩
    constructor
    · intro overruns
      rw [overrun overruns.2]
      rfl
    · intro inside
      have isInside : From + telegram.payload.length ≤ IsoFrameSize :=
        Nat.le_of_not_lt fun outside => inside ⟨isEmpty, outside⟩
      rcases received isInside with ⟨after, isAfter, reads, remaining⟩
      refine ⟨after, ?_, reads.stream, reads.PDU, reads.noTcpError,
        reads.sameIsoError, remaining⟩
      rw [isAfter]
      simp only [bind, Except.bind, reads.noTcpError]
      rw [if_neg (fun isError => isError rfl), reads.sameIsoError]
      rfl

/-- `isoRecvFragment` on a telegram that waits. -/
theorem isoRecvFragment_of_waiting
    (From : Nat) {rest : Bytes} (valid : telegram.Valid)
    (waits : telegram.bytes ++ rest <+: self.waiting)
    (fits : telegram.payload.length ≤ Max) :
    (Overruns From telegram.payload →
      self.isoRecvFragment From Max = .error .overrun) ∧
    (¬ Overruns From telegram.payload →
      ∃ after,
        self.isoRecvFragment From Max =
          .ok ⟨0, telegram.payload.length, telegram.ends, after⟩ ∧
        Takes self From telegram after ∧ rest <+: after.waiting) := by
  rw [Telegram.bytes, List.append_assoc] at waits
  have isWaiting : telegram.header ++ (telegram.payload ++ rest) <+:
      self.clrIsoError.waiting := waits
  rcases (reads_of_waiting 0 (List.cons_ne_nil _ _) isWaiting).2
      (by decide : 0 + 7 ≤ IsoFrameSize) with
    ⟨headed, isHeaded, reads, waitsBehind⟩
  rcases fields_of_header self.PDU valid with
    ⟨isSize, isHLength, isType, isEoT⟩
  have isPDU : headed.PDU = store self.PDU 0 telegram.header := reads.PDU
  rw [← isPDU] at isSize isHLength isType isEoT
  have whole : self.isoRecvFragment From Max =
      headed.recvPayload From Max telegram.PDUType telegram.ends := by
    have isReceived :
        self.clrIsoError.recvPacketInto 0 DataHeaderSize = .ok headed :=
      isHeaded
    rw [isoRecvFragment, isReceived]
    simp only [bind, Except.bind, reads.noTcpError, isType, isEoT]
    rw [if_neg (fun isError => isError rfl)]
    rcases valid.isKnown with isCR | isDR | isDT
    · simp [isCR, Telegram.ends]
    · simp [isDR, Telegram.ends]
    · simp [isDT, Telegram.ends, pdu_type_CR, pdu_type_DR, pdu_type_DT]
  rcases recvPayload_of_waiting From telegram.ends valid isSize isHLength
      isType waitsBehind fits with
    ⟨overrun, received⟩
  rw [whole]
  refine ⟨overrun, fun inside => ?_⟩
  rcases received inside with
    ⟨after, isAfter, isStream, isStored, noTcpError, noIsoError, remaining⟩
  refine ⟨after, isAfter, ⟨?_, ?_, inside, noTcpError, noIsoError⟩,
    remaining⟩
  · rw [Telegram.bytes, List.append_assoc, ← isStream]
    exact reads.stream
  · rw [isStored, isPDU]

/-- The part after the `switch`, when it returns no error. -/
theorem payload_of_recvPayload
    {PDUType : UInt8} {EoT : Bool} {fragment : Fragment}
    (received : self.recvPayload From Max PDUType EoT = .ok fragment)
    (noError : fragment.Result = 0) :
    7 ≤ pduSize self.PDU ∧ pduSize self.PDU ≤ IsoPayload_Size ∧
      2 ≤ (hLength self.PDU).toNat ∧ fragment.EoT = EoT ∧
      ∃ payload : Bytes,
        payload.length = pduSize self.PDU - DataHeaderSize ∧
        payload.length ≤ Max ∧ fragment.Size = payload.length ∧
        self.stream = payload ++ fragment.self.stream ∧
        fragment.self.PDU = store self.PDU From payload ∧
        ¬ Overruns From payload ∧
        fragment.self.LastTcpError = 0 ∧
        fragment.self.LastIsoError = 0 := by
  simp only [recvPayload] at received
  split_ifs at received with badPDU present fits
  · cases received
    exact absurd noError badPDU
  · rcases checkPDU_noError (not_not.mp badPDU) with ⟨isClear, checked⟩
    rcases bind_eq_ok_iff.mp received with ⟨filled, isFilled, isFragment⟩
    split_ifs at isFragment with tcpError
    · cases isFragment
      exact absurd noError (setIsoError_ne_zero filled (by decide))
    · cases isFragment
      rw [isClear] at isFilled
      rcases reads_of_noError isFilled (not_not.mp tcpError) with
        ⟨payload, hasLength, reads⟩
      refine ⟨checked.1, checked.2.1, checked.2.2, rfl, payload, hasLength,
        ?_, hasLength.symm, reads.stream, reads.PDU, reads.inside,
        reads.noTcpError, reads.sameIsoError⟩
      rw [hasLength]
      exact fits
  · cases received
    exact absurd noError (setIsoError_ne_zero _ (by decide))
  · rcases checkPDU_noError (not_not.mp badPDU) with ⟨isClear, checked⟩
    cases received
    have isEmpty : pduSize self.PDU - DataHeaderSize = 0 :=
      Nat.eq_zero_of_not_pos present
    rw [isClear]
    exact ⟨checked.1, checked.2.1, checked.2.2, rfl, [], isEmpty.symm,
      Nat.zero_le Max, rfl, rfl, store_nil.symm,
      fun overruns => overruns.1 rfl, rfl, rfl⟩

/-- The headers and the payload behind them are a telegram. -/
theorem takes_of_header
    {headed : TIsoTcpSocket} {packet : Bytes} {EoT : Bool}
    {fragment : Fragment}
    (hasLength : packet.length = DataHeaderSize)
    (reads : Reads self.clrIsoError 0 packet headed)
    (isKnown : pduType headed.PDU = pdu_type_CR ∨
      pduType headed.PDU = pdu_type_DR ∨ pduType headed.PDU = pdu_type_DT)
    (isEoT : EoT = (pduType headed.PDU == pdu_type_CR ||
      pduType headed.PDU == pdu_type_DR ||
      eoT_Num headed.PDU &&& 0x80 == 0x80))
    (received : headed.recvPayload From Max (pduType headed.PDU) EoT =
      .ok fragment)
    (noError : fragment.Result = 0) :
    ∃ telegram : Telegram, telegram.Valid ∧
      telegram.payload.length ≤ Max ∧
      fragment.Size = telegram.payload.length ∧
      fragment.EoT = telegram.ends ∧
      Takes self From telegram fragment.self := by
  rcases payload_of_recvPayload received noError with
    ⟨hasHeader, fits, longHeader, sameEoT, payload, isPayload, inMax, isSize,
      isStream, isStored, inside, noTcpError, noIsoError⟩
  have isPDU : headed.PDU = store self.PDU 0 packet := reads.PDU
  match packet, hasLength with
  | [version, reserved, high, low, hLength, type, eoT], _ =>
      let telegram : Telegram :=
        ⟨version, reserved, hLength, type, eoT, payload⟩
      have sizeOfPDU :
          pduSize headed.PDU = high.toNat * 256 + low.toNat := by
        rw [isPDU]
        rfl
      have sizeOfTelegram :
          payload.length + DataHeaderSize = high.toNat * 256 + low.toNat := by
        rw [isPayload, sizeOfPDU]
        exact Nat.sub_add_cancel (sizeOfPDU ▸ hasHeader)
      have isHeader :
          telegram.header =
            [version, reserved, high, low, hLength, type, eoT] := by
        simp only [telegram, Telegram.header, sizeOfTelegram,
          lengthBytes_of_bytes]
        rfl
      rw [isPDU] at isKnown isEoT longHeader
      refine ⟨telegram, ⟨?_, longHeader, isKnown⟩, inMax, isSize, ?_, ?_, ?_,
        inside, noTcpError, noIsoError⟩
      · rw [sizeOfPDU, ← sizeOfTelegram] at fits
        exact fits
      · rw [sameEoT, isEoT]
        rfl
      · rw [Telegram.bytes, isHeader, List.append_assoc, ← isStream]
        exact reads.stream
      · rw [isHeader, isStored, isPDU]

/-- What `isoRecvFragment` has received when it returns no error. -/
theorem takes_of_isoRecvFragment
    {fragment : Fragment}
    (received : self.isoRecvFragment From Max = .ok fragment)
    (noError : fragment.Result = 0) :
    ∃ telegram : Telegram, telegram.Valid ∧
      telegram.payload.length ≤ Max ∧
      fragment.Size = telegram.payload.length ∧
      fragment.EoT = telegram.ends ∧
      Takes self From telegram fragment.self := by
  rcases bind_eq_ok_iff.mp received with ⟨headed, isHeaded, isFragment⟩
  split_ifs at isFragment with tcpError
  · cases isFragment
    exact absurd noError (setIsoError_ne_zero headed (by decide))
  · rcases reads_of_noError isHeaded (not_not.mp tcpError) with
      ⟨packet, hasLength, reads⟩
    dsimp only at isFragment
    split_ifs at isFragment with isControl isData
    · refine takes_of_header hasLength reads ?_ ?_ isFragment noError
      · exact isControl.imp id .inl
      · rcases isControl with isCR | isDR
        · simp [isCR]
        · simp [isDR]
    · refine takes_of_header hasLength reads (.inr (.inr isData)) ?_
        isFragment noError
      simp [isData, pdu_type_CR, pdu_type_DR, pdu_type_DT]
    · cases isFragment
      exact absurd noError (setIsoError_ne_zero headed (by decide))

end OneFragment

end ServerUtils.Snap7.Fragments
