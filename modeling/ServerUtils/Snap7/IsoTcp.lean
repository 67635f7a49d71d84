import ServerUtils.Foundation.BlockCopy
import ServerUtils.Snap7.MsgSocket

/-!
# Telegrams of ISO on TCP

A telegram is a TPKT header of four bytes, a COTP header of three and the
payload.  `TIsoTcpSocket` keeps it in one packed object `PDU`, which the code
also reads as a connection telegram, so `PDU` is a memory whose first bytes
are the headers.  `isoRecvPDU` puts the payloads of several telegrams
together: each fragment is received into `PDU` behind the earlier ones.
-/

namespace ServerUtils.Snap7.IsoTcp

open ServerUtils.Parser.StdString
open ServerUtils.Foundation.BlockCopy
open ServerUtils.Snap7.MsgSocket

def isoTcpVersion : UInt8 := 3

def IsoPayload_Size : Nat := 4096

/-- `sizeof(TTPKT)+sizeof(TCOTP_DT)`. -/
def DataHeaderSize : Nat := 7

/-- The size of the object `PDU`. -/
def IsoFrameSize : Nat := IsoPayload_Size + DataHeaderSize

def MaxIsoFragments : Nat := 64

def errIsoInvalidPDU : Nat := 0x00030000

def errIsoInvalidDataSize : Nat := 0x00040000

def errIsoTooManyFragments : Nat := 0x00070000

def errIsoPduOverflow : Nat := 0x00080000

def errIsoSendPacket : Nat := 0x00090000

def errIsoRecvPacket : Nat := 0x000A0000

def pdu_type_CR : UInt8 := 0xE0

def pdu_type_CC : UInt8 := 0xD0

def pdu_type_DR : UInt8 := 0x80

def pdu_type_DC : UInt8 := 0xC0

def pdu_type_DT : UInt8 := 0xF0

def pdu_EoT : UInt8 := 0x80

/-! ## The packed headers -/

/-- `TPKT.HI_Lenght` and `TPKT.LO_Lenght` as one number. -/
def pduSize (pPDU : Memory UInt8) : Nat :=
  (pPDU 2).toNat * 256 + (pPDU 3).toNat

/-- `HLength` of the COTP header. -/
def hLength (pPDU : Memory UInt8) : UInt8 := pPDU 4

/-- `PDUType` of the COTP header. -/
def pduType (pPDU : Memory UInt8) : UInt8 := pPDU 5

/-- `EoT_Num` of the COTP header. -/
def eoT_Num (pPDU : Memory UInt8) : UInt8 := pPDU 6

/-- The two length bytes of a telegram of `IsoSize` bytes. -/
def lengthBytes (IsoSize : Nat) : Bytes :=
  [UInt8.ofNat (IsoSize / 256), UInt8.ofNat IsoSize]

/-- The header which `isoSendBuffer` builds. -/
def dataHeader (IsoSize : Nat) : Bytes :=
  [isoTcpVersion, 0] ++ lengthBytes IsoSize ++ [2, pdu_type_DT, pdu_EoT]

/-- The kinds of a telegram that `IsoPeek` tells apart. -/
inductive TPDUKind where
  | pkConnectionRequest
  | pkDisconnectRequest
  | pkEmptyFragment
  | pkInvalidPDU
  | pkUnrecognizedType
  | pkValidData
deriving DecidableEq, Repr

/-- `IsoPeek`. -/
def isoPeek (pPDU : Memory UInt8) : TPDUKind :=
  if pduSize pPDU = DataHeaderSize then .pkEmptyFragment
  else if pduSize pPDU < DataHeaderSize then .pkInvalidPDU
  else if pduType pPDU = pdu_type_CR then .pkConnectionRequest
  else if pduType pPDU = pdu_type_DR then .pkDisconnectRequest
  else if pduType pPDU = pdu_type_DT then .pkValidData
  else .pkUnrecognizedType

/-! ## The socket -/

/-- A message socket with its telegram. -/
structure TIsoTcpSocket extends TMsgSocket where
  PDU : Memory UInt8
  LastIsoError : Nat

namespace TIsoTcpSocket

def clrIsoError (self : TIsoTcpSocket) : TIsoTcpSocket :=
  { self with LastIsoError := 0, LastTcpError := 0 }

/-- `SetIsoError`. -/
def setIsoError (self : TIsoTcpSocket) (Error : Nat) : TIsoTcpSocket :=
  { self with LastIsoError := Error ||| self.LastTcpError }

/-- `CheckPDU(&PDU, PduTypeExpected)`: the result is the new `LastIsoError`. -/
def checkPDU (self : TIsoTcpSocket) (PduTypeExpected : UInt8) :
    TIsoTcpSocket :=
  let self := self.clrIsoError
  let Size := pduSize self.PDU
  if Size < 7 ∨ IsoPayload_Size < Size ∨ (hLength self.PDU).toNat < 2 ∨
      pduType self.PDU ≠ PduTypeExpected then
    self.setIsoError errIsoInvalidPDU
  else self

/-- `RecvPacket(&PDU + address, Size)`. -/
def recvPacketInto (self : TIsoTcpSocket) (address Size : Nat) :
    Except Fault TIsoTcpSocket := do
  let (bytes, socket) ← self.toTMsgSocket.recvPacket Size
  if bytes ≠ [] ∧ IsoFrameSize < address + bytes.length then
    .error .overrun
  else
    .ok { self with
      toTMsgSocket := socket, PDU := store self.PDU address bytes }

/-- `Purge()`. -/
def purgeSocket (self : TIsoTcpSocket) : Except Fault TIsoTcpSocket := do
  let socket ← self.toTMsgSocket.purge
  .ok { self with toTMsgSocket := socket }

/-- What `isoRecvFragment` returns, with its reference arguments. -/
structure Fragment where
  Result : Nat
  Size : Nat
  EoT : Bool
  self : TIsoTcpSocket

/-- An error of `isoRecvFragment`. -/
def failFragment (self : TIsoTcpSocket) (EoT : Bool) (Error : Nat) :
    Fragment :=
  { Result := (self.setIsoError Error).LastIsoError
    Size := 0
    EoT := EoT
    self := self.setIsoError Error }

/-- The part of `isoRecvFragment` after its `switch`. -/
def recvPayload
    (self : TIsoTcpSocket) (From Max : Nat) (PDUType : UInt8) (EoT : Bool) :
    Except Fault Fragment :=
  let DataLength := pduSize self.PDU - DataHeaderSize
  let self := self.checkPDU PDUType
  if self.LastIsoError ≠ 0 then .ok ⟨self.LastIsoError, 0, EoT, self⟩
  else if 0 < DataLength then
    if DataLength ≤ Max then do
      let self ← self.recvPacketInto From DataLength
      if self.LastTcpError ≠ 0 then
        .ok (self.failFragment EoT errIsoRecvPacket)
      else .ok ⟨self.LastIsoError, DataLength, EoT, self⟩
    else .ok (self.failFragment EoT errIsoPduOverflow)
  else .ok ⟨self.LastIsoError, 0, EoT, self⟩

/-- `isoRecvFragment(From, Max, Size, EoT)`: the header is received at the
start of `PDU` and the payload at `From`. -/
def isoRecvFragment (self : TIsoTcpSocket) (From Max : Nat) :
    Except Fault Fragment := do
  let self ← self.clrIsoError.recvPacketInto 0 DataHeaderSize
  if self.LastTcpError ≠ 0 then
    .ok (self.failFragment false errIsoRecvPacket)
  else
    let PDUType := pduType self.PDU
    if PDUType = pdu_type_CR ∨ PDUType = pdu_type_DR then
      self.recvPayload From Max PDUType true
    else if PDUType = pdu_type_DT then
      self.recvPayload From Max PDUType (eoT_Num self.PDU &&& 0x80 == 0x80)
    else .ok (self.failFragment false errIsoInvalidPDU)

/-- What the loop of `isoRecvPDU` leaves in its variables. -/
structure Reassembly where
  Result : Nat
  Offset : Nat
  Received : Nat
  self : TIsoTcpSocket

/-- The loop of `isoRecvPDU`, where `left` more fragments may follow the one
that is received.  The offset of all earlier fragments is added to `pData`
each time. -/
def recvLoop : Nat → TIsoTcpSocket → Nat → Nat → Except Fault Reassembly
  | left, self, pData, Offset =>
      let pData := pData + Offset
      if Offset < IsoPayload_Size then do
        let fragment ← self.isoRecvFragment pData (IsoPayload_Size - Offset)
        if fragment.Result = 0 ∧ fragment.EoT = false then
          match left with
          | 0 =>
              let self := fragment.self.setIsoError errIsoTooManyFragments
              .ok ⟨self.LastIsoError, Offset + fragment.Size, fragment.Size,
                self⟩
          | left + 1 =>
              recvLoop left fragment.self pData (Offset + fragment.Size)
        else
          .ok ⟨fragment.Result, Offset, fragment.Size, fragment.self⟩
      else
        let self := self.setIsoError errIsoTooManyFragments
        .ok ⟨self.LastIsoError, Offset, 0, self⟩

/-- `isoRecvPDU(&PDU)`: its result and the socket. -/
def isoRecvPDU (self : TIsoTcpSocket) :
    Except Fault (Nat × TIsoTcpSocket) := do
  let received ← recvLoop (MaxIsoFragments - 1) self.clrIsoError
    DataHeaderSize 0
  let self := received.self
  if received.Result = 0 then
    let Size := received.Offset + received.Received + DataHeaderSize
    .ok (0, { self with PDU := store self.PDU 2 (lengthBytes Size) })
  else if self.LastTcpError ≠ WSAECONNRESET then do
    let self ← self.purgeSocket
    .ok (received.Result, self)
  else .ok (received.Result, self)

/-- `isoRecvBuffer`: its result, the bytes copied to `Data`, and the socket. -/
def isoRecvBuffer (self : TIsoTcpSocket) :
    Except Fault (Nat × Bytes × TIsoTcpSocket) := do
  let (Result, self) ← self.clrIsoError.isoRecvPDU
  if Result = 0 then
    .ok (0, load self.PDU DataHeaderSize (pduSize self.PDU - DataHeaderSize),
      self)
  else .ok (Result, [], self)

/-- `isoSendBuffer(Data, Size)`: its result and the socket. -/
def isoSendBuffer (self : TIsoTcpSocket) (Data : Bytes) :
    Nat × TIsoTcpSocket :=
  let self := self.clrIsoError
  let IsoSize := Data.length + DataHeaderSize
  if 0 < IsoSize ∧ IsoSize ≤ IsoFrameSize then
    let telegram := dataHeader IsoSize ++ Data
    let self :=
      { self with
        toTMsgSocket := self.toTMsgSocket.sendPacket telegram
        PDU := store self.PDU 0 telegram }
    if self.LastTcpError ≠ 0 then
      let self := self.setIsoError errIsoSendPacket
      (self.LastIsoError, self)
    else (0, self)
  else
    let self := self.setIsoError errIsoInvalidDataSize
    (self.LastIsoError, self)

end TIsoTcpSocket

end ServerUtils.Snap7.IsoTcp
