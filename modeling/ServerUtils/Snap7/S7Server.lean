import ServerUtils.Snap7.Areas
import ServerUtils.Snap7.IsoTcp

/-!
# The commands of an S7 worker

A worker reads its requests in the payload of `PDU` and builds its answers in
a local object `Answer` of `IsoPayload_Size` bytes.  The reads and the writes
of areas, the negotiation of the PDU length and the dispatch of a received
telegram are modelled; the other commands are a parameter.  `ReadArea` means to
refuse items that do not fit in the negotiated PDU, but subtracts an unsigned
size, so it only refuses an item of exactly the bytes that are left.  A server
with a callback for reads and writes is `ResourceLess`: it looks for no area
and checks no bounds.  Events are left out, and every area has a memory of its
own.
-/

namespace ServerUtils.Snap7.S7Server

open ServerUtils.Parser.StdString
open ServerUtils.Foundation.BlockCopy
open ServerUtils.Snap7.MsgSocket
open ServerUtils.Snap7.IsoTcp
open ServerUtils.Snap7.Areas

def MaxVars : Nat := 20

def MinPduSize : Nat := 240

def ReqHeaderSize : Nat := 10

def ResHeaderSize23 : Nat := 12

def S7WLBit : UInt8 := 0x01

def S7WLByte : UInt8 := 0x02

def S7WLChar : UInt8 := 0x03

def S7WLWord : UInt8 := 0x04

def S7WLInt : UInt8 := 0x05

def S7WLDWord : UInt8 := 0x06

def S7WLDInt : UInt8 := 0x07

def S7WLReal : UInt8 := 0x08

def S7WLCounter : UInt8 := 0x1C

def S7WLTimer : UInt8 := 0x1D

def TS_ResBit : UInt8 := 0x03

def TS_ResByte : UInt8 := 0x04

def TS_ResInt : UInt8 := 0x05

def TS_ResReal : UInt8 := 0x07

def TS_ResOctet : UInt8 := 0x09

def Code7AddressOutOfRange : UInt8 := 0x05

def Code7InvalidTransportSize : UInt8 := 0x06

def Code7WriteDataSizeMismatch : UInt8 := 0x07

def Code7ResItemNotAvailable : UInt8 := 0x0A

/-- `byte(SwapWord(Code7DataOverPDU))`, the high byte of `0x8500`. -/
def Code7DataOverPDU : UInt8 := 0x85

def PduType_request : UInt8 := 1

def PduType_response : UInt8 := 3

def PduType_userdata : UInt8 := 7

def pduFuncRead : UInt8 := 0x04

def pduFuncWrite : UInt8 := 0x05

def pduNegotiate : UInt8 := 0xF0

/-- `DataSizeByte`. -/
def dataSizeByte (WordLength : UInt8) : Nat :=
  if WordLength = S7WLBit ∨ WordLength = S7WLByte ∨ WordLength = S7WLChar then
    1
  else if WordLength = S7WLWord ∨ WordLength = S7WLInt ∨
      WordLength = S7WLCounter ∨ WordLength = S7WLTimer then 2
  else if WordLength = S7WLDWord ∨ WordLength = S7WLDInt ∨
      WordLength = S7WLReal then 4
  else 0

/-! ## Fields in memory -/

/-- `SwapWord` of the word at an address. -/
def wordAt (memory : Memory UInt8) (address : Nat) : Nat :=
  (memory address).toNat * 256 + (memory (address + 1)).toNat

/-- The bytes which `SwapWord(value)` puts in memory. -/
def wordBytes (value : Nat) : Bytes :=
  [UInt8.ofNat (value / 256), UInt8.ofNat value]

/-- The fields of a `TReqFunReadItem` or `TReqFunWriteItem`. -/
structure ReqItem where
  TransportSize : UInt8
  Length : Nat
  DBNumber : UInt16
  Area : UInt8
  Address : Nat

/-- The item at an address. -/
def itemAt (memory : Memory UInt8) (address : Nat) : ReqItem where
  TransportSize := memory (address + 3)
  Length := wordAt memory (address + 4)
  DBNumber := UInt16.ofNat (wordAt memory (address + 6))
  Area := memory (address + 8)
  Address := (memory (address + 9)).toNat * 65536 +
    wordAt memory (address + 10)

namespace ReqItem

/-- The index that `GetArea` is called with. -/
def index (item : ReqItem) : UInt16 :=
  if item.Area = S7AreaDB then item.DBNumber else 0

/-- Timers and counters are read with their own transport size only. -/
def incoherent (item : ReqItem) : Bool :=
  ((item.Area == S7AreaTM) ^^ (item.TransportSize == S7WLTimer)) ||
    ((item.Area == S7AreaCT) ^^ (item.TransportSize == S7WLCounter))

/-- The address is that of an element and not of a bit. -/
def isElement (item : ReqItem) : Bool :=
  item.TransportSize == S7WLCounter || item.TransportSize == S7WLTimer

/-- The address must be that of a whole byte. -/
def misaligned (item : ReqItem) : Bool :=
  item.TransportSize != S7WLBit && !item.isElement && item.Address % 8 != 0

/-- `Start` after the shift.  A timer or counter has two bytes, but the shift
is to the right. -/
def Start (item : ReqItem) : Nat :=
  if item.isElement then item.Address / 2 else item.Address / 8

/-- The size in bytes that is asked for. -/
def Size (item : ReqItem) : Nat :=
  dataSizeByte item.TransportSize * item.Length

/-- `AStart`, which the callback gets. -/
def AStart (item : ReqItem) : Nat :=
  if item.TransportSize = S7WLBit ∨ item.isElement then item.Address
  else item.Address / 8

end ReqItem

/-! ## What is read and written -/

/-- A `TS7Tag`, where `Size` counts elements. -/
structure TS7Tag where
  Area : UInt8
  DBNumber : UInt16
  Start : Nat
  Size : Nat
  WordLen : UInt8

/-- `Tag` of `DoReadArea` and `DoWriteArea`. -/
def ReqItem.tag (item : ReqItem) : TS7Tag where
  Area := item.Area
  DBNumber := item.index
  Start := item.AStart
  Size := item.Length
  WordLen := item.TransportSize

/-- What the callback does in each of its calls: whether it succeeds and, for a
read, the bytes that it leaves at `pUsrData`. -/
structure RWAreaCallBack where
  read : Nat → TS7Tag → Bool × Memory UInt8
  write : Nat → TS7Tag → Memory UInt8 → Bool

/-- The server as far as a worker reads and writes it.  `calls` counts the
calls of the callback, which is set exactly if the server is `ResourceLess`. -/
structure Resources where
  FServer : TSnap7Server
  OnRWArea : Option RWAreaCallBack
  calls : Nat

/-- Where the data of an item come from and go to. -/
inductive Place where
  | area (P : TS7Area)
  | callback (OnRWArea : RWAreaCallBack)

/-- The area that `GetArea` finds, which is not looked for when there is a
callback. -/
def Resources.place (self : Resources) (item : ReqItem) : Option Place :=
  match self.OnRWArea with
  | some OnRWArea => some (.callback OnRWArea)
  | none => (self.FServer.getArea item.Area item.index).map .area

/-! ## Reading -/

/-- A `TResFunReadItem` as far as it is stored, and the size that `ReadArea`
returns. -/
structure ResItem where
  ReturnCode : UInt8
  TransportSize : UInt8
  DataLength : Nat
  Data : Bytes
  Size : Nat

/-- The bytes of an answered item. -/
def ResItem.bytes (item : ResItem) : Bytes :=
  [item.ReturnCode, item.TransportSize] ++ wordBytes item.DataLength ++
    item.Data

/-- `RA_NotFound`, `RA_OutOfRange` and `RA_SizeOverPDU`. -/
def refuse (ReturnCode : UInt8) : ResItem where
  ReturnCode := ReturnCode
  TransportSize := 0x00
  DataLength := 0x0004
  Data := []
  Size := 0

/-- `BitMask[BitIndex]`. -/
def bitMask (BitIndex : Nat) : UInt8 :=
  [0x01, 0x02, 0x04, 0x08, 0x10, 0x20, 0x40, 0x80].getD BitIndex 0

/-- The answer for data that has been read.  A bit is masked out of the first
byte, which is that of the old answer where no byte is read, and `DataLength`
counts bits or bytes. -/
def deliver (item : ReqItem) (data : Bytes) (old : UInt8) : ResItem :=
  let Size := data.length
  if item.TransportSize = S7WLBit then
    let ByteVal := data.headD old
    { ReturnCode := 0xFF, TransportSize := TS_ResBit, DataLength := Size
      Data :=
        [if ByteVal &&& bitMask (item.Address % 8) ≠ 0 then 0x01 else 0x00]
      Size := Size }
  else if item.TransportSize = S7WLInt ∨ item.TransportSize = S7WLDInt then
    ⟨0xFF, TS_ResInt, Size * 8, data, Size⟩
  else if item.TransportSize = S7WLReal then
    ⟨0xFF, TS_ResReal, Size, data, Size⟩
  else if item.TransportSize = S7WLChar ∨ item.isElement then
    ⟨0xFF, TS_ResOctet, Size, data, Size⟩
  else ⟨0xFF, TS_ResByte, Size * 8, data, Size⟩

/-- `ReadArea`: the answer, `PDURemainder` and the server. -/
def readArea (self : Resources) (item : ReqItem) (PDURemainder : Int)
    (old : UInt8) : ResItem × Int × Resources :=
  match self.place item with
  | none => (refuse Code7ResItemNotAvailable, PDURemainder, self)
  | some place =>
      if dataSizeByte item.TransportSize = 0 then
        (refuse Code7AddressOutOfRange, PDURemainder, self)
      else if item.incoherent then
        (refuse Code7AddressOutOfRange, PDURemainder, self)
      -- `Size` is a `longword`, so the difference is one as well.
      else if (PDURemainder - item.Size) % 0x100000000 = 0 then
        (refuse Code7DataOverPDU, PDURemainder, self)
      else
        let PDURemainder := PDURemainder - item.Size
        if item.TransportSize = S7WLBit ∧ 1 < item.Size then
          (refuse Code7AddressOutOfRange, PDURemainder, self)
        else if item.misaligned then
          (refuse Code7AddressOutOfRange, PDURemainder, self)
        else
          match place with
          | .area P =>
              if P.Size.toNat < item.Start + item.Size then
                (refuse Code7AddressOutOfRange, PDURemainder, self)
              else
                (deliver item (load P.PData item.Start item.Size) old,
                  PDURemainder, self)
          | .callback OnRWArea =>
              let after := { self with calls := self.calls + 1 }
              let (succeeds, pUsrData) := OnRWArea.read self.calls item.tag
              let data := load pUsrData 0 item.Size
              if succeeds then
                -- The result of `ReadArea` is a word.
                ({ deliver item data old with Size := item.Size % 65536 },
                  PDURemainder, after)
              else
                ({ refuse Code7ResItemNotAvailable with Data := data },
                  PDURemainder, after)

/-- A worker with its server. -/
structure TS7Worker extends Resources where
  iso : TIsoTcpSocket
  FPDULength : Nat
  /-- `FServer->ForcePDU`. -/
  ForcePDU : Nat

/-- Where the items of a request begin in `PDU`. -/
def ReqItems : Nat := DataHeaderSize + ReqHeaderSize + 2

/-- The first items of the request in `PDU`. -/
def reqItems (PDU : Memory UInt8) (ItemsCount : Nat) : List ReqItem :=
  (List.range ItemsCount).map fun c => itemAt PDU (ReqItems + 12 * c)

/-- The `TS7ResHeader23` of an answer to the request in `PDU`. -/
def resHeader (PDU : Memory UInt8) (ParLen DataLen : Nat) : Bytes :=
  [0x32, PduType_response, 0, 0] ++ load PDU (DataHeaderSize + 4) 2 ++
    wordBytes ParLen ++ wordBytes DataLen ++ [0, 0]

/-- What the loop of `PerformFunctionRead` works on. -/
structure Gathering where
  Answer : Memory UInt8
  Offset : Nat
  PDURemainder : Int
  resources : Resources

/-- One item of `PerformFunctionRead`.  An odd number of bytes is filled up,
but for the last item. -/
def gatherItem (item : ReqItem) (isLast : Bool) (self : Gathering) :
    Except Fault Gathering :=
  let address := ResHeaderSize23 + self.Offset
  let (ResData, PDURemainder, resources) :=
    readArea self.resources item self.PDURemainder (self.Answer (address + 4))
  if IsoPayload_Size < address + ResData.bytes.length then .error .overrun
  else
    let ItemSize :=
      if isLast = false ∧ ResData.Size % 2 ≠ 0 then ResData.Size + 1
      else ResData.Size
    .ok {
      Answer := store self.Answer address ResData.bytes
      Offset := self.Offset + (ItemSize + 4)
      PDURemainder := PDURemainder
      resources := resources }

/-- The loop of `PerformFunctionRead`. -/
def gather : List ReqItem → Gathering → Except Fault Gathering
  | [], self => .ok self
  | item :: items, self => do
      let self ← gatherItem item items.isEmpty self
      gather items self

/-- `PerformFunctionRead`, with the content that `Answer` has at first. -/
def performFunctionRead (self : TS7Worker) (Answer : Memory UInt8) :
    Except Fault (Bool × TS7Worker) := do
  let PDU := self.iso.PDU
  let ItemsCount := min (PDU (ReqItems - 1)).toNat MaxVars
  let gathered ← gather (reqItems PDU ItemsCount)
    ⟨Answer, 2, self.FPDULength, self.toResources⟩
  let Answer := store gathered.Answer 0
    (resHeader PDU 2 (gathered.Offset - 2) ++
      [PDU (ReqItems - 2), UInt8.ofNat ItemsCount])
  let TotalSize := ResHeaderSize23 + gathered.Offset
  let iso := { self.iso with
    PDU := store PDU (ReqItems - 1) [UInt8.ofNat ItemsCount] }
  .ok (true, { self with
    iso := (iso.isoSendBuffer (load Answer 0 TotalSize)).2
    toResources := gathered.resources })

/-! ## Writing -/

/-- The slot of an area after a change of its memory. -/
def TS7Area.setData (PData : Memory UInt8) (area : TS7Area) : TS7Area :=
  { area with PData := PData }

/-- The areas beside the data blocks. -/
def sysArea (S7Code : UInt8) : Option Int :=
  if S7Code = S7AreaPE then some srvAreaPE
  else if S7Code = S7AreaPA then some srvAreaPA
  else if S7Code = S7AreaMK then some srvAreaMK
  else if S7Code = S7AreaCT then some srvAreaCT
  else if S7Code = S7AreaTM then some srvAreaTM
  else none

/-- The server after a copy to the `PData` of the area that `GetArea`
finds. -/
def setArea (server : TSnap7Server) (S7Code : UInt8) (index : UInt16)
    (PData : Memory UInt8) : TSnap7Server :=
  match sysArea S7Code with
  | some AreaCode =>
      { server with
        HA := Function.update server.HA AreaCode
          ((server.HA AreaCode).map (TS7Area.setData PData)) }
  | none =>
      match server.indexOfDB index with
      | none => server
      | some c =>
          { server with
            DB := Function.update server.DB c
              ((server.DB c).map (TS7Area.setData PData)) }

/-- The data that a request carries for an item: a `TReqFunWriteDataItem`. -/
structure ReqData where
  TransportSize : UInt8
  DataLength : Nat
  /-- Where `Data` begins in `PDU`. -/
  Data : Nat

def dataAt (PDU : Memory UInt8) (address : Nat) : ReqData where
  TransportSize := PDU (address + 1)
  DataLength := wordAt PDU (address + 2)
  Data := address + 4

/-- The number of bytes that the data have. -/
def ReqData.bytes (data : ReqData) : Nat :=
  if data.TransportSize ≠ TS_ResOctet ∧ data.TransportSize ≠ TS_ResReal ∧
      data.TransportSize ≠ TS_ResBit then
    data.DataLength / 8
  else data.DataLength

/-- The byte of an area with a bit set or reset. -/
def writeBit (BitIndex : Nat) (isSet : Bool) (old : UInt8) : UInt8 :=
  if isSet then old ||| bitMask BitIndex else old &&& ~~~ bitMask BitIndex

/-- `WriteArea`: the return code and the server. -/
def writeArea (self : Resources) (PDU : Memory UInt8) (item : ReqItem)
    (data : ReqData) : Except Fault (UInt8 × Resources) :=
  match self.place item with
  | none => .ok (Code7ResItemNotAvailable, self)
  | some place =>
      if dataSizeByte item.TransportSize = 0 then
        .ok (Code7InvalidTransportSize, self)
      else if item.incoherent then .ok (Code7AddressOutOfRange, self)
      else if item.TransportSize = S7WLBit ∧ 1 < item.Size then
        .ok (Code7AddressOutOfRange, self)
      else if item.misaligned then .ok (Code7AddressOutOfRange, self)
      else
        match place with
        | .area P =>
            let written (PData : Memory UInt8) : Resources :=
              { self with
                FServer := setArea self.FServer item.Area item.index PData }
            if P.Size.toNat < item.Start + item.Size then
              .ok (Code7AddressOutOfRange, self)
            else if data.bytes ≠ item.Size then
              .ok (Code7WriteDataSizeMismatch, self)
            else if item.TransportSize = S7WLBit then
              -- One byte is read and written, also where the size is 0.
              if IsoFrameSize < data.Data + 1 ∨
                  P.Size.toNat < item.Start + 1 then
                .error .overrun
              else
                let Target := writeBit (item.Address % 8)
                  (PDU data.Data &&& 0x01 != 0) (P.PData item.Start)
                .ok (0xFF, written (store P.PData item.Start [Target]))
            else if IsoFrameSize < data.Data + item.Size then
              .error .overrun
            else
              .ok (0xFF, written
                (store P.PData item.Start (load PDU data.Data item.Size)))
        | .callback OnRWArea =>
            if data.bytes ≠ item.Size then
              .ok (Code7WriteDataSizeMismatch, self)
            else
              let after := { self with calls := self.calls + 1 }
              if OnRWArea.write self.calls item.tag
                  fun offset => PDU (data.Data + offset) then
                .ok (0xFF, after)
              else .ok (Code7ResItemNotAvailable, after)

/-- The size by which `PerformFunctionWrite` looks for the next data. -/
def stepLength (item : ReqItem) (DataLength : Nat) : Nat :=
  let L :=
    if item.TransportSize = S7WLTimer ∨ item.TransportSize = S7WLCounter ∨
        item.TransportSize = S7WLBit then
      DataLength
    else DataLength / 8
  -- The length is always even.
  if L % 2 ≠ 0 then L + 1 else L

/-- The first loop of `PerformFunctionWrite`: where the data of each item
begin. -/
def locate (PDU : Memory UInt8) :
    List ReqItem → Nat → Except Fault (List Nat)
  | [], _ => .ok []
  | item :: items, StartData =>
      if IsoFrameSize < StartData + 4 then .error .overrun
      else do
        let DataLength := wordAt PDU (StartData + 2)
        let later ← locate PDU items
          (StartData + (stepLength item DataLength + 4))
        .ok (StartData :: later)

/-- The second loop of `PerformFunctionWrite`. -/
def writeItems (PDU : Memory UInt8) :
    List (ReqItem × Nat) → Resources → Except Fault (Bytes × Resources)
  | [], self => .ok ([], self)
  | (item, StartData) :: items, self => do
      let (code, self) ← writeArea self PDU item (dataAt PDU StartData)
      let (codes, self) ← writeItems PDU items self
      .ok (code :: codes, self)

/-- `PerformFunctionWrite`.  `ItemsCount` is not cut down to `MaxVars`, the
size of the array `ReqData`. -/
def performFunctionWrite (self : TS7Worker) :
    Except Fault (Bool × TS7Worker) := do
  let PDU := self.iso.PDU
  let ItemsCount := (PDU (ReqItems - 1)).toNat
  let StartData := DataHeaderSize + ReqHeaderSize +
    wordAt PDU (DataHeaderSize + 6)
  if MaxVars < ItemsCount then .error .overrun
  else
    let items := reqItems PDU ItemsCount
    let places ← locate PDU items StartData
    let (codes, resources) ←
      writeItems PDU (items.zip places) self.toResources
    let Answer := resHeader PDU 2 ItemsCount ++
      [pduFuncWrite, UInt8.ofNat ItemsCount] ++ codes
    .ok (true, { self with
      iso := (self.iso.isoSendBuffer Answer).2
      toResources := resources })

/-! ## Negotiating -/

/-- The PDU length that `PerformFunctionNegotiate` answers. -/
def negotiated (ForcePDU ReqLen : Nat) : Nat :=
  if ForcePDU = 0 then
    if ReqLen < MinPduSize then MinPduSize
    else if IsoPayload_Size < ReqLen then IsoPayload_Size
    else ReqLen
  else ForcePDU

/-- `PerformFunctionNegotiate`. -/
def performFunctionNegotiate (self : TS7Worker) : Bool × TS7Worker :=
  let PDU := self.iso.PDU
  let ReqParams := DataHeaderSize + ReqHeaderSize
  let PDULength := negotiated self.ForcePDU (wordAt PDU (ReqParams + 6))
  let Answer := resHeader PDU 8 0 ++ [pduNegotiate, 0] ++
    load PDU (ReqParams + 2) 4 ++ wordBytes PDULength
  (true, { self with
    iso := (self.iso.isoSendBuffer Answer).2
    FPDULength := PDULength })

/-! ## Dispatch -/

/-- The commands that are not modelled. -/
structure OtherCommands where
  /-- `IsoConfirmConnection`. -/
  confirm : UInt8 → TS7Worker → TS7Worker
  /-- A request with another function, which may be unknown. -/
  request : UInt8 → TS7Worker → Except Fault (Bool × TS7Worker)
  /-- `PerformPDUUsrData`. -/
  usrData : TS7Worker → Except Fault (Bool × TS7Worker)

variable (others : OtherCommands)

/-- `CheckPDU_in`. -/
def checkPDU_in (self : TS7Worker) (PayloadSize : Nat) : Bool :=
  let PDU := self.iso.PDU
  let Size := wordAt PDU (DataHeaderSize + 6) +
    wordAt PDU (DataHeaderSize + 8) + ReqHeaderSize
  Size == PayloadSize &&
    (PDU (DataHeaderSize + 1) == PduType_request ||
      PDU (DataHeaderSize + 1) == PduType_userdata)

/-- `PerformPDURequest`, with the content of `Answer`. -/
def performPDURequest (self : TS7Worker) (Answer : Memory UInt8) :
    Except Fault (Bool × TS7Worker) :=
  let PDUFun := self.iso.PDU (DataHeaderSize + ReqHeaderSize)
  if PDUFun = pduFuncRead then performFunctionRead self Answer
  else if PDUFun = pduFuncWrite then performFunctionWrite self
  else if PDUFun = pduNegotiate then .ok (performFunctionNegotiate self)
  else others.request PDUFun self

/-- `IsoPerformCommand`. -/
def isoPerformCommand (self : TS7Worker) (Answer : Memory UInt8)
    (Size : Nat) : Except Fault (Bool × TS7Worker) :=
  if Size = 0 then .ok (true, self)
  else if checkPDU_in self Size then
    if self.iso.PDU (DataHeaderSize + 1) = PduType_request then
      performPDURequest others self Answer
    else others.usrData self
  else .ok (false, self)

/-- `ExecuteRecv` when there is something to read: whether the worker goes on.
Only `LastTcpError` is looked at, not the result of `isoRecvPDU`. -/
def executeRecv (self : TS7Worker) (Answer : Memory UInt8) :
    Except Fault (Bool × TS7Worker) := do
  let (_, iso) ← self.iso.isoRecvPDU
  let self := { self with iso := iso }
  if iso.LastTcpError = 0 then
    match isoPeek iso.PDU with
    | .pkValidData =>
        isoPerformCommand others self Answer
          (pduSize iso.PDU - DataHeaderSize)
    | .pkConnectionRequest =>
        let self := others.confirm pdu_type_CC self
        .ok (self.iso.LastTcpError != WSAECONNRESET, self)
    | .pkDisconnectRequest => .ok (false, others.confirm pdu_type_DC self)
    | .pkEmptyFragment => isoPerformCommand others self Answer 0
    | .pkUnrecognizedType => .ok (true, self)
    | .pkInvalidPDU => do
        let iso ← self.iso.purgeSocket
        .ok (true, { self with iso := iso })
  else .ok (iso.LastTcpError != WSAECONNRESET, self)

end ServerUtils.Snap7.S7Server
