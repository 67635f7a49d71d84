import ServerUtils.Foundation.Rounds
import ServerUtils.Snap7.S7Server

/-!
# Reading and writing areas as a client

`TSnap7MicroClient` builds a request in the payload of its `PDU`, exchanges it
for the answer of the other side, which then is in the payload, and looks up
the results there.  `opReadMultiVars` sends one request for a list of items.
`opReadArea` and `opWriteArea` send as many requests as it takes to transfer one
range, and need not end: the number of elements in a request is a word.
-/

namespace ServerUtils.Snap7.MicroClient

open ServerUtils.Parser.StdString
open ServerUtils.Foundation.BlockCopy
open ServerUtils.Foundation.Rounds
open ServerUtils.Snap7.MsgSocket
open ServerUtils.Snap7.IsoTcp
open ServerUtils.Snap7.Areas
open ServerUtils.Snap7.S7Server

def errCliInvalidParams : Nat := 0x00200000

def errCliTooManyItems : Nat := 0x00400000

def errCliInvalidWordLen : Nat := 0x00500000

def errCliPartialDataWritten : Nat := 0x00600000

def errCliSizeOverPDU : Nat := 0x00700000

def errCliInvalidPlcAnswer : Nat := 0x00800000

def errCliAddressOutOfRange : Nat := 0x00900000

def errCliInvalidTransportSize : Nat := 0x00A00000

def errCliWriteDataSizeMismatch : Nat := 0x00B00000

def errCliItemNotAvailable : Nat := 0x00C00000

def errCliInvalidValue : Nat := 0x00D00000

def errCliFunNotAvailable : Nat := 0x01400000

def errCliNeedPassword : Nat := 0x01D00000

def errCliInvalidPassword : Nat := 0x01E00000

def errCliNoPasswordToSetOrClear : Nat := 0x01F00000

def errCliFunctionRefused : Nat := 0x02300000

/-- `CpuError`. -/
def cpuError (Error : Nat) : Nat :=
  if Error = 0 then 0
  else if Error = 0x0005 then errCliAddressOutOfRange
  else if Error = 0x0006 then errCliInvalidTransportSize
  else if Error = 0x0007 then errCliWriteDataSizeMismatch
  else if Error = 0x000A ∨ Error = 0xD209 then errCliItemNotAvailable
  else if Error = 0x8500 then errCliSizeOverPDU
  else if Error = 0xDC01 then errCliInvalidValue
  else if Error = 0x8104 then errCliFunNotAvailable
  else if Error = 0xD241 then errCliNeedPassword
  else if Error = 0xD602 then errCliInvalidPassword
  else if Error = 0xD605 ∨ Error = 0xD604 then errCliNoPasswordToSetOrClear
  else errCliFunctionRefused

/-- The client with the state that these jobs use. -/
structure TSnap7MicroClient where
  iso : TIsoTcpSocket
  PDULength : Nat
  cntword : Nat

/-- What the other side does with what has been sent, and what it sends. -/
abbrev Peer (World : Type) :=
  TIsoTcpSocket → World → Except Fault (TIsoTcpSocket × World)

variable {World : Type}

/-- `isoExchangeBuffer(0, Size)`: the payload of `PDU` is sent, and the answer
is received into it. -/
def isoExchangeBuffer (peer : Peer World) (self : TIsoTcpSocket)
    (world : World) (Size : Nat) :
    Except Fault (Nat × TIsoTcpSocket × World) :=
  let (Result, self) :=
    self.clrIsoError.isoSendBuffer (load self.PDU DataHeaderSize Size)
  if Result = 0 then do
    let (self, world) ← peer self world
    let (Result, _, self) ← self.isoRecvBuffer
    .ok (Result, self, world)
  else .ok (Result, self, world)

namespace TSnap7MicroClient

/-- `GetNextWord`. -/
def getNextWord (self : TSnap7MicroClient) : Nat × TSnap7MicroClient :=
  let cntword := if self.cntword = 0xFFFF then 0 else self.cntword
  (cntword, { self with cntword := cntword + 1 })

/-- The client with some bytes of the payload of `PDU` set. -/
def put (self : TSnap7MicroClient) (offset : Nat) (bytes : Bytes) :
    TSnap7MicroClient :=
  { self with
    iso := { self.iso with
      PDU := store self.iso.PDU (DataHeaderSize + offset) bytes } }

/-- The exchange of the first `IsoSize` bytes of the payload. -/
def exchange (peer : Peer World) (self : TSnap7MicroClient) (world : World)
    (IsoSize : Nat) : Except Fault (Nat × TSnap7MicroClient × World) := do
  let (Result, iso, world) ← isoExchangeBuffer peer self.iso world IsoSize
  .ok (Result, { self with iso := iso }, world)

end TSnap7MicroClient

/-! ## Requests -/

/-- The conversion to `byte`. -/
def toByte (value : Int) : UInt8 := UInt8.ofNat (value % 256).toNat

/-- An `int` is a code: it is compared before it is cut down to a byte. -/
def IsCode (value : Int) (code : UInt8) : Prop := value = code.toNat

instance (value : Int) (code : UInt8) : Decidable (IsCode value code) :=
  inferInstanceAs (Decidable (_ = _))

/-- `DataSizeByte`. -/
def TSnap7MicroClient.dataSizeByte (WordLength : Int) : Nat :=
  if IsCode WordLength S7WLBit ∨ IsCode WordLength S7WLByte ∨
      IsCode WordLength S7WLChar then 1
  else if IsCode WordLength S7WLWord ∨ IsCode WordLength S7WLInt ∨
      IsCode WordLength S7WLCounter ∨ IsCode WordLength S7WLTimer then 2
  else if IsCode WordLength S7WLDWord ∨ IsCode WordLength S7WLDInt ∨
      IsCode WordLength S7WLReal then 4
  else 0

/-- A `TS7DataItem` without its result.  The data that are written are
`pdata`. -/
structure TS7DataItem where
  Area : Int
  WordLen : Int
  DBNumber : Int
  Start : Int
  Amount : Int
  pdata : Memory UInt8

/-- The conversion to `word`. -/
def toWord (value : Int) : Nat := (value % 65536).toNat

/-- `TS7ReqHeader`.  The sequence number is not swapped. -/
def reqHeader (Sequence ParLen DataLen : Nat) : Bytes :=
  [0x32, PduType_request, 0, 0,
    UInt8.ofNat Sequence, UInt8.ofNat (Sequence / 256)] ++
    wordBytes ParLen ++ wordBytes DataLen

/-- `Address[0..2]`. -/
def addressBytes (Address : Int) : Bytes :=
  [UInt8.ofNat (Address / 65536 % 256).toNat,
    UInt8.ofNat (Address / 256 % 256).toNat,
    UInt8.ofNat (Address % 256).toNat]

/-- The address of a bit, a counter or a timer is `Start` itself. -/
def addressOf (WordLen Start : Int) : Int :=
  if IsCode WordLen S7WLBit ∨ IsCode WordLen S7WLCounter ∨
      IsCode WordLen S7WLTimer then
    Start
  else Start * 8

/-- A `TReqFunReadItem` or `TReqFunWriteItem`. -/
def itemBytes (item : TS7DataItem) : Bytes :=
  [0x12, 0x0A, 0x10, toByte item.WordLen] ++
    wordBytes (toWord item.Amount) ++
    (if IsCode item.Area S7AreaDB then wordBytes (toWord item.DBNumber)
      else [0, 0]) ++
    [toByte item.Area] ++ addressBytes (addressOf item.WordLen item.Start)

/-- Timers and counters have a word length of their own. -/
def adjust (item : TS7DataItem) : TS7DataItem :=
  if IsCode item.Area S7AreaCT then
    { item with WordLen := S7WLCounter.toNat }
  else if IsCode item.Area S7AreaTM then
    { item with WordLen := S7WLTimer.toNat }
  else item

/-! ## Several items -/

/-- The number of bytes that an answered item has. -/
def sliceOf (ReturnCode TransportSize : UInt8) (DataLength : Nat) : Nat :=
  if ReturnCode = 0xFF then
    if TransportSize ≠ TS_ResOctet ∧ TransportSize ≠ TS_ResReal ∧
        TransportSize ≠ TS_ResBit then
      DataLength / 8
    else DataLength
  else 0

/-- The result of an answered item, and the bytes that are copied from it. -/
def parseItem (PDU : Memory UInt8) (address : Nat) :
    Except Fault (Nat × Bytes) :=
  let ReturnCode := PDU address
  let Slice := sliceOf ReturnCode (PDU (address + 1))
    (wordAt PDU (address + 2))
  if IsoFrameSize < address + 4 + Slice then .error .overrun
  else
    .ok (if ReturnCode = 0xFF then 0 else cpuError ReturnCode.toNat,
      load PDU (address + 4) Slice)

/-- The loop of `opReadMultiVars` over the results: for each item its `Result`
and the bytes that are copied to its `pdata`. -/
def parseItems (PDU : Memory UInt8) :
    Nat → Nat → Except Fault (List (Nat × Bytes))
  | 0, _ => .ok []
  | left + 1, address => do
      let (Result, data) ← parseItem PDU address
      let Slice := data.length
      let Slice := if Slice % 2 ≠ 0 then Slice + 1 else Slice
      let later ← parseItems PDU left (address + (4 + Slice))
      .ok ((Result, data) :: later)

/-- Where the header of an answer ends in `PDU`. -/
def ResParams : Nat := DataHeaderSize + ResHeaderSize23

/-- `opReadMultiVars`: its result, and the result and the bytes of each
item. -/
def opReadMultiVars (peer : Peer World) (self : TSnap7MicroClient)
    (world : World) (items : List TS7DataItem) :
    Except Fault (Nat × List (Nat × Bytes) × TSnap7MicroClient × World) :=
  if MaxVars < items.length then
    .ok (errCliTooManyItems, [], self, world)
  else
    let items := items.map adjust
    let RPSize := 2 + items.length * 12
    let (Sequence, self) := self.getNextWord
    let self := self.put 0 (reqHeader Sequence RPSize 0 ++
      [pduFuncRead, UInt8.ofNat items.length] ++ items.flatMap itemBytes)
    let IsoSize := RPSize + ReqHeaderSize
    if self.PDULength < IsoSize then
      .ok (errCliSizeOverPDU, [], self, world)
    else do
      let (Result, self, world) ← self.exchange peer world IsoSize
      let PDU := self.iso.PDU
      let Error := wordAt PDU (ResParams - 2)
      if Result ≠ 0 then .ok (Result, [], self, world)
      else if Error ≠ 0 then .ok (cpuError Error, [], self, world)
      else if (PDU (ResParams + 1)).toNat ≠ items.length then
        .ok (errCliInvalidPlcAnswer, [], self, world)
      else
        let results ← parseItems PDU items.length (ResParams + 2)
        .ok (0, results, self, world)

/-! ## One range -/

/-- What `opReadArea` and `opWriteArea` use of a job. -/
structure TSnap7Job where
  Area : Int
  Number : Int
  Start : Int
  Amount : Int
  WordLen : Int
  pData : Memory UInt8

namespace TSnap7Job

/-- `WordSize`. -/
def WordSize (job : TSnap7Job) : Nat :=
  TSnap7MicroClient.dataSizeByte job.WordLen

/-- The checks of the parameters. -/
def check (job : TSnap7Job) : Nat :=
  if job.WordSize = 0 then errCliInvalidWordLen
  else if job.Number < 0 ∨ 65535 < job.Number ∨ job.Start < 0 ∨
      job.Amount < 1 then
    errCliInvalidParams
  else if IsCode job.WordLen S7WLBit ∧ 1 < job.Amount then
    errCliInvalidTransportSize
  else 0

/-- The item that is asked for in one telegram. -/
def item (job : TSnap7Job) (Start : Int) (NumElements : Nat) : TS7DataItem where
  Area := job.Area
  WordLen := job.WordLen
  DBNumber := job.Number
  Start := Start
  Amount := NumElements
  pdata := job.pData

end TSnap7Job

/-- `NumElements`, which is a word, for one telegram. -/
def numElements (TotElements MaxElements : Int) : Nat :=
  let NumElements := toWord TotElements
  if MaxElements < NumElements then toWord MaxElements else NumElements

/-- `MaxElements` of `opReadArea`, where the size is unsigned. -/
def maxRead (PDULength WordSize : Nat) : Int :=
  let Size : Int := (PDULength - 18) % 0x10000000000000000
  (Size / WordSize).bmod 0x100000000

/-- `MaxElements` of `opWriteArea`. -/
def maxWrite (PDULength WordSize : Nat) : Int :=
  ((PDULength : Int) - 28).tdiv WordSize

/-- The variables of the loops.  `Data` is what has been copied to `pData` so
far. -/
structure Transfer (World : Type) where
  client : TSnap7MicroClient
  world : World
  TotElements : Int
  Start : Int
  Offset : Nat
  First : Bool
  Result : Nat
  Data : Bytes

/-- The condition of both loops. -/
def Transfer.goesOn (self : Transfer World) : Bool :=
  0 < self.TotElements && self.Result == 0

/-- The variables before the first round. -/
def TSnap7Job.start (self : TSnap7MicroClient) (world : World)
    (job : TSnap7Job) : Transfer World where
  client := self
  world := world
  TotElements := job.Amount
  Start := job.Start
  Offset := 0
  First := true
  Result := job.check
  Data := []

/-- One round of `opReadArea`. -/
def readSlice (peer : Peer World) (job : TSnap7Job) (MaxElements : Int)
    (self : Transfer World) : Except Fault (Transfer World) := do
  let WordSize := job.WordSize
  let NumElements := numElements self.TotElements MaxElements
  let (Sequence, client) := self.client.getNextWord
  let client := client.put 0 (reqHeader Sequence 14 0 ++ [pduFuncRead, 1] ++
    itemBytes (job.item self.Start NumElements))
  let (Result, client, world) ← client.exchange peer self.world 24
  let (Result, Data) ←
    if Result = 0 then parseItem client.iso.PDU (ResParams + 2)
    else .ok (Result, [])
  .ok { self with
    client := client
    world := world
    TotElements := self.TotElements - NumElements
    Start := self.Start + NumElements * WordSize
    Offset := self.Offset + Data.length
    Result := Result
    Data := self.Data ++ Data }

/-- `opReadArea`: a failed check leaves nothing to do. -/
def opReadArea (peer : Peer World) (self : TSnap7MicroClient)
    (job : TSnap7Job) : Loop Fault (Transfer World) where
  goesOn := Transfer.goesOn
  body := readSlice peer job
    (maxRead self.PDULength job.WordSize)

/-- The `TransportSize` of data that are written. -/
def dataTransportSize (WordLen : Int) : UInt8 :=
  if IsCode WordLen S7WLBit then TS_ResBit
  else if IsCode WordLen S7WLInt ∨ IsCode WordLen S7WLDInt then TS_ResInt
  else if IsCode WordLen S7WLReal then TS_ResReal
  else if IsCode WordLen S7WLChar ∨ IsCode WordLen S7WLCounter ∨
      IsCode WordLen S7WLTimer then
    TS_ResOctet
  else TS_ResByte

/-- A `TReqFunWriteDataItem`.  `DataLength` counts bits or bytes. -/
def dataBytes (WordLen : Int) (data : Bytes) : Bytes :=
  let TransportSize := dataTransportSize WordLen
  let DataLength :=
    if TransportSize ≠ TS_ResOctet ∧ TransportSize ≠ TS_ResReal ∧
        TransportSize ≠ TS_ResBit then
      data.length * 8
    else data.length
  [0x00, TransportSize] ++ wordBytes DataLength ++ data

/-- One round of `opWriteArea`.  `Offset` is only moved where the exchange
succeeds, `Start` always. -/
def writeSlice (peer : Peer World) (job : TSnap7Job) (MaxElements : Int)
    (self : Transfer World) : Except Fault (Transfer World) :=
  let WordSize := job.WordSize
  let NumElements := numElements self.TotElements MaxElements
  let Size := NumElements * WordSize % 65536
  let (Sequence, client) := self.client.getNextWord
  let client := client.put 0
    (reqHeader Sequence 14 (Size + 4) ++ [pduFuncWrite, 1] ++
      itemBytes (job.item self.Start NumElements) ++
        dataBytes job.WordLen (load job.pData self.Offset Size))
  if IsoFrameSize < DataHeaderSize + 28 + Size then .error .overrun
  else do
    let (Result, client, world) ← client.exchange peer self.world (28 + Size)
    let PDU := client.iso.PDU
    let Error := cpuError (wordAt PDU (ResParams - 2))
    let ReturnCode := PDU (ResParams + 2)
    .ok { self with
      client := client
      world := world
      TotElements := self.TotElements - NumElements
      Start := self.Start + NumElements * WordSize
      Offset := if Result = 0 then self.Offset + Size else self.Offset
      First := false
      Result :=
        if Result ≠ 0 then Result
        else if Error ≠ 0 then Error
        else if ReturnCode = 0xFF then 0
        else if self.First then cpuError ReturnCode.toNat
        else errCliPartialDataWritten }

/-- `opWriteArea`. -/
def opWriteArea (peer : Peer World) (self : TSnap7MicroClient)
    (job : TSnap7Job) : Loop Fault (Transfer World) where
  goesOn := Transfer.goesOn
  body := writeSlice peer job
    (maxWrite self.PDULength job.WordSize)

end ServerUtils.Snap7.MicroClient
