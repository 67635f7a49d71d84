import ServerUtils.Snap7.ReadRange

/-!
# Writing one range in several telegrams

`opWriteArea` writes as many elements at a time as fit in the negotiated PDU.
The worker copies the bytes of each slice to the area or refuses it, and the
client tells a refused first slice from a later one, when some of the bytes are
already in the area.  Nothing else of the server is changed.
-/

namespace ServerUtils.Snap7.WriteRange

open ServerUtils.Parser.StdString
open ServerUtils.Foundation.BlockCopy
open ServerUtils.Foundation.Rounds
open ServerUtils.Snap7.MsgSocket
open ServerUtils.Snap7.IsoTcp
open ServerUtils.Snap7.Areas
open ServerUtils.Snap7.S7Server
open ServerUtils.Snap7.MicroClient
open ServerUtils.Snap7.Exchange
open ServerUtils.Snap7.WireFormat
open ServerUtils.Snap7.ReadItems
open ServerUtils.Snap7.ReadRange

/-! ## The memory of an area -/

section SetArea

variable {server : TSnap7Server} {S7Code : UInt8} {index : UInt16}
variable {area : TS7Area}

theorem getArea_of_sysArea
    {AreaCode : Int} (isSys : sysArea S7Code = some AreaCode) :
    server.getArea S7Code index = server.HA AreaCode := by
  rw [sysArea] at isSys
  rw [TSnap7Server.getArea]
  split_ifs at isSys ⊢
  all_goals rw [← Option.some.inj isSys]

/-- An area that is no other one is a data block. -/
theorem findDB_of_getArea
    (notSys : sysArea S7Code = none)
    (isArea : server.getArea S7Code index = some area) :
    S7Code = S7AreaDB ∧ server.findDB index = some area := by
  rw [sysArea] at notSys
  rw [TSnap7Server.getArea] at isArea
  split_ifs at notSys isArea with _ _ _ _ _ isDB
  exact ⟨isDB, isArea⟩

/-- The data block of a number is in the slot of its index. -/
theorem slot_of_findDB (isBlock : server.findDB index = some area) :
    ∃ c, server.indexOfDB index = some c ∧ server.DB c = some area :=
  Option.bind_eq_some_iff.mp isBlock

/-- The server after a copy to a data block. -/
def setSlot (server : TSnap7Server) (c : Nat) (area : TS7Area) :
    TSnap7Server :=
  { server with DB := Function.update server.DB c (some area) }

/-- A copy does not move a data block. -/
theorem indexOfDB_setSlot
    {c : Nat} {other : TS7Area} (isSlot : server.DB c = some area)
    (same : other.Number = area.Number) (Number : UInt16) :
    (setSlot server c other).indexOfDB Number = server.indexOfDB Number := by
  rw [TSnap7Server.indexOfDB, TSnap7Server.indexOfDB]
  have sameNumber : (setSlot server c other).isNumber Number =
      server.isNumber Number := by
    funext slot
    by_cases isHere : slot = c
    · subst isHere
      simp [TSnap7Server.isNumber, setSlot, isSlot, same]
    · simp [TSnap7Server.isNumber, setSlot, isHere]
  rw [sameNumber]
  rfl

/-- An area is in one of the two tables. -/
theorem getArea_cases (isArea : server.getArea S7Code index = some area) :
    (∃ AreaCode, sysArea S7Code = some AreaCode ∧
      server.HA AreaCode = some area) ∨
    (∃ c, sysArea S7Code = none ∧ S7Code = S7AreaDB ∧
      server.indexOfDB index = some c ∧ server.DB c = some area) := by
  cases isSys : sysArea S7Code with
  | some AreaCode =>
      rw [getArea_of_sysArea isSys] at isArea
      exact .inl ⟨AreaCode, rfl, isArea⟩
  | none =>
      rcases findDB_of_getArea isSys isArea with ⟨isDB, isBlock⟩
      rcases slot_of_findDB isBlock with ⟨c, isIndex, isSlot⟩
      exact .inr ⟨c, rfl, isDB, isIndex, isSlot⟩

theorem setArea_sys
    {AreaCode : Int} (isSys : sysArea S7Code = some AreaCode)
    (isArea : server.HA AreaCode = some area) (PData : Memory UInt8) :
    setArea server S7Code index PData =
      { server with
        HA := Function.update server.HA AreaCode
          (some (TS7Area.setData PData area)) } := by
  simp only [setArea, isSys, isArea, Option.map_some]

theorem setArea_block
    {c : Nat} (notSys : sysArea S7Code = none)
    (isIndex : server.indexOfDB index = some c)
    (isSlot : server.DB c = some area) (PData : Memory UInt8) :
    setArea server S7Code index PData =
      setSlot server c (TS7Area.setData PData area) := by
  simp only [setArea, notSys, isIndex, isSlot, Option.map_some, setSlot]

/-- The worker finds the bytes that have been copied. -/
theorem getArea_setArea
    (isArea : server.getArea S7Code index = some area)
    (PData : Memory UInt8) :
    (setArea server S7Code index PData).getArea S7Code index =
      some (TS7Area.setData PData area) := by
  rcases getArea_cases isArea with
    ⟨AreaCode, isSys, isArea⟩ | ⟨c, notSys, isDB, isIndex, isSlot⟩
  · rw [setArea_sys isSys isArea, getArea_of_sysArea isSys]
    exact Function.update_self _ _ _
  · have sameIndex := @indexOfDB_setSlot server area c
      (TS7Area.setData PData area) isSlot rfl index
    subst isDB
    rw [setArea_block notSys isIndex isSlot]
    show (setSlot server c (TS7Area.setData PData area)).findDB index = _
    rw [TSnap7Server.findDB, sameIndex, isIndex]
    exact Function.update_self _ _ _

/-- Only the last copy is seen. -/
theorem setArea_setArea
    (isArea : server.getArea S7Code index = some area)
    (first second : Memory UInt8) :
    setArea (setArea server S7Code index first) S7Code index second =
      setArea server S7Code index second := by
  rcases getArea_cases isArea with
    ⟨AreaCode, isSys, isArea⟩ | ⟨c, notSys, _, isIndex, isSlot⟩
  · rw [setArea_sys isSys isArea, setArea_sys isSys isArea,
      setArea_sys isSys (Function.update_self _ _ _)]
    simp only [Function.update_idem]
    rfl
  · have sameIndex := @indexOfDB_setSlot server area c
      (TS7Area.setData first area) isSlot rfl index
    rw [setArea_block notSys isIndex isSlot,
      setArea_block notSys isIndex isSlot,
      setArea_block notSys (sameIndex.trans isIndex)
        (Function.update_self _ _ _)]
    simp only [setSlot, Function.update_idem]
    rfl

/-- The bytes that are there already change nothing. -/
theorem setArea_same
    (isArea : server.getArea S7Code index = some area) :
    setArea server S7Code index area.PData = server := by
  rcases getArea_cases isArea with
    ⟨AreaCode, isSys, isArea⟩ | ⟨c, notSys, _, isIndex, isSlot⟩
  · rw [setArea_sys isSys isArea]
    have isSame : some (TS7Area.setData area.PData area) =
        server.HA AreaCode := isArea.symm
    rw [isSame, Function.update_eq_self]
  · rw [setArea_block notSys isIndex isSlot, setSlot]
    have isSame : some (TS7Area.setData area.PData area) = server.DB c :=
      isSlot.symm
    rw [isSame, Function.update_eq_self]

end SetArea

/-! ## Data on the wire -/

section Data

variable {server : TSnap7Server} {job : TSnap7Job} {area : TS7Area}
variable {PDU : Memory UInt8} {first elements address : Nat} {data : Bytes}

theorem length_dataBytes (WordLen : Int) (data : Bytes) :
    (dataBytes WordLen data).length = 4 + data.length := by
  simp only [dataBytes, List.length_append, length_wordBytes,
    List.length_cons, List.length_nil]

/-- The worker finds the size of the data that the client has put. -/
theorem bytes_dataAt
    {WordLen : Int} (small : data.length < 8192)
    (stands : Stands PDU address (dataBytes WordLen data)) :
    (dataAt PDU address).bytes = data.length ∧
      load PDU (dataAt PDU address).Data data.length = data := by
  simp only [dataBytes, stands_append, stands_cons, stands_nil, and_true,
    List.length_append, length_wordBytes, List.length_cons,
    List.length_nil] at stands
  rcases stands with ⟨⟨⟨_, isType⟩, isLength⟩, isData⟩
  have isWord := wordAt_of_stands isLength
  refine ⟨?_, isData.load_eq⟩
  have isLength : (dataAt PDU address).DataLength = _ := isWord
  have isType : (dataAt PDU address).TransportSize = _ := isType
  rw [ReqData.bytes, isType, isLength]
  split_ifs
  · omega
  · omega

/-- The server after a copy to the area of a job. -/
def setRange (server : TSnap7Server) (job : TSnap7Job)
    (PData : Memory UInt8) : TSnap7Server :=
  setArea server (toByte job.Area) (index job) PData

/-- `WriteArea` copies the data to the area, or refuses. -/
theorem writeArea_of_located
    {item : ReqItem} {self : Resources}
    (located : Located job first elements item)
    (ranged : Ranged self.FServer job area) (own : self.OnRWArea = none)
    (small : data.length < 8192)
    (isData : data.length = job.WordSize * elements)
    (stands : Stands PDU address (dataBytes job.WordLen data))
    (inside : address + 4 + data.length ≤ IsoFrameSize) :
    writeArea self PDU item (dataAt PDU address) =
      .ok (if area.Size.toNat < first + data.length then
        (Code7AddressOutOfRange, self)
      else
        (0xFF, { self with
          FServer := setRange self.FServer job
            (store area.PData first data) })) := by
  rcases ranged.wordLen.toByte with ⟨sameWidth, notBit, _⟩
  have hasWidth : dataSizeByte (toByte job.WordLen) ≠ 0 := by
    rw [sameWidth]
    exact Nat.ne_of_gt ranged.width.1
  rcases bytes_dataAt small stands with ⟨isSize, isLoad⟩
  have isPlace : self.place item = some (.area area) := by
    rw [place_of_own own, located.Area, located.index, ranged.isArea]
    rfl
  have inFrame : ¬ IsoFrameSize <
      (dataAt PDU address).Data + job.WordSize * elements := by
    rw [← isData]
    exact Nat.not_lt_of_le inside
  rw [isData] at isLoad isSize
  simp only [S7Server.writeArea, isPlace, isData, located.Area, located.index,
    located.TransportSize, located.coherent, located.aligned, located.Start,
    located.Size, notBit, false_and, if_false, Bool.false_eq_true, isSize,
    ne_eq, not_true_eq_false, isLoad]
  rw [if_neg hasWidth, if_neg inFrame]
  split
  · rfl
  · rfl

end Data

/-! ## The exchange -/

section Exchanged

variable {others : OtherCommands} {worker : TS7Worker} {resources : Resources}
variable {items : List TS7DataItem} {codes data : Bytes} {places : List Nat}
variable {self : TSnap7MicroClient} {served : Served}

/-- What `PerformFunctionWrite` sends. -/
def writeAnswer (PDU : Memory UInt8) (codes : Bytes) : Bytes :=
  resHeader PDU 2 codes.length ++ [pduFuncWrite, UInt8.ofNat codes.length] ++
    codes

theorem length_writeAnswer (PDU : Memory UInt8) (codes : Bytes) :
    (writeAnswer PDU codes).length = ResHeaderSize23 + 2 + codes.length := by
  rw [writeAnswer, List.length_append, List.length_append, length_resHeader]
  rfl

/-- The worker when it has sent the answer. -/
def hasWritten (worker : TS7Worker) (resources : Resources)
    (answer : Bytes) : TS7Worker :=
  { worker with
    iso := { worker.iso with
      PDU := withTelegram worker.iso.PDU answer
      sent := worker.iso.sent ++ wire answer
      LastTcpError := 0
      LastIsoError := 0 }
    toResources := resources }

/-- `PerformFunctionWrite` answers with the codes of the items. -/
theorem performFunctionWrite_of_items
    {DataLen : Nat}
    (requests : Requests worker.iso.PDU DataLen pduFuncWrite items)
    (few : items.length ≤ MaxVars) (noErrors : worker.iso.sends = [])
    (located : locate worker.iso.PDU (items.map decoded)
      (DataHeaderSize + 12 + 12 * items.length) = .ok places)
    (written : writeItems worker.iso.PDU ((items.map decoded).zip places)
      worker.toResources = .ok (codes, resources))
    (count : codes.length = items.length) :
    performFunctionWrite worker =
      .ok (true, hasWritten worker resources
        (writeAnswer worker.iso.PDU codes)) := by
  have isStart : DataHeaderSize + ReqHeaderSize + (2 + items.length * 12) =
      DataHeaderSize + 12 + 12 * items.length := by
    rw [ReqHeaderSize]
    omega
  have fits : (writeAnswer worker.iso.PDU codes).length ≤
      IsoPayload_Size := by
    rw [MaxVars] at few
    rw [length_writeAnswer, ResHeaderSize23, IsoPayload_Size]
    omega
  have sends := isoSendBuffer_of_quiet noErrors fits
  rw [performFunctionWrite, requests.count, requests.items, requests.parLen,
    isStart, if_neg (Nat.not_lt_of_le few)]
  simp only [located, bind, Except.bind, written]
  rw [← count, ← writeAnswer, sends]
  rfl

theorem sends_hasWritten
    {answer : Bytes} (quiet : Quiet worker.iso) :
    Sends (hasWritten worker resources answer) answer where
  quiet := ⟨quiet.waiting, quiet.arrivals, quiet.closed, quiet.sends,
    rfl⟩
  sent := by
    show worker.iso.sent ++ wire answer = wire answer
    rw [quiet.sent, List.nil_append]

/-- What the client reads in the answer. -/
theorem answer_of_codes
    {PDU request : Memory UInt8}
    (stands : Stands PDU DataHeaderSize (writeAnswer request codes))
    (few : codes.length ≤ MaxVars) :
    wordAt PDU (ResParams - 2) = 0 ∧
      (PDU (ResParams + 1)).toNat = codes.length ∧
      Stands PDU (ResParams + 2) codes := by
  simp only [writeAnswer, resHeader, stands_append, stands_cons, stands_nil,
    and_true, List.length_append, length_load, length_wordBytes,
    List.length_cons, List.length_nil] at stands
  rcases stands with ⟨⟨⟨_, isHigh, isLow⟩, _, isCount⟩, areCodes⟩
  rw [MaxVars] at few
  refine ⟨?_, ?_, areCodes⟩
  · have isHigh : PDU (ResParams - 2) = 0 := isHigh
    have isLow : PDU (ResParams - 2 + 1) = 0 := isLow
    rw [wordAt, isHigh, isLow]
    rfl
  · have isCount : PDU (ResParams + 1) = UInt8.ofNat codes.length := isCount
    rw [isCount, UInt8.toNat_ofNat']
    exact Nat.mod_eq_of_lt (by omega)

/-- The request with items and their data. -/
def writeRequest (Sequence : Nat) (items : List TS7DataItem)
    (data : Bytes) : Bytes :=
  itemRequest Sequence data.length pduFuncWrite items ++ data

theorem length_writeRequest
    (Sequence : Nat) (items : List TS7DataItem) (data : Bytes) :
    (writeRequest Sequence items data).length =
      12 + 12 * items.length + data.length := by
  rw [writeRequest, List.length_append, length_itemRequest]

/-- The worker has received the items and their data. -/
theorem writeRequest_received
    (worker : TS7Worker) (Sequence : Nat) (few : items.length ≤ MaxVars)
    (small : data.length < 65536) :
    let PDU := (received worker (writeRequest Sequence items data)).iso.PDU
    Requests PDU data.length pduFuncWrite items ∧
      Stands PDU (DataHeaderSize + 12 + 12 * items.length) data := by
  have stands := stands_withTelegram worker.iso.PDU
    (writeRequest Sequence items data)
  rw [writeRequest, stands_append, length_itemRequest, ← Nat.add_assoc]
    at stands
  exact ⟨requests_of_stands stands.1 few small, stands.2⟩

/-- The client gets the codes of the items, and the server has the data. -/
theorem exchange_of_codes
    (idle : Idle self served) (few : items.length ≤ MaxVars)
    (fits : 12 + 12 * items.length + data.length + DataHeaderSize ≤
      IsoPayload_Size)
    (located : locate
      (received served.worker
        (writeRequest self.getNextWord.1 items data)).iso.PDU
      (items.map decoded) (DataHeaderSize + 12 + 12 * items.length) =
        .ok places)
    (written : writeItems
      (received served.worker
        (writeRequest self.getNextWord.1 items data)).iso.PDU
      ((items.map decoded).zip places) served.worker.toResources =
        .ok (codes, resources))
    (count : codes.length = items.length) :
    ∃ iso after, isoExchangeBuffer (workerPeer others)
        (self.getNextWord.2.put 0
          (writeRequest self.getNextWord.1 items data)).iso served
            (12 + 12 * items.length + data.length) = .ok (0, iso, after) ∧
      Quiet iso ∧ Quiet after.worker.iso ∧
      wordAt iso.PDU (ResParams - 2) = 0 ∧
      (iso.PDU (ResParams + 1)).toNat = items.length ∧
      Stands iso.PDU (ResParams + 2) codes ∧
      after.worker.toResources = resources ∧
      after.worker.FPDULength = served.worker.FPDULength := by
  let request := writeRequest self.getNextWord.1 items data
  let worker := received served.worker request
  let answer := writeAnswer worker.iso.PDU codes
  have small : data.length < 65536 := by
    rw [IsoPayload_Size] at fits
    omega
  have requests : Requests worker.iso.PDU data.length pduFuncWrite items :=
    (writeRequest_received _ _ few small).1
  have performed : isoPerformCommand others worker (served.Answer 0)
      (12 + 12 * items.length + data.length) =
        .ok (true, hasWritten worker resources answer) := by
    rw [isoPerformCommand_of_requests requests, performPDURequest,
      requests.isFun]
    exact performFunctionWrite_of_items requests few idle.worker.sends
      located written count
  have sends : Sends (hasWritten worker resources answer) answer :=
    sends_hasWritten ⟨rfl, idle.worker.arrivals, idle.worker.closed,
      idle.worker.sends, idle.worker.sent⟩
  have length : answer.length = ResHeaderSize23 + 2 + codes.length :=
    length_writeAnswer _ _
  have fewCodes : codes.length ≤ MaxVars := by
    rw [count]
    exact few
  have answerFits : answer.length + DataHeaderSize ≤ IsoPayload_Size := by
    rw [MaxVars] at fewCodes
    rw [length, ResHeaderSize23, DataHeaderSize, IsoPayload_Size]
    omega
  have notEmpty : answer ≠ [] := by
    rw [← List.length_pos_iff, length, ResHeaderSize23]
    omega
  have isRequest : load (self.getNextWord.2.put 0 request).iso.PDU
      DataHeaderSize (12 + 12 * items.length + data.length) = request := by
    rw [← length_writeRequest self.getNextWord.1 items data]
    exact load_put _ _
  have quiet : Quiet self.getNextWord.2.iso := idle.asker
  have clientQuiet := quiet_put quiet request
  have exchanged := exchange_of_answer clientQuiet idle.worker isRequest
    (by omega) fits performed sends notEmpty answerFits
  rcases answer_of_codes
    (stands_withTelegram (withTelegram _ request) answer) fewCodes with
    ⟨noError, isCount, areCodes⟩
  exact ⟨_, _, exchanged, clientQuiet.answered, sends.quiet, noError,
    isCount.trans count, areCodes, rfl, rfl⟩

end Exchanged

/-! ## One round -/

section Round

variable {others : OtherCommands} {job : TSnap7Job} {area : TS7Area}
variable {server : TSnap7Server} {first : Nat}

theorem maxWrite_eq
    {PDULength WordSize : Nat} (isLong : 28 ≤ PDULength) :
    maxWrite PDULength WordSize = ((PDULength - 28) / WordSize : Nat) := by
  have isSize : (PDULength : Int) - 28 = (PDULength - 28 : Nat) := by omega
  rw [maxWrite, isSize]
  rfl

/-- The server after a slice has been written or refused. -/
def writtenTo (server : TSnap7Server) (job : TSnap7Job) (area : TS7Area)
    (first : Nat) (data : Bytes) : TSnap7Server :=
  if first + data.length ≤ area.Size.toNat then
    setRange server job (store area.PData first data)
  else server

/-- The variables after a round. -/
def afterWrite (state : Transfer Served) (job : TSnap7Job) (area : TS7Area)
    (first elements : Nat) (client : TSnap7MicroClient) (after : Served) :
    Transfer Served :=
  let Size := job.WordSize * elements
  { state with
    client := client
    world := after
    TotElements := state.TotElements - elements
    Start := state.Start + elements * job.WordSize
    Offset := state.Offset + Size
    First := false
    Result :=
      if first + Size ≤ area.Size.toNat then 0
      else if state.First then errCliAddressOutOfRange
      else errCliPartialDataWritten }

theorem writeRequest_single
    (Sequence : Nat) (item : TS7DataItem) (data : Bytes) :
    writeRequest Sequence [item] (dataBytes item.WordLen data) =
      reqHeader Sequence 14 (data.length + 4) ++ [pduFuncWrite, 1] ++
        itemBytes item ++ dataBytes item.WordLen data := by
  rw [writeRequest, itemRequest, List.flatMap_singleton, length_dataBytes,
    Nat.add_comm 4]
  rfl

/-- The worker writes the only item of a telegram, or refuses it. -/
theorem writeItems_of_located
    {item : ReqItem} {self : Resources} {elements address : Nat}
    {PDU : Memory UInt8} {data : Bytes}
    (located : Located job first elements item)
    (ranged : Ranged self.FServer job area) (own : self.OnRWArea = none)
    (small : data.length < 8192)
    (isData : data.length = job.WordSize * elements)
    (stands : Stands PDU address (dataBytes job.WordLen data))
    (inside : address + 4 + data.length ≤ IsoFrameSize) :
    locate PDU [item] address = .ok [address] ∧
      writeItems PDU [(item, address)] self =
        .ok ([if first + data.length ≤ area.Size.toNat then 0xFF
          else Code7AddressOutOfRange],
            { self with
              FServer := writtenTo self.FServer job area first data }) := by
  constructor
  · simp only [locate]
    rw [if_neg (by omega)]
    rfl
  · simp only [S7Server.writeItems, writtenTo,
      writeArea_of_located located ranged own small isData stands inside,
      bind, Except.bind]
    by_cases isInside : first + data.length ≤ area.Size.toNat
    · simp only [if_pos isInside, if_neg (Nat.not_lt_of_le isInside)]
    · simp only [if_neg isInside, if_pos (Nat.lt_of_not_le isInside)]

/-- One round writes the bytes of its elements or finds that they are not in
the area. -/
theorem writeSlice_of_ranged
    {state : Transfer Served} {room : Nat}
    (idle : Idle state.client state.world)
    (ranged : Ranged state.world.worker.FServer job area)
    (isStart : state.Start = first) (isNear : first < 0x200000)
    (isRoom : 35 + job.WordSize * room ≤ IsoPayload_Size) :
    ∃ client after, let elements := min (toWord state.TotElements) room
      writeSlice (workerPeer others) job room state =
        .ok (afterWrite state job area first elements client after) ∧
      after.worker.FServer = writtenTo state.world.worker.FServer job area
        first (load job.pData state.Offset (job.WordSize * elements)) ∧
      Kept state
        (afterWrite state job area first elements client after) := by
  have isWide := ranged.width.1
  have bigger := Nat.le_mul_of_pos_left room isWide
  rw [IsoPayload_Size] at isRoom
  have isCount := @numElements_eq state.TotElements room (by omega)
  have isFew := Nat.min_le_right (toWord state.TotElements) room
  generalize min (toWord state.TotElements) room = elements at *
  have isPart := Nat.mul_le_mul_left (job.WordSize) isFew
  have isItem := ranged.located isNear (by omega : elements < 65536)
  let data := load job.pData state.Offset
    (job.WordSize * elements)
  have isData : data.length = job.WordSize * elements :=
    length_load
  have isSingle : [job.item first elements].length ≤ MaxVars := by
    rw [List.length_singleton]
    decide
  have stands := (writeRequest_received state.world.worker
    state.client.getNextWord.1 isSingle
    (by rw [length_dataBytes]; omega :
      (dataBytes job.WordLen data).length < 65536)).2
  rw [List.length_singleton] at stands
  rcases writeItems_of_located isItem ranged idle.own (by omega) isData stands
    (by rw [DataHeaderSize, IsoFrameSize, IsoPayload_Size]; omega) with
    ⟨isPlace, isWritten⟩
  rcases @exchange_of_codes others _ [job.item first elements] _ _ _
    state.client state.world idle isSingle
    (by rw [length_dataBytes, List.length_singleton, DataHeaderSize,
      IsoPayload_Size]; omega) isPlace isWritten rfl with
    ⟨iso, after, exchanged, quiet, quietAfter, noError, _, isCode, same,
      sameLimit⟩
  have own : after.worker.OnRWArea = none :=
    (congrArg Resources.OnRWArea same).trans idle.own
  have isCode : iso.PDU (ResParams + 2) = _ := (stands_cons.mp isCode).1
  refine ⟨{ state.client.getNextWord.2.put 0
    (writeRequest state.client.getNextWord.1 [job.item first elements]
      (dataBytes job.WordLen data)) with iso := iso }, after, ?_,
    congrArg Resources.FServer same, ⟨quiet, quietAfter, own⟩, sameLimit,
    rfl⟩
  have isSize : elements * job.WordSize % 65536 =
      job.WordSize * elements := by
    rw [Nat.mul_comm]
    exact Nat.mod_eq_of_lt (by omega)
  have inFrame : ¬ IsoFrameSize < DataHeaderSize + 28 +
      job.WordSize * elements := by
    rw [DataHeaderSize, IsoFrameSize, IsoPayload_Size]
    omega
  have isRequest : writeRequest state.client.getNextWord.1
      [job.item first elements] (dataBytes job.WordLen data) =
        reqHeader state.client.getNextWord.1 14
          (job.WordSize * elements + 4) ++ [pduFuncWrite, 1] ++
            itemBytes (job.item first elements) ++
              dataBytes job.WordLen data := by
    rw [← isData]
    exact writeRequest_single _ (job.item first elements) data
  have isSent : 12 + 12 * [job.item first elements].length +
      (dataBytes job.WordLen data).length =
        28 + job.WordSize * elements := by
    rw [length_dataBytes, List.length_singleton, isData]
    omega
  rw [isSent] at exchanged
  have noCpuError : cpuError (wordAt iso.PDU (ResParams - 2)) = 0 := by
    rw [noError]
    rfl
  simp only [writeSlice, isCount, isStart, isSize, if_neg inFrame,
    TSnap7MicroClient.exchange, bind, Except.bind, afterWrite]
  rw [← isRequest, exchanged]
  simp only [noCpuError, isCode, isData, ne_eq, not_true_eq_false, if_false,
    if_true]
  by_cases isInside :
      first + job.WordSize * elements ≤ area.Size.toNat
  · simp only [if_pos isInside, if_true]
  · have isRefused : Code7AddressOutOfRange ≠ 0xFF := by decide
    simp only [if_neg isInside, if_neg isRefused]
    rfl

end Round

/-! ## All rounds -/

section Rounds

variable {others : OtherCommands} {job : TSnap7Job} {area : TS7Area}
variable {server : TSnap7Server} {self : TSnap7MicroClient}
variable {PDULength first left blocks room : Nat} {state : Transfer Served}

/-- The job is still about the area when bytes have been copied to it. -/
theorem ranged_setRange
    (ranged : Ranged server job area) (PData : Memory UInt8) :
    Ranged (setRange server job PData) job
      (TS7Area.setData PData area) where
  isArea := getArea_setArea ranged.isArea PData
  notCounter := ranged.notCounter
  notTimer := ranged.notTimer
  wordLen := ranged.wordLen

/-- The size of a slice lets every round be answered. -/
structure Sliced (job : TSnap7Job) (client : TSnap7MicroClient)
    (room : Nat) : Prop where
  isRoom : maxWrite client.PDULength (job.WordSize) = room
  positive : 0 < room
  fits : 35 + job.WordSize * room ≤ IsoPayload_Size

/-- One round of a job that goes on. -/
theorem writeRound
    (others : OtherCommands)
    (underway : Underway server PDULength first left blocks state)
    (ranged : Ranged server job area) (sliced : Sliced job self room)
    (isNear : first < 0x200000) (isLeft : left < 65536)
    (more : 0 < left + blocks) :
    (opWriteArea (workerPeer others) self job).goesOn state = true ∧
    ∃ client after,
      let Size := job.WordSize * min left room
      let data := load job.pData state.Offset Size
      let next := afterWrite state job area first (min left room) client after
      (opWriteArea (workerPeer others) self job).body state = .ok next ∧
      after.worker.FServer = writtenTo server job area first data ∧
      Kept state next ∧
      (first + Size ≤ area.Size.toNat →
        Underway (setRange server job
          (store area.PData first data)) PDULength (first + Size)
            (left - min left room) blocks next) := by
  rw [← underway.server] at ranged
  rcases @writeSlice_of_ranged others job area first state room underway.idle
    ranged underway.Start isNear sliced.fits with
    ⟨client, after, isNext, isServer, kept⟩
  rw [underway.toWord_total isLeft] at isNext isServer kept
  rw [underway.server] at isServer
  refine ⟨underway.goesOn more, client, after, ?_, isServer, kept,
    fun isInside => ?_⟩
  · rw [← isNext, ← sliced.isRoom]
    rfl
  · refine underway.advance (Nat.min_le_left _ _) kept
      (isServer.trans (if_pos ?_)) rfl rfl (if_pos isInside)
    rw [length_load]
    exact isInside

/-- Two slices are written as one. -/
theorem setRange_slices
    (ranged : Ranged server job area) (source : Memory UInt8)
    (offset first size more : Nat) :
    setRange
        (setRange server job
          (store area.PData first (load source offset size))) job
        (store (store area.PData first (load source offset size))
          (first + size) (load source (offset + size) more)) =
      setRange server job
        (store area.PData first (load source offset (size + more))) := by
  have together := @store_append _ area.PData first
    (load source offset size) (load source (offset + size) more)
  rw [length_load] at together
  rw [setRange, setRange, setArea_setArea ranged.isArea, together, load_add]
  rfl

/-- The rest of a job whose bytes are in the area. -/
theorem writeReturns
    (underway : Underway server PDULength first left 0 state)
    (ranged : Ranged server job area) (sliced : Sliced job self room)
    (isLeft : left < 65536)
    (isInside : first + job.WordSize * left ≤ area.Size.toNat) :
    ∃ last, (opWriteArea (workerPeer others) self job).Returns state last ∧
      last.Result = 0 ∧
      last.world.worker.FServer =
        setRange server job (store area.PData first
          (load job.pData state.Offset (job.WordSize * left))) ∧
      Kept state last := by
  induction left using Nat.strongRecOn
    generalizing first state server area with
  | ind left ih =>
      by_cases isDone : left = 0
      · subst isDone
        refine ⟨state, Loop.returns_of_done underway.done, underway.Result, ?_,
          underway.idle, rfl, rfl⟩
        rw [Nat.mul_zero, load_zero, store_nil, setRange,
          setArea_same ranged.isArea]
        exact underway.server
      · have isSize := area.Size.toNat_lt
        have parts := split_elements (job.WordSize) left room
        have positive := sliced.positive
        have isSlice : first + job.WordSize * min left room ≤
            area.Size.toNat := by
          omega
        rcases writeRound others underway ranged sliced (by omega) isLeft
          (by omega) with ⟨goesOn, client, after, isNext, _, kept, later⟩
        rcases ih (left - min left room) (by omega) (later isSlice)
          (ranged_setRange ranged _) (by omega)
          (show _ ≤ area.Size.toNat by omega) with
          ⟨last, returns, isResult, isServer, keeps⟩
        refine ⟨last, returns.of_step goesOn isNext, isResult, ?_,
          kept.trans keeps⟩
        rw [← parts, ← setRange_slices ranged]
        exact isServer

/-- The rest of a job whose bytes are not in the area. -/
theorem writeRefused
    (underway : Underway server PDULength first left blocks state)
    (ranged : Ranged server job area) (sliced : Sliced job self room)
    (isNear : first < 0x200000) (isLeft : left < 65536)
    (more : 0 < left + blocks)
    (isOutside : area.Size.toNat <
      first + job.WordSize * left) :
    ∃ last count,
      (opWriteArea (workerPeer others) self job).Returns state last ∧
      last.Result = (if state.First = true ∧ count = 0 then
        errCliAddressOutOfRange else errCliPartialDataWritten) ∧
      (count ≠ 0 → first + count ≤ area.Size.toNat) ∧
      last.world.worker.FServer =
        setRange server job (store area.PData first
          (load job.pData state.Offset count)) ∧
      Kept state last := by
  induction left using Nat.strongRecOn
    generalizing first state server area with
  | ind left ih =>
      have parts := split_elements (job.WordSize) left room
      rcases writeRound others underway ranged sliced isNear isLeft more with
        ⟨goesOn, client, after, isNext, isServer, kept, later⟩
      by_cases isSlice : first + job.WordSize * min left room ≤
          area.Size.toNat
      · have isSize := area.Size.toNat_lt
        have positive := sliced.positive
        have isWide := ranged.width.1
        have notDone : left - min left room ≠ 0 := by
          intro isDone
          rw [isDone, Nat.mul_zero] at parts
          omega
        have isFilled : 0 < job.WordSize * min left room :=
          Nat.mul_pos isWide (by omega)
        rcases ih (left - min left room) (by omega) (later isSlice)
          (ranged_setRange ranged _) (by omega) (by omega) (by omega)
          (show area.Size.toNat < _ by omega) with
          ⟨last, count, returns, isResult, isPart, isServer, keeps⟩
        have isPart : count ≠ 0 →
            first + job.WordSize * min left room + count ≤
              area.Size.toNat := isPart
        refine ⟨last, job.WordSize * min left room + count,
          returns.of_step goesOn isNext, ?_, by omega, ?_, kept.trans keeps⟩
        · rw [isResult, if_neg (fun isFirst => Bool.noConfusion isFirst.1),
            if_neg (by omega)]
        · rw [← setRange_slices ranged]
          exact isServer
      · refine ⟨_, 0, (Loop.returns_of_done ?_).of_step goesOn isNext, ?_,
          fun notZero => absurd rfl notZero, ?_, kept⟩
        · cases isFirst : state.First with
          | true =>
              simp [opWriteArea, Transfer.goesOn, afterWrite, isSlice, isFirst,
                errCliAddressOutOfRange]
          | false =>
              simp [opWriteArea, Transfer.goesOn, afterWrite, isSlice, isFirst,
                errCliPartialDataWritten]
        · simp only [afterWrite, if_neg isSlice, and_true]
        · rw [load_zero, store_nil, setRange, setArea_same ranged.isArea]
          refine isServer.trans (if_neg ?_)
          rw [length_load]
          exact isSlice

end Rounds

/-! ## The whole job -/

section Job

variable {others : OtherCommands} {job : TSnap7Job} {area : TS7Area}
variable {self : TSnap7MicroClient} {served : Served}

theorem sliced_of_agreed
    (agreed : Agreed self served.worker)
    (isBytes : ByteAddressed job.WordLen) :
    Sliced job self ((self.PDULength - 28) / job.WordSize) := by
  have isLong := agreed.isLong
  have fits := agreed.fits
  have isWide : 1 ≤ job.WordSize ∧ job.WordSize ≤ 4 := isBytes.width
  have isQuotient := Nat.mul_div_le (self.PDULength - 28)
    (job.WordSize)
  rw [MinPduSize] at isLong
  rw [DataHeaderSize] at fits
  constructor
  case isRoom => exact maxWrite_eq (by omega)
  case positive => exact Nat.div_pos (by omega) isWide.1
  case fits => omega

/-- The server with some bytes of a job in its area. -/
def afterBytes (server : TSnap7Server) (job : TSnap7Job) (area : TS7Area)
    (count : Nat) : TSnap7Server :=
  setRange server job
    (store area.PData job.Start.toNat (load job.pData 0 count))

/-- A range in the area is written. -/
theorem writeArea_inside
    (idle : Idle self served) (agreed : Agreed self served.worker)
    (ranged : Ranged served.worker.FServer job area)
    (checked : job.check = 0) (isFew : job.Amount < 65536)
    (isInside : job.Start + jobSize job ≤ area.Size.toNat) :
    ∃ last, (opWriteArea (workerPeer others) self job).Returns
        (job.start self served) last ∧
      last.Result = 0 ∧
      last.world.worker.FServer =
        afterBytes served.worker.FServer job area (jobSize job) ∧
      Kept (job.start self served) last := by
  rcases check_eq_zero checked with ⟨isStart, isAmount⟩
  have underway := underway_start idle checked isStart (by omega)
  have noBlocks : (job.Amount / 65536).toNat = 0 := by omega
  rw [noBlocks] at underway
  rw [jobSize] at isInside
  exact writeReturns underway ranged (sliced_of_agreed agreed ranged.wordLen)
    (by omega) (by omega)

/-- A range that is not in the area is refused. -/
theorem writeArea_outside
    (idle : Idle self served) (agreed : Agreed self served.worker)
    (ranged : Ranged served.worker.FServer job area)
    (checked : job.check = 0) (isNear : job.Start < 0x200000)
    (isOutside : area.Size.toNat < job.Start + jobSize job) :
    ∃ last, ∃ count : Nat, (opWriteArea (workerPeer others) self job).Returns
        (job.start self served) last ∧
      last.Result = (if count = 0 then errCliAddressOutOfRange
        else errCliPartialDataWritten) ∧
      (count ≠ 0 → job.Start + count ≤ area.Size.toNat) ∧
      last.world.worker.FServer =
        afterBytes served.worker.FServer job area count ∧
      Kept (job.start self served) last := by
  rcases check_eq_zero checked with ⟨isStart, isAmount⟩
  have underway := underway_start idle checked isStart (by omega)
  rw [jobSize] at isOutside
  rcases @writeRefused others _ _ _ self _ _ _ _ _ _ underway ranged
    (sliced_of_agreed agreed ranged.wordLen) (by omega) (by omega) (by omega)
    (by omega) with ⟨last, count, returns, isResult, isPart, rest⟩
  refine ⟨last, count, returns, ?_, by omega, rest⟩
  rw [isResult]
  simp [TSnap7Job.start]

end Job

end ServerUtils.Snap7.WriteRange
