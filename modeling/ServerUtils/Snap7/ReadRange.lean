import ServerUtils.Snap7.ReadItems

/-!
# Reading one range in several telegrams

`opReadArea` asks for as many elements at a time as fit in the negotiated PDU,
and the worker answers with the bytes of the area or refuses.  So the slices
put the range together.  The number of elements in a request is a word: a job
of 65536 elements or more asks for no elements, over and over again, when it
has read what is left over.
-/

namespace ServerUtils.Snap7.ReadRange

open ServerUtils.Parser.StdString
open ServerUtils.Foundation.BlockCopy
open ServerUtils.Foundation.Rounds
open ServerUtils.Snap7.MsgSocket
open ServerUtils.Snap7.IsoTcp
open ServerUtils.Snap7.Areas
open ServerUtils.Snap7.S7Server
open ServerUtils.Snap7.MicroClient
open ServerUtils.Snap7.Exchange
open ServerUtils.Snap7.WireFormat
open ServerUtils.Snap7.ReadItems

/-! ## Ranges of bytes -/

/-- The word lengths whose addresses count bytes. -/
def byteCodes : List UInt8 :=
  [S7WLByte, S7WLChar, S7WLWord, S7WLInt, S7WLDWord, S7WLDInt, S7WLReal]

/-- The word length of a job is one of them. -/
def ByteAddressed (WordLen : Int) : Prop :=
  ∃ code ∈ byteCodes, IsCode WordLen code

instance (WordLen : Int) : Decidable (ByteAddressed WordLen) :=
  List.decidableBEx (IsCode WordLen) byteCodes

/-- The index under which the worker looks for the area of a job. -/
def index (job : TSnap7Job) : UInt16 :=
  if IsCode job.Area S7AreaDB then UInt16.ofNat (toWord job.Number) else 0

/-- The job is about the bytes of this area, which the worker knows by the low
byte of `Area`. -/
structure Ranged (server : TSnap7Server) (job : TSnap7Job) (area : TS7Area) :
    Prop where
  isArea : server.getArea (toByte job.Area) (index job) = some area
  notCounter : toByte job.Area ≠ S7AreaCT
  notTimer : toByte job.Area ≠ S7AreaTM
  wordLen : ByteAddressed job.WordLen

section Item

variable {server : TSnap7Server} {job : TSnap7Job} {area : TS7Area}
variable {first elements : Nat} {WordLen : Int}

theorem ByteAddressed.cases
    (isBytes : ByteAddressed WordLen) :
    WordLen = S7WLByte.toNat ∨ WordLen = S7WLChar.toNat ∨
      WordLen = S7WLWord.toNat ∨ WordLen = S7WLInt.toNat ∨
      WordLen = S7WLDWord.toNat ∨ WordLen = S7WLDInt.toNat ∨
      WordLen = S7WLReal.toNat := by
  rcases isBytes with ⟨code, isMember, isCode⟩
  simp only [byteCodes, List.mem_cons, List.not_mem_nil, or_false]
    at isMember
  rw [isCode]
  rcases isMember with rfl | rfl | rfl | rfl | rfl | rfl | rfl
  all_goals simp

theorem ByteAddressed.width
    (isBytes : ByteAddressed WordLen) :
    1 ≤ TSnap7MicroClient.dataSizeByte WordLen ∧
      TSnap7MicroClient.dataSizeByte WordLen ≤ 4 := by
  rcases isBytes.cases with rfl | rfl | rfl | rfl | rfl | rfl | rfl
  all_goals decide

theorem ByteAddressed.ne
    (isBytes : ByteAddressed WordLen) :
    ¬ IsCode WordLen S7WLBit ∧ ¬ IsCode WordLen S7WLCounter ∧
      ¬ IsCode WordLen S7WLTimer := by
  rcases isBytes.cases with rfl | rfl | rfl | rfl | rfl | rfl | rfl
  all_goals decide

/-- The worker finds the same width. -/
theorem ByteAddressed.toByte
    (isBytes : ByteAddressed WordLen) :
    dataSizeByte (toByte WordLen) = TSnap7MicroClient.dataSizeByte WordLen ∧
      toByte WordLen ≠ S7WLBit ∧ toByte WordLen ≠ S7WLCounter ∧
      toByte WordLen ≠ S7WLTimer := by
  rcases isBytes.cases with rfl | rfl | rfl | rfl | rfl | rfl | rfl
  all_goals decide

theorem Ranged.width
    (ranged : Ranged server job area) :
    1 ≤ job.WordSize ∧ job.WordSize ≤ 4 :=
  ranged.wordLen.width

/-- The item that the worker finds in one telegram of the job. -/
structure Located (job : TSnap7Job) (first elements : Nat) (item : ReqItem) :
    Prop where
  Area : item.Area = toByte job.Area
  index : item.index = index job
  TransportSize : item.TransportSize = toByte job.WordLen
  coherent : item.incoherent = false
  notElement : item.isElement = false
  aligned : item.misaligned = false
  Start : item.Start = first
  Size : item.Size = job.WordSize * elements

theorem Ranged.located
    (ranged : Ranged server job area) (isNear : first < 0x200000)
    (isWord : elements < 65536) :
    Located job first elements (decoded (job.item first elements)) := by
  rcases ranged.wordLen.ne with ⟨notBit, notCounter, notTimer⟩
  rcases ranged.wordLen.toByte with ⟨sameWidth, _, noCounter, noTimer⟩
  have notElement : (decoded (job.item first elements)).isElement = false := by
    simp [ReqItem.isElement, decoded, TSnap7Job.item, noCounter, noTimer]
  have isAddress : (decoded (job.item first elements)).Address = 8 * first := by
    simp only [decoded, TSnap7Job.item, addressOf, notBit, notCounter,
      notTimer, or_self, if_false]
    omega
  constructor
  case Area => rfl
  case index =>
    show (if toByte job.Area = S7AreaDB then ReadRange.index job else 0) =
      ReadRange.index job
    by_cases isBlock : IsCode job.Area S7AreaDB
    · rw [if_pos (toByte_of_isCode isBlock)]
    · rw [ReadRange.index, if_neg isBlock, ite_self]
  case TransportSize => rfl
  case coherent =>
    have notTM := ranged.notTimer
    have notCT := ranged.notCounter
    simp [ReqItem.incoherent, decoded, TSnap7Job.item, noCounter, noTimer,
      notTM, notCT]
  case notElement => exact notElement
  case aligned =>
    rw [ReqItem.misaligned, notElement, isAddress, Nat.mul_mod_right]
    simp
  case Start =>
    rw [ReqItem.Start, notElement, isAddress]
    simp
  case Size =>
    have isLength : (decoded (job.item first elements)).Length = elements := by
      simp only [decoded, TSnap7Job.item, toWord]
      omega
    rw [ReqItem.Size, isLength, TSnap7Job.WordSize, ← sameWidth]
    rfl

/-- `ReadArea` answers with the bytes of the area, or refuses. -/
theorem Located.readArea
    {item : ReqItem} {self : Resources} {PDURemainder : Int}
    (located : Located job first elements item)
    (ranged : Ranged self.FServer job area) (own : self.OnRWArea = none)
    (remains : (PDURemainder -
      (job.WordSize * elements : Nat)) % 0x100000000 ≠ 0)
    (old : UInt8) :
    readArea self item PDURemainder old =
      (if area.Size.toNat < first + job.WordSize * elements then
        refuse Code7AddressOutOfRange
      else
        deliver item (load area.PData first
          (job.WordSize * elements)) old,
        PDURemainder - (job.WordSize * elements : Nat), self) := by
  rcases ranged.wordLen.toByte with ⟨sameWidth, notBit, _⟩
  have hasWidth : dataSizeByte (toByte job.WordLen) ≠ 0 := by
    rw [sameWidth]
    exact Nat.ne_of_gt ranged.width.1
  have isPlace : self.place item = some (.area area) := by
    rw [place_of_own own, located.Area, located.index, ranged.isArea]
    rfl
  simp only [S7Server.readArea, isPlace, located.TransportSize,
    located.coherent, located.aligned, located.Start, located.Size, notBit,
    false_and, if_false, Bool.false_eq_true]
  rw [if_neg hasWidth, if_neg remains]
  split
  · rfl
  · rfl

/-- The client takes the bytes that are delivered. -/
theorem Located.outcome_deliver
    {item : ReqItem} (located : Located job first elements item)
    (isBytes : ByteAddressed job.WordLen) (data : Bytes) (old : UInt8) :
    outcome (deliver item data old) = (0, data) ∧
      (deliver item data old).Size = data.length := by
  have notBit : item.TransportSize ≠ S7WLBit := by
    rw [located.TransportSize]
    exact isBytes.toByte.2.1
  rw [deliver, if_neg notBit]
  refine ⟨?_, ?_⟩
  all_goals split_ifs
  all_goals simp [outcome]

end Item

/-! ## One round -/

section Round

variable {others : OtherCommands} {job : TSnap7Job} {area : TS7Area}
variable {server : TSnap7Server} {first : Nat}

/-- `NumElements` is the word or `MaxElements`. -/
theorem numElements_eq
    {TotElements : Int} {room : Nat} (isWord : room < 65536) :
    numElements TotElements room = min (toWord TotElements) room := by
  have isTotal := toWord_lt TotElements
  simp only [numElements]
  split_ifs with isMore
  · rw [toWord]
    omega
  · omega

theorem maxRead_eq
    {PDULength WordSize : Nat} (isLong : 18 ≤ PDULength)
    (isWord : PDULength < 65536) :
    maxRead PDULength WordSize = ((PDULength - 18) / WordSize : Nat) := by
  have isSmall := Nat.div_le_self (PDULength - 18) WordSize
  have isSize : ((PDULength : Int) - 18) % 0x10000000000000000 =
      (PDULength - 18 : Nat) := by
    omega
  rw [maxRead, isSize, ← Int.natCast_ediv, Int.bmod_def]
  generalize (PDULength - 18) / WordSize = elements at isSmall ⊢
  split_ifs
  · omega
  · omega

/-- The variables after a round in which the bytes are in the area, or not. -/
def afterRead (state : Transfer Served) (job : TSnap7Job) (area : TS7Area)
    (first elements : Nat) (client : TSnap7MicroClient) (after : Served) :
    Transfer Served :=
  let Size := job.WordSize * elements
  let isInside := first + Size ≤ area.Size.toNat
  { state with
    client := client
    world := after
    TotElements := state.TotElements - elements
    Start := state.Start + elements * job.WordSize
    Offset := if isInside then state.Offset + Size else state.Offset
    Result := if isInside then 0 else errCliAddressOutOfRange
    Data := if isInside then state.Data ++ load area.PData first Size
      else state.Data }

/-- What the rounds of a job keep. -/
structure Kept (state next : Transfer Served) : Prop where
  idle : Idle next.client next.world
  length : next.world.worker.FPDULength = state.world.worker.FPDULength
  sameLength : next.client.PDULength = state.client.PDULength

theorem asking_single (self : TSnap7MicroClient) (item : TS7DataItem) :
    asking self [item] =
      self.getNextWord.2.put 0
        (reqHeader self.getNextWord.1 14 0 ++ [pduFuncRead, 1] ++
          itemBytes item) := by
  rw [asking, itemRequest, List.flatMap_singleton]
  rfl

theorem parseItem_of_parseItems
    {PDU : Memory UInt8} {address : Nat} {result : Nat × Bytes}
    (parsed : parseItems PDU 1 address = .ok [result]) :
    parseItem PDU address = .ok result := by
  rcases bind_eq_ok_iff.mp parsed with ⟨other, isOther, isList⟩
  cases isList
  exact isOther

/-- The result and the size of the only item of a telegram. -/
theorem Located.single
    {item : ReqItem} {self : Resources} {elements PDULength : Nat}
    (located : Located job first elements item)
    (ranged : Ranged self.FServer job area) (own : self.OnRWArea = none)
    (notFull : job.WordSize * elements < PDULength)
    (isWord : PDULength < 65536) :
    readOutcomes self [item] PDULength =
      [if first + job.WordSize * elements ≤ area.Size.toNat then
        (0, load area.PData first (job.WordSize * elements))
      else (errCliAddressOutOfRange, [])] ∧
    answerSize self [item] PDULength ≤
      job.WordSize * elements + 4 := by
  have isRead := located.readArea ranged own
    (by omega : ((PDULength : Int) -
      (job.WordSize * elements : Nat)) % 0x100000000 ≠ 0) 0
  rcases located.outcome_deliver ranged.wordLen
    (load area.PData first (job.WordSize * elements)) 0 with
    ⟨isOutcome, isSize⟩
  rw [length_load] at isSize
  simp only [readOutcomes, answerSize, isRead, List.isEmpty_nil,
    Bool.true_eq_false, false_and, if_false]
  by_cases isInside :
      first + job.WordSize * elements ≤ area.Size.toNat
  · rw [if_pos isInside, if_neg (Nat.not_lt_of_le isInside), isOutcome, isSize]
    exact ⟨rfl, Nat.le_refl _⟩
  · rw [if_neg isInside, if_pos (Nat.lt_of_not_le isInside)]
    exact ⟨rfl, Nat.le_add_left _ _⟩

theorem Kept.trans
    {state next last : Transfer Served} (left : Kept state next)
    (right : Kept next last) : Kept state last where
  idle := right.idle
  length := right.length.trans left.length
  sameLength := right.sameLength.trans left.sameLength

/-- One round reads the bytes of its elements or finds that they are not in the
area. -/
theorem readSlice_of_ranged
    {state : Transfer Served} {room : Nat}
    (idle : Idle state.client state.world)
    (ranged : Ranged state.world.worker.FServer job area)
    (isStart : state.Start = first) (isNear : first < 0x200000)
    (isRoom : 25 + job.WordSize * room ≤ IsoPayload_Size)
    (notFull : job.WordSize * room <
      state.world.worker.FPDULength)
    (isWord : state.world.worker.FPDULength < 65536) :
    ∃ client after, readSlice (workerPeer others) job room state =
        .ok (afterRead state job area first
          (min (toWord state.TotElements) room) client after) ∧
      after.worker.FServer = state.world.worker.FServer ∧
      Kept state (afterRead state job area first
        (min (toWord state.TotElements) room) client after) := by
  have isWide := ranged.width.1
  have bigger := Nat.le_mul_of_pos_left room isWide
  have roomIsWord : room < 65536 := by
    rw [IsoPayload_Size] at isRoom
    omega
  have isCount := @numElements_eq state.TotElements room roomIsWord
  have isFew := Nat.min_le_right (toWord state.TotElements) room
  generalize min (toWord state.TotElements) room = elements at *
  have isPart := Nat.mul_le_mul_left (job.WordSize) isFew
  have located := ranged.located isNear (Nat.lt_of_le_of_lt isFew roomIsWord)
  rcases located.single ranged idle.own
      (Nat.lt_of_le_of_lt isPart notFull) isWord with
    ⟨isOutcome, isSize⟩
  have isSingle : [job.item first elements].length ≤ MaxVars := by
    rw [List.length_singleton]
    decide
  rcases @exchange_of_fits others [job.item first elements] state.client
    state.world idle isSingle (by
      rw [ResHeaderSize23, DataHeaderSize, List.map_singleton]
      omega) with
    ⟨iso, after, exchanged, quiet, quietAfter, _, _, parsed, same,
      sameLimit⟩
  have own : after.worker.OnRWArea = none :=
    (congrArg Resources.OnRWArea same).trans idle.own
  rw [List.map_singleton, isOutcome] at parsed
  have parsed := parseItem_of_parseItems parsed
  have exchanged : isoExchangeBuffer (workerPeer others)
      (asking state.client [job.item first elements]).iso state.world 24 =
        .ok (0, iso, after) := exchanged
  refine ⟨{ asking state.client [job.item first elements] with iso := iso },
    after, ?_, congrArg Resources.FServer same, ⟨quiet, quietAfter, own⟩,
    sameLimit, rfl⟩
  simp only [readSlice, isCount, isStart, ← asking_single,
    TSnap7MicroClient.exchange]
  simp only [exchanged, bind, Except.bind, if_true, parsed, afterRead]
  by_cases isInside :
      first + job.WordSize * elements ≤ area.Size.toNat
  · simp only [if_pos isInside, length_load, isStart]
  · simp only [if_neg isInside, isStart, List.length_nil, Nat.add_zero,
      List.append_nil]

end Round

/-! ## All rounds -/

/-- A job that has got as far as `first`.  Apart from `left` elements there are
blocks of 65536 elements to transfer. -/
structure Underway (server : TSnap7Server) (PDULength : Nat)
    (first left blocks : Nat) (state : Transfer Served) : Prop where
  idle : Idle state.client state.world
  server : state.world.worker.FServer = server
  length : state.world.worker.FPDULength = PDULength
  Start : state.Start = first
  TotElements : state.TotElements = left + 65536 * blocks
  Result : state.Result = 0

section Rounds

variable {others : OtherCommands} {job : TSnap7Job} {area : TS7Area}
variable {server : TSnap7Server} {self : TSnap7MicroClient}
variable {PDULength first left blocks room : Nat} {state : Transfer Served}

/-- What is needed for every round to get an answer. -/
structure Rounded (server : TSnap7Server) (job : TSnap7Job) (area : TS7Area)
    (client : TSnap7MicroClient) (PDULength room : Nat) : Prop where
  ranged : Ranged server job area
  isRoom : maxRead client.PDULength (job.WordSize) = room
  positive : 0 < room
  fits : 25 + job.WordSize * room ≤ IsoPayload_Size
  notFull : job.WordSize * room < PDULength
  isWord : PDULength < 65536

/-- What is left of the blocks is the word of all elements. -/
theorem Underway.toWord_total
    (underway : Underway server PDULength first left blocks state)
    (isLeft : left < 65536) : toWord state.TotElements = left := by
  rw [underway.TotElements, toWord]
  omega

/-- A job with something to transfer goes on. -/
theorem Underway.goesOn
    (underway : Underway server PDULength first left blocks state)
    (more : 0 < left + blocks) : state.goesOn = true := by
  have isPositive : 0 < state.TotElements := by
    rw [underway.TotElements]
    omega
  simp [Transfer.goesOn, isPositive, underway.Result]

/-- A job with nothing left is done. -/
theorem Underway.done
    (underway : Underway server PDULength first 0 0 state) :
    state.goesOn = false := by
  simp [Transfer.goesOn, underway.TotElements]

/-- A round without an error gets on by its elements. -/
theorem Underway.advance
    {after : TSnap7Server} {next : Transfer Served} {elements : Nat}
    (underway : Underway server PDULength first left blocks state)
    (isFew : elements ≤ left) (kept : Kept state next)
    (isServer : next.world.worker.FServer = after)
    (isStart : next.Start = state.Start + elements * job.WordSize)
    (isTotal : next.TotElements = state.TotElements - elements)
    (noError : next.Result = 0) :
    Underway after PDULength (first + job.WordSize * elements)
      (left - elements) blocks next := by
  constructor
  case idle => exact kept.idle
  case server => exact isServer
  case length => exact kept.length.trans underway.length
  case Start =>
    rw [isStart, underway.Start, Int.natCast_add, Int.natCast_mul,
      Int.mul_comm]
  case TotElements =>
    rw [isTotal, underway.TotElements]
    omega
  case Result => exact noError

/-- One round of a job that goes on. -/
theorem Underway.readRound
    (others : OtherCommands)
    (underway : Underway server PDULength first left blocks state)
    (rounded : Rounded server job area self PDULength room)
    (isNear : first < 0x200000) (isLeft : left < 65536)
    (more : 0 < left + blocks) :
    (opReadArea (workerPeer others) self job).goesOn state = true ∧
    ∃ client after,
      let next := afterRead state job area first (min left room) client after
      (opReadArea (workerPeer others) self job).body state = .ok next ∧
      after.worker.FServer = server ∧ Kept state next ∧
      (first + job.WordSize * min left room ≤ area.Size.toNat →
        Underway server PDULength
          (first + job.WordSize * min left room)
            (left - min left room) blocks next) := by
  have ranged := rounded.ranged
  rw [← underway.server] at ranged
  have notFull := rounded.notFull
  have isWord := rounded.isWord
  rw [← underway.length] at notFull isWord
  rcases @readSlice_of_ranged others job area first state room underway.idle
    ranged underway.Start isNear rounded.fits notFull isWord with
    ⟨client, after, isNext, sameServer, kept⟩
  rw [underway.toWord_total isLeft] at isNext kept
  have isServer := sameServer.trans underway.server
  refine ⟨underway.goesOn more, client, after, ?_, isServer, kept,
    fun isInside => ?_⟩
  · rw [← isNext, ← rounded.isRoom]
    rfl
  · exact underway.advance (Nat.min_le_left _ _) kept isServer rfl rfl
      (if_pos isInside)

/-- A round takes off some elements. -/
theorem split_elements
    (WordSize left room : Nat) :
    WordSize * min left room + WordSize * (left - min left room) =
      WordSize * left := by
  rw [← Nat.mul_add, Nat.add_sub_cancel' (Nat.min_le_left _ _)]

/-- What a round copies when the bytes are in the area. -/
theorem data_afterRead
    {elements : Nat} {client : TSnap7MicroClient} {after : Served}
    (isInside :
      first + job.WordSize * elements ≤ area.Size.toNat) :
    (afterRead state job area first elements client after).Data =
      state.Data ++
        load area.PData first (job.WordSize * elements) :=
  if_pos isInside

/-- The rest of a job whose bytes are in the area. -/
theorem Underway.readReturns
    (underway : Underway server PDULength first left 0 state)
    (rounded : Rounded server job area self PDULength room)
    (isLeft : left < 65536)
    (isInside : first + job.WordSize * left ≤ area.Size.toNat) :
    ∃ last, (opReadArea (workerPeer others) self job).Returns state last ∧
      last.Result = 0 ∧
      last.Data = state.Data ++
        load area.PData first (job.WordSize * left) ∧
      last.world.worker.FServer = server ∧ Kept state last := by
  induction left using Nat.strongRecOn generalizing first state with
  | ind left ih =>
      by_cases isDone : left = 0
      · subst isDone
        refine ⟨state, Loop.returns_of_done underway.done, underway.Result, ?_,
          underway.server, underway.idle, rfl, rfl⟩
        rw [Nat.mul_zero, load_zero, List.append_nil]
      · have isSize := area.Size.toNat_lt
        have parts := split_elements (job.WordSize) left room
        have positive := rounded.positive
        have isSlice : first + job.WordSize * min left room ≤
            area.Size.toNat := by
          omega
        rcases underway.readRound others rounded (by omega) isLeft
          (by omega) with
          ⟨more, client, after, isNext, _, kept, later⟩
        rcases ih (left - min left room) (by omega) (later isSlice) (by omega)
          (by omega) with ⟨last, returns, isResult, isData, isServer, keeps⟩
        refine ⟨last, returns.of_step more isNext, isResult, ?_, isServer,
          kept.trans keeps⟩
        rw [isData, data_afterRead isSlice, List.append_assoc, ← load_add,
          parts]

/-- The rest of a job whose bytes are not in the area. -/
theorem Underway.readRefused
    (underway : Underway server PDULength first left blocks state)
    (rounded : Rounded server job area self PDULength room)
    (isNear : first < 0x200000) (isLeft : left < 65536)
    (more : 0 < left + blocks)
    (isOutside : area.Size.toNat <
      first + job.WordSize * left) :
    ∃ last count,
      (opReadArea (workerPeer others) self job).Returns state last ∧
      last.Result = errCliAddressOutOfRange ∧
      last.Data = state.Data ++ load area.PData first count ∧
      (count ≠ 0 → first + count ≤ area.Size.toNat) ∧
      last.world.worker.FServer = server ∧ Kept state last := by
  induction left using Nat.strongRecOn generalizing first state with
  | ind left ih =>
      have parts := split_elements (job.WordSize) left room
      rcases underway.readRound others rounded isNear isLeft more with
        ⟨goesOn, client, after, isNext, isServer, kept, later⟩
      by_cases isSlice : first + job.WordSize * min left room ≤
          area.Size.toNat
      · have isSize := area.Size.toNat_lt
        have positive := rounded.positive
        have notDone : left - min left room ≠ 0 := by
          intro isDone
          rw [isDone, Nat.mul_zero] at parts
          omega
        rcases ih (left - min left room) (by omega) (later isSlice)
          (by omega) (by omega) (by omega) (by omega) with
          ⟨last, count, returns, isResult, isData, isPart, isServer, keeps⟩
        refine ⟨last, job.WordSize * min left room + count,
          returns.of_step goesOn isNext, isResult, ?_, ?_, isServer,
          kept.trans keeps⟩
        case refine_2 => omega
        rw [isData, data_afterRead isSlice, List.append_assoc, ← load_add]
      · refine ⟨_, 0,
          (Loop.returns_of_done ?_).of_step goesOn isNext, if_neg isSlice, ?_,
          fun notZero => absurd rfl notZero, isServer, kept⟩
        · simp [opReadArea, Transfer.goesOn, afterRead, isSlice,
            errCliAddressOutOfRange]
        · rw [load_zero, List.append_nil]
          exact if_neg isSlice

/-- The rest of a job with blocks of 65536 elements in an area. -/
theorem Underway.readDiverges
    (underway : Underway server PDULength first left blocks state)
    (rounded : Rounded server job area self PDULength room)
    (isLeft : left < 65536) (more : 0 < blocks)
    (isInside : first + job.WordSize * left ≤ area.Size.toNat) :
    (opReadArea (workerPeer others) self job).Diverges state := by
  have isSize := area.Size.toNat_lt
  -- When nothing is left, every round asks for no elements.
  let unfinished (state : Transfer Served) : Prop :=
    ∃ first left, left < 65536 ∧
      first + job.WordSize * left ≤ area.Size.toNat ∧
      Underway server PDULength first left blocks state
  have start : unfinished state := ⟨first, left, isLeft, isInside, underway⟩
  refine Loop.diverges_of_invariant start ?_
  rintro state ⟨first, left, isLeft, isInside, underway⟩
  have parts := split_elements (job.WordSize) left room
  rcases underway.readRound others rounded (by omega) isLeft
    (by omega) with ⟨goesOn, client, after, isNext, _, _, later⟩
  exact ⟨goesOn, _, isNext, _, _, by omega, by omega, later (by omega)⟩

end Rounds

/-! ## The whole job -/

section Job

variable {others : OtherCommands} {job : TSnap7Job} {area : TS7Area}
variable {self : TSnap7MicroClient} {served : Served}

/-- A client whose PDU length the worker knows. -/
structure Agreed (client : TSnap7MicroClient) (worker : TS7Worker) : Prop where
  isLong : MinPduSize ≤ client.PDULength
  fits : client.PDULength + DataHeaderSize ≤ IsoPayload_Size
  known : client.PDULength ≤ worker.FPDULength
  isWord : worker.FPDULength < 65536

theorem rounded_of_agreed
    (agreed : Agreed self served.worker)
    (ranged : Ranged served.worker.FServer job area) :
    Rounded served.worker.FServer job area self served.worker.FPDULength
      ((self.PDULength - 18) / job.WordSize) := by
  have isLong := agreed.isLong
  have fits := agreed.fits
  have known := agreed.known
  have isWord := agreed.isWord
  have isWide := ranged.width
  have isQuotient := Nat.mul_div_le (self.PDULength - 18)
    (job.WordSize)
  rw [MinPduSize] at isLong
  rw [DataHeaderSize] at fits
  constructor
  case ranged => exact ranged
  case isRoom => exact maxRead_eq (by omega) (by omega)
  case positive => exact Nat.div_pos (by omega) isWide.1
  case fits => omega
  case notFull => omega
  case isWord => exact isWord

/-- The job before its first round. -/
theorem underway_start
    (idle : Idle self served) (checked : job.check = 0)
    (isStart : 0 ≤ job.Start) (isAmount : 0 ≤ job.Amount) :
    Underway served.worker.FServer served.worker.FPDULength job.Start.toNat
      (job.Amount % 65536).toNat (job.Amount / 65536).toNat
        (job.start self served) where
  idle := idle
  server := rfl
  length := rfl
  Start := (Int.toNat_of_nonneg isStart).symm
  TotElements := by
    show job.Amount = _
    omega
  Result := checked

theorem check_eq_zero (checked : job.check = 0) :
    0 ≤ job.Start ∧ 1 ≤ job.Amount := by
  rw [TSnap7Job.check] at checked
  split_ifs at checked with noSize isInvalid isBits
  · cases checked
  · cases checked
  · cases checked
  · omega

/-- The number of bytes of the elements that are left over from blocks of
65536. -/
def jobSize (job : TSnap7Job) : Nat :=
  job.WordSize * (job.Amount % 65536).toNat

/-- A range in the area is read. -/
theorem readArea_inside
    (idle : Idle self served) (agreed : Agreed self served.worker)
    (ranged : Ranged served.worker.FServer job area)
    (checked : job.check = 0) (isFew : job.Amount < 65536)
    (isInside : job.Start + jobSize job ≤ area.Size.toNat) :
    ∃ last, (opReadArea (workerPeer others) self job).Returns
        (job.start self served) last ∧
      last.Result = 0 ∧
      last.Data = load area.PData job.Start.toNat (jobSize job) ∧
      last.world.worker.FServer = served.worker.FServer ∧
      Kept (job.start self served) last := by
  rcases check_eq_zero checked with ⟨isStart, isAmount⟩
  have underway := underway_start idle checked isStart (by omega)
  have noBlocks : (job.Amount / 65536).toNat = 0 := by omega
  rw [noBlocks] at underway
  rw [jobSize] at isInside
  exact underway.readReturns (rounded_of_agreed agreed ranged) (by omega)
    (by omega)

/-- A range that is not in the area is refused. -/
theorem readArea_outside
    (idle : Idle self served) (agreed : Agreed self served.worker)
    (ranged : Ranged served.worker.FServer job area)
    (checked : job.check = 0) (isNear : job.Start < 0x200000)
    (isOutside : area.Size.toNat < job.Start + jobSize job) :
    ∃ last count, (opReadArea (workerPeer others) self job).Returns
        (job.start self served) last ∧
      last.Result = errCliAddressOutOfRange ∧
      last.Data = load area.PData job.Start.toNat count ∧
      (count ≠ 0 → job.Start + count ≤ area.Size.toNat) ∧
      last.world.worker.FServer = served.worker.FServer ∧
      Kept (job.start self served) last := by
  rcases check_eq_zero checked with ⟨isStart, isAmount⟩
  have underway := underway_start idle checked isStart (by omega)
  rw [jobSize] at isOutside
  rcases underway.readRefused (rounded_of_agreed agreed ranged) (by omega)
    (by omega) (by omega) (by omega) with
    ⟨last, count, returns, isResult, isData, isPart, kept⟩
  exact ⟨last, count, returns, isResult, isData, by omega, kept⟩

/-- A job of 65536 elements or more does not end in its area. -/
theorem readArea_endless
    (idle : Idle self served) (agreed : Agreed self served.worker)
    (ranged : Ranged served.worker.FServer job area)
    (checked : job.check = 0) (isMany : 65536 ≤ job.Amount)
    (isInside : job.Start + jobSize job ≤ area.Size.toNat) :
    (opReadArea (workerPeer others) self job).Diverges
      (job.start self served) := by
  rcases check_eq_zero checked with ⟨isStart, isAmount⟩
  have underway := underway_start idle checked isStart (by omega)
  rw [jobSize] at isInside
  exact underway.readDiverges (rounded_of_agreed agreed ranged) (by omega)
    (by omega) (by omega)

/--
A job on bytes returns them in their order when the range is in the area, and
refuses the range when it is not, with the slices before the refused one
copied.  This is so for the elements left over from blocks of 65536: with at
least one block the job never ends in an area that has the rest.
-/
theorem opReadArea_reads
    (idle : Idle self served) (agreed : Agreed self served.worker)
    (ranged : Ranged served.worker.FServer job area)
    (checked : job.check = 0) (isNear : job.Start < 0x200000) :
    let loop := opReadArea (workerPeer others) self job
    let start := job.start self served
    (job.Start + jobSize job ≤ area.Size.toNat → job.Amount < 65536 →
      ∃ last, loop.Returns start last ∧ last.Result = 0 ∧
        last.Data = load area.PData job.Start.toNat (jobSize job) ∧
        last.world.worker.FServer = served.worker.FServer ∧
        Kept start last) ∧
    (job.Start + jobSize job ≤ area.Size.toNat → 65536 ≤ job.Amount →
      loop.Diverges start) ∧
    (area.Size.toNat < job.Start + jobSize job →
      ∃ last count, loop.Returns start last ∧
        last.Result = errCliAddressOutOfRange ∧
        last.Data = load area.PData job.Start.toNat count ∧
        (count ≠ 0 → job.Start + count ≤ area.Size.toNat) ∧
        last.world.worker.FServer = served.worker.FServer ∧
        Kept start last) :=
  ⟨fun isInside isFew =>
      readArea_inside idle agreed ranged checked isFew isInside,
    fun isInside isMany =>
      readArea_endless idle agreed ranged checked isMany isInside,
    readArea_outside idle agreed ranged checked isNear⟩

/-- Words from the second byte of the data block on. -/
def exampleJob (Amount : Int) : TSnap7Job where
  Area := S7AreaDB.toNat
  Number := 1
  Start := 2
  Amount := Amount
  WordLen := S7WLWord.toNat
  pData := fun _ => 0

theorem exampleJob_ranged (Amount : Int) :
    Ranged exampleServed.worker.FServer (exampleJob Amount) exampleArea where
  isArea := rfl
  notCounter := (by decide : S7AreaDB ≠ S7AreaCT)
  notTimer := (by decide : S7AreaDB ≠ S7AreaTM)
  wordLen := (by decide : ByteAddressed S7WLWord.toNat)

theorem exampleClient_agreed : Agreed exampleClient exampleServed.worker :=
  ⟨by decide, by decide, by decide, by decide⟩

theorem exampleJob_read :
    let loop (Amount : Int) :=
      opReadArea (workerPeer noOthers) exampleClient (exampleJob Amount)
    let start (Amount : Int) :=
      (exampleJob Amount).start exampleClient exampleServed
    (∃ last, (loop 3).Returns (start 3) last ∧ last.Result = 0 ∧
      last.Data = [12, 13, 14, 15, 16, 17]) ∧
    (loop 65538).Diverges (start 65538) ∧
    (∃ last, (loop 4).Returns (start 4) last ∧
      last.Result = errCliAddressOutOfRange) := by
  have isNear : (2 : Int) < 0x200000 := by decide
  have reads (Amount : Int) (checked : (exampleJob Amount).check = 0) :=
    @opReadArea_reads noOthers (exampleJob Amount) _ exampleClient
      exampleServed exampleClient_idle exampleClient_agreed
        (exampleJob_ranged Amount) checked isNear
  refine ⟨?_, (reads 65538 (by decide)).2.1 (by decide) (by decide), ?_⟩
  · rcases (reads 3 (by decide)).1 (by decide) (by decide) with
      ⟨last, returns, isResult, isData, _⟩
    exact ⟨last, returns, isResult, isData⟩
  · rcases (reads 4 (by decide)).2.2 (by decide) with
      ⟨last, _, returns, isResult, _⟩
    exact ⟨last, returns, isResult⟩

end Job

end ServerUtils.Snap7.ReadRange
