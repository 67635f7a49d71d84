import ServerUtils.Snap7.WireFormat

/-!
# Reading several items at once

`PerformFunctionRead` puts the answers of the items one behind the other into
`Answer` and fills up an odd number of bytes, and `opReadMultiVars` walks over
them in the same way.  So every item gets the result that `ReadArea` had for
it, whatever `Answer` held before.  `ReadArea` does not stop where the
negotiated PDU is full, and an answer that does not fit in `Answer` is written
past its end.
-/

namespace ServerUtils.Snap7.ReadItems

open ServerUtils.Parser.StdString
open ServerUtils.Foundation.BlockCopy
open ServerUtils.Snap7.MsgSocket
open ServerUtils.Snap7.IsoTcp
open ServerUtils.Snap7.Areas
open ServerUtils.Snap7.S7Server
open ServerUtils.Snap7.MicroClient
open ServerUtils.Snap7.Exchange
open ServerUtils.Snap7.WireFormat

/-! ## The results of the items -/

/-- What the client is to get for an item: its result and its bytes. -/
def outcome (item : ResItem) : Nat × Bytes :=
  if item.ReturnCode = 0xFF then (0, item.Data.take item.Size)
  else (cpuError item.ReturnCode.toNat, [])

/-- The results of the items, read one after the other. -/
def readOutcomes (self : Resources) :
    List ReqItem → Int → List (Nat × Bytes)
  | [], _ => []
  | item :: items, PDURemainder =>
      let (ResData, PDURemainder, self) := readArea self item PDURemainder 0
      outcome ResData :: readOutcomes self items PDURemainder

/-- The size of the answer without its headers. -/
def answerSize (self : Resources) : List ReqItem → Int → Nat
  | [], _ => 0
  | item :: items, PDURemainder =>
      let (ResData, PDURemainder, self) := readArea self item PDURemainder 0
      let ItemSize :=
        if items.isEmpty = false ∧ ResData.Size % 2 ≠ 0 then
          ResData.Size + 1
        else ResData.Size
      ItemSize + 4 + answerSize self items PDURemainder

/-- An answered item tells its size. -/
structure Sized (item : ResItem) : Prop where
  stored : item.Size ≤ item.Data.length
  tight : item.Data.length ≤ item.Size + 1
  slice : item.Size < 8192 →
    sliceOf item.ReturnCode item.TransportSize (item.DataLength % 65536) =
      item.Size

section OneItem

variable {resources : Resources} {item : ReqItem} {PDURemainder : Int}

theorem sized_refuse
    {ReturnCode : UInt8} (isError : ReturnCode ≠ 0xFF) :
    Sized (refuse ReturnCode) where
  stored := Nat.le_refl _
  tight := Nat.zero_le _
  slice := fun _ => if_neg isError

/-- A bit has at most one byte. -/
theorem sized_deliver
    {data : Bytes} (old : UInt8)
    (oneBit : item.TransportSize = S7WLBit → data.length ≤ 1) :
    Sized (deliver item data old) := by
  rw [deliver]
  split
  case isTrue isBit =>
    have small := oneBit isBit
    refine ⟨small, Nat.le_add_left _ _, fun _ => ?_⟩
    show data.length % 65536 = data.length
    omega
  case isFalse =>
    split
    case isTrue =>
      refine ⟨Nat.le_refl _, Nat.le_succ _, fun small => ?_⟩
      show data.length * 8 % 65536 / 8 = data.length
      have small : data.length < 8192 := small
      omega
    case isFalse =>
      split
      case isTrue =>
        refine ⟨Nat.le_refl _, Nat.le_succ _, fun small => ?_⟩
        show data.length % 65536 = data.length
        have small : data.length < 8192 := small
        omega
      case isFalse =>
        split
        case isTrue =>
          refine ⟨Nat.le_refl _, Nat.le_succ _, fun small => ?_⟩
          show data.length % 65536 = data.length
          have small : data.length < 8192 := small
          omega
        case isFalse =>
          refine ⟨Nat.le_refl _, Nat.le_succ _, fun small => ?_⟩
          show data.length * 8 % 65536 / 8 = data.length
          have small : data.length < 8192 := small
          omega

/-- The old byte only shows where no byte is delivered. -/
theorem outcome_deliver
    {data : Bytes} (old : UInt8)
    (oneBit : item.TransportSize = S7WLBit → data.length ≤ 1) :
    outcome (deliver item data old) = outcome (deliver item data 0) ∧
      (deliver item data old).Size = (deliver item data 0).Size := by
  rw [deliver, deliver]
  split
  case isTrue isBit =>
    refine ⟨?_, rfl⟩
    cases data with
    | nil => rfl
    | cons first rest => rfl
  case isFalse => exact ⟨rfl, rfl⟩

/-- A server that has no callback looks for an area. -/
theorem place_of_own
    (own : resources.OnRWArea = none) (item : ReqItem) :
    resources.place item =
      (resources.FServer.getArea item.Area item.index).map .area := by
  rw [Resources.place, own]

/-- `ReadArea` refuses an item or delivers its bytes. -/
theorem readArea_cases
    (own : resources.OnRWArea = none) (item : ReqItem) (PDURemainder : Int) :
    (∃ ReturnCode, ReturnCode ≠ 0xFF ∧ ∃ after, ∀ old,
      readArea resources item PDURemainder old =
        (refuse ReturnCode, after, resources)) ∨
    (∃ P, resources.FServer.getArea item.Area item.index = some P ∧
      (item.TransportSize = S7WLBit → item.Size ≤ 1) ∧
      item.Start + item.Size ≤ P.Size.toNat ∧ ∀ old,
      readArea resources item PDURemainder old =
        (deliver item (load P.PData item.Start item.Size) old,
          PDURemainder - item.Size, resources)) := by
  have isPlace := place_of_own own item
  cases isArea : resources.FServer.getArea item.Area item.index with
  | none =>
      rw [isArea] at isPlace
      refine .inl ⟨Code7ResItemNotAvailable, by decide, PDURemainder, ?_⟩
      intro old
      rw [readArea, isPlace]
      rfl
  | some P =>
      rw [isArea] at isPlace
      simp only [readArea, isPlace, Option.map_some]
      split_ifs with noSize isIncoherent isFull isLong isMisaligned isOutside
      · exact .inl ⟨_, by decide, _, fun _ => rfl⟩
      · exact .inl ⟨_, by decide, _, fun _ => rfl⟩
      · exact .inl ⟨_, by decide, _, fun _ => rfl⟩
      · exact .inl ⟨_, by decide, _, fun _ => rfl⟩
      · exact .inl ⟨_, by decide, _, fun _ => rfl⟩
      · exact .inl ⟨_, by decide, _, fun _ => rfl⟩
      · refine .inr ⟨P, rfl, ?_, Nat.le_of_not_lt isOutside, fun _ => rfl⟩
        intro isBit
        exact Nat.le_of_not_lt fun isTwo => isLong ⟨isBit, isTwo⟩

/-- What does not depend on the old byte. -/
theorem readArea_old
    (own : resources.OnRWArea = none) (item : ReqItem) (PDURemainder : Int)
    (old : UInt8) :
    let result := readArea resources item PDURemainder old
    let clean := readArea resources item PDURemainder 0
    Sized result.1 ∧ outcome result.1 = outcome clean.1 ∧
      result.1.Size = clean.1.Size ∧ result.2 = clean.2 ∧
      clean.2.2 = resources := by
  rcases readArea_cases own item PDURemainder with
    ⟨ReturnCode, isError, after, isRefused⟩ |
      ⟨P, _, oneBit, _, isDelivered⟩
  · simp only [isRefused]
    exact ⟨sized_refuse isError, trivial, trivial, trivial, trivial⟩
  · have oneBit : item.TransportSize = S7WLBit →
        (load P.PData item.Start item.Size).length ≤ 1 := by
      rw [length_load]
      exact oneBit
    rcases outcome_deliver old oneBit with ⟨sameOutcome, sameSize⟩
    simp only [isDelivered]
    exact ⟨sized_deliver old oneBit, sameOutcome, sameSize, trivial, trivial⟩

end OneItem

/-! ## Gathering the answers -/

section Gather

variable {items : List ReqItem} {before after : Gathering}

theorem length_bytes (item : ResItem) :
    item.bytes.length = 4 + item.Data.length := by
  simp [ResItem.bytes, wordBytes]
  omega

/-- What one item does to `Answer`. -/
structure Gathered (item : ReqItem) (isLast : Bool)
    (before after : Gathering) (ResData : ResItem) : Prop where
  isRead : (readArea before.resources item before.PDURemainder
    (before.Answer (ResHeaderSize23 + before.Offset + 4))) =
      (ResData, after.PDURemainder, after.resources)
  inside : ResHeaderSize23 + before.Offset + ResData.bytes.length ≤
    IsoPayload_Size
  Answer : after.Answer = store before.Answer
    (ResHeaderSize23 + before.Offset) ResData.bytes
  Offset : after.Offset = before.Offset +
    ((if isLast = false ∧ ResData.Size % 2 ≠ 0 then ResData.Size + 1
      else ResData.Size) + 4)

theorem gatherItem_cases
    (item : ReqItem) (isLast : Bool) (before : Gathering) :
    (∃ after ResData, gatherItem item isLast before = .ok after ∧
      Gathered item isLast before after ResData) ∨
    (gatherItem item isLast before = .error .overrun ∧
      IsoPayload_Size < ResHeaderSize23 + before.Offset +
        (readArea before.resources item before.PDURemainder
          (before.Answer (ResHeaderSize23 + before.Offset + 4))).1.bytes.length)
    := by
  cases isRead : readArea before.resources item before.PDURemainder
      (before.Answer (ResHeaderSize23 + before.Offset + 4)) with
  | mk ResData rest =>
      simp only [gatherItem, isRead]
      by_cases outside : IsoPayload_Size <
          ResHeaderSize23 + before.Offset + ResData.bytes.length
      · rw [if_pos outside]
        exact .inr ⟨rfl, outside⟩
      · rw [if_neg outside]
        exact .inl ⟨_, ResData, rfl, isRead, Nat.le_of_not_lt outside, rfl,
          rfl⟩

/-- The answers of the items that follow go behind. -/
theorem gather_keeps
    (gathered : gather items before = .ok after) :
    before.Offset ≤ after.Offset ∧
      ∀ address < ResHeaderSize23 + before.Offset,
        after.Answer address = before.Answer address := by
  induction items generalizing before with
  | nil =>
      cases gathered
      exact ⟨Nat.le_refl _, fun _ _ => rfl⟩
  | cons item items ih =>
      rcases bind_eq_ok_iff.mp gathered with ⟨middle, isMiddle, isAfter⟩
      rcases gatherItem_cases item items.isEmpty before with
        ⟨other, ResData, isOther, one⟩ | ⟨isError, _⟩
      · rw [isMiddle] at isOther
        cases isOther
        rcases ih isAfter with ⟨isBehind, keeps⟩
        have isLater := one.Offset
        refine ⟨by omega, fun address isBefore => ?_⟩
        rw [keeps address (by omega), one.Answer]
        exact store_of_lt isBefore
      · rw [isMiddle] at isError
        cases isError

/-- The size of the answer, and whether it fits; the areas are only read. -/
theorem gather_size
    (items : List ReqItem) (before : Gathering)
    (own : before.resources.OnRWArea = none) :
    (ResHeaderSize23 + before.Offset +
        answerSize before.resources items before.PDURemainder <
          IsoPayload_Size →
      ∃ after, gather items before = .ok after ∧
        after.resources = before.resources ∧
        after.Offset = before.Offset +
          answerSize before.resources items before.PDURemainder) ∧
    (items ≠ [] → IsoPayload_Size < ResHeaderSize23 + before.Offset +
        answerSize before.resources items before.PDURemainder →
      gather items before = .error .overrun) := by
  induction items generalizing before with
  | nil =>
      exact ⟨fun _ => ⟨before, rfl, rfl, rfl⟩,
        fun isEmpty => absurd rfl isEmpty⟩
  | cons item items ih =>
      rcases readArea_old own item before.PDURemainder
          (before.Answer (ResHeaderSize23 + before.Offset + 4)) with
        ⟨sized, _, sameSize, sameRest, sameResources⟩
      have stored := sized.stored
      have tight := sized.tight
      have length := length_bytes (readArea before.resources item
        before.PDURemainder
        (before.Answer (ResHeaderSize23 + before.Offset + 4))).1
      simp only [gather, answerSize, ← sameSize, ← sameRest]
      rw [← sameRest] at sameResources
      rcases gatherItem_cases item items.isEmpty before with
        ⟨middle, ResData, isMiddle, one⟩ | ⟨isError, isOutside⟩
      · have isOffset := one.Offset
        rw [one.isRead] at stored tight length sameResources ⊢
        dsimp only at stored tight length sameResources ⊢
        rcases ih middle (sameResources.symm ▸ own) with ⟨fits, overruns⟩
        rw [isMiddle]
        simp only [bind, Except.bind]
        constructor
        · intro inside
          rcases fits (by omega) with ⟨after, isAfter, same, isSize⟩
          exact ⟨after, isAfter, same.trans sameResources, by omega⟩
        · intro _ outside
          cases items with
          | nil =>
              have inside := one.inside
              simp only [answerSize, List.isEmpty_nil, Bool.true_eq_false,
                false_and, if_false] at outside
              omega
          | cons next items =>
              exact overruns (List.cons_ne_nil _ _) (by omega)
      · rw [isError]
        refine ⟨fun inside => ?_, fun _ _ => rfl⟩
        split at inside
        · omega
        · omega

/-- The part of an answered item that tells its result. -/
theorem stands_of_gathered
    {item : ReqItem} {isLast : Bool} {ResData : ResItem}
    (one : Gathered item isLast before after ResData) :
    Stands after.Answer (ResHeaderSize23 + before.Offset)
      ([ResData.ReturnCode, ResData.TransportSize] ++
        wordBytes ResData.DataLength ++ ResData.Data.take ResData.Size) ∧
      ResHeaderSize23 + before.Offset + 4 + ResData.Size ≤
        ResHeaderSize23 + after.Offset := by
  have isBytes : ResData.bytes =
      ([ResData.ReturnCode, ResData.TransportSize] ++
        wordBytes ResData.DataLength ++ ResData.Data.take ResData.Size) ++
          ResData.Data.drop ResData.Size := by
    rw [List.append_assoc _ (ResData.Data.take _), List.take_append_drop]
    rfl
  constructor
  · rw [one.Answer]
    have whole := stands_store before.Answer
      (ResHeaderSize23 + before.Offset) ResData.bytes
    rw [isBytes, stands_append] at whole
    rw [isBytes]
    exact whole.1
  · have isLater := one.Offset
    split at isLater
    · omega
    · omega

/-- An answered item is found in `PDU`. -/
theorem parseItem_of_stands
    {PDU : Memory UInt8} {address : Nat} {ResData : ResItem}
    (stands : Stands PDU address
      ([ResData.ReturnCode, ResData.TransportSize] ++
        wordBytes ResData.DataLength ++ ResData.Data.take ResData.Size))
    (sized : Sized ResData) (small : ResData.Size < 8192)
    (inside : address + 4 + ResData.Size ≤ IsoFrameSize) :
    parseItem PDU address = .ok (outcome ResData) ∧
      (outcome ResData).2.length = ResData.Size := by
  simp only [stands_append, stands_cons, stands_nil, and_true,
    List.length_append, length_wordBytes, List.length_cons,
    List.length_nil] at stands
  rcases stands with ⟨⟨⟨isCode, isType⟩, isLength⟩, isData⟩
  have isSlice := sized.slice small
  have isWord := wordAt_of_stands isLength
  have taken : (ResData.Data.take ResData.Size).length = ResData.Size :=
    List.length_take_of_le sized.stored
  have isLoad : load PDU (address + 4) ResData.Size =
      ResData.Data.take ResData.Size := by
    have whole := isData.load_eq
    rwa [taken] at whole
  have isOutcome : outcome ResData =
      (if ResData.ReturnCode = 0xFF then 0
        else cpuError ResData.ReturnCode.toNat,
        ResData.Data.take ResData.Size) := by
    rw [outcome]
    split
    case isTrue => rfl
    case isFalse isError =>
      rw [sliceOf, if_neg isError] at isSlice
      rw [← isSlice, List.take_zero]
  have sameSlice : sliceOf (PDU address) (PDU (address + 1))
      (wordAt PDU (address + 2)) = ResData.Size := by
    rw [isCode, isType]
    exact (congrArg _ isWord).trans isSlice
  constructor
  · simp only [parseItem, sameSlice]
    rw [if_neg (Nat.not_lt_of_le inside), isCode, isLoad, isOutcome]
  · rw [isOutcome]
    exact taken

/-- The client gets for every item what `ReadArea` had for it. -/
theorem parseItems_of_gather
    {PDU : Memory UInt8} (own : before.resources.OnRWArea = none)
    (gathered : gather items before = .ok after)
    (fits : ResHeaderSize23 + after.Offset ≤ IsoPayload_Size)
    (same : ∀ address, ResHeaderSize23 + before.Offset ≤ address →
      address < ResHeaderSize23 + after.Offset →
        PDU (DataHeaderSize + address) = after.Answer address) :
    parseItems PDU items.length (ResParams + before.Offset) =
      .ok (readOutcomes before.resources items before.PDURemainder) := by
  induction items generalizing before with
  | nil => rfl
  | cons item items ih =>
      rcases bind_eq_ok_iff.mp gathered with ⟨middle, isMiddle, isAfter⟩
      rcases gatherItem_cases item items.isEmpty before with
        ⟨other, ResData, isOther, one⟩ | ⟨isError, _⟩
      case inr =>
        rw [isMiddle] at isError
        cases isError
      rw [isMiddle] at isOther
      cases isOther
      rcases readArea_old own item before.PDURemainder
          (before.Answer (ResHeaderSize23 + before.Offset + 4)) with
        ⟨sized, sameOutcome, _, sameRest, sameResources⟩
      rw [← sameRest] at sameResources
      rw [one.isRead] at sized sameOutcome sameRest sameResources
      dsimp only at sized sameOutcome sameRest sameResources
      rcases stands_of_gathered one with ⟨stands, isInside⟩
      rcases gather_keeps isAfter with ⟨isBehind, keeps⟩
      have length : ([ResData.ReturnCode, ResData.TransportSize] ++
          wordBytes ResData.DataLength ++
            ResData.Data.take ResData.Size).length = 4 + ResData.Size := by
        rw [List.length_append, List.length_take_of_le sized.stored]
        rfl
      have standsThere : Stands PDU (ResParams + before.Offset)
          ([ResData.ReturnCode, ResData.TransportSize] ++
            wordBytes ResData.DataLength ++
              ResData.Data.take ResData.Size) := by
        intro offset cell isCell
        have inCells := (List.getElem?_eq_some_iff.mp isCell).1
        rw [length] at inCells
        rw [ResParams, Nat.add_assoc, Nat.add_assoc, ← Nat.add_assoc _ _ offset,
          same _ (by omega) (by omega), keeps _ (by omega)]
        exact stands offset cell isCell
      have small : ResData.Size < 8192 := by
        simp only [IsoPayload_Size] at fits
        omega
      have insideFrame : ResParams + before.Offset + 4 + ResData.Size ≤
          IsoFrameSize := by
        rw [ResParams, IsoFrameSize]
        omega
      have later := ih (sameResources.symm ▸ own) isAfter fun address isLater =>
        same address (by omega)
      rcases parseItem_of_stands standsThere sized small insideFrame with
        ⟨isParsed, length⟩
      rw [List.length_cons, parseItems, isParsed]
      simp only [bind, Except.bind, length, readOutcomes, ← sameRest,
        ← sameOutcome]
      cases items with
      | nil => rfl
      | cons next items =>
          have isLater := one.Offset
          simp only [List.isEmpty_cons, true_and] at isLater
          have samePlace : ResParams + before.Offset +
              (4 + if ResData.Size % 2 ≠ 0 then ResData.Size + 1
                else ResData.Size) = ResParams + middle.Offset := by
            omega
          rw [samePlace, later]

end Gather

/-! ## The whole job -/

section Job

variable {others : OtherCommands} {worker : TS7Worker}
variable {items : List TS7DataItem}

theorem length_resHeader (PDU : Memory UInt8) (ParLen DataLen : Nat) :
    (resHeader PDU ParLen DataLen).length = ResHeaderSize23 := by
  simp only [resHeader, List.length_append, length_load, length_wordBytes]
  rfl

/-- The headers in front of the answered items. -/
def readHeaders (PDU : Memory UInt8) (ItemsCount size : Nat) : Bytes :=
  resHeader PDU 2 size ++ [PDU (ReqItems - 2), UInt8.ofNat ItemsCount]

theorem length_readHeaders (PDU : Memory UInt8) (ItemsCount size : Nat) :
    (readHeaders PDU ItemsCount size).length = ResHeaderSize23 + 2 := by
  rw [readHeaders, List.length_append, length_resHeader]
  rfl

/-- What `PerformFunctionRead` sends. -/
def readAnswer (PDU : Memory UInt8) (ItemsCount : Nat)
    (gathered : Gathering) : Bytes :=
  load (store gathered.Answer 0
    (readHeaders PDU ItemsCount (gathered.Offset - 2))) 0
      (ResHeaderSize23 + gathered.Offset)

/-- The worker when it has sent the answer. -/
def hasRead (worker : TS7Worker) (ItemsCount : Nat) (answer : Bytes) :
    TS7Worker :=
  { worker with
    iso := { worker.iso with
      PDU := withTelegram (store worker.iso.PDU (ReqItems - 1)
        [UInt8.ofNat ItemsCount]) answer
      sent := worker.iso.sent ++ wire answer
      LastTcpError := 0
      LastIsoError := 0 } }

/-- `PerformFunctionRead` answers when the answer fits. -/
theorem performFunctionRead_of_gather
    {Answer : Memory UInt8} {gathered : Gathering}
    (requests : Requests worker.iso.PDU 0 pduFuncRead items)
    (few : items.length ≤ MaxVars) (noErrors : worker.iso.sends = [])
    (isGathered : gather (items.map decoded)
      ⟨Answer, 2, worker.FPDULength, worker.toResources⟩ = .ok gathered)
    (same : gathered.resources = worker.toResources)
    (fits : ResHeaderSize23 + gathered.Offset ≤ IsoPayload_Size) :
    performFunctionRead worker Answer =
      .ok (true, hasRead worker items.length
        (readAnswer worker.iso.PDU items.length gathered)) := by
  have length : (readAnswer worker.iso.PDU items.length gathered).length ≤
      IsoPayload_Size := by
    rw [readAnswer, length_load]
    exact fits
  have sends := @isoSendBuffer_of_quiet
    { worker.iso with
      PDU := store worker.iso.PDU (ReqItems - 1)
        [UInt8.ofNat items.length] } _ noErrors length
  rw [performFunctionRead, requests.count, Nat.min_eq_left few,
    requests.items, isGathered]
  simp only [bind, Except.bind]
  rw [← readHeaders, ← readAnswer, sends, same]
  rfl

/-- `PerformFunctionRead` writes past `Answer` when it does not. -/
theorem performFunctionRead_of_overrun
    {Answer : Memory UInt8}
    (requests : Requests worker.iso.PDU 0 pduFuncRead items)
    (few : items.length ≤ MaxVars)
    (overruns : gather (items.map decoded)
      ⟨Answer, 2, worker.FPDULength, worker.toResources⟩ =
        .error .overrun) :
    performFunctionRead worker Answer = .error .overrun := by
  rw [performFunctionRead, requests.count, Nat.min_eq_left few,
    requests.items, overruns]
  rfl

theorem sends_hasRead
    {answer : Bytes} {ItemsCount : Nat} (quiet : Quiet worker.iso) :
    Sends (hasRead worker ItemsCount answer) answer where
  quiet := ⟨quiet.waiting, quiet.arrivals, quiet.closed, quiet.sends,
    rfl⟩
  sent := by
    show worker.iso.sent ++ wire answer = wire answer
    rw [quiet.sent, List.nil_append]

/-- A request with items to read goes to `PerformFunctionRead`. -/
theorem performs_read
    {Answer : Memory UInt8}
    (requests : Requests worker.iso.PDU 0 pduFuncRead items) :
    isoPerformCommand others worker Answer (12 + 12 * items.length) =
      performFunctionRead worker Answer := by
  rw [← Nat.add_zero (12 + 12 * items.length),
    isoPerformCommand_of_requests requests, performPDURequest, requests.isFun]
  exact if_pos rfl

/-- What the client reads in the answer. -/
theorem answer_of_gather
    {PDU request : Memory UInt8} {gathered : Gathering} {ItemsCount : Nat}
    (stands : Stands PDU DataHeaderSize
      (readAnswer request ItemsCount gathered))
    (few : ItemsCount ≤ MaxVars) (behind : 2 ≤ gathered.Offset) :
    wordAt PDU (ResParams - 2) = 0 ∧
      (PDU (ResParams + 1)).toNat = ItemsCount ∧
      ∀ address, ResHeaderSize23 + 2 ≤ address →
        address < ResHeaderSize23 + gathered.Offset →
          PDU (DataHeaderSize + address) = gathered.Answer address := by
  have isCopy := stands_load_iff.mp stands
  simp only [Nat.zero_add] at isCopy
  have length := length_readHeaders request ItemsCount (gathered.Offset - 2)
  have headers : Stands PDU DataHeaderSize
      (readHeaders request ItemsCount (gathered.Offset - 2)) := by
    refine (stands_store gathered.Answer 0 _).congr fun offset inside => ?_
    rw [isCopy offset (by omega), Nat.zero_add]
  rw [MaxVars] at few
  simp only [readHeaders, resHeader, stands_append, stands_cons, stands_nil,
    and_true, List.length_append, length_load, length_wordBytes,
    List.length_cons, List.length_nil] at headers
  rcases headers with ⟨⟨_, isHigh, isLow⟩, _, isCount⟩
  refine ⟨?_, ?_, fun address isBehind inside => ?_⟩
  · have isHigh : PDU (ResParams - 2) = 0 := isHigh
    have isLow : PDU (ResParams - 2 + 1) = 0 := isLow
    rw [wordAt, isHigh, isLow]
    rfl
  · have isCount : PDU (ResParams + 1) = UInt8.ofNat ItemsCount := isCount
    rw [isCount, UInt8.toNat_ofNat']
    exact Nat.mod_eq_of_lt (by omega)
  · rw [isCopy address inside]
    exact store_of_le (by omega)

/-- The client that has sent its request. -/
def asking (self : TSnap7MicroClient) (items : List TS7DataItem) :
    TSnap7MicroClient :=
  self.getNextWord.2.put 0
    (itemRequest self.getNextWord.1 0 pduFuncRead items)

section Client

variable {World : Type} {peer : Peer World} {self : TSnap7MicroClient}
variable {world : World}

/-- A request that is not too long is sent. -/
theorem opReadMultiVars_eq
    (few : items.length ≤ MaxVars)
    (inPDU : 12 + 12 * items.length ≤ self.PDULength) :
    opReadMultiVars peer self world items =
      (isoExchangeBuffer peer (asking self (items.map adjust)).iso world
        (12 + 12 * items.length)).bind fun (Result, iso, world) =>
          let self := { asking self (items.map adjust) with iso := iso }
          let Error := wordAt iso.PDU (ResParams - 2)
          if Result ≠ 0 then .ok (Result, [], self, world)
          else if Error ≠ 0 then .ok (cpuError Error, [], self, world)
          else if (iso.PDU (ResParams + 1)).toNat ≠ items.length then
            .ok (errCliInvalidPlcAnswer, [], self, world)
          else
            (parseItems iso.PDU items.length (ResParams + 2)).bind
              fun results => .ok (0, results, self, world) := by
  have isSize : 2 + items.length * 12 + ReqHeaderSize =
      12 + 12 * items.length := by
    rw [ReqHeaderSize]
    omega
  have isAsking : self.getNextWord.2.put 0
      (reqHeader self.getNextWord.1 (2 + items.length * 12) 0 ++
        [pduFuncRead, UInt8.ofNat items.length] ++
          (items.map adjust).flatMap itemBytes) =
      asking self (items.map adjust) := by
    rw [asking, itemRequest, List.length_map]
  have notLong : ¬ (asking self (items.map adjust)).PDULength <
      12 + 12 * items.length := Nat.not_lt_of_le inPDU
  rw [opReadMultiVars, if_neg (Nat.not_lt_of_le few)]
  simp only [List.length_map, isAsking, isSize, if_neg notLong]
  simp only [TSnap7MicroClient.exchange, bind]
  cases isoExchangeBuffer peer (asking self (items.map adjust)).iso world
    (12 + 12 * items.length) with
  | error fault => rfl
  | ok exchanged => rfl

end Client

section Exchanged

variable {self : TSnap7MicroClient} {served : Served}

theorem load_asking (self : TSnap7MicroClient) (items : List TS7DataItem) :
    load (asking self items).iso.PDU DataHeaderSize (12 + 12 * items.length) =
      itemRequest self.getNextWord.1 0 pduFuncRead items := by
  rw [← length_itemRequest self.getNextWord.1 0 pduFuncRead items]
  exact load_put _ _

theorem quiet_asking (quiet : Quiet self.iso) (items : List TS7DataItem) :
    Quiet (asking self items).iso := by
  have isQuiet : Quiet self.getNextWord.2.iso := quiet
  exact quiet_put isQuiet _

theorem request_fits (few : items.length ≤ MaxVars) :
    12 + 12 * items.length + DataHeaderSize ≤ IsoPayload_Size := by
  rw [MaxVars] at few
  rw [DataHeaderSize, IsoPayload_Size]
  omega

/-- The worker has received a request with items. -/
theorem requests_received
    (worker : TS7Worker) (Sequence : Nat) (few : items.length ≤ MaxVars) :
    Requests (received worker
      (itemRequest Sequence 0 pduFuncRead items)).iso.PDU 0 pduFuncRead
        items :=
  requests_of_stands (stands_withTelegram _ _) few (by decide)

/-- The client gets the answer that has been gathered. -/
theorem exchange_of_gather
    {gathered : Gathering} (idle : Idle self served)
    (few : items.length ≤ MaxVars)
    (isGathered : gather (items.map decoded)
      ⟨served.Answer 0, 2, served.worker.FPDULength,
        served.worker.toResources⟩ = .ok gathered)
    (same : gathered.resources = served.worker.toResources)
    (fits : ResHeaderSize23 + gathered.Offset + DataHeaderSize ≤
      IsoPayload_Size) :
    ∃ iso after request, isoExchangeBuffer (workerPeer others)
        (asking self items).iso served (12 + 12 * items.length) =
          .ok (0, iso, after) ∧
      Quiet iso ∧ Quiet after.worker.iso ∧
      Stands iso.PDU DataHeaderSize
        (readAnswer request items.length gathered) ∧
      after.worker.toResources = served.worker.toResources ∧
      after.worker.FPDULength = served.worker.FPDULength := by
  let request := itemRequest self.getNextWord.1 0 pduFuncRead items
  let worker := received served.worker request
  let answer := readAnswer worker.iso.PDU items.length gathered
  have requests : Requests worker.iso.PDU 0 pduFuncRead items :=
    requests_received _ _ few
  have length : answer.length = ResHeaderSize23 + gathered.Offset :=
    length_load
  have answerFits : answer.length + DataHeaderSize ≤ IsoPayload_Size := by
    rw [length]
    exact fits
  have notEmpty : answer ≠ [] := by
    rw [← List.length_pos_iff, length, ResHeaderSize23]
    omega
  have performed : isoPerformCommand others worker (served.Answer 0)
      (12 + 12 * items.length) =
        .ok (true, hasRead worker items.length answer) := by
    rw [performs_read requests]
    exact performFunctionRead_of_gather requests few idle.worker.sends
      isGathered same (Nat.le_of_add_right_le fits)
  have sends : Sends (hasRead worker items.length answer) answer :=
    sends_hasRead ⟨rfl, idle.worker.arrivals, idle.worker.closed,
      idle.worker.sends, idle.worker.sent⟩
  have clientQuiet := quiet_asking idle.asker items
  exact ⟨_, _, worker.iso.PDU,
    exchange_of_answer clientQuiet idle.worker (load_asking self items)
      (by omega) (request_fits few) performed sends notEmpty answerFits,
    clientQuiet.answered, sends.quiet, stands_withTelegram _ _, rfl, rfl⟩

/-- The client finds the results of the items. -/
theorem exchange_of_fits
    (idle : Idle self served) (few : items.length ≤ MaxVars)
    (fits : ResHeaderSize23 + 2 +
      answerSize served.worker.toResources (items.map decoded)
        served.worker.FPDULength + DataHeaderSize ≤ IsoPayload_Size) :
    ∃ iso after, isoExchangeBuffer (workerPeer others)
        (asking self items).iso served (12 + 12 * items.length) =
          .ok (0, iso, after) ∧
      Quiet iso ∧ Quiet after.worker.iso ∧
      wordAt iso.PDU (ResParams - 2) = 0 ∧
      (iso.PDU (ResParams + 1)).toNat = items.length ∧
      parseItems iso.PDU items.length (ResParams + 2) =
        .ok (readOutcomes served.worker.toResources (items.map decoded)
          served.worker.FPDULength) ∧
      after.worker.toResources = served.worker.toResources ∧
      after.worker.FPDULength = served.worker.FPDULength := by
  have inside : ResHeaderSize23 + 2 +
      answerSize served.worker.toResources (items.map decoded)
        served.worker.FPDULength < IsoPayload_Size := by
    rw [DataHeaderSize] at fits
    omega
  rcases (gather_size (items.map decoded)
      ⟨served.Answer 0, 2, served.worker.FPDULength,
        served.worker.toResources⟩ idle.own).1 inside with
    ⟨gathered, isGathered, isRead, isOffset⟩
  dsimp only at isOffset isRead
  rcases @exchange_of_gather others items self served gathered idle few
    isGathered isRead (by omega) with
      ⟨iso, after, request, exchanged, quiet, quietAfter, stands, same⟩
  rcases answer_of_gather stands few (by omega) with
    ⟨noError, count, copied⟩
  have parsed := parseItems_of_gather idle.own isGathered (by omega) copied
  rw [List.length_map] at parsed
  exact ⟨iso, after, exchanged, quiet, quietAfter, noError, count, parsed,
    same⟩

/-- The worker fails where the answer does not fit in `Answer`. -/
theorem exchange_of_overrun
    (idle : Idle self served) (few : items.length ≤ MaxVars)
    (overruns : gather (items.map decoded)
      ⟨served.Answer 0, 2, served.worker.FPDULength,
        served.worker.toResources⟩ = .error .overrun) :
    isoExchangeBuffer (workerPeer others) (asking self items).iso served
      (12 + 12 * items.length) = .error .overrun := by
  have requests := requests_received served.worker self.getNextWord.1 few
  refine exchange_of_fault (quiet_asking idle.asker items) idle.worker
    (load_asking self items) (by omega) (request_fits few) ?_
  rw [performs_read requests]
  exact performFunctionRead_of_overrun requests few overruns

end Exchanged

/--
A client that reads several items from a worker whose server has areas of its
own gets for each of them the result that `ReadArea` had for it, and the bytes
of the area, as long as the answer fits in a telegram; the server stays as it
was.  Where the answer does not fit in `Answer`, the worker writes past its
end.
-/
theorem opReadMultiVars_reads
    {self : TSnap7MicroClient} {served : Served}
    (idle : Idle self served) (few : items.length ≤ MaxVars)
    (inPDU : 12 + 12 * items.length ≤ self.PDULength) :
    let requested := (items.map adjust).map decoded
    let worker := served.worker
    let size := answerSize worker.toResources requested worker.FPDULength
    (ResHeaderSize23 + 2 + size + DataHeaderSize ≤ IsoPayload_Size →
      ∃ client after, opReadMultiVars (workerPeer others) self served items =
        .ok (0, readOutcomes worker.toResources requested worker.FPDULength,
          client, after) ∧
        Idle client after ∧ client.PDULength = self.PDULength ∧
        after.worker.FServer = worker.FServer ∧
        after.worker.FPDULength = worker.FPDULength) ∧
    (IsoPayload_Size < ResHeaderSize23 + 2 + size →
      opReadMultiVars (workerPeer others) self served items =
        .error .overrun) := by
  intro requested worker size
  have sameLength : (items.map adjust).length = items.length :=
    List.length_map _
  have fewAdjusted : (items.map adjust).length ≤ MaxVars := by
    rwa [sameLength]
  rw [opReadMultiVars_eq few inPDU]
  constructor
  · intro fits
    rcases @exchange_of_fits others (items.map adjust) self served idle
      fewAdjusted fits with
        ⟨iso, after, exchanged, quiet, quietAfter, noError, count, parsed,
          same, sameLimit⟩
    rw [sameLength] at exchanged count parsed
    have own : after.worker.OnRWArea = none :=
      (congrArg Resources.OnRWArea same).trans idle.own
    refine ⟨{ asking self (items.map adjust) with iso := iso }, after, ?_,
      ⟨quiet, quietAfter, own⟩, rfl, congrArg Resources.FServer same,
      sameLimit⟩
    rw [exchanged]
    simp only [Except.bind, noError, count, parsed, ne_eq, not_true_eq_false,
      if_false]
    rfl
  · intro outside
    have notNone : requested ≠ [] := by
      rintro isNone
      simp only [size, isNone, answerSize] at outside
      exact absurd outside (by decide)
    have isSize := gather_size requested
      ⟨served.Answer 0, 2, worker.FPDULength, worker.toResources⟩ idle.own
    have fails := @exchange_of_overrun others (items.map adjust) self served
      idle fewAdjusted (isSize.2 notNone outside)
    rw [sameLength] at fails
    rw [fails]
    rfl

/-- A worker without other commands. -/
def noOthers : OtherCommands where
  confirm := fun _ worker => worker
  request := fun _ worker => .ok (true, worker)
  usrData := fun worker => .ok (true, worker)

/-- Nothing has been sent or received yet. -/
def freshSocket : TIsoTcpSocket :=
  ⟨⟨[], [], false, [], [], 0, true⟩, fun _ => 0, 0⟩

/-- A data block of eight bytes. -/
def exampleArea : TS7Area :=
  ⟨1, 8, fun address => UInt8.ofNat (address + 10)⟩

/-- A worker whose server has one data block. -/
def exampleWorker : TS7Worker where
  iso := freshSocket
  FServer := { TSnap7Server.initial with
    DB := fun c => if c = 0 then some exampleArea else none
    DBCount := 1 }
  OnRWArea := none
  calls := 0
  FPDULength := 240
  ForcePDU := 0

def exampleServed : Served := ⟨exampleWorker, fun _ _ => 0xAA⟩

def exampleClient : TSnap7MicroClient := ⟨freshSocket, 240, 0⟩

theorem exampleClient_idle : Idle exampleClient exampleServed :=
  ⟨⟨rfl, rfl, rfl, rfl, rfl⟩, ⟨rfl, rfl, rfl, rfl, rfl⟩, rfl⟩

/-- Three bytes, a word that ends behind the block, and a bit. -/
def exampleItems : List TS7DataItem :=
  [⟨S7AreaDB.toNat, S7WLByte.toNat, 1, 2, 3, fun _ => 0⟩,
    ⟨S7AreaDB.toNat, S7WLWord.toNat, 1, 7, 1, fun _ => 0⟩,
    ⟨S7AreaDB.toNat, S7WLBit.toNat, 1, 9, 1, fun _ => 0⟩]

theorem exampleItems_read :
    ∃ client after,
      opReadMultiVars (workerPeer noOthers) exampleClient exampleServed
        exampleItems =
          .ok (0, [(0, [12, 13, 14]), (errCliAddressOutOfRange, []), (0, [1])],
            client, after) := by
  rcases (@opReadMultiVars_reads noOthers exampleItems exampleClient
    exampleServed exampleClient_idle (by decide) (by decide)).1
      (by decide +kernel) with ⟨client, after, isRead, _⟩
  have areResults : readOutcomes exampleWorker.toResources
      ((exampleItems.map adjust).map decoded) exampleWorker.FPDULength =
        [(0, [12, 13, 14]), (errCliAddressOutOfRange, []), (0, [1])] := by
    decide +kernel
  exact ⟨client, after, areResults ▸ isRead⟩

end Job

end ServerUtils.Snap7.ReadItems
