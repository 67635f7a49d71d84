import ServerUtils.Snap7.Exchange

/-!
# What the worker reads in a request of the client

The client writes words with the high byte first and addresses in three bytes,
so amounts, block numbers and addresses reach the worker modulo a power of two,
and so do areas and word lengths, which are bytes on the wire.  The items of a
request come back in their order.
-/

namespace ServerUtils.Snap7.WireFormat

open ServerUtils.Parser.StdString
open ServerUtils.Foundation.BlockCopy
open ServerUtils.Snap7.IsoTcp
open ServerUtils.Snap7.Areas
open ServerUtils.Snap7.S7Server
open ServerUtils.Snap7.MicroClient
open ServerUtils.Snap7.Exchange

/-- The item that the worker finds. -/
def decoded (item : TS7DataItem) : ReqItem where
  TransportSize := toByte item.WordLen
  Length := toWord item.Amount
  DBNumber :=
    if IsCode item.Area S7AreaDB then UInt16.ofNat (toWord item.DBNumber)
    else 0
  Area := toByte item.Area
  Address := (addressOf item.WordLen item.Start % 0x1000000).toNat

section Fields

variable {memory : Memory UInt8} {address : Nat}

/-- A code is what it is cut down to. -/
theorem toByte_of_isCode
    {value : Int} {code : UInt8} (isCode : IsCode value code) :
    toByte value = code := by
  have isValue : value = code.toNat := isCode
  have isByte : (value % 256).toNat = code.toNat := by
    have small := code.toNat_lt
    omega
  rw [toByte, isByte]
  exact UInt8.ofNat_toNat

theorem toWord_lt (value : Int) : toWord value < 65536 := by
  rw [toWord]
  omega

theorem length_wordBytes (value : Nat) : (wordBytes value).length = 2 := rfl

/-- A word comes back modulo `2 ^ 16`. -/
theorem wordAt_of_stands
    {value : Nat} (stands : Stands memory address (wordBytes value)) :
    wordAt memory address = value % 65536 := by
  simp only [wordBytes, stands_cons, stands_nil, and_true] at stands
  rcases stands with ⟨isHigh, isLow⟩
  rw [wordAt, isHigh, isLow, UInt8.toNat_ofNat', UInt8.toNat_ofNat']
  omega

theorem length_itemBytes (item : TS7DataItem) :
    (itemBytes item).length = 12 := by
  rw [itemBytes]
  split
  · rfl
  · rfl

/-- The address of an item comes back modulo `2 ^ 24`. -/
theorem address_of_stands
    {Address : Int} (stands : Stands memory address (addressBytes Address)) :
    (memory address).toNat * 65536 + wordAt memory (address + 1) =
      (Address % 0x1000000).toNat := by
  simp only [addressBytes, stands_cons, stands_nil, and_true] at stands
  rcases stands with ⟨isHigh, isMiddle, isLow⟩
  rw [wordAt, isHigh, isMiddle, isLow]
  simp only [UInt8.toNat_ofNat']
  omega

/-- The fields of an item come back. -/
theorem itemAt_of_stands
    {item : TS7DataItem} (stands : Stands memory address (itemBytes item)) :
    itemAt memory address = decoded item := by
  have isBlock : (if IsCode item.Area S7AreaDB then
      wordBytes (toWord item.DBNumber) else [0, 0]).length = 2 := by
    split
    · rfl
    · rfl
  simp only [itemBytes, stands_append, List.length_append, isBlock,
    length_wordBytes, List.length_cons, List.length_nil, stands_cons,
    stands_nil, and_true] at stands
  rcases stands with
    ⟨⟨⟨⟨⟨_, _, _, isSize⟩, isLength⟩, isNumber⟩, isArea⟩, isAddress⟩
  have isNumber : UInt16.ofNat (wordAt memory (address + 6)) =
      (decoded item).DBNumber := by
    rw [decoded]
    split at isNumber
    case isTrue isDB =>
      rw [if_pos isDB, wordAt_of_stands isNumber,
        Nat.mod_eq_of_lt (toWord_lt _)]
    case isFalse notDB =>
      simp only [stands_cons, stands_nil, and_true] at isNumber
      rw [if_neg notDB, wordAt, isNumber.1, isNumber.2]
      rfl
  rw [itemAt, isNumber, isSize, isArea, wordAt_of_stands isLength,
    Nat.mod_eq_of_lt (toWord_lt _), address_of_stands isAddress]
  rfl

end Fields

/-! ## Whole requests -/

section Request

variable {PDU : Memory UInt8} {items : List TS7DataItem}

theorem length_flatMap_itemBytes (items : List TS7DataItem) :
    (items.flatMap itemBytes).length = 12 * items.length := by
  induction items with
  | nil => rfl
  | cons item items ih =>
      rw [List.flatMap_cons, List.length_append, length_itemBytes, ih,
        List.length_cons]
      omega

/-- The items of a request come back in their order. -/
theorem items_of_stands
    {address : Nat} (stands : Stands PDU address (items.flatMap itemBytes)) :
    (List.range items.length).map (fun c => itemAt PDU (address + 12 * c)) =
      items.map decoded := by
  induction items generalizing address with
  | nil => rfl
  | cons item items ih =>
      rw [List.flatMap_cons, stands_append, length_itemBytes] at stands
      rcases stands with ⟨isFirst, areLater⟩
      have later := ih areLater
      rw [List.length_cons, List.range_succ_eq_map, List.map_cons,
        List.map_map, List.map_cons, ← later, Nat.mul_zero, Nat.add_zero,
        itemAt_of_stands isFirst]
      congr 1
      apply List.map_congr_left
      intro c _
      simp only [Function.comp, Nat.mul_succ, Nat.add_assoc,
        Nat.add_comm (12 * c)]

/-- The parts of a request with items. -/
def itemRequest (Sequence DataLen : Nat) (Fun : UInt8)
    (items : List TS7DataItem) : Bytes :=
  reqHeader Sequence (2 + items.length * 12) DataLen ++
    [Fun, UInt8.ofNat items.length] ++ items.flatMap itemBytes

theorem length_itemRequest
    (Sequence DataLen : Nat) (Fun : UInt8) (items : List TS7DataItem) :
    (itemRequest Sequence DataLen Fun items).length =
      12 + 12 * items.length := by
  rw [itemRequest, List.length_append, List.length_append,
    length_flatMap_itemBytes]
  rfl

/-- What the worker reads in a request with items. -/
structure Requests (PDU : Memory UInt8) (DataLen : Nat) (Fun : UInt8)
    (items : List TS7DataItem) : Prop where
  isRequest : PDU (DataHeaderSize + 1) = PduType_request
  parLen : wordAt PDU (DataHeaderSize + 6) = 2 + items.length * 12
  dataLen : wordAt PDU (DataHeaderSize + 8) = DataLen
  isFun : PDU (DataHeaderSize + ReqHeaderSize) = Fun
  count : (PDU (ReqItems - 1)).toNat = items.length
  items : reqItems PDU items.length = items.map decoded

theorem requests_of_stands
    {Sequence DataLen : Nat} {Fun : UInt8}
    (stands : Stands PDU DataHeaderSize
      (itemRequest Sequence DataLen Fun items))
    (few : items.length ≤ MaxVars) (small : DataLen < 65536) :
    Requests PDU DataLen Fun items := by
  simp only [itemRequest, reqHeader, stands_append, List.length_append,
    length_wordBytes, List.length_cons, List.length_nil, stands_cons,
    stands_nil, and_true] at stands
  rcases stands with
    ⟨⟨⟨⟨⟨_, isRequest, _, _, _, _⟩, isParLen⟩, isDataLen⟩, isFun, isCount⟩,
      areItems⟩
  rw [MaxVars] at few
  constructor
  case isRequest => exact isRequest
  case parLen =>
    rw [← Nat.mod_eq_of_lt (by omega : 2 + items.length * 12 < 65536)]
    exact wordAt_of_stands isParLen
  case dataLen =>
    rw [← Nat.mod_eq_of_lt small]
    exact wordAt_of_stands isDataLen
  case isFun => exact isFun
  case count =>
    have isCount : PDU (ReqItems - 1) = UInt8.ofNat items.length := isCount
    rw [isCount, UInt8.toNat_ofNat']
    exact Nat.mod_eq_of_lt (by omega)
  case items => exact items_of_stands areItems

/-- A request of the right size is performed. -/
theorem isoPerformCommand_of_requests
    {others : OtherCommands} {worker : TS7Worker} {Answer : Memory UInt8}
    {DataLen : Nat} {Fun : UInt8}
    (requests : Requests worker.iso.PDU DataLen Fun items) :
    isoPerformCommand others worker Answer
        (12 + 12 * items.length + DataLen) =
      performPDURequest others worker Answer := by
  have isChecked : checkPDU_in worker (12 + 12 * items.length + DataLen) =
      true := by
    have isSize : 2 + items.length * 12 + DataLen + ReqHeaderSize =
        12 + 12 * items.length + DataLen := by
      rw [ReqHeaderSize]
      omega
    simp only [checkPDU_in, requests.parLen, requests.dataLen, isSize,
      requests.isRequest, beq_self_eq_true, Bool.true_or, Bool.and_self]
  rw [isoPerformCommand, if_neg (by omega), if_pos isChecked,
    if_pos requests.isRequest]

end Request

end ServerUtils.Snap7.WireFormat
