import ServerUtils.Snap7.Fragments

/-!
# What `isoRecvPDU` puts together

The loop accepts the telegrams of `Acceptable`, whatever they carry.  It adds
the offset of all earlier fragments to `pData` each time, and not the size of
the last one, so from the third fragment on a payload goes behind its place:
`places` lists where.  The payloads come together exactly where the ones that
are not empty are neighbours; elsewhere `PDU` keeps old bytes between them, and
a copy can go past the end of `PDU` although its size has been checked.
-/

namespace ServerUtils.Snap7.Reassembly

open ServerUtils.Parser.StdString
open ServerUtils.Foundation.BlockCopy
open ServerUtils.Snap7.MsgSocket
open ServerUtils.Snap7.IsoTcp
open ServerUtils.Snap7.IsoTcp.TIsoTcpSocket
open ServerUtils.Snap7.Fragments

/-- Where the loop copies the payloads. -/
def places : Nat → Nat → List Bytes → List (Block UInt8)
  | _, _, [] => []
  | pData, Offset, payload :: payloads =>
      (pData + Offset, payload) ::
        places (pData + Offset) (Offset + payload.length) payloads

/-- The bytes which the telegrams carry. -/
def carried (telegrams : List Telegram) : Bytes :=
  telegrams.flatMap Telegram.payload

/-- The telegrams as they stand in the stream. -/
def onWire (telegrams : List Telegram) : Bytes :=
  telegrams.flatMap Telegram.bytes

/-- What the loop accepts when `left` fragments may follow and `Offset` bytes
have been received. -/
structure AcceptableFrom
    (left Offset : Nat) (earlier : List Telegram) (last : Telegram) :
    Prop where
  valid : ∀ telegram ∈ earlier ++ [last], telegram.Valid
  unfinished : ∀ telegram ∈ earlier, telegram.ends = false
  finished : last.ends = true
  count : earlier.length ≤ left
  room : Offset + (carried earlier).length < IsoPayload_Size
  fits : Offset + (carried (earlier ++ [last])).length ≤ IsoPayload_Size

theorem AcceptableFrom.next
    {left Offset : Nat} {telegram last : Telegram} {earlier : List Telegram}
    (acceptable :
      AcceptableFrom (left + 1) Offset (telegram :: earlier) last) :
    AcceptableFrom left (Offset + telegram.payload.length) earlier last := by
  have room := acceptable.room
  have fits := acceptable.fits
  simp only [carried, List.cons_append, List.flatMap_cons,
    List.length_append, ← Nat.add_assoc] at room fits
  exact
    { valid := fun other isOther =>
        acceptable.valid other (List.mem_cons_of_mem _ isOther)
      unfinished := fun other isOther =>
        acceptable.unfinished other (List.mem_cons_of_mem _ isOther)
      finished := acceptable.finished
      count := Nat.le_of_succ_le_succ acceptable.count
      room := room
      fits := fits }

/-- The loop has received these telegrams. -/
structure Receives
    (before : TIsoTcpSocket) (pData Offset : Nat)
    (telegrams : List Telegram) (received : Reassembly) : Prop where
  noError : received.Result = 0
  stream : before.stream = onWire telegrams ++ received.self.stream
  cells : ∀ address, DataHeaderSize ≤ address →
    received.self.PDU address =
      storeAll before.PDU
        (places pData Offset (telegrams.map Telegram.payload)) address
  inside : ∀ block ∈
      places pData Offset (telegrams.map Telegram.payload),
    ¬ Overruns block.1 block.2
  size : received.Offset + received.Received =
    Offset + (carried telegrams).length
  noTcpError : received.self.LastTcpError = 0

section Loop

variable {self : TIsoTcpSocket} {pData Offset left : Nat}

/-- A payload cell is not touched by the headers. -/
theorem cell_of_takes
    {From : Nat} {telegram : Telegram} {after : TIsoTcpSocket}
    (takes : Takes self From telegram after)
    {address : Nat} (isPayload : DataHeaderSize ≤ address) :
    after.PDU address = store self.PDU From telegram.payload address := by
  have untouched : store self.PDU 0 telegram.header address =
      self.PDU address := by
    refine store_of_le ?_
    rw [Telegram.length_header, Nat.zero_add]
    exact isPayload
  rw [takes.PDU]
  simp only [store] at untouched ⊢
  rw [untouched]

/-- The last telegram ends the loop. -/
theorem receives_last
    {last : Telegram} {after : TIsoTcpSocket}
    (takes : Takes self (pData + Offset) last after) :
    Receives self pData Offset [last]
      ⟨0, Offset, last.payload.length, after⟩ where
  noError := rfl
  stream := by simpa [onWire] using takes.stream
  cells := fun _ isPayload => cell_of_takes takes isPayload
  inside := by simpa [places] using takes.inside
  size := by simp [carried]
  noTcpError := takes.noTcpError

/-- A telegram that does not end the transmission, and then the others. -/
theorem receives_cons
    {telegram : Telegram} {telegrams : List Telegram}
    {middle : TIsoTcpSocket} {received : Reassembly}
    (takes : Takes self (pData + Offset) telegram middle)
    (receives : Receives middle (pData + Offset)
      (Offset + telegram.payload.length) telegrams received) :
    Receives self pData Offset (telegram :: telegrams) received where
  noError := receives.noError
  stream := by
    rw [takes.stream, receives.stream]
    simp [onWire]
  cells := by
    intro address isPayload
    rw [receives.cells address isPayload]
    exact storeAll_congr (cell_of_takes takes isPayload)
  inside := by
    rw [List.map_cons, places, List.forall_mem_cons]
    exact ⟨takes.inside, receives.inside⟩
  size := by
    rw [receives.size]
    simp [carried, Nat.add_assoc]
  noTcpError := receives.noTcpError

/-- A fault while a fragment is received is a fault of the loop. -/
theorem recvLoop_of_error
    {fault : Fault} (room : Offset < IsoPayload_Size)
    (isFault : self.isoRecvFragment (pData + Offset)
      (IsoPayload_Size - Offset) = .error fault) :
    recvLoop left self pData Offset = .error fault := by
  rw [recvLoop.eq_def]
  simp only [room, if_true, isFault, bind, Except.bind]

/-- The loop ends with the fragment that ends the transmission. -/
theorem recvLoop_of_end
    {fragment : Fragment} (room : Offset < IsoPayload_Size)
    (isFragment : self.isoRecvFragment (pData + Offset)
      (IsoPayload_Size - Offset) = .ok fragment)
    (isEnd : ¬ (fragment.Result = 0 ∧ fragment.EoT = false)) :
    recvLoop left self pData Offset =
      .ok ⟨fragment.Result, Offset, fragment.Size, fragment.self⟩ := by
  rw [recvLoop.eq_def]
  simp only [room, if_true, isFragment, bind, Except.bind]
  rw [if_neg isEnd]

/-- The loop goes on behind a fragment that does not end the transmission. -/
theorem recvLoop_of_more
    {fragment : Fragment} (room : Offset < IsoPayload_Size)
    (isFragment : self.isoRecvFragment (pData + Offset)
      (IsoPayload_Size - Offset) = .ok fragment)
    (isMore : fragment.Result = 0 ∧ fragment.EoT = false) :
    recvLoop (left + 1) self pData Offset =
      recvLoop left fragment.self (pData + Offset)
        (Offset + fragment.Size) := by
  rw [recvLoop.eq_def]
  simp only [room, if_true, isFragment, bind, Except.bind]
  rw [if_pos isMore]

/-- The loop on acceptable telegrams that wait. -/
theorem recvLoop_of_waiting
    (pData : Nat) {earlier : List Telegram} {last : Telegram} {rest : Bytes}
    (acceptable : AcceptableFrom left Offset earlier last)
    (waits : onWire (earlier ++ [last]) ++ rest <+: self.waiting) :
    ((∃ block ∈ places pData Offset
        ((earlier ++ [last]).map Telegram.payload),
        Overruns block.1 block.2) →
      recvLoop left self pData Offset = .error .overrun) ∧
    ((∀ block ∈ places pData Offset
        ((earlier ++ [last]).map Telegram.payload),
        ¬ Overruns block.1 block.2) →
      ∃ received, recvLoop left self pData Offset = .ok received ∧
        Receives self pData Offset (earlier ++ [last]) received ∧
        rest <+: received.self.waiting) := by
  induction earlier generalizing self pData Offset left with
  | nil =>
      have room : Offset < IsoPayload_Size := by
        simpa [carried] using acceptable.room
      have fits : last.payload.length ≤ IsoPayload_Size - Offset := by
        have fitsAll := acceptable.fits
        simp only [carried, List.nil_append, List.flatMap_cons,
          List.flatMap_nil, List.append_nil] at fitsAll
        omega
      have valid := acceptable.valid last (by simp)
      have lastWaits : last.bytes ++ rest <+: self.waiting := by
        simpa [onWire] using waits
      rcases isoRecvFragment_of_waiting (pData + Offset) valid
          lastWaits fits with
        ⟨overrun, received⟩
      simp only [List.nil_append, List.map_cons, List.map_nil, places,
        List.mem_singleton, exists_eq_left, forall_eq]
      refine ⟨fun overruns => recvLoop_of_error room (overrun overruns),
        fun inside => ?_⟩
      rcases received inside with ⟨after, isAfter, takes, remaining⟩
      refine ⟨_, recvLoop_of_end room isAfter ?_, receives_last takes,
        remaining⟩
      simp [acceptable.finished]
  | cons telegram earlier ih =>
      cases left with
      | zero => exact absurd acceptable.count (Nat.not_succ_le_zero _)
      | succ left =>
          have next := acceptable.next
          have room : Offset < IsoPayload_Size :=
            Nat.lt_of_le_of_lt (Nat.le_add_right Offset _) acceptable.room
          have fits :
              telegram.payload.length ≤ IsoPayload_Size - Offset := by
            have roomBehind := next.room
            omega
          have valid := acceptable.valid telegram (by simp)
          have unfinished := acceptable.unfinished telegram (by simp)
          have telegramWaits :
              telegram.bytes ++ (onWire (earlier ++ [last]) ++ rest) <+:
                self.waiting := by
            simpa [onWire] using waits
          rcases isoRecvFragment_of_waiting (pData + Offset) valid
              telegramWaits fits with
            ⟨overrun, received⟩
          simp only [List.cons_append, List.map_cons, places,
            List.mem_cons, exists_eq_or_imp, forall_eq_or_imp]
          constructor
          · rintro (overruns | laterOverruns)
            · exact recvLoop_of_error room (overrun overruns)
            · by_cases overruns : Overruns (pData + Offset) telegram.payload
              · exact recvLoop_of_error room (overrun overruns)
              · rcases received overruns with
                  ⟨middle, isMiddle, takes, remaining⟩
                rw [recvLoop_of_more room isMiddle ⟨rfl, unfinished⟩]
                exact (ih _ next remaining).1 laterOverruns
          · rintro ⟨inside, laterInside⟩
            rcases received inside with ⟨middle, isMiddle, takes, remaining⟩
            rw [recvLoop_of_more room isMiddle ⟨rfl, unfinished⟩]
            rcases (ih _ next remaining).2 laterInside with
              ⟨after, isAfter, receives, waitsBehind⟩
            exact ⟨after, isAfter, receives_cons takes receives, waitsBehind⟩

/-- The last telegram alone is acceptable. -/
theorem acceptableFrom_last
    {last : Telegram} (valid : last.Valid) (finished : last.ends = true)
    (room : Offset < IsoPayload_Size)
    (fits : last.payload.length ≤ IsoPayload_Size - Offset) :
    AcceptableFrom left Offset [] last where
  valid := by simpa using valid
  unfinished := by simp
  finished := finished
  count := Nat.zero_le left
  room := by simpa [carried] using room
  fits := by
    simp only [carried, List.nil_append, List.flatMap_cons,
      List.flatMap_nil, List.append_nil]
    omega

/-- A telegram in front of acceptable ones. -/
theorem acceptableFrom_cons
    {telegram last : Telegram} {earlier : List Telegram}
    (valid : telegram.Valid) (unfinished : telegram.ends = false)
    (acceptable :
      AcceptableFrom left (Offset + telegram.payload.length) earlier last) :
    AcceptableFrom (left + 1) Offset (telegram :: earlier) last where
  valid := by
    rw [List.cons_append, List.forall_mem_cons]
    exact ⟨valid, acceptable.valid⟩
  unfinished := by
    rw [List.forall_mem_cons]
    exact ⟨unfinished, acceptable.unfinished⟩
  finished := acceptable.finished
  count := Nat.succ_le_succ acceptable.count
  room := by
    simpa [carried, Nat.add_assoc] using acceptable.room
  fits := by
    simpa [carried, Nat.add_assoc] using acceptable.fits

/-- What a loop that ends without an error has done first. -/
theorem recvLoop_cases
    {received : Reassembly}
    (isReceived : recvLoop left self pData Offset = .ok received)
    (noError : received.Result = 0) :
    Offset < IsoPayload_Size ∧ ∃ fragment,
      self.isoRecvFragment (pData + Offset) (IsoPayload_Size - Offset) =
          .ok fragment ∧
        fragment.Result = 0 ∧
        (fragment.EoT = true ∧
            received = ⟨0, Offset, fragment.Size, fragment.self⟩ ∨
          fragment.EoT = false ∧ ∃ fewer, left = fewer + 1 ∧
            recvLoop fewer fragment.self (pData + Offset)
              (Offset + fragment.Size) = .ok received) := by
  by_cases room : Offset < IsoPayload_Size
  · refine ⟨room, ?_⟩
    cases isFragment : self.isoRecvFragment (pData + Offset)
        (IsoPayload_Size - Offset) with
    | error fault =>
        rw [recvLoop_of_error room isFragment] at isReceived
        cases isReceived
    | ok fragment =>
        refine ⟨fragment, rfl, ?_⟩
        by_cases isMore : fragment.Result = 0 ∧ fragment.EoT = false
        · refine ⟨isMore.1, .inr ⟨isMore.2, ?_⟩⟩
          cases left with
          | zero =>
              rw [recvLoop] at isReceived
              simp only [room, if_true, isFragment, bind, Except.bind,
                isMore, and_self] at isReceived
              cases isReceived
              exact absurd noError (setIsoError_ne_zero _ (by decide))
          | succ left =>
              rw [recvLoop_of_more room isFragment isMore] at isReceived
              exact ⟨left, rfl, isReceived⟩
        · rw [recvLoop_of_end room isFragment isMore] at isReceived
          cases isReceived
          have isEnd : fragment.EoT = true := by
            rw [← Bool.not_eq_false]
            exact fun unfinished => isMore ⟨noError, unfinished⟩
          have isZero : fragment.Result = 0 := noError
          exact ⟨isZero, .inl ⟨isEnd, by rw [isZero]⟩⟩
  · rw [recvLoop.eq_def] at isReceived
    simp only [room, if_false] at isReceived
    cases isReceived
    exact absurd noError (setIsoError_ne_zero _ (by decide))

/-- Whatever the timing, a loop that ends without an error has received
acceptable telegrams. -/
theorem receives_of_recvLoop
    {received : Reassembly}
    (isReceived : recvLoop left self pData Offset = .ok received)
    (noError : received.Result = 0) :
    ∃ earlier last, AcceptableFrom left Offset earlier last ∧
      Receives self pData Offset (earlier ++ [last]) received := by
  induction left generalizing self pData Offset with
  | zero =>
      rcases recvLoop_cases isReceived noError with
        ⟨room, fragment, isFragment, isZero, ⟨isEnd, rfl⟩ | ⟨_, more⟩⟩
      · rcases takes_of_isoRecvFragment isFragment isZero with
          ⟨last, valid, fits, isSize, isEoT, takes⟩
        rw [isSize]
        exact ⟨[], last, acceptableFrom_last valid (isEoT ▸ isEnd) room fits,
          receives_last takes⟩
      · rcases more with ⟨fewer, isSucc, _⟩
        exact absurd isSucc (Nat.succ_ne_zero fewer).symm
  | succ left ih =>
      rcases recvLoop_cases isReceived noError with
        ⟨room, fragment, isFragment, isZero, ⟨isEnd, rfl⟩ | ⟨isMore, more⟩⟩
      · rcases takes_of_isoRecvFragment isFragment isZero with
          ⟨last, valid, fits, isSize, isEoT, takes⟩
        rw [isSize]
        exact ⟨[], last, acceptableFrom_last valid (isEoT ▸ isEnd) room fits,
          receives_last takes⟩
      · rcases more with ⟨fewer, isSucc, isLater⟩
        cases isSucc
        rcases takes_of_isoRecvFragment isFragment isZero with
          ⟨telegram, valid, _, isSize, isEoT, takes⟩
        rw [isSize] at isLater
        rcases ih isLater with ⟨earlier, last, acceptable, receives⟩
        exact ⟨telegram :: earlier, last,
          acceptableFrom_cons valid (isEoT ▸ isMore) acceptable,
          receives_cons takes receives⟩

end Loop

/-! ## Where the payloads go -/

section Places

variable {payloads : List Bytes}

theorem gathered_places (pData Offset : Nat) :
    gathered (places pData Offset payloads) = payloads.flatten := by
  induction payloads generalizing pData Offset with
  | nil => rfl
  | cons payload payloads ih =>
      rw [places, gathered, List.flatMap_cons, ← gathered, ih,
        List.flatten_cons]

/-- Each payload goes behind the one before it. -/
theorem ascending_places
    {start pData Offset : Nat} (isAfter : start ≤ pData + Offset) :
    Ascending start (places pData Offset payloads) := by
  induction payloads generalizing start pData Offset with
  | nil => exact True.intro
  | cons payload payloads ih =>
      refine ⟨isAfter, ih ?_⟩
      omega

/-- At most two payloads are not empty, and two of them are next to each
other. -/
def Neighbours : List Bytes → Prop
  | [] => True
  | payload :: payloads =>
      (payload = [] ∨ ∀ later ∈ payloads.tail, later = []) ∧
        Neighbours payloads

theorem neighbours_of_empty
    (isEmpty : ∀ payload ∈ payloads, payload = []) :
    Neighbours payloads := by
  induction payloads with
  | nil => exact True.intro
  | cons payload payloads ih =>
      rw [List.forall_mem_cons] at isEmpty
      exact ⟨.inl isEmpty.1, ih isEmpty.2⟩

theorem neighbours_of_empty_tail
    (isEmpty : ∀ payload ∈ payloads.tail, payload = []) :
    Neighbours payloads := by
  cases payloads with
  | nil => exact True.intro
  | cons payload payloads =>
      refine ⟨.inr fun later isLater => ?_, neighbours_of_empty isEmpty⟩
      exact isEmpty later (List.mem_of_mem_tail isLater)

/-- Once `pData` is behind, no payload goes to its place. -/
theorem contiguous_places_behind
    (start drift Offset : Nat) (isBehind : 0 < drift) :
    Contiguous (start + Offset)
        (places (start + drift) Offset payloads) ↔
      ∀ payload ∈ payloads, payload = [] := by
  induction payloads generalizing drift Offset with
  | nil => simp [places, Contiguous]
  | cons payload payloads ih =>
      have misplaced : ¬ (start + drift + Offset = start + Offset) := by
        omega
      have later := ih (drift + Offset) (Offset + payload.length) (by omega)
      rw [← Nat.add_assoc, ← Nat.add_assoc] at later
      simp only [places, Contiguous, misplaced, or_false, later,
        List.forall_mem_cons]

/-- Once something has been received, only the next payload does. -/
theorem contiguous_places_next
    {start Offset : Nat} (something : 0 < Offset) :
    Contiguous (start + Offset) (places start Offset payloads) ↔
      ∀ payload ∈ payloads.tail, payload = [] := by
  cases payloads with
  | nil => simp [places, Contiguous]
  | cons payload payloads =>
      have later : Contiguous (start + (Offset + payload.length))
          (places (start + Offset) (Offset + payload.length) payloads) ↔
            ∀ payload ∈ payloads, payload = [] :=
        contiguous_places_behind start Offset (Offset + payload.length)
          something
      rw [← Nat.add_assoc] at later
      simp only [places, Contiguous, or_true, true_and, later,
        List.tail_cons]

/-- Every payload that is not empty goes to its place exactly where these
payloads are neighbours. -/
theorem contiguous_places_iff {start : Nat} :
    Contiguous start (places start 0 payloads) ↔ Neighbours payloads := by
  induction payloads with
  | nil => simp [places, Contiguous, Neighbours]
  | cons payload payloads ih =>
      simp only [places, Contiguous, Neighbours, Nat.add_zero, or_true,
        true_and, Nat.zero_add]
      cases payload with
      | nil => simpa using ih
      | cons byte bytes =>
          have something : 0 < (byte :: bytes).length := Nat.succ_pos _
          rw [contiguous_places_next something]
          constructor
          · intro isEmpty
            exact ⟨.inr isEmpty, neighbours_of_empty_tail isEmpty⟩
          · rintro ⟨absurdly | isEmpty, _⟩
            · cases absurdly
            · exact isEmpty

end Places

/-! ## The whole call -/

/-- What `isoRecvPDU` accepts. -/
abbrev Acceptable : List Telegram → Telegram → Prop :=
  AcceptableFrom (MaxIsoFragments - 1) 0

/-- The copies that `isoRecvPDU` makes. -/
def copies (telegrams : List Telegram) : List (Block UInt8) :=
  places DataHeaderSize 0 (telegrams.map Telegram.payload)

/-- No copy goes past the end of `PDU`. -/
def Inside (telegrams : List Telegram) : Prop :=
  ∀ block ∈ copies telegrams, ¬ Overruns block.1 block.2

/-- `isoRecvPDU` has received these telegrams. -/
structure Reassembled
    (before : TIsoTcpSocket) (telegrams : List Telegram)
    (after : TIsoTcpSocket) : Prop where
  stream : before.stream = onWire telegrams ++ after.stream
  cells : ∀ address, DataHeaderSize ≤ address →
    after.PDU address = storeAll before.PDU (copies telegrams) address
  size : pduSize after.PDU = (carried telegrams).length + DataHeaderSize
  noTcpError : after.LastTcpError = 0

section Whole

variable {self after : TIsoTcpSocket}
variable {earlier : List Telegram} {last : Telegram}

/-- The new header does not touch the payload. -/
theorem reassembled_of_receives
    {received : Reassembly} (acceptable : Acceptable earlier last)
    (receives : Receives self.clrIsoError DataHeaderSize 0
      (earlier ++ [last]) received) :
    Reassembled self (earlier ++ [last])
      { received.self with
        PDU := store received.self.PDU 2 (lengthBytes
          (received.Offset + received.Received + DataHeaderSize)) } where
  stream := receives.stream
  cells := by
    intro address isPayload
    rw [DataHeaderSize] at isPayload
    have behind : 2 + (lengthBytes (received.Offset + received.Received +
        DataHeaderSize)).length ≤ address := by
      simp only [lengthBytes, List.length_cons, List.length_nil]
      omega
    exact (store_of_le behind).trans (receives.cells address isPayload)
  size := by
    have fits := acceptable.fits
    have size := receives.size
    rw [Nat.zero_add] at fits size
    rw [size]
    refine pduSize_of_lengthBytes ?_ rfl rfl
    simp only [IsoPayload_Size] at fits
    simp only [DataHeaderSize]
    omega
  noTcpError := receives.noTcpError

/-- `isoRecvPDU` on acceptable telegrams that wait. -/
theorem isoRecvPDU_of_waiting
    {rest : Bytes} (acceptable : Acceptable earlier last)
    (waits : onWire (earlier ++ [last]) ++ rest <+: self.waiting) :
    (¬ Inside (earlier ++ [last]) → self.isoRecvPDU = .error .overrun) ∧
    (Inside (earlier ++ [last]) →
      ∃ after, self.isoRecvPDU = .ok (0, after) ∧
        Reassembled self (earlier ++ [last]) after ∧
        rest <+: after.waiting) := by
  have isWaiting : onWire (earlier ++ [last]) ++ rest <+:
      self.clrIsoError.waiting := waits
  rcases recvLoop_of_waiting DataHeaderSize acceptable isWaiting with
    ⟨overrun, received⟩
  constructor
  · intro outside
    have overruns : ∃ block ∈ copies (earlier ++ [last]),
        Overruns block.1 block.2 := by
      simpa [Inside] using outside
    rw [isoRecvPDU, overrun overruns]
    rfl
  · intro inside
    rcases received inside with ⟨result, isResult, receives, remaining⟩
    refine ⟨_, ?_, reassembled_of_receives acceptable receives, remaining⟩
    rw [isoRecvPDU, isResult]
    simp only [bind, Except.bind, receives.noError, if_true]

/-- Whatever the timing, what `isoRecvPDU` returns without an error is the
reassembly of acceptable telegrams. -/
theorem reassembled_of_isoRecvPDU
    (received : self.isoRecvPDU = .ok (0, after)) :
    ∃ earlier last, Acceptable earlier last ∧
      Inside (earlier ++ [last]) ∧
      Reassembled self (earlier ++ [last]) after := by
  rcases bind_eq_ok_iff.mp received with ⟨result, isResult, isAfter⟩
  dsimp only at isAfter
  split_ifs at isAfter with noError notReset
  · cases isAfter
    rcases receives_of_recvLoop isResult noError with
      ⟨earlier, last, acceptable, receives⟩
    exact ⟨earlier, last, acceptable, receives.inside,
      reassembled_of_receives acceptable receives⟩
  · rcases bind_eq_ok_iff.mp isAfter with ⟨purged, _, isPair⟩
    injection isPair with isPair
    exact absurd (congrArg Prod.fst isPair) noError
  · injection isAfter with isPair
    exact absurd (congrArg Prod.fst isPair) noError

/-- The payload that is handed over. -/
theorem load_of_reassembled
    {telegrams : List Telegram}
    (reassembled : Reassembled self telegrams after) :
    load after.PDU DataHeaderSize (pduSize after.PDU - DataHeaderSize) =
      load (storeAll self.PDU (copies telegrams)) DataHeaderSize
        (carried telegrams).length := by
  rw [reassembled.size, Nat.add_sub_cancel]
  apply load_congr
  intro offset _
  exact reassembled.cells _ (Nat.le_add_right DataHeaderSize offset)

/-- The bytes of the copies are those which the telegrams carry. -/
theorem gathered_copies (telegrams : List Telegram) :
    gathered (copies telegrams) = carried telegrams := by
  rw [copies, gathered_places, carried, List.flatMap_def]

/-- Payloads that go to their places stay inside `PDU`. -/
theorem inside_of_contiguous
    {telegrams : List Telegram}
    (contiguous : Contiguous DataHeaderSize (copies telegrams))
    (fits : (carried telegrams).length ≤ IsoPayload_Size) :
    Inside telegrams := by
  intro block isBlock overruns
  have isInside := contiguous.inside isBlock overruns.1
  rw [gathered_copies] at isInside
  have isOutside := overruns.2
  rw [IsoFrameSize] at isOutside
  omega

/-- `isoRecvBuffer` hands over what `isoRecvPDU` has received. -/
theorem isoRecvBuffer_of_isoRecvPDU
    (received : self.isoRecvPDU = .ok (0, after)) :
    self.isoRecvBuffer =
      .ok (0, load after.PDU DataHeaderSize
        (pduSize after.PDU - DataHeaderSize), after) := by
  have sameCall : self.clrIsoError.isoRecvPDU = self.isoRecvPDU := rfl
  rw [isoRecvBuffer, sameCall, received]
  simp only [bind, Except.bind, if_true]

/-- `isoRecvBuffer` on acceptable telegrams that wait. -/
theorem isoRecvBuffer_of_waiting
    {rest : Bytes} (acceptable : Acceptable earlier last)
    (waits : onWire (earlier ++ [last]) ++ rest <+: self.waiting) :
    (¬ Inside (earlier ++ [last]) →
      self.isoRecvBuffer = .error .overrun) ∧
    (Inside (earlier ++ [last]) →
      ∃ after, self.isoRecvBuffer =
        .ok (0, load (storeAll self.PDU (copies (earlier ++ [last])))
          DataHeaderSize (carried (earlier ++ [last])).length, after)) := by
  rcases isoRecvPDU_of_waiting acceptable waits with ⟨overrun, received⟩
  constructor
  · intro outside
    have sameCall : self.clrIsoError.isoRecvPDU = self.isoRecvPDU := rfl
    rw [isoRecvBuffer, sameCall, overrun outside]
    rfl
  · intro inside
    rcases received inside with ⟨after, isAfter, reassembled, _⟩
    refine ⟨after, ?_⟩
    rw [isoRecvBuffer_of_isoRecvPDU isAfter,
      load_of_reassembled reassembled]

end Whole

/--
Whatever the timing, `isoRecvPDU` only returns without an error when the stream
begins with acceptable telegrams whose copies stay inside `PDU`, and it does so
on every such list of telegrams that waits.
-/
theorem isoRecvPDU_accepts (self : TIsoTcpSocket) :
    (∀ after, self.isoRecvPDU = .ok (0, after) →
      ∃ earlier last, Acceptable earlier last ∧
        Inside (earlier ++ [last]) ∧
        Reassembled self (earlier ++ [last]) after) ∧
    (∀ earlier last rest, Acceptable earlier last →
      Inside (earlier ++ [last]) →
      onWire (earlier ++ [last]) ++ rest <+: self.waiting →
      ∃ after, self.isoRecvPDU = .ok (0, after) ∧
        Reassembled self (earlier ++ [last]) after) := by
  refine ⟨fun _ => reassembled_of_isoRecvPDU, ?_⟩
  intro earlier last rest acceptable inside waits
  rcases (isoRecvPDU_of_waiting acceptable waits).2 inside with
    ⟨after, isAfter, reassembled, _⟩
  exact ⟨after, isAfter, reassembled⟩

/--
Acceptable telegrams wait.  `isoRecvBuffer` hands over the bytes that they
carry, whatever `PDU` held before, exactly when the payloads that are not empty
are neighbours.  It writes past the end of `PDU` exactly when a copy of
`places` does not fit, and otherwise hands over what these copies leave.
-/
theorem isoRecvBuffer_reassembles
    (self : TIsoTcpSocket) (earlier : List Telegram) (last : Telegram)
    (rest : Bytes) (acceptable : Acceptable earlier last)
    (waits : onWire (earlier ++ [last]) ++ rest <+: self.waiting) :
    ((∀ memory, ∃ after,
        isoRecvBuffer { self with PDU := memory } =
          .ok (0, carried (earlier ++ [last]), after)) ↔
      Neighbours ((earlier ++ [last]).map Telegram.payload)) ∧
    (self.isoRecvBuffer = .error .overrun ↔ ¬ Inside (earlier ++ [last])) ∧
    (Inside (earlier ++ [last]) → ∃ after,
      self.isoRecvBuffer =
        .ok (0, load (storeAll self.PDU (copies (earlier ++ [last])))
          DataHeaderSize (carried (earlier ++ [last])).length, after)) := by
  have _ : Nontrivial UInt8 := ⟨0, 1, by decide⟩
  have contiguousIff :
      Gathers DataHeaderSize (copies (earlier ++ [last])) ↔
        Contiguous DataHeaderSize (copies (earlier ++ [last])) :=
    gathers_iff_contiguous (ascending_places (Nat.le_refl _))
  have gathersIff := contiguousIff.trans contiguous_places_iff
  have whatever (memory : Memory UInt8) :
      (¬ Inside (earlier ++ [last]) →
        isoRecvBuffer { self with PDU := memory } = .error .overrun) ∧
      (Inside (earlier ++ [last]) →
        ∃ after, isoRecvBuffer { self with PDU := memory } =
          .ok (0, load (storeAll memory (copies (earlier ++ [last])))
            DataHeaderSize (carried (earlier ++ [last])).length, after)) :=
    isoRecvBuffer_of_waiting acceptable waits
  refine ⟨?_, ?_, ?_⟩
  · rw [← gathersIff]
    constructor
    · intro handsOver memory
      rcases handsOver memory with ⟨after, isAfter⟩
      have inside : Inside (earlier ++ [last]) := by
        by_contra outside
        rw [(whatever memory).1 outside] at isAfter
        cases isAfter
      rcases (whatever memory).2 inside with ⟨_, isResult⟩
      rw [isAfter] at isResult
      injection isResult with isResult
      rw [gathered_copies]
      exact (congrArg (fun result => result.2.1) isResult).symm
    · intro gathers memory
      have fits := acceptable.fits
      rw [Nat.zero_add] at fits
      have inside := inside_of_contiguous (contiguousIff.mp gathers) fits
      rcases (whatever memory).2 inside with ⟨after, isAfter⟩
      refine ⟨after, ?_⟩
      have together := gathers memory
      rw [gathered_copies] at together
      rw [isAfter, together]
  · constructor
    · intro overrun inside
      rcases (whatever self.PDU).2 inside with ⟨after, isAfter⟩
      cases overrun.symm.trans isAfter
    · exact (whatever self.PDU).1
  · exact (whatever self.PDU).2

section Example

/-- A connection on which these bytes wait. -/
def connection (waiting : Bytes) : TIsoTcpSocket where
  waiting := waiting
  arrivals := []
  closed := false
  sends := []
  sent := []
  LastTcpError := 0
  Connected := true
  PDU := fun _ => 0
  LastIsoError := 0

/-- Three fragments of 1300 bytes pass every check and overrun `PDU`. -/
example (payload : Bytes) (hasLength : payload.length = 1300) :
    ¬ Inside [dataTelegram 0 payload, dataTelegram 0 payload,
      dataTelegram pdu_EoT payload] := by
  intro inside
  refine inside (3907, payload) ?_ ⟨?_, ?_⟩
  · simp [copies, places, dataTelegram, DataHeaderSize, hasLength]
  · exact List.ne_nil_of_length_eq_add_one hasLength
  · rw [hasLength]
    exact (by decide : IsoFrameSize < 3907 + 1300)

def threeTelegrams : List Telegram :=
  [dataTelegram 0 (str "re"), dataTelegram 0 (str "ad")]

def threeTelegramsEnd : Telegram := dataTelegram pdu_EoT (str "!")

theorem threeTelegrams_acceptable :
    Acceptable threeTelegrams threeTelegramsEnd where
  valid := by
    simp only [threeTelegrams, List.cons_append, List.nil_append,
      List.forall_mem_cons]
    exact ⟨⟨by decide, by decide, by decide⟩,
      ⟨by decide, by decide, by decide⟩,
      ⟨by decide, by decide, by decide⟩, by simp⟩
  unfinished := by
    simp only [threeTelegrams, List.forall_mem_cons]
    exact ⟨by decide, by decide, by simp⟩
  finished := by decide
  count := by decide
  room := by decide
  fits := by decide

theorem threeTelegrams_reassemble :
    let telegrams := threeTelegrams ++ [threeTelegramsEnd]
    let self := connection (onWire telegrams)
    ((∀ memory, ∃ after,
        isoRecvBuffer { self with PDU := memory } =
          .ok (0, carried telegrams, after)) ↔
      Neighbours (telegrams.map Telegram.payload)) ∧
    (self.isoRecvBuffer = .error .overrun ↔ ¬ Inside telegrams) ∧
    (Inside telegrams → ∃ after,
      self.isoRecvBuffer =
        .ok (0, load (storeAll self.PDU (copies telegrams))
          DataHeaderSize (carried telegrams).length, after)) :=
  isoRecvBuffer_reassembles _ threeTelegrams threeTelegramsEnd []
    threeTelegrams_acceptable
    (by rw [List.append_nil]; exact List.prefix_refl _)

end Example

end ServerUtils.Snap7.Reassembly
