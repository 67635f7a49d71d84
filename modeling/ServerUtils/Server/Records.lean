import ServerUtils.Server.SecureLayer

/-!
# Reading a request from TLS records

`select` sees the records which are still in the kernel, and `SSL_read` serves
the plaintext of one record at a time.  What OpenSSL holds of a record is
therefore read only while another record is waiting, and a block that is not
full ends the request although records are waiting.
-/

namespace ServerUtils.Server.Records

open ServerUtils.Parser.StdString
open ServerUtils.Server.SecureLayer

/-! ## The channel -/

/-- The plaintexts of the records in the kernel, and what is undelivered of
the current record. -/
structure Tls where
  kernel : List Bytes
  current : Bytes

/-- A record is taken from the kernel when the current one is used up. -/
def Tls.advance : Tls → Tls
  | ⟨record :: kernel, []⟩ => ⟨kernel, record⟩
  | channel => channel

/-- `SSL_read`. -/
def Tls.sslRead (channel : Tls) (num : Nat) : ReadResult × Tls :=
  let channel := channel.advance
  (.bytes (channel.current.take num),
    { channel with current := channel.current.drop num })

/-- A TLS connection; `select` knows the kernel only. -/
def tls : Transport Tls where
  uselect channel := if channel.kernel = [] then 0 else 1
  sslRead := Tls.sslRead

/-- All records have arrived and none is read. -/
def arrived (records : List Bytes) : Tls where
  kernel := records
  current := []

/-! ## What is read -/

/-- The record ends with a full block. -/
def FillsBlocks (record : Bytes) : Prop :=
  record ≠ [] ∧ bufSizz ∣ record.length

instance (record : Bytes) : Decidable (FillsBlocks record) :=
  inferInstanceAs (Decidable (_ ∧ _))

/-- The part of the records which `recvall` returns. -/
def received : List Bytes → Bytes
  | [] => []
  | [last] => last.take bufSizz
  | record :: next :: records =>
      if FillsBlocks record then
        record ++ received (next :: records)
      else
        record

/-- The records which more plaintext follows end with full blocks. -/
def Aligned : List Bytes → Prop
  | [] => True
  | record :: records =>
      (records.flatten ≠ [] → FillsBlocks record) ∧ Aligned records

/-- The records which are read to their end. -/
structure Complete (records : List Bytes) : Prop where
  aligned : Aligned records
  lastFits : ∀ last ∈ records.getLast?, last.length ≤ bufSizz

/-! ## One record -/

variable {kernel : List Bytes} {current record : Bytes}

theorem Tls.advance_of_unread (unread : current ≠ []) :
    Tls.advance ⟨kernel, current⟩ = ⟨kernel, current⟩ := by
  cases current with
  | nil => exact absurd rfl unread
  | cons byte current => cases kernel <;> rfl

/-- Without records in the kernel `recvall` stops. -/
theorem recvall_quiet (fuel : Nat) (current : Bytes) :
    recvall tls (fuel + 1) ⟨[], current⟩ = some [] :=
  rfl

/-- One iteration while a record is in the kernel. -/
theorem recvall_waiting
    {channel : Tls} (waiting : channel.kernel ≠ []) (fuel : Nat) :
    recvall tls (fuel + 1) channel =
      if bufSizz ≤ channel.advance.current.length then
        (recvall tls fuel
          ⟨channel.advance.kernel, channel.advance.current.drop bufSizz⟩).map
            (channel.advance.current.take bufSizz ++ ·)
      else
        some channel.advance.current := by
  have readable : ¬ tls.uselect channel ≤ 0 := by
    simp [tls, waiting]
  have asked : tls.sslRead channel bufSizz =
      (.bytes (channel.advance.current.take bufSizz),
        ⟨channel.advance.kernel, channel.advance.current.drop bufSizz⟩) :=
    rfl
  rw [recvall_succ asked, if_neg readable]
  by_cases full : bufSizz ≤ channel.advance.current.length
  · rw [if_pos full, ReadResult.data, if_pos]
    simpa using full
  · rw [if_neg full, ReadResult.data,
      List.take_of_length_le (Nat.le_of_not_le full), if_neg]
    intro length
    exact full (le_of_eq length.symm)

/-- A record that ends with a full block is read to its end, and what follows
it is read as well. -/
theorem recvall_blocks
    (waiting : kernel ≠ []) (blocks fuel : Nat) {current : Bytes}
    (length : current.length = bufSizz * blocks) :
    recvall tls (fuel + blocks) ⟨kernel, current⟩ =
      (recvall tls fuel ⟨kernel, []⟩).map (current ++ ·) := by
  induction blocks generalizing current with
  | zero =>
      rw [List.length_eq_zero_iff.mp length]
      simp
  | succ blocks ih =>
      have long : bufSizz ≤ current.length := by
        rw [length]
        exact Nat.le_mul_of_pos_right bufSizz blocks.succ_pos
      have unread : current ≠ [] := by
        rintro rfl
        exact absurd long (by decide)
      have left : (current.drop bufSizz).length = bufSizz * blocks := by
        rw [List.length_drop, length, Nat.mul_succ, Nat.add_sub_cancel]
      rw [← Nat.add_assoc, recvall_waiting waiting,
        Tls.advance_of_unread unread, if_pos long, ih left, Option.map_map]
      simp [Function.comp_def, ← List.append_assoc, List.take_append_drop]

/-- A record that ends with a part of a block ends the request. -/
theorem recvall_short
    (waiting : kernel ≠ []) {fuel : Nat} {current : Bytes}
    (short : ¬ bufSizz ∣ current.length)
    (enough : current.length / bufSizz < fuel) :
    recvall tls fuel ⟨kernel, current⟩ = some current := by
  induction fuel generalizing current with
  | zero => exact absurd enough (Nat.not_lt_zero _)
  | succ fuel ih =>
      have unread : current ≠ [] := by
        rintro rfl
        exact short (Nat.dvd_zero bufSizz)
      rw [recvall_waiting waiting, Tls.advance_of_unread unread]
      split_ifs with long
      · have left : (current.drop bufSizz).length =
            current.length - bufSizz :=
          List.length_drop
        rw [ih, Option.map_some, List.take_append_drop]
        · rw [left]
          intro divides
          exact short ((Nat.dvd_sub_iff_left long (Nat.dvd_refl bufSizz)).mp divides)
        · rw [left]
          rw [Nat.div_eq_sub_div (by decide) long] at enough
          exact Nat.lt_of_succ_lt_succ enough
      · rfl

/-- While another record waits, a record is read as the current one is. -/
theorem recvall_next
    (waiting : kernel ≠ []) (nonempty : record ≠ []) (fuel : Nat) :
    recvall tls fuel ⟨record :: kernel, []⟩ =
      recvall tls fuel ⟨kernel, record⟩ := by
  cases fuel with
  | zero => rfl
  | succ fuel =>
      rw [recvall_waiting (List.cons_ne_nil record kernel),
        recvall_waiting waiting, Tls.advance_of_unread nonempty]
      rfl

/-- Of the last record at most one block is read. -/
theorem recvall_last (fuel : Nat) (last : Bytes) :
    recvall tls (fuel + 2) ⟨[last], []⟩ = some (last.take bufSizz) := by
  rw [recvall_waiting (List.cons_ne_nil last [])]
  by_cases full : bufSizz ≤ last.length
  · simp [Tls.advance, full, recvall_quiet]
  · rw [List.take_of_length_le (Nat.le_of_not_le full)]
    exact if_neg full

/-- An empty record ends the request. -/
theorem recvall_empty (fuel : Nat) :
    recvall tls (fuel + 1) ⟨[] :: kernel, []⟩ = some [] := by
  rw [recvall_waiting (List.cons_ne_nil [] kernel)]
  rfl

/-! ## All records -/

/-- `recvall` returns, with the received part of the records. -/
theorem recvall_arrived
    {records : List Bytes} {fuel : Nat}
    (enough : records.flatten.length + records.length < fuel) :
    recvall tls fuel (arrived records) = some (received records) := by
  unfold arrived
  fun_induction received records generalizing fuel with
  | case1 =>
      cases fuel with
      | zero => exact absurd enough (Nat.not_lt_zero _)
      | succ fuel => rfl
  | case2 last =>
      have two : 2 ≤ fuel := by
        simp only [List.length_singleton] at enough
        omega
      obtain ⟨fuel, rfl⟩ := Nat.exists_eq_add_of_le' two
      exact recvall_last fuel last
  | case3 record next records fills ih =>
      rcases fills with ⟨nonempty, blocks, length⟩
      have waiting : next :: records ≠ [] := List.cons_ne_nil next records
      simp only [List.flatten_cons, List.length_append,
        List.length_cons] at enough ih
      have few : blocks ≤ record.length := by
        rw [length]
        exact Nat.le_mul_of_pos_left blocks (by decide)
      obtain ⟨rest, rfl⟩ :=
        Nat.exists_eq_add_of_le' (show blocks ≤ fuel by omega)
      rw [recvall_next waiting nonempty,
        recvall_blocks waiting blocks rest length, ih (by omega)]
      rfl
  | case4 record next records fills =>
      have waiting : next :: records ≠ [] := List.cons_ne_nil next records
      simp only [List.flatten_cons, List.length_append,
        List.length_cons] at enough
      by_cases nonempty : record = []
      · rw [nonempty]
        cases fuel with
        | zero => exact absurd enough (Nat.not_lt_zero _)
        | succ fuel => exact recvall_empty fuel
      · rw [recvall_next waiting nonempty]
        apply recvall_short waiting
        · intro divides
          exact fills ⟨nonempty, divides⟩
        · have few : record.length / bufSizz ≤ record.length :=
            Nat.div_le_self _ _
          omega

/-! ## What is missing -/

/-- Without plaintext nothing is missing. -/
theorem complete_of_flatten_eq_nil
    {records : List Bytes} (empty : records.flatten = []) :
    Complete records where
  aligned := by
    induction records with
    | nil => exact True.intro
    | cons record records ih =>
        have rest : records.flatten = [] :=
          (List.append_eq_nil_iff.mp empty).2
        exact ⟨fun more => absurd rest more, ih rest⟩
  lastFits := by
    intro last isLast
    have nothing : last = [] :=
      List.flatten_eq_nil_iff.mp empty last (List.mem_of_getLast? isLast)
    rw [nothing]
    exact Nat.zero_le bufSizz

theorem complete_singleton_iff (last : Bytes) :
    Complete [last] ↔ last.length ≤ bufSizz := by
  constructor
  · intro complete
    exact complete.lastFits last rfl
  · intro fits
    refine ⟨⟨fun more => absurd rfl more, True.intro⟩, ?_⟩
    rintro _ ⟨⟩
    exact fits

theorem complete_cons_iff (record next : Bytes) (records : List Bytes) :
    Complete (record :: next :: records) ↔
      ((next :: records).flatten ≠ [] → FillsBlocks record) ∧
        Complete (next :: records) := by
  constructor
  · intro complete
    exact ⟨complete.aligned.1, complete.aligned.2, complete.lastFits⟩
  · rintro ⟨fills, complete⟩
    exact ⟨⟨fills, complete.aligned⟩, complete.lastFits⟩

/-- What is received is everything exactly when nothing is cut off. -/
theorem received_eq_flatten_iff (records : List Bytes) :
    received records = records.flatten ↔ Complete records := by
  fun_induction received records with
  | case1 => exact iff_of_true rfl (complete_of_flatten_eq_nil rfl)
  | case2 last =>
      rw [complete_singleton_iff, List.flatten_singleton,
        List.take_eq_self_iff]
  | case3 record next records fills ih =>
      rw [complete_cons_iff, List.flatten_cons, List.append_right_inj, ih]
      exact ⟨fun complete => ⟨fun _ => fills, complete⟩, And.right⟩
  | case4 record next records fills =>
      rw [complete_cons_iff, List.flatten_cons, List.self_eq_append_right]
      constructor
      · intro empty
        exact ⟨fun more => absurd empty more,
          complete_of_flatten_eq_nil empty⟩
      · rintro ⟨needed, _⟩
        by_contra more
        exact fills (needed more)

/--
`recvall` returns, and what it returns is the whole plaintext exactly when
every record that more plaintext follows ends with a full block and the last
record fits into one.
-/
theorem recvall_eq_flatten_iff_complete
    (records : List Bytes) {fuel : Nat}
    (enough : records.flatten.length + records.length < fuel) :
    ∃ buffer, recvall tls fuel (arrived records) = some buffer ∧
      (buffer = records.flatten ↔ Complete records) :=
  ⟨received records, recvall_arrived enough, received_eq_flatten_iff records⟩

/-- A record of a full block, and two short ones. -/
def threeRecords : List Bytes :=
  [List.replicate bufSizz 65, str "GET /", str " HTTP/1.1"]

theorem threeRecords_recvall :
    ∃ buffer, recvall tls 2066 (arrived threeRecords) = some buffer ∧
      (buffer = threeRecords.flatten ↔ Complete threeRecords) := by
  refine recvall_eq_flatten_iff_complete threeRecords ?_
  rw [threeRecords, List.flatten_cons, List.length_append,
    List.length_replicate]
  decide

/-- A request of 3000 bytes, which is one record. -/
def longRequest : Bytes := List.replicate 3000 65

/-- However long `recvall` runs, it does not return the long request. -/
theorem longRequest_not_recvall :
    ¬ ∃ fuel, recvall tls fuel (arrived [longRequest]) =
      some [longRequest].flatten := by
  rintro ⟨fuel, returns⟩
  have cut : recvall tls (fuel + 2) (arrived [longRequest]) =
      some (longRequest.take bufSizz) :=
    recvall_last fuel longRequest
  rw [recvall_add returns 2, List.flatten_singleton] at cut
  have length := congrArg List.length (Option.some.inj cut)
  rw [List.length_take, longRequest, List.length_replicate] at length
  exact absurd length (by decide)

/-- What a connection gives to `http` is the received part of its records. -/
theorem readbuf_of_records
    {records : List Bytes} {fuel : Nat}
    (enough : records.flatten.length + records.length < fuel)
    (sock accept : Int) :
    (Connection.mk sock accept
      (answersOf tls fuel (arrived records))).readbuf = received records := by
  rw [Connection.readbuf, recvall_answersOf (recvall_arrived enough)]
  rfl

end ServerUtils.Server.Records
