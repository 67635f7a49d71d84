import Mathlib.Algebra.Order.BigOperators.Group.List
import Mathlib.Algebra.Order.Group.Nat
import Mathlib.Tactic.SplitIfs

/-!
# Reading a stream of records in bounded pieces

A reader takes at most `size` symbols at a time and stops after a delimiter.
A stream of records that end with the delimiter is then cut record by record,
and each record into full pieces and a last one.

`flatMap_eq_flatMap_iff` compares two outputs that are collected over the
records: where one side never has less than the other, they can only be equal
record by record.
-/

namespace ServerUtils.Foundation.Chunking

variable {Symbol : Type*} [DecidableEq Symbol]
variable {delimiter : Symbol} {size : Nat}

/-- One piece, and what is left of the stream. -/
def readChunk (delimiter : Symbol) :
    Nat → List Symbol → List Symbol × List Symbol
  | 0, stream => ([], stream)
  | _ + 1, [] => ([], [])
  | size + 1, symbol :: stream =>
      if symbol = delimiter then ([symbol], stream)
      else
        let (chunk, rest) := readChunk delimiter size stream
        (symbol :: chunk, rest)

/-- The pieces are consecutive. -/
theorem readChunk_append
    (delimiter : Symbol) (size : Nat) (stream : List Symbol) :
    (readChunk delimiter size stream).1 ++
      (readChunk delimiter size stream).2 = stream := by
  induction size generalizing stream with
  | zero => rfl
  | succ size ih =>
      cases stream with
      | nil => rfl
      | cons symbol stream =>
          rw [readChunk]
          split_ifs
          · rfl
          · exact congrArg (symbol :: ·) (ih stream)

/-- Something is read as long as there is something. -/
theorem readChunk_rest_length
    {stream : List Symbol} (room : size ≠ 0) (filled : stream ≠ []) :
    (readChunk delimiter size stream).2.length < stream.length := by
  cases size with
  | zero => exact absurd rfl room
  | succ size =>
      cases stream with
      | nil => exact absurd rfl filled
      | cons symbol stream =>
          rw [readChunk]
          split_ifs
          · simp
          · have lengths := congrArg List.length
              (readChunk_append delimiter size stream)
            rw [List.length_append] at lengths
            simp only [List.length_cons]
            omega

/-- A record that fits is read with its delimiter. -/
theorem readChunk_of_short
    {record : List Symbol} (clean : delimiter ∉ record)
    (short : record.length < size) (rest : List Symbol) :
    readChunk delimiter size (record ++ delimiter :: rest) =
      (record ++ [delimiter], rest) := by
  induction record generalizing size with
  | nil =>
      cases size with
      | zero => exact absurd short (Nat.not_lt_zero _)
      | succ size => simp [readChunk]
  | cons symbol record ih =>
      rw [List.mem_cons, not_or] at clean
      cases size with
      | zero => exact absurd short (Nat.not_lt_zero _)
      | succ size =>
          have inside : record.length < size := Nat.lt_of_succ_lt_succ short
          rw [List.cons_append, readChunk, if_neg (Ne.symm clean.1),
            ih clean.2 inside]
          rfl

/-- A record that does not fit fills the piece. -/
theorem readChunk_of_long
    {record : List Symbol} (clean : delimiter ∉ record)
    (long : size ≤ record.length) (rest : List Symbol) :
    readChunk delimiter size (record ++ rest) =
      (record.take size, record.drop size ++ rest) := by
  induction record generalizing size with
  | nil =>
      have zero : size = 0 := Nat.le_zero.mp long
      subst zero
      rfl
  | cons symbol record ih =>
      rw [List.mem_cons, not_or] at clean
      cases size with
      | zero => rfl
      | succ size =>
          have inside : size ≤ record.length := Nat.le_of_succ_le_succ long
          rw [List.cons_append, readChunk, if_neg (Ne.symm clean.1),
            ih clean.2 inside]
          rfl

/-- The pieces until the end of the stream. -/
def chunks (delimiter : Symbol) (size : Nat) (stream : List Symbol) :
    List (List Symbol) :=
  if _more : size ≠ 0 ∧ stream ≠ [] then
    (readChunk delimiter size stream).1 ::
      chunks delimiter size (readChunk delimiter size stream).2
  else []
termination_by stream.length
decreasing_by exact readChunk_rest_length _more.1 _more.2

/-- The pieces of one record. -/
def recordChunks (delimiter : Symbol) (size : Nat) (record : List Symbol) :
    List (List Symbol) :=
  chunks delimiter size (record ++ [delimiter])

theorem chunks_nil : chunks delimiter size [] = [] := by
  rw [chunks, dif_neg (fun more => more.2 rfl)]

theorem chunks_of_ne_nil
    {stream : List Symbol} (room : size ≠ 0) (filled : stream ≠ []) :
    chunks delimiter size stream =
      (readChunk delimiter size stream).1 ::
        chunks delimiter size (readChunk delimiter size stream).2 := by
  rw [chunks, dif_pos ⟨room, filled⟩]

theorem recordChunks_of_short
    {record : List Symbol} (clean : delimiter ∉ record)
    (short : record.length < size) :
    recordChunks delimiter size record = [record ++ [delimiter]] := by
  rw [recordChunks, chunks_of_ne_nil (by omega) (by simp),
    readChunk_of_short clean short, chunks_nil]

theorem recordChunks_of_long
    {record : List Symbol} (clean : delimiter ∉ record) (room : size ≠ 0)
    (long : size ≤ record.length) :
    recordChunks delimiter size record =
      record.take size :: recordChunks delimiter size (record.drop size) := by
  rw [recordChunks, chunks_of_ne_nil room (by simp),
    readChunk_of_long clean long]
  rfl

/-- The first piece of a record, and those after it. -/
theorem recordChunks_eq_cons
    {record : List Symbol} (clean : delimiter ∉ record) (room : size ≠ 0) :
    recordChunks delimiter size record =
      (record ++ [delimiter]).take size ::
        if record.length < size then []
        else recordChunks delimiter size (record.drop size) := by
  by_cases short : record.length < size
  · have whole : (record ++ [delimiter]).take size = record ++ [delimiter] := by
      apply List.take_of_length_le
      rw [List.length_append, List.length_singleton]
      exact short
    rw [recordChunks_of_short clean short, if_pos short, whole]
  · have long : size ≤ record.length := Nat.le_of_not_lt short
    rw [recordChunks_of_long clean room long, if_neg short,
      List.take_append_of_le_length long]

/-- The pieces have no other symbols than the stream. -/
theorem mem_of_mem_chunks
    {stream chunk : List Symbol}
    (isChunk : chunk ∈ chunks delimiter size stream)
    {symbol : Symbol} (member : symbol ∈ chunk) : symbol ∈ stream := by
  fun_induction chunks delimiter size stream with
  | case1 stream more ih =>
      rw [← readChunk_append delimiter size stream, List.mem_append]
      rcases List.mem_cons.mp isChunk with rfl | later
      · exact Or.inl member
      · exact Or.inr (ih later)
  | case2 => cases isChunk

/-- A record is cut as if it were alone. -/
theorem chunks_record_append
    {record : List Symbol} (clean : delimiter ∉ record) (room : size ≠ 0)
    (rest : List Symbol) :
    chunks delimiter size (record ++ delimiter :: rest) =
      recordChunks delimiter size record ++ chunks delimiter size rest := by
  induction length : record.length using Nat.strongRecOn
    generalizing record with
  | ind length ih =>
      subst length
      by_cases short : record.length < size
      · rw [recordChunks_of_short clean short,
          chunks_of_ne_nil room (by simp), readChunk_of_short clean short]
        rfl
      · have long : size ≤ record.length := Nat.le_of_not_lt short
        have shorter : (record.drop size).length < record.length := by
          rw [List.length_drop]
          omega
        have cleanRest : delimiter ∉ record.drop size :=
          fun member => clean (List.mem_of_mem_drop member)
        rw [recordChunks_of_long clean room long,
          chunks_of_ne_nil room (by simp), readChunk_of_long clean long,
          ih _ shorter cleanRest rfl]
        rfl

/-- A stream of records is cut record by record. -/
theorem chunks_records
    {Record : Type*} {text : Record → List Symbol} {records : List Record}
    (clean : ∀ record ∈ records, delimiter ∉ text record)
    (room : size ≠ 0) :
    chunks delimiter size
        (records.flatMap fun record => text record ++ [delimiter]) =
      records.flatMap fun record =>
        recordChunks delimiter size (text record) := by
  induction records with
  | nil => exact chunks_nil
  | cons record records ih =>
      rw [List.forall_mem_cons] at clean
      rw [List.flatMap_cons, List.flatMap_cons, List.append_assoc,
        List.singleton_append, chunks_record_append clean.1 room,
        ih clean.2]

omit [DecidableEq Symbol] in
/-- Outputs that are never shorter are equal only record by record. -/
theorem flatMap_eq_flatMap_iff
    {Record : Type*} {given expected : Record → List Symbol}
    {records : List Record}
    (enough : ∀ record ∈ records,
      (expected record).length ≤ (given record).length) :
    records.flatMap given = records.flatMap expected ↔
      ∀ record ∈ records, given record = expected record := by
  induction records with
  | nil => simp
  | cons record records ih =>
      rw [List.forall_mem_cons] at enough
      rw [List.flatMap_cons, List.flatMap_cons, List.forall_mem_cons,
        ← ih enough.2]
      constructor
      · intro same
        have total := congrArg List.length same
        have others : (records.flatMap expected).length ≤
            (records.flatMap given).length := by
          rw [List.length_flatMap, List.length_flatMap]
          exact List.sum_le_sum enough.2
        rw [List.length_append, List.length_append] at total
        have first := enough.1
        exact List.append_inj same (by omega)
      · rintro ⟨first, rest⟩
        rw [first, rest]

end ServerUtils.Foundation.Chunking
