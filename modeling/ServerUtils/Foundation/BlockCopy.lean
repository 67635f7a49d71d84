import Mathlib.Data.List.Basic

/-!
# Storing into and loading from a flat memory

A memory maps addresses to cells.  `store` is a block copy into it and `load`
one out of it.  The rules say what a block copy leaves alone and that
consecutive copies are the copy of one block.  For a list of copies at
ascending addresses, `gathers_iff_contiguous` is the exact condition under which
they put one block together, whatever the memory held before.
-/

namespace ServerUtils.Foundation.BlockCopy

/-- Addresses are counted from the start of the object of interest. -/
abbrev Memory (Cell : Type*) := Nat → Cell

variable {Cell : Type*}
variable {memory other : Memory Cell} {address count : Nat}

/-- The memory after `cells` has been copied to `address`. -/
def store (memory : Memory Cell) (address : Nat) (cells : List Cell) :
    Memory Cell :=
  fun at_ =>
    if address ≤ at_ then cells[at_ - address]?.getD (memory at_)
    else memory at_

/-- The `count` cells from `address` on. -/
def load (memory : Memory Cell) (address count : Nat) : List Cell :=
  (List.range' address count).map memory

@[simp]
theorem load_zero : load memory address 0 = [] := rfl

@[simp]
theorem length_load : (load memory address count).length = count := by
  simp [load]

/-- A block is the block of its first cells and that of the others. -/
theorem load_add (first second : Nat) :
    load memory address (first + second) =
      load memory address first ++ load memory (address + first) second := by
  simp [load, ← List.map_append]

/-- A block only depends on its own cells. -/
theorem load_congr
    (same : ∀ offset < count,
      memory (address + offset) = other (address + offset)) :
    load memory address count = load other address count := by
  refine List.map_congr_left ?_
  intro at_ inBlock
  rcases List.mem_range'.mp inBlock with ⟨offset, isBefore, rfl⟩
  simpa using same offset isBefore

section Store

variable {cells : List Cell}

@[simp]
theorem store_nil : store memory address [] = memory := by
  funext at_
  simp [store]

theorem store_of_lt
    {at_ : Nat} (isBefore : at_ < address) :
    store memory address cells at_ = memory at_ := by
  rw [store, if_neg (Nat.not_le_of_lt isBefore)]

theorem store_of_le
    {at_ : Nat} (isAfter : address + cells.length ≤ at_) :
    store memory address cells at_ = memory at_ := by
  have outside : cells.length ≤ at_ - address := by omega
  rw [store, if_pos (by omega), List.getElem?_eq_none outside]
  rfl

theorem store_add
    {offset : Nat} (inBlock : offset < cells.length) :
    store memory address cells (address + offset) = cells[offset] := by
  rw [store, if_pos (Nat.le_add_right address offset)]
  simp [inBlock]

/-- What has been copied in is what is copied out. -/
@[simp]
theorem load_store :
    load (store memory address cells) address cells.length = cells := by
  apply List.ext_getElem length_load
  intro offset inLoad inBlock
  simp only [load, List.getElem_map, List.getElem_range',
    Nat.one_mul]
  exact store_add inBlock

/-- Copying in what is there changes nothing. -/
theorem store_load (memory : Memory Cell) (address count : Nat) :
    store memory address (load memory address count) = memory := by
  funext at_
  rcases Nat.lt_or_ge at_ address with isBefore | isAfter
  · exact store_of_lt isBefore
  · rcases Nat.lt_or_ge (at_ - address) count with inBlock | isBehind
    · have isThere : at_ = address + (at_ - address) := by omega
      have inLoad : at_ - address < (load memory address count).length := by
        rwa [length_load]
      rw [isThere, store_add inLoad]
      simp [load]
    · refine store_of_le ?_
      rw [length_load]
      omega

/-- A block beside the copied one is unchanged. -/
theorem load_store_of_apart
    {target : Nat}
    (apart : address + count ≤ target ∨ target + cells.length ≤ address) :
    load (store memory target cells) address count =
      load memory address count := by
  apply load_congr
  intro offset isInside
  rcases apart with isBefore | isBehind
  · exact store_of_lt (by omega)
  · exact store_of_le (by omega)

/-- Two consecutive copies are one. -/
theorem store_append (more : List Cell) :
    store (store memory address cells) (address + cells.length) more =
      store memory address (cells ++ more) := by
  funext at_
  by_cases isBefore : at_ < address + cells.length
  · rw [store_of_lt isBefore]
    by_cases inBlock : address ≤ at_
    · have inCells : at_ - address < cells.length := by omega
      simp [store, inBlock, List.getElem?_append_left inCells]
    · simp [store, inBlock]
  · have inBlock : address ≤ at_ := by omega
    have afterBlock : address + cells.length ≤ at_ := by omega
    have inCells : cells.length ≤ at_ - address := by omega
    have sameOffset : at_ - (address + cells.length) =
        at_ - address - cells.length := by omega
    have unchanged : store memory address cells at_ = memory at_ :=
      store_of_le afterBlock
    rw [store, if_pos afterBlock, unchanged, store, if_pos inBlock,
      List.getElem?_append_right inCells, sameOffset]

end Store

/-! ## Cells at an address -/

section Stands

variable {cells : List Cell}

/-- The cells from an address on are these. -/
def Stands (memory : Memory Cell) (address : Nat) (cells : List Cell) : Prop :=
  ∀ offset cell, cells[offset]? = some cell → memory (address + offset) = cell

@[simp]
theorem stands_nil : Stands memory address [] := by
  intro offset cell isCell
  cases isCell

@[simp]
theorem stands_cons {cell : Cell} :
    Stands memory address (cell :: cells) ↔
      memory address = cell ∧ Stands memory (address + 1) cells := by
  constructor
  · intro stands
    refine ⟨stands 0 cell rfl, fun offset other isOther => ?_⟩
    rw [Nat.add_assoc, Nat.add_comm 1]
    exact stands (offset + 1) other isOther
  · rintro ⟨isFirst, stands⟩ offset other isOther
    cases offset with
    | zero => exact isFirst.trans (Option.some.inj isOther)
    | succ offset =>
        rw [Nat.add_comm offset, ← Nat.add_assoc]
        exact stands offset other isOther

theorem stands_append {more : List Cell} :
    Stands memory address (cells ++ more) ↔
      Stands memory address cells ∧
        Stands memory (address + cells.length) more := by
  induction cells generalizing address with
  | nil => simp
  | cons cell cells ih =>
      simp only [List.cons_append, stands_cons, ih, List.length_cons,
        and_assoc, Nat.add_assoc, Nat.add_comm 1]

theorem Stands.load_eq (stands : Stands memory address cells) :
    load memory address cells.length = cells := by
  apply List.ext_getElem length_load
  intro offset inLoad inCells
  simp only [load, List.getElem_map, List.getElem_range', Nat.one_mul]
  exact stands offset _ (List.getElem?_eq_getElem inCells)

/-- Loaded cells stand where the memory has the cells they were loaded from. -/
theorem stands_load_iff {start count : Nat} :
    Stands memory address (load other start count) ↔
      ∀ offset < count, memory (address + offset) = other (start + offset) := by
  constructor
  · intro stands offset inside
    refine stands offset _ ?_
    simp [load, inside]
  · intro same offset cell isCell
    rcases List.getElem?_eq_some_iff.mp isCell with ⟨inLoad, rfl⟩
    have inside : offset < count := by rwa [length_load] at inLoad
    rw [same offset inside]
    simp [load]

theorem stands_store (memory : Memory Cell) (address : Nat)
    (cells : List Cell) : Stands (store memory address cells) address cells := by
  intro offset cell isCell
  rcases List.getElem?_eq_some_iff.mp isCell with ⟨inBlock, rfl⟩
  exact store_add inBlock

/-- Cells stand wherever a memory has the same. -/
theorem Stands.congr
    {place : Nat} (stands : Stands memory address cells)
    (same : ∀ offset < cells.length,
      other (place + offset) = memory (address + offset)) :
    Stands other place cells := by
  intro offset cell isCell
  have inCells := (List.getElem?_eq_some_iff.mp isCell).1
  rw [same offset inCells]
  exact stands offset cell isCell

end Stands

/-! ## Several block copies -/

/-- A copy of a block to an address. -/
abbrev Block (Cell : Type*) := Nat × List Cell

/-- The memory after several copies. -/
def storeAll (memory : Memory Cell) : List (Block Cell) → Memory Cell
  | [] => memory
  | (address, cells) :: blocks => storeAll (store memory address cells) blocks

/-- The cells of the blocks one after the other. -/
def gathered (blocks : List (Block Cell)) : List Cell :=
  blocks.flatMap Prod.snd

/-- Each copy goes behind the one before it, and the first behind `start`. -/
def Ascending : Nat → List (Block Cell) → Prop
  | _, [] => True
  | start, (address, cells) :: blocks =>
      start ≤ address ∧ Ascending (address + cells.length) blocks

/-- Each copy that is not empty goes right behind the cells before it. -/
def Contiguous : Nat → List (Block Cell) → Prop
  | _, [] => True
  | start, (address, cells) :: blocks =>
      (cells = [] ∨ address = start) ∧
        Contiguous (start + cells.length) blocks

section StoreAll

variable {blocks : List (Block Cell)} {start : Nat}

theorem Ascending.weaken
    {earlier : Nat} (ascending : Ascending start blocks)
    (isEarlier : earlier ≤ start) :
    Ascending earlier blocks := by
  cases blocks with
  | nil => exact True.intro
  | cons block blocks =>
      exact ⟨Nat.le_trans isEarlier ascending.1, ascending.2⟩

/-- A cell is decided by the copies and by what it held. -/
theorem storeAll_congr
    {at_ : Nat} (same : memory at_ = other at_) :
    storeAll memory blocks at_ = storeAll other blocks at_ := by
  induction blocks generalizing memory other with
  | nil => exact same
  | cons block blocks ih =>
      refine ih ?_
      simp only [store, same]

theorem storeAll_of_lt
    {at_ : Nat} (ascending : Ascending start blocks)
    (isBefore : at_ < start) :
    storeAll memory blocks at_ = memory at_ := by
  induction blocks generalizing memory start with
  | nil => rfl
  | cons block blocks ih =>
      rcases ascending with ⟨isAfter, later⟩
      have beforeBlock : at_ < block.1 := Nat.lt_of_lt_of_le isBefore isAfter
      have beforeLater : at_ < block.1 + block.2.length := by omega
      rw [storeAll, ih later beforeLater]
      exact store_of_lt beforeBlock

/-- Contiguous copies are one copy. -/
theorem Contiguous.storeAll_eq
    (contiguous : Contiguous start blocks) :
    storeAll memory blocks = store memory start (gathered blocks) := by
  induction blocks generalizing memory start with
  | nil => exact store_nil.symm
  | cons block blocks ih =>
      rcases block with ⟨address, cells⟩
      rcases contiguous with ⟨isEmpty | isStart, later⟩
      · subst isEmpty
        simp only [storeAll, store_nil]
        exact ih later
      · subst isStart
        rw [storeAll, ih later]
        exact store_append (gathered blocks)

/-- Contiguous copies stay inside the block that they make up. -/
theorem Contiguous.inside
    (contiguous : Contiguous start blocks)
    {block : Block Cell} (isBlock : block ∈ blocks)
    (notEmpty : block.2 ≠ []) :
    block.1 + block.2.length ≤ start + (gathered blocks).length := by
  induction blocks generalizing start with
  | nil => cases isBlock
  | cons first blocks ih =>
      simp only [gathered, List.flatMap_cons, List.length_append]
      rcases contiguous with ⟨isEmpty | isStart, later⟩
      · cases isBlock with
        | head => exact absurd isEmpty notEmpty
        | tail _ isLater =>
            have inLater := ih later isLater
            rw [gathered] at inLater
            omega
      · cases isBlock with
        | head => omega
        | tail _ isLater =>
            have inLater := ih later isLater
            rw [gathered] at inLater
            omega

/-- The copies put their cells together at `start`. -/
def Gathers (start : Nat) (blocks : List (Block Cell)) : Prop :=
  ∀ memory : Memory Cell,
    load (storeAll memory blocks) start (gathered blocks).length =
      gathered blocks

/-- A first copy that leaves a gap in front of it leaves a cell as it was. -/
theorem Gathers.no_gap
    [Nontrivial Cell] {address : Nat} {cell : Cell} {cells : List Cell}
    (gathers : Gathers start ((address, cell :: cells) :: blocks))
    (ascending : Ascending start ((address, cell :: cells) :: blocks)) :
    address = start := by
  by_contra isGap
  rcases exists_ne cell with ⟨stale, isStale⟩
  have behind : start + 1 ≤ address := by
    have isAfter : start ≤ address := ascending.1
    omega
  have unchanged :
      storeAll (fun _ => stale) ((address, cell :: cells) :: blocks) start =
        stale :=
    storeAll_of_lt ⟨behind, ascending.2⟩ (Nat.lt_succ_self start)
  have firstCell := congrArg List.head? (gathers fun _ => stale)
  simp only [gathered, List.flatMap_cons, List.cons_append,
    List.length_cons, List.head?_cons, load, List.range'_succ,
    List.map_cons, unchanged, Option.some.injEq] at firstCell
  exact isStale firstCell

/-- The later copies put their cells together behind the first one. -/
theorem Gathers.later
    {cells : List Cell}
    (gathers : Gathers start ((start, cells) :: blocks)) :
    Gathers (start + cells.length) blocks := by
  intro memory
  have together := gathers memory
  simp only [gathered, List.flatMap_cons, List.length_append, load_add]
    at together
  have second := (List.append_inj together length_load).2
  rw [← gathered, storeAll] at second
  refine Eq.trans ?_ second
  apply load_congr
  intro offset _
  refine storeAll_congr (Eq.symm ?_)
  exact store_of_le (by omega)

end StoreAll

/--
Ascending copies put their cells together at `start`, whatever the memory held
before, exactly when each of them that is not empty goes right behind the
cells before it.  Where one does not, a cell keeps its old content.
-/
theorem gathers_iff_contiguous
    [Nontrivial Cell]
    {blocks : List (Block Cell)} {start : Nat}
    (ascending : Ascending start blocks) :
    Gathers start blocks ↔ Contiguous start blocks := by
  constructor
  · intro gathers
    induction blocks generalizing start with
    | nil => exact True.intro
    | cons block blocks ih =>
        rcases block with ⟨address, cells⟩
        cases cells with
        | nil =>
            refine ⟨.inl rfl, ?_⟩
            refine ih (ascending.2.weaken ascending.1) fun memory => ?_
            have together := gathers memory
            rwa [storeAll, store_nil] at together
        | cons cell cells =>
            have isStart := gathers.no_gap ascending
            subst isStart
            exact ⟨.inr rfl, ih ascending.2 gathers.later⟩
  · intro contiguous memory
    rw [contiguous.storeAll_eq]
    exact load_store

end ServerUtils.Foundation.BlockCopy
