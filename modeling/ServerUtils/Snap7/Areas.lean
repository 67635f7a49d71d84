import Mathlib.Data.List.Basic
import Mathlib.Tactic.SplitIfs
import ServerUtils.Foundation.BlockCopy

/-!
# The areas of the S7 server

The server keeps its data blocks in a table of `MaxDB` slots and five other
areas beside it.  A data block goes to the first free slot, `DBLimit` is the
last slot that has ever been used, and a search only looks up to it.  The
abstract registry is a map from keys to areas.  Every sequence of calls of
`RegisterArea` and `UnregisterArea` answers as the map does, and the workers
find in the table what the map holds.
-/

namespace ServerUtils.Snap7.Areas

open ServerUtils.Foundation.BlockCopy

def MaxDB : Nat := 2048

def srvAreaPE : Int := 0

def srvAreaPA : Int := 1

def srvAreaMK : Int := 2

def srvAreaCT : Int := 3

def srvAreaTM : Int := 4

def srvAreaDB : Int := 5

def S7AreaPE : UInt8 := 0x81

def S7AreaPA : UInt8 := 0x82

def S7AreaMK : UInt8 := 0x83

def S7AreaDB : UInt8 := 0x84

def S7AreaCT : UInt8 := 0x1C

def S7AreaTM : UInt8 := 0x1D

def errSrvDBNullPointer : Nat := 0x00200000

def errSrvAreaAlreadyExists : Nat := 0x00300000

def errSrvUnknownArea : Nat := 0x00400000

def errSrvInvalidParams : Nat := 0x00500000

def errSrvTooManyDB : Nat := 0x00600000

/-- An area, with the memory that `PData` points to. -/
structure TS7Area where
  Number : UInt16
  Size : UInt16
  PData : Memory UInt8

/-- The tables of the server. -/
structure TSnap7Server where
  DB : Nat → Option TS7Area
  HA : Int → Option TS7Area
  DBCount : Nat
  DBLimit : Nat

namespace TSnap7Server

/-- The tables that the constructor leaves. -/
def initial : TSnap7Server where
  DB := fun _ => none
  HA := fun _ => none
  DBCount := 0
  DBLimit := 0

/-- The slot holds the data block of this number. -/
def isNumber (self : TSnap7Server) (DBNumber : UInt16) (c : Nat) : Bool :=
  match self.DB c with
  | none => false
  | some area => area.Number == DBNumber

/-- `IndexOfDB`. -/
def indexOfDB (self : TSnap7Server) (DBNumber : UInt16) : Option Nat :=
  (List.range (self.DBLimit + 1)).find? (self.isNumber DBNumber)

/-- `FindDB`: the loop is that of `IndexOfDB`. -/
def findDB (self : TSnap7Server) (DBNumber : UInt16) : Option TS7Area :=
  self.indexOfDB DBNumber >>= self.DB

/-- `FindFirstFreeDB`. -/
def findFirstFreeDB (self : TSnap7Server) : Option Nat :=
  (List.range MaxDB).find? fun c => (self.DB c).isNone

/-- `RegisterDB`. -/
def registerDB
    (self : TSnap7Server) (Number : UInt16)
    (pUsrData : Option (Memory UInt8)) (Size : UInt16) :
    Nat × TSnap7Server :=
  match pUsrData with
  | none => (errSrvDBNullPointer, self)
  | some PData =>
      if (self.findDB Number).isSome then (errSrvAreaAlreadyExists, self)
      else
        match self.findFirstFreeDB with
        | none => (errSrvTooManyDB, self)
        | some index =>
            (0, { self with
              DB := Function.update self.DB index
                (some ⟨Number, Size, PData⟩)
              DBCount := self.DBCount + 1
              DBLimit := if self.DBLimit < index then index
                else self.DBLimit })

/-- `RegisterSys`.  The `Number` of such an area is never set. -/
def registerSys
    (self : TSnap7Server) (AreaCode : Int)
    (pUsrData : Option (Memory UInt8)) (Size : UInt16) :
    Nat × TSnap7Server :=
  match pUsrData with
  | none => (errSrvDBNullPointer, self)
  | some PData =>
      if AreaCode < srvAreaPE ∨ srvAreaTM < AreaCode then
        (errSrvUnknownArea, self)
      else if (self.HA AreaCode).isNone then
        (0, { self with
          HA := Function.update self.HA AreaCode (some ⟨0, Size, PData⟩) })
      else (errSrvAreaAlreadyExists, self)

/-- `UnregisterDB`. -/
def unregisterDB (self : TSnap7Server) (DBNumber : UInt16) :
    Nat × TSnap7Server :=
  match self.indexOfDB DBNumber with
  | none => (errSrvInvalidParams, self)
  | some index =>
      (0, { self with
        DB := Function.update self.DB index none
        DBCount := self.DBCount - 1 })

/-- `UnregisterSys`. -/
def unregisterSys (self : TSnap7Server) (AreaCode : Int) :
    Nat × TSnap7Server :=
  (0, { self with HA := Function.update self.HA AreaCode none })

/-- `RegisterArea`. -/
def registerArea
    (self : TSnap7Server) (AreaCode : Int) (Index : UInt16)
    (pUsrData : Option (Memory UInt8)) (Size : UInt16) :
    Nat × TSnap7Server :=
  if AreaCode = srvAreaDB then self.registerDB Index pUsrData Size
  else self.registerSys AreaCode pUsrData Size

/-- `UnregisterArea`. -/
def unregisterArea (self : TSnap7Server) (AreaCode : Int) (Index : UInt16) :
    Nat × TSnap7Server :=
  if AreaCode = srvAreaDB then self.unregisterDB Index
  else if srvAreaPE ≤ AreaCode ∧ AreaCode ≤ srvAreaTM then
    self.unregisterSys AreaCode
  else (errSrvInvalidParams, self)

/-- `GetArea` of a worker. -/
def getArea (self : TSnap7Server) (S7Code : UInt8) (index : UInt16) :
    Option TS7Area :=
  if S7Code = S7AreaPE then self.HA srvAreaPE
  else if S7Code = S7AreaPA then self.HA srvAreaPA
  else if S7Code = S7AreaMK then self.HA srvAreaMK
  else if S7Code = S7AreaCT then self.HA srvAreaCT
  else if S7Code = S7AreaTM then self.HA srvAreaTM
  else if S7Code = S7AreaDB then self.findDB index
  else none

end TSnap7Server

/-! ## The registry -/

/-- What an area is registered under. -/
inductive Key where
  | sys (AreaCode : Int)
  | db (Number : UInt16)
deriving DecidableEq

/-- The purpose of the tables: a map. -/
structure Registry where
  area : Key → Option TS7Area

namespace Registry

def initial : Registry where
  area := fun _ => none

/-- There is a data block of this number. -/
def isBlock (self : Registry) (Number : Nat) : Bool :=
  (self.area (.db (UInt16.ofNat Number))).isSome

/-- How many numbers have a data block. -/
def blocks (self : Registry) : Nat :=
  (List.range UInt16.size).countP self.isBlock

/-- The key of a call of the server, if there is such an area. -/
def keyOf (AreaCode : Int) (Index : UInt16) : Option Key :=
  if AreaCode = srvAreaDB then some (.db Index)
  else if srvAreaPE ≤ AreaCode ∧ AreaCode ≤ srvAreaTM then
    some (.sys AreaCode)
  else none

/-- An area is added under a free key, as long as there is room. -/
def register
    (self : Registry) (AreaCode : Int) (Index : UInt16)
    (pUsrData : Option (Memory UInt8)) (Size : UInt16) : Nat × Registry :=
  match pUsrData, keyOf AreaCode Index with
  | none, _ => (errSrvDBNullPointer, self)
  | some _, none => (errSrvUnknownArea, self)
  | some PData, some (.sys AreaCode) =>
      if (self.area (.sys AreaCode)).isSome then
        (errSrvAreaAlreadyExists, self)
      else
        (0, {
          area := Function.update self.area (.sys AreaCode)
            (some ⟨0, Size, PData⟩) })
  | some PData, some (.db Number) =>
      if (self.area (.db Number)).isSome then
        (errSrvAreaAlreadyExists, self)
      else if self.blocks = MaxDB then (errSrvTooManyDB, self)
      else
        (0, {
          area := Function.update self.area (.db Number)
            (some ⟨Number, Size, PData⟩) })

/-- An area is removed.  A data block must be there. -/
def unregister
    (self : Registry) (AreaCode : Int) (Index : UInt16) : Nat × Registry :=
  match keyOf AreaCode Index with
  | none => (errSrvInvalidParams, self)
  | some (.sys AreaCode) =>
      (0, { area := Function.update self.area (.sys AreaCode) none })
  | some (.db Number) =>
      if (self.area (.db Number)).isSome then
        (0, { area := Function.update self.area (.db Number) none })
      else (errSrvInvalidParams, self)

/-- What a worker finds. -/
def lookup (self : Registry) (S7Code : UInt8) (index : UInt16) :
    Option TS7Area :=
  if S7Code = S7AreaPE then self.area (.sys srvAreaPE)
  else if S7Code = S7AreaPA then self.area (.sys srvAreaPA)
  else if S7Code = S7AreaMK then self.area (.sys srvAreaMK)
  else if S7Code = S7AreaCT then self.area (.sys srvAreaCT)
  else if S7Code = S7AreaTM then self.area (.sys srvAreaTM)
  else if S7Code = S7AreaDB then self.area (.db index)
  else none

end Registry

/-- The number of slots in use. -/
def used (self : TSnap7Server) : Nat :=
  (List.range MaxDB).countP fun c => (self.DB c).isSome

/-- The tables hold what the registry holds. -/
structure Represents (server : TSnap7Server) (registry : Registry) :
    Prop where
  sys : ∀ AreaCode, server.HA AreaCode = registry.area (.sys AreaCode)
  slot : ∀ c area, server.DB c = some area →
    registry.area (.db area.Number) = some area
  db : ∀ Number area, registry.area (.db Number) = some area →
    ∃ c, server.DB c = some area ∧ area.Number = Number
  distinct : ∀ c d area other, server.DB c = some area →
    server.DB d = some other → area.Number = other.Number → c = d
  inTable : ∀ c area, server.DB c = some area → c < MaxDB
  belowLimit : ∀ c area, server.DB c = some area → c ≤ server.DBLimit
  blocks : registry.blocks = used server
  count : server.DBCount = used server

theorem represents_initial :
    Represents TSnap7Server.initial Registry.initial where
  sys := fun _ => rfl
  slot := fun _ _ isArea => by cases isArea
  db := fun _ _ isArea => by cases isArea
  distinct := fun _ _ _ _ isArea => by cases isArea
  inTable := fun _ _ isArea => by cases isArea
  belowLimit := fun _ _ isArea => by cases isArea
  blocks := by
    simp [Registry.blocks, Registry.isBlock, Registry.initial, used,
      TSnap7Server.initial]
  count := by simp [used, TSnap7Server.initial]

/-! ## Searching the table -/

theorem isNumber_iff
    {self : TSnap7Server} {Number : UInt16} {c : Nat} :
    self.isNumber Number c = true ↔
      ∃ area, self.DB c = some area ∧ area.Number = Number := by
  rw [TSnap7Server.isNumber]
  cases self.DB c with
  | none => simp
  | some area => simp

section Search

variable {self : TSnap7Server} {registry : Registry}
variable {Number : UInt16} {area : TS7Area}

/-- A registered data block is found in its slot. -/
theorem Represents.indexOfDB_of_some
    (represents : Represents self registry)
    (registered : registry.area (.db Number) = some area) :
    ∃ c, self.indexOfDB Number = some c ∧ self.DB c = some area := by
  rcases represents.db Number area registered with ⟨c, isSlot, isNumber⟩
  cases isIndex : self.indexOfDB Number with
  | none =>
      have notFound := List.find?_eq_none.mp isIndex c
        (List.mem_range.mpr (Nat.lt_succ_of_le
          (represents.belowLimit c area isSlot)))
      exact absurd (isNumber_iff.mpr ⟨area, isSlot, isNumber⟩) notFound
  | some d =>
      rcases isNumber_iff.mp (List.find?_some isIndex) with
        ⟨other, isOther, sameNumber⟩
      have sameSlot : d = c :=
        represents.distinct d c other area isOther isSlot
          (sameNumber.trans isNumber.symm)
      exact ⟨d, rfl, sameSlot ▸ isSlot⟩

theorem Represents.indexOfDB_of_none
    (represents : Represents self registry)
    (free : registry.area (.db Number) = none) :
    self.indexOfDB Number = none := by
  rw [TSnap7Server.indexOfDB, List.find?_eq_none]
  rintro c _ isFound
  rcases isNumber_iff.mp isFound with ⟨area, isSlot, rfl⟩
  rw [represents.slot c area isSlot] at free
  cases free

theorem Represents.findDB
    (represents : Represents self registry) (Number : UInt16) :
    self.findDB Number = registry.area (.db Number) := by
  rw [TSnap7Server.findDB]
  cases registered : registry.area (.db Number) with
  | none => rw [represents.indexOfDB_of_none registered]; rfl
  | some area =>
      rcases represents.indexOfDB_of_some registered with
        ⟨c, isIndex, isSlot⟩
      rw [isIndex]
      exact isSlot

/-- The workers find in the tables what the registry holds. -/
theorem Represents.getArea
    (represents : Represents self registry)
    (S7Code : UInt8) (index : UInt16) :
    self.getArea S7Code index = registry.lookup S7Code index := by
  simp only [TSnap7Server.getArea, Registry.lookup, represents.sys,
    represents.findDB]

end Search

/-! ## The number of data blocks -/

/-- One more element counts. -/
theorem countP_range_add_one
    {count c : Nat} {before after : Nat → Bool} (inRange : c < count)
    (was : before c = false) (is : after c = true)
    (same : ∀ d, d < count → d ≠ c → before d = after d) :
    (List.range count).countP after =
      (List.range count).countP before + 1 := by
  induction count with
  | zero => exact absurd inRange (Nat.not_lt_zero c)
  | succ count ih =>
      rw [List.range_succ, List.countP_append, List.countP_append]
      by_cases isLast : c = count
      · subst isLast
        have sameBelow : (List.range c).countP after =
            (List.range c).countP before := by
          apply List.countP_congr
          intro d isMember
          have isBelow := List.mem_range.mp isMember
          rw [same d (Nat.lt_succ_of_lt isBelow) (Nat.ne_of_lt isBelow)]
        simp [sameBelow, was, is]
      · have sameLast := same count (Nat.lt_succ_self count)
          fun isSame => isLast isSame.symm
        rw [ih (by omega) fun d isBelow =>
          same d (Nat.lt_succ_of_lt isBelow)]
        simp only [List.countP_singleton, sameLast]
        omega

/-- A slot is taken. -/
theorem used_update_some
    {self : TSnap7Server} {c : Nat} {area : TS7Area} {DBCount DBLimit : Nat}
    (inTable : c < MaxDB) (free : self.DB c = none) :
    used { self with
      DB := Function.update self.DB c (some area)
      DBCount := DBCount, DBLimit := DBLimit } = used self + 1 := by
  apply countP_range_add_one inTable
  · rw [free]
    rfl
  · simp
  · intro d _ isOther
    simp [isOther]

/-- A slot is given back. -/
theorem used_update_none
    {self : TSnap7Server} {c : Nat} {area : TS7Area} (DBCount : Nat)
    (inTable : c < MaxDB) (taken : self.DB c = some area) :
    used self = used { self with
      DB := Function.update self.DB c none, DBCount := DBCount } + 1 := by
  apply countP_range_add_one inTable
  · simp
  · rw [taken]
    rfl
  · intro d _ isOther
    simp [isOther]

theorem notSame_of_ne
    {Number : UInt16} {other : Nat} (inRange : other < UInt16.size)
    (isOther : other ≠ Number.toNat) : UInt16.ofNat other ≠ Number := by
  rintro rfl
  exact isOther (UInt16.toNat_ofNat_of_lt' inRange).symm

/-- A number gets a data block. -/
theorem blocks_update_some
    {registry : Registry} {Number : UInt16} (area : TS7Area)
    (free : registry.area (.db Number) = none) :
    Registry.blocks
      { area := Function.update registry.area (.db Number) (some area) } =
        registry.blocks + 1 := by
  apply countP_range_add_one Number.toNat_lt
  · simp [Registry.isBlock, free]
  · simp [Registry.isBlock]
  · intro other inRange isOther
    simp [Registry.isBlock, notSame_of_ne inRange isOther]

/-- A number loses its data block. -/
theorem blocks_update_none
    {registry : Registry} {Number : UInt16} {area : TS7Area}
    (registered : registry.area (.db Number) = some area) :
    registry.blocks = Registry.blocks
      { area := Function.update registry.area (.db Number) none } + 1 := by
  apply countP_range_add_one Number.toNat_lt
  · simp [Registry.isBlock]
  · simp [Registry.isBlock, registered]
  · intro other inRange isOther
    simp [Registry.isBlock, notSame_of_ne inRange isOther]

/-- Other changes leave the number of data blocks as it is. -/
theorem blocks_congr
    {before after : Registry}
    (same : ∀ Number, (before.area (.db Number)).isSome =
      (after.area (.db Number)).isSome) :
    before.blocks = after.blocks := by
  have sameBlock : before.isBlock = after.isBlock :=
    funext fun Number => same (UInt16.ofNat Number)
  rw [Registry.blocks, Registry.blocks, sameBlock]

/-- There is a free slot unless all of them are in use. -/
theorem findFirstFreeDB_eq_none_iff {self : TSnap7Server} :
    self.findFirstFreeDB = none ↔ used self = MaxDB := by
  have whole : used self = MaxDB ↔
      used self = (List.range MaxDB).length := by
    rw [List.length_range]
  rw [whole, used, List.countP_eq_length, TSnap7Server.findFirstFreeDB,
    List.find?_eq_none]
  simp [Option.isSome_iff_ne_none]

theorem free_of_findFirstFreeDB
    {self : TSnap7Server} {index : Nat}
    (isFree : self.findFirstFreeDB = some index) :
    index < MaxDB ∧ self.DB index = none := by
  rw [TSnap7Server.findFirstFreeDB] at isFree
  have isFound := List.find?_some isFree
  exact ⟨List.mem_range.mp (List.mem_of_find?_eq_some isFree),
    Option.isNone_iff_eq_none.mp isFound⟩

/-! ## One call -/

/-- What a table holds after one of its entries has changed. -/
theorem update_eq_some_iff
    {Index Entry : Type} [DecidableEq Index] {table : Index → Option Entry}
    {index at_ : Index} {new : Option Entry} {entry : Entry} :
    Function.update table index new at_ = some entry ↔
      (at_ = index ∧ new = some entry) ∨
        (at_ ≠ index ∧ table at_ = some entry) := by
  by_cases isIndex : at_ = index
  · subst isIndex
    simp
  · simp [isIndex]

section Calls

variable {self : TSnap7Server} {registry : Registry}

/-- A data block is put into a free slot. -/
theorem Represents.add
    (represents : Represents self registry)
    {Number Size : UInt16} {PData : Memory UInt8} {index : Nat}
    (free : registry.area (.db Number) = none)
    (inTable : index < MaxDB) (isFree : self.DB index = none) :
    Represents
      { self with
        DB := Function.update self.DB index (some ⟨Number, Size, PData⟩)
        DBCount := self.DBCount + 1
        DBLimit := if self.DBLimit < index then index else self.DBLimit }
      { area := Function.update registry.area (.db Number)
          (some ⟨Number, Size, PData⟩) } := by
  have otherNumber (c : Nat) (area : TS7Area)
      (isSlot : self.DB c = some area) : area.Number ≠ Number := by
    rintro rfl
    rw [represents.slot c area isSlot] at free
    cases free
  constructor
  case sys =>
    intro AreaCode
    simp [represents.sys]
  case slot =>
    intro c area isSlot
    rw [update_eq_some_iff] at isSlot ⊢
    rcases isSlot with ⟨_, isNew⟩ | ⟨_, isOld⟩
    · cases isNew
      exact .inl ⟨rfl, rfl⟩
    · refine .inr ⟨?_, represents.slot c area isOld⟩
      exact fun same => otherNumber c area isOld (Key.db.inj same)
  case db =>
    intro other area registered
    rcases update_eq_some_iff.mp registered with
      ⟨isNumber, isNew⟩ | ⟨_, isOld⟩
    · cases isNumber
      cases isNew
      exact ⟨index, update_eq_some_iff.mpr (.inl ⟨rfl, rfl⟩), rfl⟩
    · rcases represents.db other area isOld with ⟨c, isSlot, isOther⟩
      refine ⟨c, update_eq_some_iff.mpr (.inr ⟨?_, isSlot⟩), isOther⟩
      rintro rfl
      rw [isFree] at isSlot
      cases isSlot
  case distinct =>
    intro c d area other isArea isOther same
    rcases update_eq_some_iff.mp isArea with ⟨isIndex, isNew⟩ | ⟨_, isOld⟩
    · rcases update_eq_some_iff.mp isOther with
        ⟨alsoIndex, _⟩ | ⟨_, otherOld⟩
      · exact isIndex.trans alsoIndex.symm
      · cases isNew
        exact absurd same.symm (otherNumber d other otherOld)
    · rcases update_eq_some_iff.mp isOther with
        ⟨_, isNew⟩ | ⟨_, otherOld⟩
      · cases isNew
        exact absurd same (otherNumber c area isOld)
      · exact represents.distinct c d area other isOld otherOld same
  case inTable =>
    intro c area isArea
    rcases update_eq_some_iff.mp isArea with ⟨rfl, _⟩ | ⟨_, isOld⟩
    · exact inTable
    · exact represents.inTable c area isOld
  case belowLimit =>
    intro c area isArea
    rcases update_eq_some_iff.mp isArea with ⟨rfl, _⟩ | ⟨_, isOld⟩
    · dsimp only
      split_ifs
      · exact Nat.le_refl c
      · omega
    · have below := represents.belowLimit c area isOld
      dsimp only
      split_ifs
      · omega
      · exact below
  case blocks =>
    rw [blocks_update_some _ free, used_update_some inTable isFree,
      represents.blocks]
  case count =>
    simp only [used_update_some inTable isFree, represents.count]

/-- A data block is taken out of its slot. -/
theorem Represents.remove
    (represents : Represents self registry)
    {Number : UInt16} {area : TS7Area} {index : Nat}
    (registered : registry.area (.db Number) = some area)
    (isSlot : self.DB index = some area) :
    Represents
      { self with
        DB := Function.update self.DB index none
        DBCount := self.DBCount - 1 }
      { area := Function.update registry.area (.db Number) none } := by
  have isNumber : area.Number = Number := by
    rcases represents.db Number area registered with ⟨c, isSame, isNumber⟩
    exact isNumber
  have wasUsed := used_update_none (self.DBCount - 1)
    (represents.inTable index area isSlot) isSlot
  constructor
  case sys =>
    intro AreaCode
    simp [represents.sys]
  case slot =>
    intro c other isOther
    rcases update_eq_some_iff.mp isOther with ⟨_, isNone⟩ | ⟨notIndex, isOld⟩
    · cases isNone
    · refine update_eq_some_iff.mpr (.inr ⟨fun same => notIndex ?_,
        represents.slot c other isOld⟩)
      exact represents.distinct c index other area isOld isSlot
        ((Key.db.inj same).trans isNumber.symm)
  case db =>
    intro otherNumber other isOther
    rcases update_eq_some_iff.mp isOther with ⟨_, isNone⟩ | ⟨notNumber, isOld⟩
    · cases isNone
    · rcases represents.db otherNumber other isOld with ⟨c, isThere, isName⟩
      refine ⟨c, update_eq_some_iff.mpr (.inr ⟨?_, isThere⟩), isName⟩
      rintro rfl
      rw [isSlot] at isThere
      cases isThere
      exact notNumber (congrArg Key.db (isName.symm.trans isNumber))
  case distinct =>
    intro c d first second isFirst isSecond
    rcases update_eq_some_iff.mp isFirst with ⟨_, isNone⟩ | ⟨_, firstOld⟩
    · cases isNone
    · rcases update_eq_some_iff.mp isSecond with ⟨_, isNone⟩ | ⟨_, secondOld⟩
      · cases isNone
      · exact represents.distinct c d first second firstOld secondOld
  case inTable =>
    intro c other isOther
    rcases update_eq_some_iff.mp isOther with ⟨_, isNone⟩ | ⟨_, isOld⟩
    · cases isNone
    · exact represents.inTable c other isOld
  case belowLimit =>
    intro c other isOther
    rcases update_eq_some_iff.mp isOther with ⟨_, isNone⟩ | ⟨_, isOld⟩
    · cases isNone
    · exact represents.belowLimit c other isOld
  case blocks =>
    have isCount := represents.blocks
    rw [wasUsed, blocks_update_none registered] at isCount
    exact Nat.add_right_cancel isCount
  case count =>
    have isCount := represents.count
    rw [wasUsed] at isCount
    exact Nat.sub_eq_of_eq_add isCount

/-- An area beside the data blocks is changed. -/
theorem Represents.setSys
    (represents : Represents self registry)
    (AreaCode : Int) (new : Option TS7Area) :
    Represents { self with HA := Function.update self.HA AreaCode new }
      { area := Function.update registry.area (.sys AreaCode) new } := by
  have sameBlock (Number : UInt16) :
      Function.update registry.area (.sys AreaCode) new (.db Number) =
        registry.area (.db Number) :=
    Function.update_of_ne (fun isSys => by cases isSys) _ _
  constructor
  case sys =>
    intro other
    by_cases isOther : other = AreaCode
    · subst isOther
      simp
    · simp [isOther, represents.sys]
  case slot =>
    intro c area isSlot
    exact (sameBlock area.Number).trans (represents.slot c area isSlot)
  case db =>
    intro Number area registered
    exact represents.db Number area
      ((sameBlock Number).symm.trans registered)
  case distinct => exact represents.distinct
  case inTable => exact represents.inTable
  case belowLimit => exact represents.belowLimit
  case blocks =>
    exact (blocks_congr fun Number =>
      congrArg Option.isSome (sameBlock Number)).trans represents.blocks
  case count => exact represents.count

/-- `RegisterArea` answers as the registry does. -/
theorem Represents.registerArea
    (represents : Represents self registry)
    (AreaCode : Int) (Index : UInt16)
    (pUsrData : Option (Memory UInt8)) (Size : UInt16) :
    (self.registerArea AreaCode Index pUsrData Size).1 =
        (registry.register AreaCode Index pUsrData Size).1 ∧
      Represents (self.registerArea AreaCode Index pUsrData Size).2
        (registry.register AreaCode Index pUsrData Size).2 := by
  rw [TSnap7Server.registerArea, Registry.register.eq_def, Registry.keyOf]
  cases pUsrData with
  | none => split_ifs <;> exact ⟨rfl, represents⟩
  | some PData =>
      by_cases isDB : AreaCode = srvAreaDB
      · rw [if_pos isDB, if_pos isDB, TSnap7Server.registerDB]
        simp only [represents.findDB]
        cases registered : registry.area (.db Index) with
        | some area => simpa using represents
        | none =>
            cases isFree : self.findFirstFreeDB with
            | none =>
                have isFull : registry.blocks = MaxDB :=
                  represents.blocks.trans
                    (findFirstFreeDB_eq_none_iff.mp isFree)
                simp only [Option.isSome_none, Bool.false_eq_true, if_false,
                  if_pos isFull]
                exact ⟨trivial, represents⟩
            | some index =>
                have notFull : ¬ (registry.blocks = MaxDB) := by
                  rw [represents.blocks, ← findFirstFreeDB_eq_none_iff,
                    isFree]
                  exact fun isNone => by cases isNone
                rcases free_of_findFirstFreeDB isFree with
                  ⟨inTable, isSlotFree⟩
                simp only [Option.isSome_none, Bool.false_eq_true, if_false,
                  if_neg notFull]
                exact ⟨trivial, represents.add registered inTable isSlotFree⟩
      · rw [if_neg isDB, if_neg isDB, TSnap7Server.registerSys]
        by_cases isSys : srvAreaPE ≤ AreaCode ∧ AreaCode ≤ srvAreaTM
        · have inRange : ¬ (AreaCode < srvAreaPE ∨ srvAreaTM < AreaCode) := by
            omega
          simp only [if_pos isSys, if_neg inRange, represents.sys]
          cases registered : registry.area (.sys AreaCode) with
          | none =>
              simpa using
                represents.setSys AreaCode (some ⟨0, Size, PData⟩)
          | some area => simpa using represents
        · have outside : AreaCode < srvAreaPE ∨ srvAreaTM < AreaCode := by
            omega
          simp only [if_neg isSys, if_pos outside]
          exact ⟨trivial, represents⟩

/-- `UnregisterArea` answers as the registry does. -/
theorem Represents.unregisterArea
    (represents : Represents self registry)
    (AreaCode : Int) (Index : UInt16) :
    (self.unregisterArea AreaCode Index).1 =
        (registry.unregister AreaCode Index).1 ∧
      Represents (self.unregisterArea AreaCode Index).2
        (registry.unregister AreaCode Index).2 := by
  rw [TSnap7Server.unregisterArea, Registry.unregister, Registry.keyOf]
  by_cases isDB : AreaCode = srvAreaDB
  · rw [if_pos isDB, if_pos isDB, TSnap7Server.unregisterDB]
    cases registered : registry.area (.db Index) with
    | none =>
        rw [represents.indexOfDB_of_none registered]
        simpa [registered] using represents
    | some area =>
        rcases represents.indexOfDB_of_some registered with
          ⟨index, isIndex, isSlot⟩
        rw [isIndex]
        simpa [registered] using represents.remove registered isSlot
  · rw [if_neg isDB, if_neg isDB]
    by_cases isSys : srvAreaPE ≤ AreaCode ∧ AreaCode ≤ srvAreaTM
    · rw [if_pos isSys, if_pos isSys]
      exact ⟨rfl, represents.setSys AreaCode none⟩
    · rw [if_neg isSys, if_neg isSys]
      exact ⟨rfl, represents⟩

end Calls

/-! ## Any sequence of calls -/

/-- A call of the application. -/
inductive Call where
  | register (AreaCode : Int) (Index : UInt16)
      (pUsrData : Option (Memory UInt8)) (Size : UInt16)
  | unregister (AreaCode : Int) (Index : UInt16)

def TSnap7Server.call (self : TSnap7Server) : Call → Nat × TSnap7Server
  | .register AreaCode Index pUsrData Size =>
      self.registerArea AreaCode Index pUsrData Size
  | .unregister AreaCode Index => self.unregisterArea AreaCode Index

def Registry.call (self : Registry) : Call → Nat × Registry
  | .register AreaCode Index pUsrData Size =>
      self.register AreaCode Index pUsrData Size
  | .unregister AreaCode Index => self.unregister AreaCode Index

/-- The results of a sequence of calls, and the state after it. -/
def runCalls {State Request : Type} (call : State → Request → Nat × State) :
    State → List Request → List Nat × State
  | state, [] => ([], state)
  | state, request :: requests =>
      let (Result, state) := call state request
      let (results, state) := runCalls call state requests
      (Result :: results, state)

theorem Represents.call
    {self : TSnap7Server} {registry : Registry}
    (represents : Represents self registry) (request : Call) :
    (self.call request).1 = (registry.call request).1 ∧
      Represents (self.call request).2 (registry.call request).2 := by
  cases request with
  | register AreaCode Index pUsrData Size =>
      exact represents.registerArea AreaCode Index pUsrData Size
  | unregister AreaCode Index =>
      exact represents.unregisterArea AreaCode Index

theorem Represents.runCalls
    {self : TSnap7Server} {registry : Registry}
    (represents : Represents self registry) (requests : List Call) :
    (runCalls TSnap7Server.call self requests).1 =
        (runCalls Registry.call registry requests).1 ∧
      Represents (runCalls TSnap7Server.call self requests).2
        (runCalls Registry.call registry requests).2 := by
  induction requests generalizing self registry with
  | nil => exact ⟨rfl, represents⟩
  | cons request requests ih =>
      rcases represents.call request with ⟨sameResult, later⟩
      rcases ih later with ⟨sameResults, last⟩
      exact ⟨congrArg₂ List.cons sameResult sameResults, last⟩

/--
After any sequence of registrations and removals every call has answered as
the map does, a worker finds under every code and number what the map holds,
and `DBCount` is the number of data blocks in the map and at most `MaxDB`.
-/
theorem tables_refine_registry (requests : List Call) :
    let (results, server) :=
      runCalls TSnap7Server.call TSnap7Server.initial requests
    let (expected, registry) :=
      runCalls Registry.call Registry.initial requests
    results = expected ∧
      (∀ S7Code index,
        server.getArea S7Code index = registry.lookup S7Code index) ∧
      server.DBCount = registry.blocks ∧ registry.blocks ≤ MaxDB := by
  rcases represents_initial.runCalls requests with ⟨sameResults, represents⟩
  refine ⟨sameResults, represents.getArea, ?_, ?_⟩
  · exact represents.count.trans represents.blocks.symm
  · rw [represents.blocks]
    exact Nat.le_trans List.countP_le_length
      (Nat.le_of_eq List.length_range)

end ServerUtils.Snap7.Areas
