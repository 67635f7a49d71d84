import ServerUtils.Snap7.WriteRange

/-!
# The areas of a server as the memory of a client

A client that reads and writes ranges uses the areas of the server as a memory:
the map from area keys to areas, of which a write changes the bytes of one
range.  Every session, which is a list of jobs run one after the other, gets
the answers of that memory.  So what has been written is read again, as long as
no job in between writes to the range.
-/

namespace ServerUtils.Snap7.RemoteMemory

open ServerUtils.Parser.StdString
open ServerUtils.Foundation.BlockCopy
open ServerUtils.Foundation.Rounds
open ServerUtils.Snap7.MsgSocket
open ServerUtils.Snap7.IsoTcp
open ServerUtils.Snap7.Areas
open ServerUtils.Snap7.S7Server
open ServerUtils.Snap7.MicroClient
open ServerUtils.Snap7.Exchange
open ServerUtils.Snap7.ReadItems
open ServerUtils.Snap7.ReadRange
open ServerUtils.Snap7.WriteRange

/-! ## The memory -/

/-- The key of the area that a worker looks for. -/
def keyOf (S7Code : UInt8) (index : UInt16) : Key :=
  match sysArea S7Code with
  | some AreaCode => .sys AreaCode
  | none => .db index

/-- The registry when the bytes of an area have been changed. -/
def storeIn (registry : Registry) (S7Code : UInt8) (index : UInt16)
    (PData : Memory UInt8) : Registry :=
  { area := Function.update registry.area (keyOf S7Code index)
      ((registry.area (keyOf S7Code index)).map (TS7Area.setData PData)) }

section Memory

variable {server : TSnap7Server} {registry : Registry}
variable {S7Code : UInt8} {index : UInt16} {area : TS7Area}

/-- A worker looks under the key of an area, if there is such an area. -/
theorem lookup_eq (registry : Registry) (S7Code : UInt8) (index : UInt16) :
    registry.lookup S7Code index =
      if sysArea S7Code = none ∧ S7Code ≠ S7AreaDB then none
      else registry.area (keyOf S7Code index) := by
  rw [Registry.lookup, keyOf, sysArea]
  split_ifs
  all_goals simp_all

theorem area_of_lookup
    (isArea : registry.lookup S7Code index = some area) :
    registry.area (keyOf S7Code index) = some area := by
  rw [lookup_eq] at isArea
  split at isArea
  · cases isArea
  · exact isArea

/-- A data block is changed in its slot. -/
theorem represents_setSlot
    (represents : Represents server registry) {c : Nat} {new : TS7Area}
    (isSlot : server.DB c = some area) (same : new.Number = area.Number) :
    Represents (setSlot server c new)
      { area := Function.update registry.area (.db area.Number)
          (some new) } := by
  have sameUsed : used (setSlot server c new) = used server := by
    rw [used, used]
    congr 1
    funext d
    by_cases isHere : d = c
    · subst isHere
      simp [setSlot, isSlot]
    · simp [setSlot, isHere]
  have sameBlocks : Registry.blocks
      { area := Function.update registry.area (.db area.Number)
          (some new) } = registry.blocks := by
    refine blocks_congr fun Number => ?_
    by_cases isHere : Number = area.Number
    · subst isHere
      simp [represents.slot c area isSlot]
    · simp [isHere]
  constructor
  case sys =>
    intro AreaCode
    have isSame : Function.update registry.area (.db area.Number) (some new)
        (.sys AreaCode) = registry.area (.sys AreaCode) :=
      Function.update_of_ne (fun isBlock => by cases isBlock) _ _
    exact (represents.sys AreaCode).trans isSame.symm
  case slot =>
    intro d other isOther
    rcases update_eq_some_iff.mp isOther with ⟨_, isNew⟩ | ⟨notHere, isOld⟩
    · cases isNew
      rw [same]
      exact Function.update_self _ _ _
    · refine (Function.update_of_ne (fun isSame => notHere ?_) _ _).trans
        (represents.slot d other isOld)
      exact represents.distinct d c other area isOld isSlot
        (Key.db.inj isSame)
  case db =>
    intro Number other registered
    rcases update_eq_some_iff.mp registered with
      ⟨isNumber, isNew⟩ | ⟨notNumber, isOld⟩
    · cases isNew
      exact ⟨c, Function.update_self _ _ _,
        same.trans (Key.db.inj isNumber).symm⟩
    · rcases represents.db Number other isOld with ⟨d, isThere, isName⟩
      refine ⟨d, update_eq_some_iff.mpr (.inr ⟨?_, isThere⟩), isName⟩
      rintro rfl
      rw [isSlot] at isThere
      cases isThere
      exact notNumber (congrArg Key.db isName.symm)
  case distinct =>
    intro d e first second isFirst isSecond sameNumber
    rcases update_eq_some_iff.mp isFirst with ⟨isHere, isNew⟩ | ⟨_, firstOld⟩
    · cases isNew
      rcases update_eq_some_iff.mp isSecond with
        ⟨alsoHere, _⟩ | ⟨_, secondOld⟩
      · exact isHere.trans alsoHere.symm
      · exact isHere.trans (represents.distinct c e area second isSlot
          secondOld (same.symm.trans sameNumber))
    · rcases update_eq_some_iff.mp isSecond with
        ⟨isHere, isNew⟩ | ⟨_, secondOld⟩
      · cases isNew
        exact (represents.distinct d c first area firstOld isSlot
          (sameNumber.trans same)).trans isHere.symm
      · exact represents.distinct d e first second firstOld secondOld
          sameNumber
  case inTable =>
    intro d other isOther
    rcases update_eq_some_iff.mp isOther with ⟨rfl, _⟩ | ⟨_, isOld⟩
    · exact represents.inTable _ area isSlot
    · exact represents.inTable d other isOld
  case belowLimit =>
    intro d other isOther
    rcases update_eq_some_iff.mp isOther with ⟨rfl, _⟩ | ⟨_, isOld⟩
    · exact represents.belowLimit _ area isSlot
    · exact represents.belowLimit d other isOld
  case blocks =>
    exact sameBlocks.trans (represents.blocks.trans sameUsed.symm)
  case count => exact represents.count.trans sameUsed.symm

/-- A copy to an area changes the bytes under its key. -/
theorem represents_setArea
    (represents : Represents server registry)
    (isArea : server.getArea S7Code index = some area)
    (PData : Memory UInt8) :
    Represents (setArea server S7Code index PData)
      (storeIn registry S7Code index PData) := by
  have isThere : registry.area (keyOf S7Code index) = some area :=
    area_of_lookup ((represents.getArea S7Code index).symm.trans isArea)
  rcases getArea_cases isArea with
    ⟨AreaCode, isSys, isArea⟩ | ⟨c, notSys, _, isIndex, isSlot⟩
  · rw [setArea_sys isSys isArea, storeIn, isThere]
    simp only [keyOf, isSys]
    exact represents.setSys AreaCode _
  · have isKey : keyOf S7Code index = .db index := by
      simp only [keyOf, notSys]
    rw [isKey] at isThere
    have isNumber : area.Number = index := by
      rcases represents.db index area isThere with ⟨_, _, isNumber⟩
      exact isNumber
    rw [setArea_block notSys isIndex isSlot, storeIn, isKey, isThere]
    rw [← isNumber]
    exact represents_setSlot represents isSlot rfl

/-- A copy neither adds nor removes an area. -/
theorem isSome_storeIn (PData : Memory UInt8) (key : Key) :
    ((storeIn registry S7Code index PData).area key).isSome =
      (registry.area key).isSome := by
  by_cases isKey : key = keyOf S7Code index
  · subst isKey
    simp [storeIn]
  · simp [storeIn, isKey]

theorem isSome_lookup_storeIn
    (PData : Memory UInt8) (other : UInt8) (number : UInt16) :
    ((storeIn registry S7Code index PData).lookup other number).isSome =
      (registry.lookup other number).isSome := by
  rw [lookup_eq, lookup_eq]
  split
  · rfl
  · exact isSome_storeIn PData _

/-- What a worker finds after a copy. -/
theorem lookup_storeIn
    {other : UInt8} {number : UInt16}
    (isArea : registry.lookup other number = some area)
    (PData : Memory UInt8) :
    (storeIn registry S7Code index PData).lookup other number =
      some (if keyOf other number = keyOf S7Code index then
        TS7Area.setData PData area else area) := by
  have isThere := area_of_lookup isArea
  rw [lookup_eq] at isArea ⊢
  split at isArea
  · cases isArea
  · rename_i isKnown
    rw [if_neg isKnown, storeIn]
    by_cases isKey : keyOf other number = keyOf S7Code index
    · rw [if_pos isKey, ← isKey, isThere]
      exact Function.update_self _ _ _
    · rw [if_neg isKey]
      exact (Function.update_of_ne isKey _ _).trans isThere

end Memory

/-! ## Commands -/

/-- A command of a session. -/
inductive Command where
  | read (job : TSnap7Job)
  | write (job : TSnap7Job)

def Command.job : Command → TSnap7Job
  | .read job => job
  | .write job => job

/-- The area that a job is about. -/
def areaOf (registry : Registry) (job : TSnap7Job) : Option TS7Area :=
  registry.lookup (toByte job.Area) (index job)

/-- The key of the area. -/
def keyOfJob (job : TSnap7Job) : Key := keyOf (toByte job.Area) (index job)

/-- The registry after a copy to the area of a job. -/
def storeRange (registry : Registry) (job : TSnap7Job)
    (PData : Memory UInt8) : Registry :=
  storeIn registry (toByte job.Area) (index job) PData

theorem area_of_areaOf
    {registry : Registry} {job : TSnap7Job} {area : TS7Area}
    (isArea : areaOf registry job = some area) :
    registry.area (keyOfJob job) = some area :=
  area_of_lookup isArea

/-- The job is about the bytes of some area of the registry. -/
structure Valid (registry : Registry) (job : TSnap7Job) : Prop where
  isArea : (areaOf registry job).isSome = true
  notCounter : toByte job.Area ≠ S7AreaCT
  notTimer : toByte job.Area ≠ S7AreaTM
  wordLen : ByteAddressed job.WordLen
  checked : job.check = 0
  isNear : job.Start < 0x200000
  isFew : job.Amount < 65536

/-- What the memory answers to a command, and how it is changed.  A range that
is not in its area may be transferred in part. -/
inductive Answers (registry : Registry) :
    Command → Nat × Bytes → Registry → Prop where
  | read {job : TSnap7Job} {area : TS7Area}
      (isArea : areaOf registry job = some area)
      (isInside : job.Start + jobSize job ≤ area.Size.toNat) :
      Answers registry (.read job)
        (0, load area.PData job.Start.toNat (jobSize job)) registry
  | readPart {job : TSnap7Job} {area : TS7Area} {count : Nat}
      (isArea : areaOf registry job = some area)
      (isOutside : area.Size.toNat < job.Start + jobSize job)
      (isPart : count ≠ 0 → job.Start + count ≤ area.Size.toNat) :
      Answers registry (.read job)
        (errCliAddressOutOfRange, load area.PData job.Start.toNat count)
        registry
  | write {job : TSnap7Job} {area : TS7Area}
      (isArea : areaOf registry job = some area)
      (isInside : job.Start + jobSize job ≤ area.Size.toNat) :
      Answers registry (.write job) (0, [])
        (storeRange registry job
          (store area.PData job.Start.toNat (load job.pData 0 (jobSize job))))
  | writePart {job : TSnap7Job} {area : TS7Area} {count : Nat}
      (isArea : areaOf registry job = some area)
      (isOutside : area.Size.toNat < job.Start + jobSize job)
      (isPart : count ≠ 0 → job.Start + count ≤ area.Size.toNat) :
      Answers registry (.write job)
        (if count = 0 then errCliAddressOutOfRange
          else errCliPartialDataWritten, [])
        (storeRange registry job
          (store area.PData job.Start.toNat (load job.pData 0 count)))

/-- What the memory answers to a list of commands. -/
inductive Remembers :
    Registry → List Command → List (Nat × Bytes) → Registry → Prop where
  | nil (registry : Registry) : Remembers registry [] [] registry
  | cons {registry next last : Registry} {command : Command}
      {commands : List Command} {result : Nat × Bytes}
      {results : List (Nat × Bytes)}
      (answers : Answers registry command result next)
      (later : Remembers next commands results last) :
      Remembers registry (command :: commands) (result :: results) last

/-- A client and its worker perform a command. -/
inductive Performs (others : OtherCommands) (client : TSnap7MicroClient)
    (served : Served) :
    Command → Nat × Bytes → TSnap7MicroClient → Served → Prop where
  | read {job : TSnap7Job} {last : Transfer Served}
      (returns : (opReadArea (workerPeer others) client job).Returns
        (job.start client served) last) :
      Performs others client served (.read job) (last.Result, last.Data)
        last.client last.world
  | write {job : TSnap7Job} {last : Transfer Served}
      (returns : (opWriteArea (workerPeer others) client job).Returns
        (job.start client served) last) :
      Performs others client served (.write job) (last.Result, [])
        last.client last.world

/-- A client performs its commands one after the other. -/
inductive Session (others : OtherCommands) :
    TSnap7MicroClient → Served → List Command → List (Nat × Bytes) →
      TSnap7MicroClient → Served → Prop where
  | nil (client : TSnap7MicroClient) (served : Served) :
      Session others client served [] [] client served
  | cons {client next last : TSnap7MicroClient} {served after final : Served}
      {command : Command} {commands : List Command} {result : Nat × Bytes}
      {results : List (Nat × Bytes)}
      (performs : Performs others client served command result next after)
      (later : Session others next after commands results last final) :
      Session others client served (command :: commands) (result :: results)
        last final

section Refinement

variable {others : OtherCommands} {client next : TSnap7MicroClient}
variable {served after : Served} {registry : Registry}
variable {command : Command} {commands : List Command}
variable {result : Nat × Bytes} {results : List (Nat × Bytes)}

/-- A command has one result. -/
theorem Performs.unique
    {otherResult : Nat × Bytes} {otherNext : TSnap7MicroClient}
    {otherAfter : Served}
    (performs : Performs others client served command result next after)
    (performsOther : Performs others client served command otherResult
      otherNext otherAfter) :
    result = otherResult ∧ next = otherNext ∧ after = otherAfter := by
  cases performs with
  | read returns =>
      cases performsOther with
      | read returnsOther =>
          cases returns.unique returnsOther
          exact ⟨rfl, rfl, rfl⟩
  | write returns =>
      cases performsOther with
      | write returnsOther =>
          cases returns.unique returnsOther
          exact ⟨rfl, rfl, rfl⟩

theorem Valid.storeIn
    {job : TSnap7Job} (valid : Valid registry job) (S7Code : UInt8)
    (number : UInt16) (PData : Memory UInt8) :
    Valid (storeIn registry S7Code number PData) job where
  isArea := (isSome_lookup_storeIn PData _ _).trans valid.isArea
  notCounter := valid.notCounter
  notTimer := valid.notTimer
  wordLen := valid.wordLen
  checked := valid.checked
  isNear := valid.isNear
  isFew := valid.isFew

/-- The memory keeps the areas that commands are about. -/
theorem Answers.valid
    {after : Registry} {job : TSnap7Job}
    (answers : Answers registry command result after)
    (valid : Valid registry job) : Valid after job := by
  cases answers with
  | read => exact valid
  | readPart => exact valid
  | write => exact valid.storeIn _ _ _
  | writePart => exact valid.storeIn _ _ _

/-- The job is about an area that the worker finds. -/
theorem Valid.ranged
    {job : TSnap7Job} (valid : Valid registry job)
    (represents : Represents served.worker.FServer registry) :
    ∃ area, areaOf registry job = some area ∧
      Ranged served.worker.FServer job area := by
  rcases Option.isSome_iff_exists.mp valid.isArea with ⟨area, isArea⟩
  exact ⟨area, isArea, (represents.getArea _ _).trans isArea,
    valid.notCounter, valid.notTimer, valid.wordLen⟩

/-- A client and its worker after a command. -/
structure Ready (client : TSnap7MicroClient) (served : Served)
    (registry : Registry) : Prop where
  idle : Idle client served
  agreed : Agreed client served.worker
  represents : Represents served.worker.FServer registry

theorem Ready.kept
    {job : TSnap7Job} {last : Transfer Served} {next : Registry}
    (ready : Ready client served registry)
    (kept : Kept (job.start client served) last)
    (represents : Represents last.world.worker.FServer next) :
    Ready last.client last.world next := by
  have agreed := ready.agreed
  have sameLength : last.client.PDULength = client.PDULength :=
    kept.sameLength
  have same : last.world.worker.FPDULength = served.worker.FPDULength :=
    kept.length
  refine ⟨kept.idle, ⟨?_, ?_, ?_, ?_⟩, represents⟩
  · rw [sameLength]
    exact agreed.isLong
  · rw [sameLength]
    exact agreed.fits
  · rw [sameLength, same]
    exact agreed.known
  · rw [same]
    exact agreed.isWord

/-- One command is answered as the memory answers it. -/
theorem Ready.performs
    (others : OtherCommands) (ready : Ready client served registry)
    (valid : Valid registry command.job) :
    ∃ result next after last,
      Performs others client served command result next after ∧
      Answers registry command result last ∧ Ready next after last := by
  rcases valid.ranged ready.represents with ⟨area, isArea, ranged⟩
  cases command with
  | read job =>
      by_cases isInside : job.Start + jobSize job ≤ area.Size.toNat
      · rcases @readArea_inside others job area client served ready.idle
          ready.agreed ranged valid.checked valid.isFew isInside with
          ⟨last, returns, isResult, isData, isServer, kept⟩
        refine ⟨_, _, _, registry, .read returns, ?_,
          ready.kept kept (isServer ▸ ready.represents)⟩
        rw [isResult, isData]
        exact .read isArea isInside
      · have isOutside := Int.lt_of_not_ge isInside
        rcases @readArea_outside others job area client served ready.idle
          ready.agreed ranged valid.checked valid.isNear isOutside with
          ⟨last, count, returns, isResult, isData, isPart, isServer, kept⟩
        refine ⟨_, _, _, registry, .read returns, ?_,
          ready.kept kept (isServer ▸ ready.represents)⟩
        rw [isResult, isData]
        exact .readPart isArea isOutside isPart
  | write job =>
      have stored (count : Nat) :
          Represents (afterBytes served.worker.FServer job area count)
            (storeRange registry job
              (store area.PData job.Start.toNat
                (load job.pData 0 count))) :=
        represents_setArea ready.represents ranged.isArea _
      by_cases isInside : job.Start + jobSize job ≤ area.Size.toNat
      · rcases @writeArea_inside others job area client served ready.idle
          ready.agreed ranged valid.checked valid.isFew isInside with
          ⟨last, returns, isResult, isServer, kept⟩
        refine ⟨_, _, _, _, .write returns, ?_,
          ready.kept kept (isServer ▸ stored _)⟩
        rw [isResult]
        exact .write isArea isInside
      · have isOutside := Int.lt_of_not_ge isInside
        rcases @writeArea_outside others job area client served ready.idle
          ready.agreed ranged valid.checked valid.isNear isOutside with
          ⟨last, count, returns, isResult, isPart, isServer, kept⟩
        refine ⟨_, _, _, _, .write returns, ?_,
          ready.kept kept (isServer ▸ stored _)⟩
        rw [isResult]
        exact .writePart isArea isOutside isPart

/-- A session has one list of results. -/
theorem Session.unique
    {otherResults : List (Nat × Bytes)} {otherNext : TSnap7MicroClient}
    {otherAfter : Served}
    (session : Session others client served commands results next after)
    (other : Session others client served commands otherResults otherNext
      otherAfter) :
    results = otherResults ∧ next = otherNext ∧ after = otherAfter := by
  induction session generalizing otherResults with
  | nil =>
      cases other
      exact ⟨rfl, rfl, rfl⟩
  | cons performs _ ih =>
      cases other with
      | cons performsOther laterOther =>
          rcases performs.unique performsOther with ⟨rfl, rfl, rfl⟩
          rcases ih laterOther with ⟨rfl, rfl, rfl⟩
          exact ⟨rfl, rfl, rfl⟩

/-- The commands can be performed one after the other, and are answered as the
memory answers them. -/
theorem Ready.session
    (others : OtherCommands) (ready : Ready client served registry)
    (valid : ∀ command ∈ commands, Valid registry command.job) :
    ∃ results next after last,
      Session others client served commands results next after ∧
      Remembers registry commands results last ∧ Ready next after last := by
  induction commands generalizing client served registry with
  | nil =>
      exact ⟨[], client, served, registry, .nil client served, .nil registry,
        ready⟩
  | cons command commands ih =>
      rcases ready.performs others (valid command List.mem_cons_self) with
        ⟨result, next, after, last, performs, answers, readyNext⟩
      have validNext : ∀ command ∈ commands, Valid last command.job :=
        fun other isOther =>
          answers.valid (valid other (List.mem_cons_of_mem _ isOther))
      rcases ih readyNext validNext with
        ⟨results, client, served, registry, session, remembers, isReady⟩
      exact ⟨result :: results, client, served, registry,
        .cons performs session, .cons answers remembers, isReady⟩

end Refinement

section Frame

variable {others : OtherCommands} {client : TSnap7MicroClient}
variable {served : Served} {registry last : Registry}
variable {command : Command} {commands : List Command}
variable {result : Nat × Bytes} {results : List (Nat × Bytes)}
variable {source target : TSnap7Job} {bytes : Bytes} {Size : UInt16}

/-- The command does not write to the range of the job. -/
def Apart (target : TSnap7Job) : Command → Prop
  | .read _ => True
  | .write job =>
      keyOfJob job ≠ keyOfJob target ∨
      job.Start.toNat + jobSize job ≤ target.Start.toNat ∨
      target.Start.toNat + jobSize target ≤ job.Start.toNat

/-- The area of the job is of this size and has these bytes in its range. -/
def Has (registry : Registry) (target : TSnap7Job) (bytes : Bytes)
    (Size : UInt16) : Prop :=
  ∃ area, areaOf registry target = some area ∧ area.Size = Size ∧
    load area.PData target.Start.toNat (jobSize target) = bytes

/-- A copy beside the range leaves it as it is. -/
theorem Has.storeRange
    {job : TSnap7Job} {area : TS7Area} {count : Nat}
    (has : Has registry target bytes Size)
    (isArea : areaOf registry job = some area)
    (isPart : count ≤ jobSize job) (apart : Apart target (.write job)) :
    Has (storeRange registry job
      (store area.PData job.Start.toNat (load job.pData 0 count)))
        target bytes Size := by
  rcases has with ⟨here, isHere, rfl, areBytes⟩
  refine ⟨_, lookup_storeIn isHere _, ?_, ?_⟩
  · split
    · rfl
    · rfl
  · split
    case isTrue isKey =>
      have same : area = here := by
        have isKey : keyOfJob target = keyOfJob job := isKey
        have found := area_of_areaOf isArea
        rw [← isKey, area_of_areaOf isHere] at found
        exact (Option.some.inj found).symm
      subst same
      refine Eq.trans (load_store_of_apart ?_) areBytes
      rw [length_load]
      rcases apart with otherKey | isBefore | isBehind
      · exact absurd isKey.symm otherKey
      · exact .inr (by omega)
      · exact .inl isBehind
    case isFalse => exact areBytes

/-- A command that does not write to the range leaves it as it is. -/
theorem Answers.keeps
    (answers : Answers registry command result last)
    (has : Has registry target bytes Size) (apart : Apart target command) :
    Has last target bytes Size := by
  cases answers with
  | read => exact has
  | readPart => exact has
  | write isArea _ => exact has.storeRange isArea (Nat.le_refl _) apart
  | writePart isArea isOutside isPart =>
      exact has.storeRange isArea (by omega) apart

/-- Bytes that are in the area are read. -/
theorem Answers.reads
    (answers : Answers registry (.read target) result last)
    (has : Has registry target bytes Size)
    (isInside : target.Start + jobSize target ≤ Size.toNat) :
    result = (0, bytes) := by
  rcases has with ⟨here, isHere, rfl, rfl⟩
  cases answers with
  | read isArea =>
      cases isArea.symm.trans isHere
      rfl
  | readPart isArea isOutside =>
      cases isArea.symm.trans isHere
      omega

/-- Bytes that no command writes to are read at the end. -/
theorem Remembers.reads
    (remembers : Remembers registry (commands ++ [.read target]) results last)
    (has : Has registry target bytes Size)
    (isInside : target.Start + jobSize target ≤ Size.toNat)
    (apart : ∀ command ∈ commands, Apart target command) :
    ∃ middle, results = middle ++ [(0, bytes)] := by
  induction commands generalizing registry results with
  | nil =>
      rcases remembers with _ | ⟨answers, later⟩
      rcases later with _ | _
      exact ⟨[], congrArg (· :: []) (answers.reads has isInside)⟩
  | cons command commands ih =>
      rcases remembers with _ | ⟨answers, later⟩
      rcases ih later
        (answers.keeps has (apart command List.mem_cons_self))
        (fun other isOther => apart other (List.mem_cons_of_mem _ isOther))
        with ⟨middle, rfl⟩
      exact ⟨_ :: middle, rfl⟩

/-- The range of a job is part of that of another job. -/
structure Part (target source : TSnap7Job) : Prop where
  sameKey : keyOfJob target = keyOfJob source
  isBehind : source.Start ≤ target.Start
  isBefore :
    target.Start + jobSize target ≤ source.Start + jobSize source

end Frame

end ServerUtils.Snap7.RemoteMemory
