import Mathlib.Tactic.SplitIfs
import ServerUtils.Parser.StdString

/-!
# The message socket

`TMsgSocket` receives packets of a known size from a TCP connection.  The
other side is the list of what it gets across: one entry for each time the
socket waits, so every timing of the bytes is such a list.  A packet is taken
when enough bytes are there before the timeout; otherwise the socket is
purged.  `Purge` reads pieces of 512 bytes until a piece is shorter, and so
waits for ever where the last piece is a full one and nothing follows.
-/

namespace ServerUtils.Snap7.MsgSocket

open ServerUtils.Parser.StdString

/-- `ECONNRESET`. -/
def WSAECONNRESET : Nat := 104

/-- `ETIMEDOUT`. -/
def WSAETIMEDOUT : Nat := 110

/-- Where a call does not come back to its caller in a defined state. -/
inductive Fault where
  /-- A `recv` that waits for bytes which never come. -/
  | blocked
  /-- A copy past the end of the object it goes to. -/
  | overrun
deriving DecidableEq, Repr

/-- What a `send` does. -/
inductive Send where
  | whole
  /-- At most `count` bytes are taken.  `errno` is what it is after the call:
  the reason if none are taken, and otherwise that of an earlier call. -/
  | short (count errno : Nat)
deriving DecidableEq, Repr

namespace Send

/-- The bytes that are taken. -/
def taken (bytes : Bytes) : Send → Bytes
  | .whole => bytes
  | .short count _ => bytes.take count

def errno : Send → Nat
  | .whole => 0
  | .short _ errno => errno

/-- All bytes are taken, or none of them for a reason. -/
def Undivided : Send → Prop
  | .whole => True
  | .short count errno => count = 0 ∧ errno ≠ 0

instance : DecidablePred Undivided
  | .whole => .isTrue True.intro
  | .short _ _ => inferInstanceAs (Decidable (_ ∧ _))

end Send

/-- What the modelled calls see of a connected socket: the bytes that can be
read, the bytes that arrive during each later wait, whether the other side
closes after them, what each later `send` does, and what has been sent. -/
structure TMsgSocket where
  waiting : Bytes
  arrivals : List Bytes
  closed : Bool
  sends : List Send
  sent : Bytes
  LastTcpError : Nat
  Connected : Bool
deriving DecidableEq

namespace TMsgSocket

/-- Everything that is still to be read. -/
def stream (self : TMsgSocket) : Bytes :=
  self.waiting ++ self.arrivals.flatten

/-- `CanRead(0) && (WaitingData()==0)`: the end of the stream is reached. -/
def AtEnd (self : TMsgSocket) : Prop :=
  self.waiting = [] ∧ self.arrivals = [] ∧ self.closed = true

instance (self : TMsgSocket) : Decidable self.AtEnd :=
  inferInstanceAs (Decidable (_ ∧ _ ∧ _))

/-- The bytes that arrive while the socket waits. -/
def arrive (self : TMsgSocket) : TMsgSocket :=
  { self with
    waiting := self.waiting ++ self.arrivals.headD []
    arrivals := self.arrivals.tail }

/-- `WaitForData`. -/
def waitForData (self : TMsgSocket) (Size : Nat) : TMsgSocket :=
  if self.AtEnd then
    { self with LastTcpError := WSAECONNRESET, Connected := false }
  else
    let self := self.arrive
    { self with
      LastTcpError :=
        if self.waiting.length < Size then WSAETIMEDOUT else 0 }

/-- The loop of `Purge` from a point where `waiting` can be read.  Pieces of
512 bytes are read while they are full, so it goes on waiting where the number
of bytes is a multiple of 512. -/
def purgeLoop (closed : Bool) : Bytes → List Bytes → Except Fault (List Bytes)
  | waiting, [] =>
      if waiting.length % 512 ≠ 0 then .ok []
      else if closed then .ok []
      else .error .blocked
  | waiting, arrived :: arrivals =>
      if waiting.length % 512 ≠ 0 then .ok (arrived :: arrivals)
      else purgeLoop closed arrived arrivals

/-- `Purge`. -/
def purge (self : TMsgSocket) : Except Fault TMsgSocket :=
  if self.LastTcpError = WSAECONNRESET then .ok self
  else if self.waiting = [] ∧ ¬ self.AtEnd then .ok self
  else do
    let arrivals ← purgeLoop self.closed self.waiting self.arrivals
    .ok { self with waiting := [], arrivals := arrivals }

/-- `SendPacket`.  What a short send has taken is on the wire, and the error is
`errno` then, which nobody has set.  A timeout of `CanWrite` is a send which
takes nothing. -/
def sendPacket (self : TMsgSocket) (bytes : Bytes) : TMsgSocket :=
  let send := self.sends.headD .whole
  { self with
    sends := self.sends.tail
    sent := self.sent ++ send.taken bytes
    LastTcpError :=
      if (send.taken bytes).length = bytes.length then 0 else send.errno }

theorem sendPacket_of_whole
    {self : TMsgSocket} (isWhole : self.sends.headD .whole = .whole)
    (bytes : Bytes) :
    self.sendPacket bytes =
      { self with
        sends := self.sends.tail
        sent := self.sent ++ bytes
        LastTcpError := 0 } := by
  simp only [sendPacket, isWhole, Send.taken, if_true]

theorem sendPacket_of_nothing
    {self : TMsgSocket} {errno : Nat}
    (isNothing : self.sends.headD .whole = .short 0 errno)
    {bytes : Bytes} (notEmpty : bytes ≠ []) :
    self.sendPacket bytes =
      { self with sends := self.sends.tail, LastTcpError := errno } := by
  have isShort : ¬ 0 = bytes.length := (List.length_pos_iff.mpr notEmpty).ne
  simp only [sendPacket, isNothing, Send.taken, Send.errno, List.take_zero,
    List.length_nil, List.append_nil, if_neg isShort]

/-- The socket after a connection reset. -/
def reset (self : TMsgSocket) : TMsgSocket :=
  { self with LastTcpError := WSAECONNRESET, Connected := false }

/-- `RecvPacket`: the bytes copied to `Data`, and the socket. -/
def recvPacket (self : TMsgSocket) (Size : Nat) :
    Except Fault (Bytes × TMsgSocket) :=
  let self := self.waitForData Size
  if self.LastTcpError = 0 then
    let bytes := self.waiting.take Size
    if bytes = [] then .ok ([], self.reset)
    else .ok (bytes, { self with waiting := self.waiting.drop Size })
  else if self.LastTcpError = WSAETIMEDOUT then do
    let self ← self.purge
    .ok ([], self)
  else .ok ([], self.reset)

theorem stream_arrive (self : TMsgSocket) :
    self.arrive.stream = self.stream := by
  cases arrivals : self.arrivals with
  | nil => simp [stream, arrive, arrivals]
  | cons arrived rest => simp [stream, arrive, arrivals]

/-- `Purge` does not touch `LastTcpError`. -/
theorem lastTcpError_of_purge
    {self after : TMsgSocket} (purged : self.purge = .ok after) :
    after.LastTcpError = self.LastTcpError := by
  rw [purge] at purged
  split_ifs at purged
  · cases purged
    rfl
  · cases purged
    rfl
  · rcases bind_eq_ok_iff.mp purged with ⟨arrivals, _, isAfter⟩
    cases isAfter
    rfl

section Packets

variable {self : TMsgSocket} {Size : Nat}

/-- A packet whose bytes can all be read is received at once. -/
theorem recvPacket_of_waiting
    (positive : 0 < Size) (enough : Size ≤ self.waiting.length) :
    recvPacket self Size =
      .ok (self.waiting.take Size,
        { self.arrive with
          waiting := self.waiting.drop Size ++ self.arrivals.headD []
          LastTcpError := 0 }) := by
  have notEmpty : self.waiting ≠ [] := by
    intro empty
    rw [empty] at enough
    exact absurd enough (Nat.not_le_of_lt positive)
  have notAtEnd : ¬ self.AtEnd := fun atEnd => notEmpty atEnd.1
  have notShort : ¬ (self.arrive.waiting.length < Size) := by
    simp only [arrive, List.length_append]
    omega
  have somethingTaken : self.waiting.take Size ≠ [] := by
    rw [Ne, List.take_eq_nil_iff]
    rintro (isZero | empty)
    · exact absurd isZero (Nat.ne_of_gt positive)
    · exact notEmpty empty
  simp only [recvPacket, waitForData, notAtEnd, if_false, notShort, if_true]
  simp [arrive, List.take_append_of_le_length enough,
    List.drop_append_of_le_length enough, somethingTaken]

/-- Where enough bytes come in time, waiting for them only adds them. -/
theorem waitForData_of_noError
    (noError : (self.waitForData Size).LastTcpError = 0) :
    Size ≤ self.arrive.waiting.length ∧
      self.waitForData Size = { self.arrive with LastTcpError := 0 } := by
  by_cases atEnd : self.AtEnd
  · rw [waitForData, if_pos atEnd] at noError
    cases noError
  · rw [waitForData, if_neg atEnd] at noError ⊢
    by_cases isShort : self.arrive.waiting.length < Size
    · simp only [isShort, if_true] at noError
      cases noError
    · simp only [isShort, if_false, and_true]
      exact Nat.le_of_not_lt isShort

/-- A packet that could not be waited for leaves an error. -/
theorem error_of_recvPacket
    {bytes : Bytes} {after : TMsgSocket}
    (received : recvPacket self Size = .ok (bytes, after))
    (waitFailed : (self.waitForData Size).LastTcpError ≠ 0) :
    after.LastTcpError ≠ 0 := by
  rw [recvPacket] at received
  simp only [waitFailed, if_false] at received
  split_ifs at received with isTimeout
  · rcases bind_eq_ok_iff.mp received with ⟨purged, isPurged, isAfter⟩
    cases isAfter
    rw [lastTcpError_of_purge isPurged]
    exact waitFailed
  · cases received
    exact fun isZero => by cases isZero

/-- Whatever the timing, a packet that is received without an error is the
next bytes of the stream. -/
theorem stream_of_recvPacket
    {bytes : Bytes} {after : TMsgSocket}
    (received : recvPacket self Size = .ok (bytes, after))
    (noError : after.LastTcpError = 0) :
    bytes.length = Size ∧ self.stream = bytes ++ after.stream := by
  by_cases waited : (self.waitForData Size).LastTcpError = 0
  · rcases waitForData_of_noError waited with ⟨enough, isArrived⟩
    rw [recvPacket, isArrived] at received
    simp only [if_true] at received
    split_ifs at received
    · cases received
      cases noError
    · cases received
      refine ⟨List.length_take_of_le enough, ?_⟩
      rw [← stream_arrive self]
      simp only [stream]
      rw [← List.append_assoc, List.take_append_drop]
  · exact absurd noError (error_of_recvPacket received waited)

end Packets

end TMsgSocket

end ServerUtils.Snap7.MsgSocket
