import ServerUtils.Server.FairService

/-!
# Descriptors and the size of an `fd_set`

`FD_SET`, `FD_ISSET` and `FD_CLR` write outside the set for descriptors from
`FD_SETSIZE` on, and `select` takes at most that many.  The loop checks none of
the descriptors it is given, so it is safe exactly as long as all of them are
small: one larger descriptor is put into the set at once.
-/

namespace ServerUtils.Server.DescriptorRange

open ServerUtils.Foundation.Transition
open ServerUtils.Server.SelectLoop
open ServerUtils.Server.FairService

/-! ## The calls on descriptor sets -/

inductive FdCall where
  | fdSet (fd : Int)
  | fdIsset (fd : Int)
  | fdClr (fd : Int)
  | select (nfds : Int)
deriving DecidableEq, Repr

/-- The call stays inside an `fd_set`. -/
def CallInRange : FdCall → Prop
  | .fdSet fd => fd < fdSetSize
  | .fdIsset fd => fd < fdSetSize
  | .fdClr fd => fd < fdSetSize
  | .select nfds => nfds ≤ fdSetSize

/-- The calls of one step of the loop. -/
def stepCalls (state : State) : Label → List FdCall
  | .iterate _ => []
  | .select _ _ _ => [.select (state.fdmax + 1)]
  | .skip master_socket => [.fdIsset master_socket]
  | .accept master_socket newfd _ =>
      .fdIsset master_socket ::
        if newfd = -1 then [] else [.fdSet newfd]
  | .data master_socket left =>
      .fdIsset master_socket ::
        if left then [.fdClr master_socket] else []
  | .endPass _ => []

/-- The calls of the steps from a state on. -/
def runCalls : State → List Label → List FdCall
  | _, [] => []
  | state, label :: labels =>
      stepCalls state label ++ runCalls (next state label) labels

/-- The calls of the loop: the server socket is put into the set first. -/
def loopCalls (server_socket : Int) (labels : List Label) : List FdCall :=
  .fdSet server_socket :: runCalls (initial server_socket) labels

/-! ## Steps -/

variable {server_socket : Int} {state : State}

/-- From a state in range, only what `accept` returns can be out of range. -/
theorem stepCalls_inRange_iff
    (inv : InRange state) {label : Label}
    (enabled : Enabled server_socket state label) :
    (∀ call ∈ stepCalls state label, CallInRange call) ↔
      AcceptsInRange label := by
  have small := inv.fdmax
  cases label with
  | iterate running => simp [stepCalls, AcceptsInRange]
  | select status ready left =>
      simpa [stepCalls, AcceptsInRange, CallInRange] using
        Int.add_one_le_of_lt small
  | skip master_socket =>
      have inside := enabled.1.2.trans_lt small
      simp [stepCalls, AcceptsInRange, CallInRange, inside]
  | accept master_socket newfd left =>
      have inside := enabled.1.2.trans_lt small
      by_cases failed : newfd = -1
      · have fits : (-1 : Int) < fdSetSize := by decide
        simp [stepCalls, AcceptsInRange, CallInRange, inside, failed, fits]
      · simp [stepCalls, AcceptsInRange, CallInRange, inside, failed]
  | data master_socket left =>
      have inside := enabled.1.2.trans_lt small
      cases left with
      | false => simp [stepCalls, AcceptsInRange, CallInRange, inside]
      | true => simp [stepCalls, AcceptsInRange, CallInRange, inside]
  | endPass master_socket => simp [stepCalls, AcceptsInRange]

/-! ## Runs -/

theorem runCalls_inRange_iff
    (inv : InRange state) {labels : List Label}
    (follows : Follows (loop server_socket) anyStep state labels) :
    (∀ call ∈ runCalls state labels, CallInRange call) ↔
      ∀ label ∈ labels, AcceptsInRange label := by
  induction labels generalizing state with
  | nil => simp [runCalls]
  | cons label labels ih =>
      rcases follows with ⟨enabled, _, remaining⟩
      rw [runCalls, List.forall_mem_append, List.forall_mem_cons,
        stepCalls_inRange_iff inv enabled]
      refine and_congr_right fun accepts => ?_
      exact ih (inRange_next state label inv enabled accepts) remaining

/--
In every run, whatever is accepted and closed: the calls on descriptor sets
are in range exactly when the server socket is and everything is that `accept`
returns.
-/
theorem loopCalls_inRange_iff
    (server_socket : Int) (labels : List Label)
    (follows : Follows (loop server_socket) anyStep (initial server_socket)
      labels) :
    (∀ call ∈ loopCalls server_socket labels, CallInRange call) ↔
      server_socket < fdSetSize ∧
        ∀ label ∈ labels, AcceptsInRange label := by
  rw [loopCalls, List.forall_mem_cons]
  refine and_congr_right fun inRange => ?_
  have start : InRange (initial server_socket) :=
    ⟨inRange, fun _ scanning => by cases scanning⟩
  exact runCalls_inRange_iff start follows

/-- A first client, in a process that has other files open. -/
def firstClient (newfd : Int) : List Label :=
  [.iterate true, .select 1 {3} false, .skip 0, .skip 1, .skip 2,
    .accept 3 newfd false]

theorem firstClient_inRange_iff :
    (∀ call ∈ loopCalls 3 (firstClient 4), CallInRange call) ↔
      3 < fdSetSize ∧ ∀ label ∈ firstClient 4, AcceptsInRange label :=
  loopCalls_inRange_iff 3 (firstClient 4) (by decide)

/-- The first descriptor that is too large is put into the set. -/
theorem largeDescriptor_not_inRange :
    Follows (loop 3) anyStep (initial 3) (firstClient 1024) ∧
      .fdSet 1024 ∈ loopCalls 3 (firstClient 1024) ∧
      ¬ ∀ call ∈ loopCalls 3 (firstClient 1024), CallInRange call := by
  have isSet : .fdSet 1024 ∈ loopCalls 3 (firstClient 1024) := by decide
  refine ⟨by decide, isSet, fun inRange => ?_⟩
  exact absurd (inRange _ isSet) (by decide : ¬ (1024 : Int) < fdSetSize)

end ServerUtils.Server.DescriptorRange
