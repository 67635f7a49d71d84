import Mathlib.Data.List.Pairwise
import Mathlib.Order.Lattice
import ServerUtils.Server.SelectLoop

/-!
# Bookkeeping and fair service of the select loop

The bound `fdmax` of the scan rises with accepts and falls with closes while
the scan goes on.  The invariant says that what the ready set still holds at
or above the scan position is in `refset`, and hence below the bound; and that
what was accepted in this pass is either not in the ready set or behind the
scan position.
-/

namespace ServerUtils.Server.FairService

open ServerUtils.Foundation.Transition
open ServerUtils.Server.SelectLoop

/-! ## What a pass has done -/

/-- The socket of a `DATA_AVAILABLE` event. -/
def dataSocket : Action → Option Int
  | .emit ⟨.dataAvailable, sock⟩ => some sock
  | _ => none

def acceptResult : Action → Option Int
  | .accept newfd => some newfd
  | _ => none

/-- The sockets which got a `DATA_AVAILABLE` event, in order. -/
def dataSockets (pass : List Action) : List Int :=
  pass.filterMap dataSocket

/-- What `accept` has returned, in order. -/
def acceptResults (pass : List Action) : List Int :=
  pass.filterMap acceptResult

theorem dataSockets_append (pass actions : List Action) :
    dataSockets (pass ++ actions) =
      dataSockets pass ++ dataSockets actions :=
  List.filterMap_append

theorem acceptResults_append (pass actions : List Action) :
    acceptResults (pass ++ actions) =
      acceptResults pass ++ acceptResults actions :=
  List.filterMap_append

/-- The later action is not an event for what the earlier one accepted. -/
def Apart (earlier later : Action) : Prop :=
  ∀ fd, earlier = .accept fd → later ≠ emitData fd

theorem apart_of_no_data
    {earlier later : Action} (noData : dataSocket later = none) :
    Apart earlier later := by
  rintro fd _ rfl
  cases noData

/-- Actions without data events may follow anything. -/
theorem pairwise_apart_append
    {pass actions : List Action} (apart : pass.Pairwise Apart)
    (noData : ∀ action ∈ actions, dataSocket action = none) :
    (pass ++ actions).Pairwise Apart := by
  rw [List.pairwise_append]
  refine ⟨apart, ?_, ?_⟩
  · apply List.pairwise_of_forall_mem_list
    intro earlier _ later isLater
    exact apart_of_no_data (noData later isLater)
  · intro earlier _ later isLater
    exact apart_of_no_data (noData later isLater)

/-! ## The invariant -/

/-- What a pass has served up to the scan position. -/
structure Serving
    (server_socket : Int) (state : State) (position : Int) : Prop where
  pending : ∀ fd ∈ state.rdset, position ≤ fd → fd ∈ state.refset
  ascending : (dataSockets state.pass).Pairwise (· < ·)
  served : ∀ fd, fd ∈ dataSockets state.pass ↔
    fd ∈ state.rdset ∧ fd ≠ server_socket ∧ fd < position
  accepted : (acceptResults state.pass).length =
    if server_socket ∈ state.rdset ∧ server_socket < position then 1 else 0
  behind : ∀ fd ∈ acceptResults state.pass,
    fd ∈ state.rdset → fd < position

/-- The invariant of the loop. -/
structure Bookkeeping (server_socket : Int) (state : State) : Prop where
  refset : state.refset = openDescriptors server_socket state.log
  listening : server_socket ∈ state.refset
  bounded : ∀ fd ∈ state.refset, 0 ≤ fd ∧ fd ≤ state.fdmax
  given : state.point = .select → state.rdset = state.refset
  apart : state.pass.Pairwise Apart
  serving : ∀ position, state.point = .scan position →
    Serving server_socket state position

variable {server_socket : Int} {state : State}

theorem openDescriptors_append
    (server_socket : Int) (log actions : List Action) :
    openDescriptors server_socket (log ++ actions) =
      actions.foldl openAfter (openDescriptors server_socket log) :=
  List.foldl_append

theorem bookkeeping_initial (listening : 0 ≤ server_socket) :
    Bookkeeping server_socket (initial server_socket) where
  refset := rfl
  listening := Finset.mem_singleton_self server_socket
  bounded := by
    intro fd isOpen
    rw [Finset.mem_singleton.mp isOpen]
    exact ⟨listening, le_rfl⟩
  given := fun atSelect => by cases atSelect
  apart := List.Pairwise.nil
  serving := fun _ scanning => by cases scanning

/-- A pass starts with a ready set of open descriptors. -/
theorem serving_start
    (ready : state.rdset ⊆ state.refset)
    (nonneg : ∀ fd ∈ state.refset, 0 ≤ fd)
    (noData : dataSockets state.pass = [])
    (noAccept : acceptResults state.pass = []) :
    Serving server_socket state 0 where
  pending := fun fd isReady _ => ready isReady
  ascending := by
    rw [noData]
    exact List.Pairwise.nil
  served := by
    intro fd
    rw [noData]
    refine iff_of_false List.not_mem_nil ?_
    rintro ⟨isReady, _, negative⟩
    exact absurd (nonneg fd (ready isReady)) (not_le.mpr negative)
  accepted := by
    rw [noAccept, if_neg]
    · rfl
    · rintro ⟨isReady, negative⟩
      exact absurd (nonneg _ (ready isReady)) (not_le.mpr negative)
  behind := by
    rw [noAccept]
    exact fun fd impossible => absurd impossible List.not_mem_nil

theorem bookkeeping_select
    (inv : Bookkeeping server_socket state)
    (atSelect : state.point = .select)
    (status : Int) {ready : Finset Int} (left : Bool)
    (subset : ready ⊆ state.rdset) :
    Bookkeeping server_socket (selectNext state status ready left) := by
  have given : ready ⊆ state.refset := inv.given atSelect ▸ subset
  have nonneg : ∀ fd ∈ state.refset, 0 ≤ fd :=
    fun fd isOpen => (inv.bounded fd isOpen).1
  have plain : ∀ t, state.refset =
      openDescriptors server_socket (state.log ++ [emitPlain t]) := by
    intro t
    rw [openDescriptors_append]
    exact inv.refset
  rw [selectNext]
  split_ifs with failed timeout
  · exact ⟨plain _, inv.listening, inv.bounded, nofun,
      pairwise_apart_append inv.apart (by simp [emitPlain, dataSocket]),
      nofun⟩
  · refine ⟨plain _, inv.listening, inv.bounded, nofun,
      List.pairwise_singleton _ _, ?_⟩
    rintro position ⟨⟩
    exact serving_start given nonneg rfl rfl
  · refine ⟨inv.refset, inv.listening, inv.bounded, nofun,
      List.Pairwise.nil, ?_⟩
    rintro position ⟨⟩
    exact serving_start given nonneg rfl rfl

/-- The position itself is the only descriptor that a step moves behind. -/
theorem ready_before_next
    {ready : Finset Int} {fd position : Int}
    (isOther : fd ∈ ready → fd ≠ position) :
    fd ∈ ready ∧ fd < position + 1 ↔ fd ∈ ready ∧ fd < position := by
  constructor
  · rintro ⟨isReady, before⟩
    have different := isOther isReady
    exact ⟨isReady, by omega⟩
  · rintro ⟨isReady, before⟩
    exact ⟨isReady, by omega⟩

/-- A descriptor outside the ready set is passed over. -/
theorem serving_skip
    {position : Int} (serving : Serving server_socket state position)
    (notReady : position ∉ state.rdset) :
    Serving server_socket { state with point := .scan (position + 1) }
      (position + 1) where
  pending := by
    intro fd isReady after
    exact serving.pending fd isReady (by omega)
  ascending := serving.ascending
  served := by
    intro fd
    have isOther : fd ∈ state.rdset → fd ≠ position :=
      fun isReady => ne_of_mem_of_not_mem isReady notReady
    have moved := ready_before_next isOther
    rw [serving.served fd]
    show _ ↔ fd ∈ state.rdset ∧ fd ≠ server_socket ∧ fd < position + 1
    tauto
  accepted := by
    have isOther : server_socket ∈ state.rdset → server_socket ≠ position :=
      fun isReady => ne_of_mem_of_not_mem isReady notReady
    rw [serving.accepted]
    simp only [ready_before_next isOther]
  behind := by
    intro fd isResult isReady
    have before := serving.behind fd isResult isReady
    omega

/-- What `accept` returns in a pass is not ready, or the scan has passed it. -/
theorem accepted_behind
    {position newfd : Int} (serving : Serving server_socket state position)
    (notOpen : newfd ∉ state.refset) :
    newfd ∈ state.rdset → newfd < position := by
  intro isReady
  by_contra notBehind
  exact notOpen (serving.pending newfd isReady (not_lt.mp notBehind))

/-- The server socket is ready: one `accept`, and no data event. -/
theorem serving_accept
    {state' : State} {position newfd : Int} {actions : List Action}
    (serving : Serving server_socket state position)
    (isReady : position ∈ state.rdset) (isServer : position = server_socket)
    (sameReady : state'.rdset = state.rdset)
    (grows : state.refset ⊆ state'.refset)
    (isPass : state'.pass = state.pass ++ actions)
    (noData : dataSockets actions = [])
    (oneAccept : acceptResults actions = [newfd])
    (behind : newfd ∈ state.rdset → newfd < position) :
    Serving server_socket state' (position + 1) where
  pending := by
    intro fd isReady' after
    rw [sameReady] at isReady'
    exact grows (serving.pending fd isReady' (by omega))
  ascending := by
    rw [isPass, dataSockets_append, noData, List.append_nil]
    exact serving.ascending
  served := by
    intro fd
    rw [isPass, dataSockets_append, noData, List.append_nil,
      serving.served fd, sameReady]
    constructor
    · rintro ⟨isReady', isClient, before⟩
      exact ⟨isReady', isClient, by omega⟩
    · rintro ⟨isReady', isClient, before⟩
      have different : fd ≠ position := isServer ▸ isClient
      exact ⟨isReady', isClient, by omega⟩
  accepted := by
    subst isServer
    rw [isPass, acceptResults_append, oneAccept, List.length_append,
      serving.accepted, sameReady]
    rw [if_neg fun both => lt_irrefl _ both.2,
      if_pos ⟨isReady, Int.lt_succ position⟩]
    rfl
  behind := by
    intro fd isResult isReady'
    rw [isPass, acceptResults_append, oneAccept] at isResult
    rw [sameReady] at isReady'
    rcases List.mem_append.mp isResult with isEarlier | isNew
    · have before := serving.behind fd isEarlier isReady'
      omega
    · rw [List.mem_singleton.mp isNew] at isReady' ⊢
      have before := behind isReady'
      omega

/-- A client socket is ready: one data event, behind all the others. -/
theorem serving_data
    {state' : State} {position : Int} {actions : List Action}
    (serving : Serving server_socket state position)
    (isReady : position ∈ state.rdset) (isClient : position ≠ server_socket)
    (sameReady : state'.rdset = state.rdset)
    (keeps : ∀ fd, fd ≠ position → fd ∈ state.refset → fd ∈ state'.refset)
    (isPass : state'.pass = state.pass ++ actions)
    (oneEvent : dataSockets actions = [position])
    (noAccept : acceptResults actions = []) :
    Serving server_socket state' (position + 1) where
  pending := by
    intro fd isReady' after
    rw [sameReady] at isReady'
    exact keeps fd (by omega) (serving.pending fd isReady' (by omega))
  ascending := by
    rw [isPass, dataSockets_append, oneEvent, List.pairwise_append]
    refine ⟨serving.ascending, List.pairwise_singleton _ _, ?_⟩
    intro earlier isEarlier later isLater
    rw [List.mem_singleton.mp isLater]
    exact ((serving.served earlier).mp isEarlier).2.2
  served := by
    intro fd
    rw [isPass, dataSockets_append, oneEvent, List.mem_append,
      List.mem_singleton, serving.served fd, sameReady]
    constructor
    · rintro (⟨isReady', isOther, before⟩ | rfl)
      · exact ⟨isReady', isOther, by omega⟩
      · exact ⟨isReady, isClient, Int.lt_succ fd⟩
    · rintro ⟨isReady', isOther, before⟩
      by_cases same : fd = position
      · exact .inr same
      · exact .inl ⟨isReady', isOther, by omega⟩
  accepted := by
    have isOther : server_socket ∈ state.rdset → server_socket ≠ position :=
      fun _ => isClient.symm
    rw [isPass, acceptResults_append, noAccept, List.append_nil,
      serving.accepted, sameReady]
    simp only [ready_before_next isOther]
  behind := by
    intro fd isResult isReady'
    rw [isPass, acceptResults_append, noAccept, List.append_nil] at isResult
    rw [sameReady] at isReady'
    have before := serving.behind fd isResult isReady'
    omega

theorem bookkeeping_accept
    (inv : Bookkeeping server_socket state)
    {position newfd : Int} (left : Bool)
    (enabled : Enabled server_socket state (.accept position newfd left))
    (posix : Posix server_socket state (.accept position newfd left)) :
    Bookkeeping server_socket (acceptNext state position newfd left) := by
  rcases enabled with ⟨⟨scanning, inBound⟩, isReady, isServer⟩
  have serving := inv.serving position scanning
  have nonneg : 0 ≤ position := by
    rw [isServer]
    exact (inv.bounded server_socket inv.listening).1
  by_cases failed : newfd = -1
  · have silent : openAfter state.refset (.accept newfd) = state.refset :=
      if_pos failed
    rw [acceptNext, if_pos failed]
    refine ⟨?_, inv.listening, inv.bounded, nofun,
      pairwise_apart_append inv.apart (by simp [emitPlain, dataSocket]), ?_⟩
    · show state.refset = _
      rw [State.act, openDescriptors_append, ← inv.refset]
      exact silent.symm
    · rintro _ ⟨⟩
      have behind : newfd ∈ state.rdset → newfd < position := by
        intro _
        omega
      exact serving_accept serving isReady isServer rfl
        (Finset.Subset.refl _) rfl rfl rfl behind
  · rcases posix with impossible | ⟨newNonneg, inRange, notOpen⟩
    · exact absurd impossible failed
    rw [← inv.refset] at notOpen
    have opened : openAfter state.refset (.accept newfd) =
        insert newfd state.refset := if_neg failed
    rw [acceptNext, if_neg failed]
    refine ⟨?_, Finset.mem_insert_of_mem inv.listening, ?_, nofun,
      pairwise_apart_append inv.apart (by simp [emitPlain, dataSocket]), ?_⟩
    · show insert newfd state.refset = _
      rw [State.act, openDescriptors_append, ← inv.refset]
      exact opened.symm
    · intro fd isOpen
      show 0 ≤ fd ∧ fd ≤ if newfd > state.fdmax then newfd else state.fdmax
      rcases Finset.mem_insert.mp isOpen with rfl | isOlder
      · split_ifs <;> omega
      · have bounds := inv.bounded fd isOlder
        split_ifs <;> omega
    · rintro _ ⟨⟩
      exact serving_accept serving isReady isServer rfl
        (Finset.subset_insert _ _) rfl rfl rfl
        (accepted_behind serving notOpen)

theorem bookkeeping_data
    (inv : Bookkeeping server_socket state)
    {position : Int} (left : Bool)
    (enabled : Enabled server_socket state (.data position left)) :
    Bookkeeping server_socket (dataNext state position left) := by
  rcases enabled with ⟨⟨scanning, inBound⟩, isReady, isClient⟩
  have serving := inv.serving position scanning
  -- what this pass accepted is behind the scan if it is ready at all
  have notAccepted : ∀ action ∈ state.pass,
      Apart action (emitData position) := by
    rintro action isEarlier fd rfl isEvent
    have sameSocket : position = fd := by
      cases isEvent
      rfl
    have isResult : fd ∈ acceptResults state.pass :=
      List.mem_filterMap.mpr ⟨_, isEarlier, rfl⟩
    have before := serving.behind fd isResult (sameSocket ▸ isReady)
    omega
  have apart : (state.pass ++ [emitData position]).Pairwise Apart := by
    rw [List.pairwise_append]
    refine ⟨inv.apart, List.pairwise_singleton _ _, ?_⟩
    intro earlier isEarlier later isLater
    rw [List.mem_singleton.mp isLater]
    exact notAccepted earlier isEarlier
  cases left with
  | false =>
      refine ⟨?_, inv.listening, inv.bounded, nofun, apart, ?_⟩
      · show state.refset =
          openDescriptors server_socket (state.log ++ [emitData position])
        rw [openDescriptors_append, ← inv.refset]
        rfl
      · rintro _ ⟨⟩
        exact serving_data serving isReady isClient rfl
          (fun _ _ isOpen => isOpen) rfl rfl rfl
  | true =>
      refine ⟨?_, ?_, ?_, nofun, ?_, ?_⟩
      · show state.refset.erase position =
          openDescriptors server_socket
            (state.log ++ [emitData position, .close position])
        rw [openDescriptors_append, ← inv.refset]
        rfl
      · exact Finset.mem_erase.mpr ⟨isClient.symm, inv.listening⟩
      · intro fd isOpen
        rcases Finset.mem_erase.mp isOpen with ⟨isOther, wasOpen⟩
        have bounds := inv.bounded fd wasOpen
        show 0 ≤ fd ∧ fd ≤ if position = state.fdmax then state.fdmax - 1
          else state.fdmax
        split_ifs <;> omega
      · show (state.pass ++ ([emitData position] ++
          [Action.close position])).Pairwise Apart
        rw [← List.append_assoc]
        exact pairwise_apart_append apart (by simp [dataSocket])
      · rintro _ ⟨⟩
        refine serving_data serving isReady isClient rfl ?_ rfl rfl rfl
        intro fd isOther isOpen
        exact Finset.mem_erase.mpr ⟨isOther, isOpen⟩

/-- Every step of the loop keeps the books. -/
theorem bookkeeping_next
    (state : State) (label : Label)
    (inv : Bookkeeping server_socket state)
    (enabled : Enabled server_socket state label)
    (posix : Posix server_socket state label) :
    Bookkeeping server_socket (next state label) := by
  cases label with
  | iterate running =>
      cases running with
      | true =>
          exact ⟨inv.refset, inv.listening, inv.bounded, fun _ => rfl,
            inv.apart, nofun⟩
      | false =>
          exact ⟨inv.refset, inv.listening, inv.bounded, nofun, inv.apart,
            nofun⟩
  | select status ready left =>
      exact bookkeeping_select inv enabled status left posix
  | skip position =>
      refine ⟨inv.refset, inv.listening, inv.bounded, nofun, inv.apart, ?_⟩
      rintro _ ⟨⟩
      exact serving_skip (inv.serving position enabled.1.1) enabled.2
  | accept position newfd left =>
      exact bookkeeping_accept inv left enabled posix
  | data position left => exact bookkeeping_data inv left enabled
  | endPass position =>
      exact ⟨inv.refset, inv.listening, inv.bounded, nofun, inv.apart, nofun⟩

/-! ## Fair service -/

/-- What a pass has done at its end: each ready client got one event, in
ascending order, and a ready server socket one `accept`. -/
structure Served (server_socket : Int) (state : State) : Prop where
  ascending : (dataSockets state.pass).Pairwise (· < ·)
  clients : ∀ fd, fd ∈ dataSockets state.pass ↔
    fd ∈ state.rdset ∧ fd ≠ server_socket
  accepted : (acceptResults state.pass).length =
    if server_socket ∈ state.rdset then 1 else 0

/-- At the end of a pass everything ready is behind the scan position. -/
theorem Bookkeeping.served
    (inv : Bookkeeping server_socket state)
    {position : Int} (scanning : state.point = .scan position)
    (atEnd : state.fdmax < position) :
    Served server_socket state := by
  have serving := inv.serving position scanning
  have behind : ∀ fd ∈ state.rdset, fd < position := by
    intro fd isReady
    by_contra notBehind
    have isOpen := serving.pending fd isReady (not_lt.mp notBehind)
    have bounds := inv.bounded fd isOpen
    omega
  refine ⟨serving.ascending, ?_, ?_⟩
  · intro fd
    rw [serving.served fd]
    constructor
    · rintro ⟨isReady, isClient, _⟩
      exact ⟨isReady, isClient⟩
    · rintro ⟨isReady, isClient⟩
      exact ⟨isReady, isClient, behind fd isReady⟩
  · rw [serving.accepted]
    by_cases isReady : server_socket ∈ state.rdset
    · rw [if_pos ⟨isReady, behind _ isReady⟩, if_pos isReady]
    · rw [if_neg fun both => isReady both.1, if_neg isReady]

/--
Whatever `select`, `accept` and the listeners do: `refset` is the server
socket and the descriptors accepted and not yet closed, none above `fdmax`; an
event goes to a descriptor in `refset`; a pass serves each ready descriptor
once; and no descriptor gets an event in a pass after it was accepted in it.
-/
theorem select_loop_books_and_service
    (server_socket : Int) (listening : 0 ≤ server_socket) (state : State)
    (reached : ReachableBy (loop server_socket) (Posix server_socket)
      state) :
    (state.refset = openDescriptors server_socket state.log ∧
        ∀ fd ∈ state.refset, fd ≤ state.fdmax) ∧
      (∀ position left,
        Enabled server_socket state (.data position left) →
          position ∈ state.refset) ∧
      (∀ position, Enabled server_socket state (.endPass position) →
        Served server_socket state) ∧
      state.pass.Pairwise Apart := by
  have inv : Bookkeeping server_socket state :=
    Run.invariant reached (bookkeeping_initial listening) bookkeeping_next
  refine ⟨⟨inv.refset, fun fd isOpen => (inv.bounded fd isOpen).2⟩, ?_, ?_,
    inv.apart⟩
  · rintro position left ⟨⟨scanning, _⟩, isReady, _⟩
    exact (inv.serving position scanning).pending position isReady le_rfl
  · rintro position ⟨scanning, atEnd⟩
    exact inv.served scanning atEnd

/-- Two passes: a client is accepted, then it is served and closed while the
server socket, which comes first, accepts another. -/
def twoPasses : List Label :=
  [ .iterate true, .select 1 {3} false, .skip 0, .skip 1, .skip 2,
    .accept 3 4 false, .skip 4, .endPass 5,
    .iterate true, .select 2 {3, 4} false, .skip 0, .skip 1, .skip 2,
    .accept 3 5 false, .data 4 true, .skip 5 ]

def twoPassesState : State :=
  follow (loop 3) (initial 3) twoPasses

theorem twoPassesState_served :
    (twoPassesState.refset = openDescriptors 3 twoPassesState.log ∧
        ∀ fd ∈ twoPassesState.refset, fd ≤ twoPassesState.fdmax) ∧
      (∀ position left,
        Enabled 3 twoPassesState (.data position left) →
          position ∈ twoPassesState.refset) ∧
      (∀ position, Enabled 3 twoPassesState (.endPass position) →
        Served 3 twoPassesState) ∧
      twoPassesState.pass.Pairwise Apart :=
  select_loop_books_and_service 3 (by decide) twoPassesState
    (run_follow (by decide))

/-! ## Passes end -/

/-- A step of the scan goes to the next descriptor or ends the pass. -/
theorem scan_advances
    {position : Int} {label : Label}
    (scanning : state.point = .scan position)
    (enabled : Enabled server_socket state label) :
    (next state label).point = .scan (position + 1) ∨
      (next state label).point = .top := by
  cases label with
  | iterate running => cases scanning.symm.trans enabled
  | select status ready left => cases scanning.symm.trans enabled
  | skip other =>
      cases scanning.symm.trans enabled.1.1
      exact .inl rfl
  | accept other newfd left =>
      cases scanning.symm.trans enabled.1.1
      left
      rw [next, acceptNext]
      split_ifs <;> rfl
  | data other left =>
      cases scanning.symm.trans enabled.1.1
      left
      cases left <;> rfl
  | endPass other => exact .inr rfl

/-- A scan is never stuck. -/
theorem scan_enabled
    (server_socket : Int) {position : Int}
    (scanning : state.point = .scan position) :
    ∃ label, Enabled server_socket state label ∧
      Posix server_socket state label := by
  by_cases atEnd : state.fdmax < position
  · exact ⟨.endPass position, ⟨scanning, atEnd⟩, True.intro⟩
  have atSocket : AtSocket state position := ⟨scanning, not_lt.mp atEnd⟩
  by_cases isReady : position ∈ state.rdset
  · by_cases isServer : position = server_socket
    · exact ⟨.accept position (-1) false, ⟨atSocket, isReady, isServer⟩,
        .inl rfl⟩
    · exact ⟨.data position false, ⟨atSocket, isReady, isServer⟩,
        True.intro⟩
  · exact ⟨.skip position, ⟨atSocket, isReady⟩, True.intro⟩

/-- No descriptor is out of range, so neither is the scan position. -/
structure InRange (state : State) : Prop where
  fdmax : state.fdmax < fdSetSize
  position : ∀ position, state.point = .scan position → position ≤ fdSetSize

/-- The scan has moved on from a descriptor in range. -/
theorem inRange_of_moved
    {position : Int} (fdmax : state.fdmax < fdSetSize)
    (moved : state.point = .scan (position + 1))
    (inside : position < fdSetSize) :
    InRange state where
  fdmax := fdmax
  position := by
    intro other scanning
    rw [moved] at scanning
    cases scanning
    exact Int.add_one_le_of_lt inside

theorem inRange_next
    (state : State) (label : Label) (inv : InRange state)
    (enabled : Enabled server_socket state label)
    (accepts : AcceptsInRange label) :
    InRange (next state label) := by
  have small := inv.fdmax
  cases label with
  | iterate running =>
      cases running with
      | true => exact ⟨small, nofun⟩
      | false => exact ⟨small, nofun⟩
  | select status ready left =>
      rw [next, selectNext]
      split_ifs
      · exact ⟨small, nofun⟩
      · refine ⟨small, ?_⟩
        rintro _ ⟨⟩
        decide
      · refine ⟨small, ?_⟩
        rintro _ ⟨⟩
        decide
  | skip position =>
      exact inRange_of_moved small rfl (enabled.1.2.trans_lt small)
  | accept position newfd left =>
      have inside := enabled.1.2.trans_lt small
      by_cases failed : newfd = -1
      · rw [next, acceptNext, if_pos failed]
        exact inRange_of_moved small rfl inside
      · rw [next, acceptNext, if_neg failed]
        refine inRange_of_moved ?_ rfl inside
        show (if newfd > state.fdmax then newfd else state.fdmax) < fdSetSize
        split_ifs
        · exact accepts
        · exact small
  | data position left =>
      have inside := enabled.1.2.trans_lt small
      cases left with
      | false => exact inRange_of_moved small rfl inside
      | true =>
          refine inRange_of_moved ?_ rfl inside
          show (if position = state.fdmax then state.fdmax - 1
            else state.fdmax) < fdSetSize
          split_ifs <;> omega
  | endPass position => exact ⟨small, nofun⟩

/-- The scan position rises by one in each step, and it is bounded. -/
theorem scan_bounded
    (inRange : server_socket < fdSetSize)
    (reached : ReachableBy (loop server_socket) (Posix server_socket) state)
    {position : Int} (scanning : state.point = .scan position) :
    position ≤ fdSetSize := by
  have start : InRange (initial server_socket) := ⟨inRange, nofun⟩
  have inv : InRange state := by
    refine Run.invariant reached start ?_
    intro state label inRange enabled posix
    exact inRange_next state label inRange enabled posix.acceptsInRange
  exact inv.position position scanning

end ServerUtils.Server.FairService
