import Mathlib.Data.Finset.Basic
import ServerUtils.Parser.StdString
import ServerUtils.Server.SelectLoop

/-!
# Listening, and what is left open

`TCPServer::tcp_listen`, and `TCPServer::loop` from its entry to its return.
The results of the socket calls are given by the environment.  Every failure in
`tcp_listen` closes the socket, while the loop that `stop` has ended returns
without closing anything.
-/

namespace ServerUtils.Server.Listen

open ServerUtils.Foundation.Transition
open ServerUtils.Parser.StdString
open ServerUtils.Server.SelectLoop

/-! ## Listening -/

/-- The events of a failed start. -/
inductive ErrorType where
  | errSocket
  | errSetsockopt
  | errInvalidIp
  | errBind
  | errListen
deriving DecidableEq, Repr

/-- What the start does to the outside. -/
inductive StartAction where
  /-- `socket` has returned this -/
  | socket (new_s : Int)
  | emit (t : ErrorType)
  | close (fd : Int)
deriving DecidableEq, Repr

/-- What the calls of `tcp_listen` return. -/
structure Results where
  socket : Int
  setsockopt : Int
  inet_pton : Int
  bind : Int
  listen : Int

/-- `tcp_listen`. -/
def tcpListen (ip : Bytes) (results : Results) : Int × List StartAction :=
  let new_s := results.socket
  if new_s = -1 then
    (-1, [.socket new_s, .emit .errSocket])
  else if results.setsockopt = -1 then
    (-1, [.socket new_s, .emit .errSetsockopt, .close new_s])
  else if ip.head? ≠ some 48 ∧ results.inet_pton ≤ 0 then
    (-1, [.socket new_s, .emit .errInvalidIp, .close new_s])
  else if results.bind = -1 then
    (-1, [.socket new_s, .emit .errBind, .close new_s])
  else if results.listen = -1 then
    (-1, [.socket new_s, .emit .errListen, .close new_s])
  else
    (new_s, [.socket new_s])

/-- The loop up to its first iteration. -/
def startActions (ip : Bytes) (results : Results) : List StartAction :=
  let (server_socket, actions) := tcpListen ip results
  if server_socket = -1 then actions ++ [.emit .errListen] else actions

/-- One of the calls of `tcp_listen` fails. -/
def ListenFails (ip : Bytes) (results : Results) : Prop :=
  results.socket = -1 ∨ results.setsockopt = -1 ∨
    (ip.head? ≠ some 48 ∧ results.inet_pton ≤ 0) ∨
      results.bind = -1 ∨ results.listen = -1

instance (ip : Bytes) (results : Results) :
    Decidable (ListenFails ip results) :=
  inferInstanceAs (Decidable (_ ∨ _ ∨ _ ∨ _ ∨ _))

/-! ## The table of open descriptors -/

/-- A change of the table. -/
inductive DescriptorOp where
  | opens (fd : Int)
  | closes (fd : Int)
deriving DecidableEq, Repr

def DescriptorOp.apply (table : Finset Int) : DescriptorOp → Finset Int
  | .opens fd => insert fd table
  | .closes fd => table.erase fd

def startOp : StartAction → Option DescriptorOp
  | .socket new_s => if new_s = -1 then none else some (.opens new_s)
  | .emit _ => none
  | .close fd => some (.closes fd)

def loopOp : Action → Option DescriptorOp
  | .emit _ => none
  | .accept newfd => if newfd = -1 then none else some (.opens newfd)
  | .close fd => some (.closes fd)

/-- What the loop does to the table, if its steps are these. -/
def descriptorOps
    (ip : Bytes) (results : Results) (labels : List Label) :
    List DescriptorOp :=
  let server_socket := (tcpListen ip results).1
  (startActions ip results).filterMap startOp ++
    if server_socket = -1 then []
    else
      (follow (loop server_socket) (initial server_socket)
        labels).log.filterMap loopOp

/-- The loop returns: at once, or after these steps. -/
def Returns
    (ip : Bytes) (results : Results) (labels : List Label) : Prop :=
  let server_socket := (tcpListen ip results).1
  server_socket = -1 ∨
    (Follows (loop server_socket) anyStep (initial server_socket) labels ∧
      (follow (loop server_socket) (initial server_socket) labels).point =
        .returned)

instance (ip : Bytes) (results : Results) (labels : List Label) :
    Decidable (Returns ip results labels) :=
  inferInstanceAs (Decidable (_ ∨ (_ ∧ _)))

/-- The table is as before, and what was opened was closed as often. -/
structure Released
    (table : Finset Int) (ops : List DescriptorOp) : Prop where
  restored : ops.foldl DescriptorOp.apply table = table
  once : ∀ fd, ops.count (.opens fd) = ops.count (.closes fd)

/-! ## A failed start -/

variable {ip : Bytes} {results : Results} {table : Finset Int}

/-- Whatever fails after `socket`, the socket is closed. -/
theorem tcpListen_of_fails
    (isSocket : results.socket ≠ -1) (fails : ListenFails ip results) :
    ∃ t, tcpListen ip results =
      (-1, [.socket results.socket, .emit t, .close results.socket]) := by
  by_cases option : results.setsockopt = -1
  · simp [tcpListen, isSocket, option]
  by_cases address : ip.head? ≠ some 48 ∧ results.inet_pton ≤ 0
  · simp [tcpListen, isSocket, option, address]
  by_cases bound : results.bind = -1
  · simp [tcpListen, isSocket, option, address, bound]
  have listens : results.listen = -1 :=
    (((fails.resolve_left isSocket).resolve_left option).resolve_left
      address).resolve_left bound
  simp [tcpListen, isSocket, option, address, bound, listens]

/-- A failed start has opened nothing, or has closed what it has opened. -/
theorem startOps_of_fails (fails : ListenFails ip results) :
    (tcpListen ip results).1 = -1 ∧
      ((startActions ip results).filterMap startOp = [] ∨
        (startActions ip results).filterMap startOp =
          [.opens results.socket, .closes results.socket]) := by
  by_cases noSocket : results.socket = -1
  · have returned : tcpListen ip results =
        (-1, [.socket results.socket, .emit .errSocket]) :=
      if_pos noSocket
    simp [startActions, returned, noSocket, startOp]
  · rcases tcpListen_of_fails noSocket fails with ⟨t, returned⟩
    simp [startActions, returned, noSocket, startOp, List.filterMap_cons]

/-- A start that succeeds has opened the server socket. -/
theorem startOps_of_succeeds (succeeds : ¬ ListenFails ip results) :
    (tcpListen ip results).1 = results.socket ∧ results.socket ≠ -1 ∧
      (startActions ip results).filterMap startOp =
        [.opens results.socket] := by
  simp only [ListenFails, not_or] at succeeds
  rcases succeeds with ⟨isSocket, option, address, bound, listens⟩
  have returned : tcpListen ip results =
      (results.socket, [.socket results.socket]) := by
    simp only [tcpListen, isSocket, option, address, bound, listens, if_false]
  simp [startActions, returned, isSocket, startOp]

/-- A failed start leaves the table as it was. -/
theorem released_of_fails
    (fresh : results.socket ∉ table) (fails : ListenFails ip results)
    (labels : List Label) :
    Released table (descriptorOps ip results labels) := by
  rcases startOps_of_fails fails with ⟨failed, nothing | closed⟩
  · have ops : descriptorOps ip results labels = [] := by
      simp only [descriptorOps, failed, nothing, if_true, List.append_nil]
    rw [ops]
    exact ⟨rfl, fun _ => rfl⟩
  · have ops : descriptorOps ip results labels =
        [.opens results.socket, .closes results.socket] := by
      simp only [descriptorOps, failed, closed, if_true, List.append_nil]
    rw [ops]
    refine ⟨Finset.erase_insert fresh, fun fd => ?_⟩
    simp [List.count_cons]

/-! ## A start that succeeds -/

/-- The loop never closes the server socket. -/
theorem log_never_closes
    {server_socket : Int} {state : State} {label : Label}
    (kept : .close server_socket ∉ state.log)
    (enabled : Enabled server_socket state label) :
    .close server_socket ∉ (next state label).log := by
  cases label with
  | iterate running => cases running <;> exact kept
  | select status ready left =>
      rw [next, selectNext]
      split_ifs
      · simpa [State.act, emitPlain] using kept
      · simpa [State.act, emitPlain] using kept
      · exact kept
  | skip master_socket => exact kept
  | accept master_socket newfd left =>
      by_cases failed : newfd = -1
      · simpa [next, acceptNext, failed, State.act, emitPlain] using kept
      · simpa [next, acceptNext, failed, State.act, emitPlain] using kept
  | data master_socket left =>
      have differs : server_socket ≠ master_socket := enabled.2.2.symm
      cases left with
      | false => simpa [next, dataNext, State.act, emitData] using kept
      | true =>
          simpa [next, dataNext, State.act, emitData, differs] using kept
  | endPass master_socket => exact kept

/-- What is not closed stays in the table. -/
theorem mem_foldl_apply
    {fd : Int} {ops : List DescriptorOp} (isOpen : fd ∈ table)
    (kept : .closes fd ∉ ops) :
    fd ∈ ops.foldl DescriptorOp.apply table := by
  induction ops generalizing table with
  | nil => exact isOpen
  | cons op ops ih =>
      rw [List.mem_cons, not_or] at kept
      apply ih _ kept.2
      cases op with
      | opens other => exact Finset.mem_insert_of_mem isOpen
      | closes other =>
          refine Finset.mem_erase_of_ne_of_mem ?_ isOpen
          rintro rfl
          exact kept.1 rfl

/-- When the loop returns after listening, the server socket is open. -/
theorem serverSocket_left_open
    (table : Finset Int) (succeeds : ¬ ListenFails ip results) {labels : List Label}
    (returns : Returns ip results labels) :
    results.socket ∈
      (descriptorOps ip results labels).foldl DescriptorOp.apply table := by
  rcases startOps_of_succeeds succeeds with ⟨listening, isSocket, opened⟩
  simp only [Returns, listening, isSocket, false_or] at returns
  have kept : .close results.socket ∉
      (follow (loop results.socket) (initial results.socket) labels).log := by
    have start : .close results.socket ∉ (initial results.socket).log :=
      List.not_mem_nil
    exact (run_follow returns.1).invariant start
      fun _ _ kept enabled _ => log_never_closes kept enabled
  simp only [descriptorOps, listening, isSocket, opened, if_false,
    List.singleton_append, List.foldl_cons]
  apply mem_foldl_apply (Finset.mem_insert_self _ _)
  intro isClosed
  rcases List.mem_filterMap.mp isClosed with ⟨action, member, closes⟩
  cases action with
  | emit event => cases closes
  | accept newfd =>
      rw [loopOp] at closes
      split_ifs at closes
      cases closes
  | close fd =>
      cases closes
      exact kept member

/--
However the socket calls end, whoever connects and whenever the server is
stopped: the loop returns with everything closed that it has opened exactly
when `tcp_listen` has failed.
-/
theorem released_iff_listenFails
    (ip : Bytes) (results : Results) (table : Finset Int)
    (labels : List Label) (fresh : results.socket ∉ table)
    (returns : Returns ip results labels) :
    Released table (descriptorOps ip results labels) ↔
      ListenFails ip results := by
  constructor
  · intro released
    by_contra succeeds
    have leftOpen : results.socket ∈ _ :=
      serverSocket_left_open table succeeds returns
    rw [released.restored] at leftOpen
    exact fresh leftOpen
  · intro fails
    exact released_of_fails fresh fails labels

/-- The standard streams. -/
def standardStreams : Finset Int := {0, 1, 2}

/-- Only the port is taken. -/
def portTaken : Results := ⟨3, 0, 1, -1, 0⟩

theorem portTaken_released_iff :
    Released standardStreams (descriptorOps [49, 46, 49] portTaken []) ↔
      ListenFails [49, 46, 49] portTaken :=
  released_iff_listenFails [49, 46, 49] portTaken standardStreams []
    (by decide) (by decide)

/-- No call fails. -/
def listening : Results := ⟨3, 0, 1, 0, 0⟩

/-- A client is accepted, then the server is stopped. -/
def acceptThenStop : List Label :=
  [.iterate true, .select 1 {3} false, .skip 0, .skip 1, .skip 2,
    .accept 3 4 false, .skip 4, .endPass 5, .iterate false]

/-- The server socket and the client are still open. -/
theorem acceptThenStop_not_released :
    Returns [48] listening acceptThenStop ∧
      (descriptorOps [48] listening acceptThenStop).foldl
          DescriptorOp.apply standardStreams = {0, 1, 2, 3, 4} ∧
      ¬ Released standardStreams
        (descriptorOps [48] listening acceptThenStop) := by
  have leftOpen :
      (descriptorOps [48] listening acceptThenStop).foldl
        DescriptorOp.apply standardStreams = {0, 1, 2, 3, 4} := by
    decide
  refine ⟨by decide, leftOpen, fun released => ?_⟩
  have same : ({0, 1, 2, 3, 4} : Finset Int) = standardStreams :=
    leftOpen.symm.trans released.restored
  exact absurd same (by decide)

end ServerUtils.Server.Listen
