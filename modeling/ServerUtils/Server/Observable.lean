import Mathlib.Data.Fintype.Basic
import Mathlib.Data.List.Count
import Mathlib.Data.List.Induction
import Mathlib.Logic.Function.Basic
import ServerUtils.Foundation.Transition

/-!
# Observers and what they are told

`util::observable` keeps weak pointers.  `remove_observer` compares the
addresses of those which it can lock, so the entries of expired observers stay
in the list, and a later observer may live at the address of an expired one.
The results say what `emit` does after any history, in terms of the history.

The overloads of `remove_observer` take the same address, and `+=` and `-=`
are other names.
-/

namespace ServerUtils.Server.Observable

open ServerUtils.Foundation.Transition

variable {Object Address : Type}

inductive Lifetime where
  | unborn
  | live
  | expired
deriving DecidableEq, Repr

/-- The observers that exist, and the weak pointers to them. -/
structure State (Object : Type) where
  lifetime : Object → Lifetime
  observers : List Object

inductive Label (Object Address : Type) where
  | construct (o : Object)
  | expire (o : Object)
  | add (o : Object)
  | remove (ptr : Address)
deriving DecidableEq

/-- `wp.lock()` finds the observer. -/
def Live (state : State Object) (o : Object) : Prop :=
  state.lifetime o = .live

instance (state : State Object) (o : Object) : Decidable (Live state o) :=
  inferInstanceAs (Decidable (_ = _))

section Model

variable [DecidableEq Object] [DecidableEq Address]

/-- `add_observer`. -/
def addObserver (state : State Object) (o : Object) : State Object :=
  { state with observers := state.observers ++ [o] }

/-- `remove_observer` of an address. -/
def removeObserver
    (get : Object → Address) (state : State Object) (ptr : Address) :
    State Object :=
  { state with
    observers := state.observers.filter fun rhs =>
      ¬ (Live state rhs ∧ get rhs = ptr) }

/-- `remove_observer` of a shared pointer. -/
def removeShared
    (get : Object → Address) (state : State Object) (o : Object) :
    State Object :=
  removeObserver get state (get o)

/-- The calls of `observe` which `emit` makes, in order. -/
def emit (state : State Object) : List Object :=
  state.observers.filter fun wp => Live state wp

/-- Observers live one after the other at an address, and only those that have
been constructed are added. -/
def Enabled (get : Object → Address) (state : State Object) :
    Label Object Address → Prop
  | .construct o =>
      state.lifetime o = .unborn ∧
        ∀ other, Live state other → get other ≠ get o
  | .expire o => Live state o
  | .add o => state.lifetime o ≠ .unborn
  | .remove _ => True

omit [DecidableEq Object] in
/-- Removing takes the calls of whoever lives at the address. -/
theorem emit_removeObserver
    (get : Object → Address) (state : State Object) (ptr : Address) :
    emit (removeObserver get state ptr) =
      (emit state).filter fun o => ¬ get o = ptr := by
  simp only [emit, removeObserver, List.filter_filter, Live]
  apply List.filter_congr
  intro o _
  by_cases isLive : state.lifetime o = .live
  · simp [isLive]
  · simp [isLive]

/-- What a step does. -/
def next (get : Object → Address) (state : State Object) :
    Label Object Address → State Object
  | .construct o =>
      { state with lifetime := Function.update state.lifetime o .live }
  | .expire o =>
      { state with lifetime := Function.update state.lifetime o .expired }
  | .add o => addObserver state o
  | .remove ptr => removeObserver get state ptr

/-- An observable, and the observers that come and go around it. -/
def observable (get : Object → Address) :
    Machine (State Object) (Label Object Address) where
  initial := ⟨fun _ => .unborn, []⟩
  Enabled := Enabled get
  next := next get

instance decidableEnabled
    [Fintype Object] (get : Object → Address) (state : State Object) :
    (label : Label Object Address) → Decidable (Enabled get state label)
  | .construct _ => inferInstanceAs (Decidable (_ ∧ _))
  | .expire _ => inferInstanceAs (Decidable (Live _ _))
  | .add _ => inferInstanceAs (Decidable (¬ _))
  | .remove _ => .isTrue True.intro

instance [Fintype Object] (get : Object → Address)
    (state : State Object) (label : Label Object Address) :
    Decidable ((observable get).Enabled state label) :=
  inferInstanceAs (Decidable (Enabled get state label))

end Model

/-! ## What a history asks for -/

section Histories

variable [DecidableEq Object] [DecidableEq Address]
variable (get : Object → Address)

/-- The registrations that no later step removes, in order. -/
def surviving : List (Label Object Address) → List Object
  | [] => []
  | .add o :: later =>
      if .remove (get o) ∈ later then surviving later
      else o :: surviving later
  | .construct _ :: later => surviving later
  | .expire _ :: later => surviving later
  | .remove _ :: later => surviving later

/-- How often an observer was added since it was last removed. -/
def addedSinceRemoval (o : Object) (history : List (Label Object Address)) :
    Nat :=
  history.foldl
    (fun count label =>
      if label = .add o then count + 1
      else if label = .remove (get o) then 0
      else count)
    0

/-- The observer has been constructed and has not expired. -/
def LivesAfter (history : List (Label Object Address)) (o : Object) : Prop :=
  .construct o ∈ history ∧ .expire o ∉ history

variable {get} {history : List (Label Object Address)}

/-- What is done later removes registrations, and adds others behind them. -/
theorem surviving_append (later : List (Label Object Address)) :
    surviving get (history ++ later) =
      (surviving get history).filter (fun o => .remove (get o) ∉ later) ++
        surviving get later := by
  induction history with
  | nil => rfl
  | cons label history ih =>
      cases label with
      | construct o => exact ih
      | expire o => exact ih
      | remove ptr => exact ih
      | add o =>
          simp only [List.cons_append, surviving, List.mem_append, ih]
          by_cases removed : .remove (get o) ∈ history
          · simp [removed]
          · by_cases removedLater : .remove (get o) ∈ later
            · simp [removed, removedLater]
            · simp [removed, removedLater]

theorem surviving_add (o : Object) :
    surviving get (history ++ [.add o]) = surviving get history ++ [o] := by
  simp [surviving_append, surviving]

theorem surviving_remove (ptr : Address) :
    surviving get (history ++ [.remove ptr]) =
      (surviving get history).filter fun o => ¬ get o = ptr := by
  simp [surviving_append, surviving]

/-- The entries of an observer that are left without those at an address. -/
theorem count_filter_address
    (get : Object → Address) (ptr : Address) (o : Object)
    (list : List Object) :
    (list.filter fun other => ¬ get other = ptr).count o =
      if get o = ptr then 0 else list.count o := by
  split_ifs with same
  · apply List.count_eq_zero_of_not_mem
    simp [same]
  · apply List.count_filter
    simpa using same

/-- The surviving registrations of an observer, counted. -/
theorem count_surviving (o : Object) :
    (surviving get history).count o = addedSinceRemoval get o history := by
  induction history using List.reverseRecOn with
  | nil => rfl
  | append_singleton history label ih =>
      have step : addedSinceRemoval get o (history ++ [label]) =
          if label = .add o then addedSinceRemoval get o history + 1
          else if label = .remove (get o) then 0
          else addedSinceRemoval get o history :=
        List.foldl_append
      rw [step, surviving_append, List.count_append]
      cases label with
      | construct other => simp [surviving, ih]
      | expire other => simp [surviving, ih]
      | add other =>
          by_cases same : other = o
          · simp [surviving, ih, same]
          · simp [surviving, ih, same]
      | remove ptr =>
          simp only [List.mem_singleton, Label.remove.injEq]
          rw [count_filter_address, ih]
          simp [surviving, eq_comm]

end Histories

/-! ## What the list holds -/

section Invariant

variable [DecidableEq Object] [DecidableEq Address]
variable {get : Object → Address} {state : State Object}
variable {history : List (Label Object Address)}

/-- The list and the surviving registrations have the same live entries. -/
structure Registered
    (get : Object → Address) (history : List (Label Object Address))
    (state : State Object) : Prop where
  constructed : ∀ o, state.lifetime o = .unborn →
    o ∉ state.observers ∧ o ∉ surviving get history
  sameLive : emit state =
    (surviving get history).filter fun o => Live state o
  apart : ∀ o other, Live state o → Live state other →
    get o = get other → o = other

theorem registered_initial :
    Registered get [] (observable get).initial where
  constructed := fun _ _ => ⟨List.not_mem_nil, List.not_mem_nil⟩
  sameLive := rfl
  apart := fun _ _ live => nomatch live

omit [DecidableEq Object] in
/-- Equal parts of two lists have equal parts. -/
theorem filter_eq_of_narrower
    {list list' : List Object} {wide narrow : Object → Bool}
    (same : list.filter wide = list'.filter wide)
    (narrower : ∀ o ∈ list ++ list', narrow o = true → wide o = true) :
    list.filter narrow = list'.filter narrow := by
  have within : ∀ part : List Object, (∀ o ∈ part, o ∈ list ++ list') →
      (part.filter wide).filter narrow = part.filter narrow := by
    intro part isPart
    rw [List.filter_filter]
    apply List.filter_congr
    intro o member
    have implied := narrower o (isPart o member)
    cases isNarrow : narrow o with
    | false => rfl
    | true => simp [implied isNarrow]
  rw [← within list fun o => List.mem_append_left list', same,
    within list' fun o => List.mem_append_right list]

/-- A step that leaves the list alone and asks for nothing. -/
theorem Registered.relive
    (inv : Registered get history state) {label : Label Object Address}
    {lifetime : Object → Lifetime}
    (asksNothing :
      surviving get (history ++ [label]) = surviving get history)
    (born : ∀ o, lifetime o = .unborn → state.lifetime o = .unborn)
    (fewer : ∀ o, state.lifetime o ≠ .unborn →
      lifetime o = .live → Live state o)
    (apart : ∀ o other, lifetime o = .live → lifetime other = .live →
      get o = get other → o = other) :
    Registered get (history ++ [label])
      { state with lifetime := lifetime } where
  constructed := by
    intro o isUnborn
    rw [asksNothing]
    exact inv.constructed o (born o isUnborn)
  sameLive := by
    rw [asksNothing]
    apply filter_eq_of_narrower inv.sameLive
    intro o member isLive
    have isConstructed : state.lifetime o ≠ .unborn := by
      intro isUnborn
      have absent := inv.constructed o isUnborn
      exact (List.mem_append.mp member).elim absent.1 absent.2
    rw [decide_eq_true_eq] at isLive ⊢
    exact fewer o isConstructed isLive
  apart := apart

omit [DecidableEq Address] in
/-- An observer that is not constructed after a change was not before. -/
theorem unborn_of_update
    {o other : Object} {now : Lifetime} (isBorn : now ≠ .unborn)
    (isUnborn : Function.update state.lifetime o now other = .unborn) :
    state.lifetime other = .unborn := by
  by_cases same : other = o
  · rw [same, Function.update_self] at isUnborn
    exact absurd isUnborn isBorn
  · rwa [Function.update_of_ne same] at isUnborn

theorem Registered.construct
    (inv : Registered get history state) (o : Object)
    (enabled : Enabled get state (.construct o)) :
    Registered get (history ++ [.construct o])
      (next get state (.construct o)) := by
  rcases enabled with ⟨isUnborn, free⟩
  apply inv.relive
  · simp [surviving_append, surviving]
  · intro other
    exact unborn_of_update (by decide)
  · intro other isConstructed isLive
    have differs : other ≠ o := by
      rintro rfl
      exact isConstructed isUnborn
    rwa [Function.update_of_ne differs] at isLive
  · intro first second isLive isLive' sameAddress
    by_contra differ
    by_cases isFirst : first = o
    · rw [isFirst] at differ sameAddress
      rw [Function.update_of_ne (Ne.symm differ)] at isLive'
      exact free second isLive' sameAddress.symm
    · rw [Function.update_of_ne isFirst] at isLive
      by_cases isSecond : second = o
      · rw [isSecond] at sameAddress
        exact free first isLive sameAddress
      · rw [Function.update_of_ne isSecond] at isLive'
        exact differ (inv.apart first second isLive isLive' sameAddress)

theorem Registered.expire
    (inv : Registered get history state) (o : Object) :
    Registered get (history ++ [.expire o])
      (next get state (.expire o)) := by
  have stillLive : ∀ other,
      Function.update state.lifetime o .expired other = .live →
        Live state other := by
    intro other isLive
    by_cases same : other = o
    · simp [same] at isLive
    · rwa [Function.update_of_ne same] at isLive
  apply inv.relive
  · simp [surviving_append, surviving]
  · intro other
    exact unborn_of_update (by decide)
  · intro other _ isLive
    exact stillLive other isLive
  · intro first second isLive isLive' sameAddress
    exact inv.apart first second (stillLive first isLive)
      (stillLive second isLive') sameAddress

theorem Registered.add
    (inv : Registered get history state) (o : Object)
    (enabled : Enabled get state (.add o)) :
    Registered get (history ++ [.add o]) (next get state (.add o)) := by
  refine ⟨?_, ?_, inv.apart⟩
  · intro other isUnborn
    have differs : other ≠ o := by
      rintro rfl
      exact enabled isUnborn
    rw [surviving_add]
    simpa [next, addObserver, differs] using
      inv.constructed other isUnborn
  · have same := inv.sameLive
    simp only [emit] at same
    rw [surviving_add, List.filter_append]
    simp only [next, addObserver, emit, List.filter_append]
    exact congrArg (· ++ _) same

theorem Registered.remove
    (inv : Registered get history state) (ptr : Address) :
    Registered get (history ++ [.remove ptr])
      (next get state (.remove ptr)) := by
  refine ⟨?_, ?_, inv.apart⟩
  · intro other isUnborn
    have absent := inv.constructed other isUnborn
    rw [surviving_remove]
    simp [next, removeObserver, absent]
  · rw [next, emit_removeObserver, inv.sameLive, surviving_remove,
      List.filter_filter, List.filter_filter]
    apply List.filter_congr
    intro other _
    exact Bool.and_comm _ _

theorem registered_next
    (label : Label Object Address) (inv : Registered get history state)
    (enabled : Enabled get state label) :
    Registered get (history ++ [label]) (next get state label) := by
  cases label with
  | construct o => exact inv.construct o enabled
  | expire o => exact inv.expire o
  | add o => exact inv.add o enabled
  | remove ptr => exact inv.remove ptr

/-- The live entries of an observer are its registrations. -/
theorem Registered.count_emit
    (inv : Registered get history state) (o : Object) :
    (emit state).count o =
      if Live state o then addedSinceRemoval get o history else 0 := by
  rw [inv.sameLive, ← count_surviving]
  split_ifs with isLive
  · exact List.count_filter (by simpa using isLive)
  · apply List.count_eq_zero_of_not_mem
    simp [isLive]

/-- Only the removed observer lives at its address. -/
theorem Registered.emit_removeShared
    (inv : Registered get history state) {o : Object}
    (isLive : Live state o) :
    emit (removeShared get state o) =
      (emit state).filter fun other => other ≠ o := by
  rw [removeShared, emit_removeObserver]
  apply List.filter_congr
  intro other member
  have otherLive : Live state other := by
    simpa using (List.mem_filter.mp member).2
  have sameAddress : get other = get o ↔ other = o :=
    ⟨inv.apart other o otherLive isLive, congrArg get⟩
  simp [sameAddress]

/-- The lifetimes are those that the constructions and expiries say. -/
structure Dated
    (history : List (Label Object Address)) (state : State Object) :
    Prop where
  unborn : ∀ o, state.lifetime o = .unborn ↔ .construct o ∉ history
  expired : ∀ o, state.lifetime o = .expired ↔ .expire o ∈ history

theorem dated_initial :
    Dated ([] : List (Label Object Address)) (observable get).initial where
  unborn := by simp [observable]
  expired := by simp [observable]

omit [DecidableEq Object] [DecidableEq Address] in
/-- A step that changes no lifetime. -/
theorem Dated.keep
    (dated : Dated history state) {label : Label Object Address}
    {next : State Object} (same : next.lifetime = state.lifetime)
    (notBirth : ∀ o, label ≠ .construct o)
    (notExpiry : ∀ o, label ≠ .expire o) :
    Dated (history ++ [label]) next where
  unborn := by
    intro o
    rw [same, dated.unborn]
    simp [(notBirth o).symm]
  expired := by
    intro o
    rw [same, dated.expired]
    simp [(notExpiry o).symm]

theorem dated_next
    (label : Label Object Address) (dated : Dated history state)
    (enabled : Enabled get state label) :
    Dated (history ++ [label]) (next get state label) := by
  cases label with
  | add o => exact dated.keep rfl (by simp) (by simp)
  | remove ptr => exact dated.keep rfl (by simp) (by simp)
  | construct o =>
      have notExpired : .expire o ∉ history := by
        rw [← dated.expired, enabled.1]
        exact fun isExpired => by cases isExpired
      constructor
      case unborn =>
        intro other
        by_cases same : other = o
        · subst same
          simp [next]
        · simp [next, same, dated.unborn other]
      case expired =>
        intro other
        by_cases same : other = o
        · subst same
          simp [next, notExpired]
        · simp [next, same, dated.expired other]
  | expire o =>
      have isLive : state.lifetime o = .live := enabled
      have isConstructed : .construct o ∈ history := by
        by_contra notConstructed
        rw [← dated.unborn, isLive] at notConstructed
        cases notConstructed
      constructor
      case unborn =>
        intro other
        by_cases same : other = o
        · subst same
          simp [next, isConstructed]
        · simp [next, same, dated.unborn other]
      case expired =>
        intro other
        by_cases same : other = o
        · subst same
          simp [next]
        · simp [next, same, dated.expired other]

/-- An observer that is neither unborn nor expired is live. -/
theorem Dated.live_iff (dated : Dated history state) (o : Object) :
    Live state o ↔ LivesAfter history o := by
  have unborn := dated.unborn o
  have expired := dated.expired o
  rw [Live, LivesAfter]
  cases isNow : state.lifetime o with
  | unborn => simp_all
  | live => simp_all
  | expired => simp_all

end Invariant

/-! ## Every history -/

section Results

variable [DecidableEq Object] [DecidableEq Address]

/-- The observable after a history. -/
def after
    (get : Object → Address) (history : List (Label Object Address)) :
    State Object :=
  follow (observable get) (observable get).initial history

/--
After every history, `emit` calls the live observers, which are those that have
been constructed and have not expired, in the order of the registrations that
were not removed, each as often as it was added since it was last removed; and
removing an observer takes its calls and no others.
-/
theorem emit_of_history
    (get : Object → Address) (history : List (Label Object Address))
    (follows : Follows (observable get) anyStep (observable get).initial
      history) :
    (∀ o, Live (after get history) o ↔ LivesAfter history o) ∧
      emit (after get history) =
        (surviving get history).filter
          (fun o => Live (after get history) o) ∧
      (∀ o, (emit (after get history)).count o =
        if Live (after get history) o then addedSinceRemoval get o history
        else 0) ∧
      ∀ o, Live (after get history) o →
        emit (removeShared get (after get history) o) =
          (emit (after get history)).filter fun other => other ≠ o := by
  have registered : Registered get history (after get history) :=
    follows.history_invariant registered_initial
      fun _ _ label inv enabled _ => registered_next label inv enabled
  have dated : Dated history (after get history) :=
    follows.history_invariant dated_initial
      fun _ _ label dated enabled _ => dated_next label dated enabled
  exact ⟨dated.live_iff, registered.sameLive, registered.count_emit,
    fun _ isLive => registered.emit_removeShared isLive⟩

end Results

/-- The second observer is constructed at the address of the first. -/
def reusedAddress : List (Label Bool Unit) :=
  [.construct false, .add false, .expire false, .construct true, .add true,
    .add true]

def sameAddress (_ : Bool) : Unit := ()

theorem reusedAddress_emit :
    (∀ o, Live (after sameAddress reusedAddress) o ↔
        LivesAfter reusedAddress o) ∧
      emit (after sameAddress reusedAddress) =
        (surviving sameAddress reusedAddress).filter
          (fun o => Live (after sameAddress reusedAddress) o) ∧
      (∀ o, (emit (after sameAddress reusedAddress)).count o =
        if Live (after sameAddress reusedAddress) o then
          addedSinceRemoval sameAddress o reusedAddress
        else 0) ∧
      ∀ o, Live (after sameAddress reusedAddress) o →
        emit (removeShared sameAddress
            (after sameAddress reusedAddress) o) =
          (emit (after sameAddress reusedAddress)).filter
            fun other => other ≠ o :=
  emit_of_history sameAddress reusedAddress (by decide)

end ServerUtils.Server.Observable
