import ServerUtils.Foundation.Transition

/-!
# Forward simulation

An abstract machine explains a concrete one when each allowed concrete step
is matched by abstract steps, possibly none, which keep the two states
related.  What holds of every reachable abstract state then holds of the
states that are related to the reachable concrete ones.
-/

namespace ServerUtils.Foundation.Simulation

open ServerUtils.Foundation.Transition

variable {Concrete ConcreteLabel Abstract AbstractLabel : Type*}
variable {concrete : Machine Concrete ConcreteLabel}
variable {abstract : Machine Abstract AbstractLabel}
variable {allowed : Concrete → ConcreteLabel → Prop}
variable {relates : Concrete → Abstract → Prop}

/-- The abstract machine matches the allowed steps of the concrete one. -/
structure Simulates
    (concrete : Machine Concrete ConcreteLabel)
    (allowed : Concrete → ConcreteLabel → Prop)
    (abstract : Machine Abstract AbstractLabel)
    (relates : Concrete → Abstract → Prop) : Prop where
  start : relates concrete.initial abstract.initial
  step : ∀ state spec label, relates state spec →
    concrete.Enabled state label → allowed state label →
      ∃ labels, Follows abstract anyStep spec labels ∧
        relates (concrete.next state label) (follow abstract spec labels)

/-- A concrete run is a run of the abstract machine. -/
theorem Simulates.reachable
    (simulates : Simulates concrete allowed abstract relates)
    {state : Concrete} (reached : ReachableBy concrete allowed state) :
    ∃ spec, Reachable abstract spec ∧ relates state spec := by
  apply Run.invariant reached
  · exact ⟨abstract.initial, .refl _, simulates.start⟩
  · rintro state label ⟨spec, reachable, related⟩ enabled isAllowed
    rcases simulates.step state spec label related enabled isAllowed with
      ⟨labels, follows, later⟩
    exact ⟨_, reachable.trans (run_follow follows), later⟩

/-- An invariant of the abstract machine holds of the states that the
concrete one is related to. -/
theorem Simulates.invariant
    (simulates : Simulates concrete allowed abstract relates)
    {property : Abstract → Prop}
    (start : property abstract.initial)
    (preserved : ∀ spec label, property spec →
      abstract.Enabled spec label → property (abstract.next spec label))
    {state : Concrete} (reached : ReachableBy concrete allowed state) :
    ∃ spec, property spec ∧ relates state spec := by
  rcases simulates.reachable reached with ⟨spec, reachable, related⟩
  refine ⟨spec, ?_, related⟩
  exact Run.invariant reachable start
    fun spec label holds enabled _ => preserved spec label holds enabled

end ServerUtils.Foundation.Simulation
