/-!
# Computations by steps

Operations that others may interleave with are given by their single steps. A
`Machine` is such an operation with a weight that every step lowers, and `run`
takes it to its result without a pause. What a step does is stated once and
serves the undisturbed run and every schedule alike.
-/

namespace Courier

structure Machine (State Result : Type) where
  /-- The result, once there is one. -/
  result? : State → Option Result
  step : State → State
  weight : State → Nat
  weight_step : ∀ state, result? state = none → weight (step state) < weight state

namespace Machine

variable {State Result : Type}

/-- The result of taking steps until there is one, and the state then. -/
def run (machine : Machine State Result) (state : State) : Result × State :=
  match _found : machine.result? state with
  | some result => (result, state)
  | none => machine.run (machine.step state)
termination_by machine.weight state
decreasing_by exact machine.weight_step state ‹_›

theorem run_of_result {machine : Machine State Result} {state : State} {result : Result}
    (found : machine.result? state = some result) : machine.run state = (result, state) := by
  rw [run]
  split <;> simp_all

theorem run_of_step {machine : Machine State Result} {state : State}
    (unfinished : machine.result? state = none) :
    machine.run state = machine.run (machine.step state) := by
  rw [run]
  split <;> simp_all

end Machine

end Courier
