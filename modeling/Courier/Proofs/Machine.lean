import Courier.Machine

/-!
# Runs of a machine

A statement about a run follows from what it says where there is a result and
from what one step carries back. The trail of a run is every state at which a
step is taken, so that what happens on the way can be told from it.
-/

namespace Courier.Machine

variable {State Result : Type}

/-- Induction along a run, from its end backwards. -/
theorem run_induction (machine : Machine State Result) {motive : State → Prop}
    (ended : ∀ state result, machine.result? state = some result → motive state)
    (step : ∀ state, machine.result? state = none → motive (machine.step state) → motive state)
    (state : State) : motive state := by
  induction weighed : machine.weight state using Nat.strongRecOn generalizing state with
  | ind weight ih =>
      cases found : machine.result? state with
      | some result => exact ended state result found
      | none =>
          have lighter := machine.weight_step state found
          rw [weighed] at lighter
          exact step state found (ih _ lighter _ rfl)

/-- The states at which a run takes a step. -/
def trail (machine : Machine State Result) (state : State) : List State :=
  match _found : machine.result? state with
  | some _ => []
  | none => state :: machine.trail (machine.step state)
termination_by machine.weight state
decreasing_by exact machine.weight_step state ‹_›

theorem trail_of_result {machine : Machine State Result} {state : State} {result : Result}
    (found : machine.result? state = some result) : machine.trail state = [] := by
  rw [trail]
  split <;> simp_all

theorem trail_of_step {machine : Machine State Result} {state : State}
    (unfinished : machine.result? state = none) :
    machine.trail state = state :: machine.trail (machine.step state) := by
  rw [trail]
  split <;> simp_all

end Courier.Machine
