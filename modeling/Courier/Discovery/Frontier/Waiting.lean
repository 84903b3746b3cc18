import Courier.Discovery.Frontier

/-!
# Waiting at the frontier

Visitors that find nothing pending park. A directory that is queued wakes one
of them; the completion of the last directory and an abort wake all. Counting a
directory and queueing it are two steps, since others can come between them.
-/

namespace Courier.Frontier

/-- A frontier, the visitors that wait at it and the directories counted and not yet queued. -/
structure Waiting where
  frontier : Frontier
  parked : Nat := 0
  woken : Nat := 0
  counted : Nat := 0

namespace Waiting

inductive Action where
  | count
  | enqueue (path : String)
  | pop
  | popAgain
  | complete
  | abort
  | rouse

/-- What a step comes to for the thread that takes it. -/
inductive Event where
  | counted
  | queued
  | popped (path : Option String)
  | parked
  | completed
  | aborted
  | roused
  deriving DecidableEq

/-- Wakes one visitor, if one is parked. -/
def notifyOne (waiting : Waiting) : Waiting :=
  if waiting.parked = 0 then waiting
  else { waiting with parked := waiting.parked - 1, woken := waiting.woken + 1 }

def notifyAll (waiting : Waiting) : Waiting :=
  { waiting with parked := 0, woken := waiting.woken + waiting.parked }

/-- One attempt to take a directory. -/
def attemptPop (waiting : Waiting) : Event × Waiting :=
  match waiting.frontier.pop? with
  | none => (.parked, { waiting with parked := waiting.parked + 1 })
  | some (path, frontier) => (.popped path, { waiting with frontier })

/-- Completes a directory and wakes everybody if it was the last. -/
def completeOne (waiting : Waiting) : Waiting :=
  let done := { waiting with frontier := waiting.frontier.complete }
  if waiting.frontier.outstanding = 1 then done.notifyAll else done

/-- One step of one thread, if it is possible. -/
def step? (waiting : Waiting) : Action → Option (Event × Waiting)
  | .count =>
      some (.counted, { waiting with frontier := waiting.frontier.count, counted := waiting.counted + 1 })
  | .enqueue path =>
      if waiting.counted = 0 then none
      else
        some (.queued,
          { waiting with
            frontier := waiting.frontier.enqueue path
            counted := waiting.counted - 1 }.notifyOne)
  | .pop => some waiting.attemptPop
  | .popAgain =>
      if waiting.woken = 0 then none else some { waiting with woken := waiting.woken - 1 }.attemptPop
  | .complete => some (.completed, waiting.completeOne)
  | .abort => some (.aborted, { waiting with frontier := waiting.frontier.abort }.notifyAll)
  | .rouse => if waiting.parked = 0 then none else some (.roused, waiting.notifyOne)

/-- The steps of a schedule, up to the first that is not possible. -/
def run (waiting : Waiting) : List Action → List Event × Waiting
  | [] => ([], waiting)
  | action :: rest =>
      match waiting.step? action with
      | none => ([], waiting)
      | some (event, waiting) =>
          let (events, waiting) := run waiting rest
          (event :: events, waiting)

end Waiting

end Courier.Frontier
