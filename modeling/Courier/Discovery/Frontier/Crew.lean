import Courier.Discovery.Frontier.Waiting

/-!
# The visitors of a frontier

Each visitor takes a directory, pushes as many as it finds there, completes the
one that it took, and comes back for the next. A push is two steps, and a visitor
that finds nothing pending waits, so that visitors come between each other's steps
in any way. What became of every step is reported.
-/

namespace Courier.Frontier

/-- What a visitor is about. -/
inductive Visitor where
  | idle
  /-- It found nothing pending, and is parked or woken. -/
  | waiting
  | visiting (path : String)
  /-- It has counted a directory and not yet queued it. -/
  | pushing (path found : String)
  deriving DecidableEq

/-- A frontier, and the visitors that share it. -/
structure Crew where
  waiting : Waiting
  visitors : List Visitor

namespace Crew

def start (root : String) (visitors : Nat) : Crew :=
  { waiting := { frontier := .ofRoot root }, visitors := List.replicate visitors .idle }

/-- What a visitor does next. -/
inductive Move where
  | pop
  | push (path : String)
  | enqueue
  | complete

/-- A move of the visitor at `index`, or what anybody may do at any time. -/
inductive Action where
  | visit (index : Nat) (move : Move)
  | abort
  | rouse

/-- What became of an action. -/
inductive Report where
  | took (path : String)
  | dismissed
  | parked
  | pushed (path : String)
  | queued (path : String)
  | completed (path : String)
  | aborted
  | roused
  deriving DecidableEq

def place (crew : Crew) (index : Nat) (visitor : Visitor) : Crew :=
  { crew with visitors := crew.visitors.set index visitor }

/-- Goes on after an attempt to take a directory. -/
def answer (crew : Crew) (index : Nat) : Waiting.Event × Waiting → Report × Crew
  | (.popped (some path), waiting) => (.took path, { crew with waiting }.place index (.visiting path))
  | (.popped none, waiting) => (.dismissed, { crew with waiting }.place index .idle)
  | (_, waiting) => (.parked, { crew with waiting }.place index .waiting)

/-- A move of the visitor at `index`, which is `visitor`; nothing if it has to wait or the move is not its next. -/
def visit? (crew : Crew) (index : Nat) : Visitor → Move → Option (Report × Crew)
  | .idle, .pop => (crew.waiting.step? .pop).map (crew.answer index)
  | .waiting, .pop => (crew.waiting.step? .popAgain).map (crew.answer index)
  | .visiting path, .push found =>
      (crew.waiting.step? .count).map fun stepped =>
        (.pushed found, { crew with waiting := stepped.2 }.place index (.pushing path found))
  | .pushing path found, .enqueue =>
      (crew.waiting.step? (.enqueue found)).map fun stepped =>
        (.queued found, { crew with waiting := stepped.2 }.place index (.visiting path))
  | .visiting path, .complete =>
      (crew.waiting.step? .complete).map fun stepped =>
        (.completed path, { crew with waiting := stepped.2 }.place index .idle)
  | _, _ => none

/-- One step, if it is possible. -/
def step? (crew : Crew) : Action → Option (Report × Crew)
  | .visit index move => crew.visitors[index]?.bind fun visitor => crew.visit? index visitor move
  | .abort => (crew.waiting.step? .abort).map fun stepped => (.aborted, { crew with waiting := stepped.2 })
  | .rouse => (crew.waiting.step? .rouse).map fun stepped => (.roused, { crew with waiting := stepped.2 })

/-- The steps of a schedule, up to the first that is not possible. -/
def run (crew : Crew) : List Action → List Report × Crew
  | [] => ([], crew)
  | action :: rest =>
      match crew.step? action with
      | none => ([], crew)
      | some (report, crew) =>
          let (reports, crew) := run crew rest
          (report :: reports, crew)

end Crew

end Courier.Frontier
