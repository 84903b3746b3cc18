import Courier.Channel.Operation

/-!
# Two channels that are joined

Either side sends, receives or closes, and what it wrote reaches the other side
before anything else is done.
-/

namespace Courier

/-- Two channels that are joined. -/
structure Duplex where
  left : Channel
  right : Channel

namespace Duplex

open Channel

/-- The channel of one side. -/
def on (duplex : Duplex) : Side → Channel
  | .left => duplex.left
  | .right => duplex.right

/-- The two channels, told from one side. -/
def join (side : Side) (near far : Channel) : Duplex :=
  match side with
  | .left => ⟨near, far⟩
  | .right => ⟨far, near⟩

@[simp] theorem on_join (side : Side) (near far : Channel) : (join side near far).on side = near := by
  cases side <;> rfl

@[simp] theorem on_other_join (side : Side) (near far : Channel) :
    (join side near far).on side.other = far := by
  cases side <;> rfl

/-- The channel when what it wrote has been taken. -/
def drained (channel : Channel) : Channel :=
  { channel with stream := channel.stream.takeAccepted.2 }

/-- What the near side wrote is appended to the unread bytes of the far side. -/
def settle (side : Side) (near far : Channel) : Duplex :=
  join side (drained near) (fed far near.stream.accepted)

/-- One side does something, and what it wrote reaches the other side. -/
def perform (suite : Suite) (duplex : Duplex) (side : Side) (operation : Operation) : Answer × Duplex :=
  let (answer, near) := operation.perform suite (duplex.on side)
  (answer, settle side near (duplex.on side.other))

/-- An operation of one side and what it answered. -/
structure Entry where
  side : Side
  operation : Operation
  answer : Answer

/-- Operations of either side in any order, with their answers. -/
def run (suite : Suite) : Duplex → List (Side × Operation) → List Entry × Duplex
  | duplex, [] => ([], duplex)
  | duplex, (side, operation) :: rest =>
      let (answer, next) := duplex.perform suite side operation
      let (entries, last) := run suite next rest
      (⟨side, operation, answer⟩ :: entries, last)

end Duplex

end Courier
