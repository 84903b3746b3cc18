import Courier.Failure
import Courier.Octets

/-!
# Byte streams

One end of an ordered, reliable connection: the bytes that have arrived and are
unread, and the bytes that it has accepted for the other side. Reading and
writing move as many bytes as they can and tell if that was fewer than asked
for. `readable` and `writable` tell when an operation need not wait: a short
read is final only once nothing more can arrive.
-/

namespace Courier

structure Stream where
  /-- The address of the other side. -/
  address : String
  /-- The bytes that have arrived and are unread. -/
  incoming : Octets := []
  /-- Whether the other side sends nothing more. -/
  ended : Bool := true
  /-- The bytes that were written and taken. -/
  accepted : Octets := []
  /-- How many more bytes are taken, unless that is unlimited. -/
  room : Option Nat := none
  /-- Whether a write waits until the stream is closed. -/
  stalled : Bool := false
  closed : Bool := false
  /-- How many of the next attempts to close fail. -/
  failingCloses : Nat := 0
  deriving DecidableEq

namespace Stream

/-- What a read of `count` bytes takes. -/
def available (stream : Stream) (count : Nat) : Octets :=
  if stream.closed then [] else stream.incoming.take count

/-- Takes `count` bytes, or what is there before the end of file and tells how many bytes those were. -/
def read (stream : Stream) (count : Nat) : Except Nat (Block count) × Stream :=
  let taken := stream.available count
  let rest := { stream with incoming := stream.incoming.drop taken.length }
  match Block.ofOctets? count taken with
  | some block => (.ok block, rest)
  | none => (.error taken.length, rest)

/-- How many bytes a write of `count` bytes takes. -/
def capacity (stream : Stream) (count : Nat) : Nat :=
  if stream.closed then 0
  else
    match stream.room with
    | none => count
    | some room => min room count

/-- Writes as many bytes as are taken; fewer are a fault. -/
def write (stream : Stream) (data : Octets) : Nat × Option StreamFault × Stream :=
  let count := stream.capacity data.length
  (count, if count < data.length then some .brokenPipe else none,
    { stream with
      accepted := stream.accepted ++ data.take count
      room := stream.room.map (· - count) })

/-- Closes the stream and tells whether that succeeded; closing again changes nothing. -/
def close (stream : Stream) : Bool × Stream :=
  match stream.failingCloses with
  | 0 => (true, { stream with closed := true })
  | remaining + 1 => (false, { stream with failingCloses := remaining })

/-- Whether a read of `count` bytes returns at once. -/
def readable (stream : Stream) (count : Nat) : Bool :=
  stream.closed || stream.ended || count ≤ stream.incoming.length

/-- Whether a write returns at once. -/
def writable (stream : Stream) : Bool := stream.closed || !stream.stalled

/-- More bytes arrive. -/
def feed (stream : Stream) (bytes : Octets) : Stream :=
  { stream with incoming := stream.incoming ++ bytes }

/-- Takes the bytes that were written, as the other side does. -/
def takeAccepted (stream : Stream) : Octets × Stream :=
  (stream.accepted, { stream with accepted := [] })

/-- The other side has closed: nothing more arrives and nothing more is taken. -/
def hangUp (stream : Stream) : Stream := { stream with ended := true, room := some 0 }

@[simp] theorem incoming_write (stream : Stream) (data : Octets) :
    (stream.write data).2.2.incoming = stream.incoming := rfl

@[simp] theorem incoming_close (stream : Stream) : stream.close.2.incoming = stream.incoming := by
  unfold close
  split <;> rfl

theorem available_append (stream : Stream) (count : Nat) :
    stream.available count ++ stream.incoming.drop (stream.available count).length = stream.incoming := by
  unfold available
  split
  · rfl
  · rw [List.length_take]
    by_cases within : count ≤ stream.incoming.length
    · rw [Nat.min_eq_left within, List.take_append_drop]
    · rw [Nat.min_eq_right (by omega), List.take_of_length_le (by omega), List.drop_length, List.append_nil]

/-- A read that succeeds takes its block off the front. -/
theorem incoming_of_read {stream rest : Stream} {count : Nat} {block : Block count}
    (taken : stream.read count = (.ok block, rest)) : stream.incoming = block.val ++ rest.incoming := by
  unfold read Block.ofOctets? at taken
  simp only at taken
  split at taken
  · rename_i found
    split at found
    · cases found
      cases taken
      exact (stream.available_append count).symm
    · cases found
  · cases taken

theorem length_incoming_read_le (stream : Stream) (count : Nat) :
    (stream.read count).2.incoming.length ≤ stream.incoming.length := by
  unfold read
  simp only
  split <;> simp

end Stream

/-! ## Ends -/

/-- One of the two ends of a connection. -/
inductive Side where
  | left
  | right
  deriving DecidableEq

namespace Side

def other : Side → Side
  | left => right
  | right => left

@[simp] theorem other_other (side : Side) : side.other.other = side := by
  cases side <;> rfl

theorem other_ne (side : Side) : side.other ≠ side := by
  cases side <;> exact Side.noConfusion

theorem eq_or_eq_other (first second : Side) : second = first ∨ second = first.other := by
  cases first <;> cases second <;> simp [other]

end Side

end Courier
