import Courier.ArgumentError

/-!
# Bounded channels

A queue of limited length between producers and consumers. Each operation is
one step; it is not possible while it would have to wait, a send while the
channel is open and full, a receive while it is open and empty. A closed channel
takes nothing more, but what is queued can still be received.
-/

namespace Courier

structure BoundedChannel (Item : Type) where
  capacity : Nat
  queue : List Item
  closed : Bool
  positive : 0 < capacity

namespace BoundedChannel

variable {Item : Type}

/-- An empty channel; one that could never hold an item is refused. -/
def ofCapacity (capacity : Nat) : Except ArgumentError (BoundedChannel Item) :=
  if positive : 0 < capacity then .ok ⟨capacity, [], false, positive⟩ else .error .capacity

def size (channel : BoundedChannel Item) : Nat := channel.queue.length

/-- Queues an item and tells whether it was taken; nothing if the sender has to wait. -/
def send? (channel : BoundedChannel Item) (item : Item) : Option (Bool × BoundedChannel Item) :=
  if channel.closed then some (false, channel)
  else if channel.queue.length < channel.capacity then
    some (true, { channel with queue := channel.queue ++ [item] })
  else none

/-- Takes the oldest item, or finds the channel closed and drained; nothing if the receiver has to wait. -/
def receive? (channel : BoundedChannel Item) : Option (Option Item × BoundedChannel Item) :=
  match channel.queue with
  | item :: rest => some (some item, { channel with queue := rest })
  | [] => if channel.closed then some (none, channel) else none

/-- Lets nothing more in. What is queued stays. -/
def close (channel : BoundedChannel Item) : BoundedChannel Item := { channel with closed := true }

end BoundedChannel

end Courier
