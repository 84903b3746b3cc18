import Courier.BoundedChannel

/-!
# Waiting at a bounded channel

Threads that find an operation impossible park. A step that makes room or adds
an item wakes one parked thread of the other kind, if there is one, and closing
wakes all of them; a thread may also wake for no reason. A woken thread tries
again, after whatever others did meanwhile, and parks again if it has to. Each
attempt is one step.
-/

namespace Courier.BoundedChannel

/-- A channel and the threads that wait at it. Senders are known by the items that they hold. -/
structure Waiting (Item : Type) where
  channel : BoundedChannel Item
  parkedSenders : List Item := []
  wokenSenders : List Item := []
  parkedReceivers : Nat := 0
  wokenReceivers : Nat := 0

namespace Waiting

variable {Item : Type}

/-- What threads do. Where a parked sender is to be woken, `woken` is its place among them. -/
inductive Action (Item : Type) where
  | send (item : Item)
  | sendAgain (place : Nat)
  | receive (woken : Nat)
  | receiveAgain (woken : Nat)
  | close
  | rouseSender (place : Nat)
  | rouseReceiver

/-- What a step comes to for the thread that takes it. -/
inductive Event (Item : Type) where
  | sent (taken : Bool)
  | received (item : Option Item)
  | parked
  | closed
  | roused
  deriving DecidableEq

/-- Wakes one receiver, if one is parked. -/
def notifyReceiver (waiting : Waiting Item) : Waiting Item :=
  if waiting.parkedReceivers = 0 then waiting
  else { waiting with
    parkedReceivers := waiting.parkedReceivers - 1
    wokenReceivers := waiting.wokenReceivers + 1 }

/-- Wakes the sender at a place among the parked ones. -/
def rouse? (waiting : Waiting Item) (place : Nat) : Option (Waiting Item) :=
  waiting.parkedSenders[place]?.map fun item =>
    { waiting with
      parkedSenders := waiting.parkedSenders.eraseIdx place
      wokenSenders := waiting.wokenSenders ++ [item] }

/-- Wakes one sender, if one is parked. -/
def notifySender? (waiting : Waiting Item) (place : Nat) : Option (Waiting Item) :=
  if waiting.parkedSenders.isEmpty then some waiting else waiting.rouse? place

/-- One attempt to send. -/
def attemptSend (waiting : Waiting Item) (item : Item) : Event Item × Waiting Item :=
  match waiting.channel.send? item with
  | none => (.parked, { waiting with parkedSenders := waiting.parkedSenders ++ [item] })
  | some (true, channel) => (.sent true, { waiting with channel }.notifyReceiver)
  | some (false, channel) => (.sent false, { waiting with channel })

/-- One attempt to receive. -/
def attemptReceive? (waiting : Waiting Item) (woken : Nat) : Option (Event Item × Waiting Item) :=
  match waiting.channel.receive? with
  | none => some (.parked, { waiting with parkedReceivers := waiting.parkedReceivers + 1 })
  | some (some item, channel) =>
      ({ waiting with channel }.notifySender? woken).map fun waiting => (.received (some item), waiting)
  | some (none, channel) => some (.received none, { waiting with channel })

/-- Closes the channel and wakes everybody. -/
def closeAndWake (waiting : Waiting Item) : Waiting Item where
  channel := waiting.channel.close
  parkedSenders := []
  wokenSenders := waiting.wokenSenders ++ waiting.parkedSenders
  parkedReceivers := 0
  wokenReceivers := waiting.wokenReceivers + waiting.parkedReceivers

/-- One step of one thread, if it is possible. -/
def step? (waiting : Waiting Item) : Action Item → Option (Event Item × Waiting Item)
  | .send item => some (waiting.attemptSend item)
  | .sendAgain place =>
      waiting.wokenSenders[place]?.map fun item =>
        { waiting with wokenSenders := waiting.wokenSenders.eraseIdx place }.attemptSend item
  | .receive woken => waiting.attemptReceive? woken
  | .receiveAgain woken =>
      if waiting.wokenReceivers = 0 then none
      else { waiting with wokenReceivers := waiting.wokenReceivers - 1 }.attemptReceive? woken
  | .close => some (.closed, waiting.closeAndWake)
  | .rouseSender place => (waiting.rouse? place).map fun waiting => (.roused, waiting)
  | .rouseReceiver =>
      if waiting.parkedReceivers = 0 then none else some (.roused, waiting.notifyReceiver)

/-- The steps of a schedule, up to the first that is not possible. -/
def run (waiting : Waiting Item) : List (Action Item) → List (Event Item) × Waiting Item
  | [] => ([], waiting)
  | action :: rest =>
      match waiting.step? action with
      | none => ([], waiting)
      | some (event, waiting) =>
          let (events, waiting) := run waiting rest
          (event :: events, waiting)

end Waiting

end Courier.BoundedChannel
