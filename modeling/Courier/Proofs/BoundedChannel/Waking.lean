import Courier.Proofs.BoundedChannel.Order

/-!
# Waking at a bounded channel

An item that comes in wakes one receiver and an item that goes out wakes one sender,
whoever takes the item or the place in the end. That is enough: while threads are
parked, others are woken for every place that is free and for every item that is
queued. A thread that comes in between takes the place of a woken one, which finds
nothing left and parks again.
-/

namespace Courier.BoundedChannel.Waiting

variable {Item : Type} {waiting trying next : Waiting Item} {action : Action Item} {event : Event Item}
  {item : Item} {place missing : Nat}

/-! ## What a step can do -/

/-- How a thread comes to send: for the first time, or woken. -/
inductive Offers (waiting : Waiting Item) : Action Item → Item → Waiting Item → Prop where
  | comes (item : Item) : Offers waiting (.send item) item waiting
  | returns {place : Nat} {item : Item} (woken : waiting.wokenSenders[place]? = some item) :
      Offers waiting (.sendAgain place) item { waiting with wokenSenders := waiting.wokenSenders.eraseIdx place }

/-- How a thread comes to receive: for the first time, or woken. The sender at `place` is the one it would wake. -/
inductive Asks (waiting : Waiting Item) : Action Item → (place : Nat) → Waiting Item → Prop where
  | comes (place : Nat) : Asks waiting (.receive place) place waiting
  | returns (place : Nat) (woken : waiting.wokenReceivers ≠ 0) :
      Asks waiting (.receiveAgain place) place { waiting with wokenReceivers := waiting.wokenReceivers - 1 }

/-- The same threads at a channel with other items in its queue. -/
def holding (waiting : Waiting Item) (queue : List Item) : Waiting Item :=
  { waiting with channel := { waiting.channel with queue } }

/-- What a step does, with all that it depends on. While a thread is `trying`, it is no longer among those that are
woken, and the channel and all others are as they were. -/
inductive Turn (waiting : Waiting Item) : Action Item → Event Item → Waiting Item → Prop where
  | sends {action : Action Item} {item : Item} {trying : Waiting Item} (offers : Offers waiting action item trying)
      (opened : trying.channel.closed = false) (room : trying.channel.queue.length < trying.channel.capacity) :
      Turn waiting action (.sent true) (trying.holding (trying.channel.queue ++ [item])).notifyReceiver
  | isRefused {action : Action Item} {item : Item} {trying : Waiting Item}
      (offers : Offers waiting action item trying) (closed : trying.channel.closed = true) :
      Turn waiting action (.sent false) trying
  | parksSender {action : Action Item} {item : Item} {trying : Waiting Item}
      (offers : Offers waiting action item trying) (opened : trying.channel.closed = false)
      (full : trying.channel.capacity ≤ trying.channel.queue.length) :
      Turn waiting action .parked { trying with parkedSenders := trying.parkedSenders ++ [item] }
  | receives {action : Action Item} {place : Nat} {item : Item} {rest : List Item} {trying next : Waiting Item}
      (asks : Asks waiting action place trying) (front : trying.channel.queue = item :: rest)
      (notified : (trying.holding rest).notifySender? place = some next) :
      Turn waiting action (.received (some item)) next
  | findsDrained {action : Action Item} {place : Nat} {trying : Waiting Item}
      (asks : Asks waiting action place trying) (closed : trying.channel.closed = true) :
      Turn waiting action (.received none) trying
  | parksReceiver {action : Action Item} {place : Nat} {trying : Waiting Item}
      (asks : Asks waiting action place trying) (opened : trying.channel.closed = false)
      (empty : trying.channel.queue = []) :
      Turn waiting action .parked { trying with parkedReceivers := trying.parkedReceivers + 1 }
  | closes : Turn waiting .close .closed waiting.closeAndWake
  | rousesSender {place : Nat} {next : Waiting Item} (roused : waiting.rouse? place = some next) :
      Turn waiting (.rouseSender place) .roused next
  | rousesReceiver (parked : waiting.parkedReceivers ≠ 0) :
      Turn waiting .rouseReceiver .roused waiting.notifyReceiver

theorem turn_of_attemptSend (offers : Offers waiting action item trying) :
    Turn waiting action (trying.attemptSend item).1 (trying.attemptSend item).2 := by
  cases closed : trying.channel.closed with
  | true =>
      rw [attemptSend, send?_of_closed closed]
      exact .isRefused offers closed
  | false =>
      by_cases room : trying.channel.queue.length < trying.channel.capacity
      · rw [attemptSend, send?_of_room closed room]
        exact .sends offers closed room
      · have full := Nat.le_of_not_lt room
        rw [attemptSend, send?_eq_none_iff.mpr ⟨closed, full⟩]
        exact .parksSender offers closed full

theorem turn_of_attemptReceive? (asks : Asks waiting action place trying)
    (attempted : trying.attemptReceive? place = some (event, next)) : Turn waiting action event next := by
  cases front : trying.channel.queue with
  | nil =>
      rw [attemptReceive?, receive?_of_nil front] at attempted
      cases closed : trying.channel.closed with
      | true =>
          simp only [closed, if_true] at attempted
          cases attempted
          exact .findsDrained asks closed
      | false =>
          simp only [closed, Bool.false_eq_true, if_false] at attempted
          cases attempted
          exact .parksReceiver asks closed front
  | cons item rest =>
      rw [attemptReceive?, receive?_of_cons front] at attempted
      obtain ⟨notified, notify, same⟩ := Option.map_eq_some_iff.mp attempted
      cases same
      exact .receives asks front notify

/-- The inversion of a step. -/
theorem turn_of_step? (stepped : waiting.step? action = some (event, next)) : Turn waiting action event next := by
  cases action with
  | send item =>
      obtain ⟨rfl, rfl⟩ := Prod.mk.inj (Option.some.inj stepped)
      exact turn_of_attemptSend (.comes item)
  | sendAgain place =>
      obtain ⟨item, woken, same⟩ := Option.map_eq_some_iff.mp stepped
      obtain ⟨rfl, rfl⟩ := Prod.mk.inj same
      exact turn_of_attemptSend (.returns woken)
  | receive place => exact turn_of_attemptReceive? (.comes place) stepped
  | receiveAgain place =>
      rw [step?] at stepped
      split at stepped
      · cases stepped
      · rename_i woken
        exact turn_of_attemptReceive? (.returns place woken) stepped
  | close =>
      cases stepped
      exact .closes
  | rouseSender place =>
      obtain ⟨roused, rouse, same⟩ := Option.map_eq_some_iff.mp stepped
      cases same
      exact .rousesSender rouse
  | rouseReceiver =>
      rw [step?] at stepped
      split at stepped
      · cases stepped
      · rename_i parked
        cases stepped
        exact .rousesReceiver parked

/-! ## Whom a notification is for -/

/-- Where senders are parked the channel is open, and others are woken for all free places but `missing`. -/
def AlertsSenders (waiting : Waiting Item) (missing : Nat) : Prop :=
  waiting.parkedSenders ≠ [] →
    waiting.channel.closed = false ∧
      waiting.channel.capacity ≤ waiting.channel.queue.length + waiting.wokenSenders.length + missing

/-- Where receivers are parked the channel is open, and others are woken for all queued items but `missing`. -/
def AlertsReceivers (waiting : Waiting Item) (missing : Nat) : Prop :=
  waiting.parkedReceivers ≠ 0 →
    waiting.channel.closed = false ∧ waiting.channel.queue.length ≤ waiting.wokenReceivers + missing

/-- A sender that is woken makes up for a place that is missing. -/
theorem AlertsSenders.rouse? (alerts : waiting.AlertsSenders missing) (roused : waiting.rouse? place = some next) :
    next.AlertsSenders (missing - 1) := by
  obtain ⟨item, parked, rfl⟩ := Option.map_eq_some_iff.mp roused
  intro _
  have somebody : waiting.parkedSenders ≠ [] := by
    intro nobody
    rw [nobody] at parked
    cases parked
  obtain ⟨opened, enough⟩ := alerts somebody
  refine ⟨opened, ?_⟩
  simp only [List.length_append, List.length_singleton]
  omega

theorem AlertsSenders.notifySender? (alerts : waiting.AlertsSenders missing)
    (notified : waiting.notifySender? place = some next) : next.AlertsSenders (missing - 1) := by
  unfold Waiting.notifySender? at notified
  split at notified
  · rename_i nobody
    cases notified
    exact fun somebody => absurd (List.isEmpty_iff.mp nobody) somebody
  · exact alerts.rouse? notified

/-- A receiver that is woken makes up for an item that is missing. -/
theorem AlertsReceivers.notifyReceiver (alerts : waiting.AlertsReceivers missing) :
    waiting.notifyReceiver.AlertsReceivers (missing - 1) := by
  intro somebody
  by_cases nobody : waiting.parkedReceivers = 0
  · rw [Waiting.notifyReceiver, if_pos nobody] at somebody
    exact absurd nobody somebody
  · obtain ⟨opened, enough⟩ := alerts nobody
    rw [Waiting.notifyReceiver, if_neg nobody]
    refine ⟨opened, ?_⟩
    simp only
    omega

/-- To wake a receiver is nothing to senders. -/
theorem AlertsSenders.notifyReceiver (alerts : waiting.AlertsSenders missing) :
    waiting.notifyReceiver.AlertsSenders missing := by
  unfold Waiting.notifyReceiver
  split <;> exact alerts

/-- To wake a sender is nothing to receivers. -/
theorem AlertsReceivers.rouse? (alerts : waiting.AlertsReceivers missing)
    (roused : waiting.rouse? place = some next) : next.AlertsReceivers missing := by
  obtain ⟨item, _, rfl⟩ := Option.map_eq_some_iff.mp roused
  exact alerts

theorem AlertsReceivers.notifySender? (alerts : waiting.AlertsReceivers missing)
    (notified : waiting.notifySender? place = some next) : next.AlertsReceivers missing := by
  unfold Waiting.notifySender? at notified
  split at notified
  · cases notified
    exact alerts
  · exact alerts.rouse? notified

/-- A place that is taken is not missing any longer. -/
theorem AlertsSenders.push (alerts : waiting.AlertsSenders (missing + 1)) (item : Item) :
    (waiting.holding (waiting.channel.queue ++ [item])).AlertsSenders missing := by
  intro somebody
  obtain ⟨opened, enough⟩ := alerts somebody
  refine ⟨opened, ?_⟩
  simp only [holding, List.length_append, List.length_singleton]
  omega

theorem AlertsReceivers.push (alerts : waiting.AlertsReceivers missing) (item : Item) :
    (waiting.holding (waiting.channel.queue ++ [item])).AlertsReceivers (missing + 1) := by
  intro somebody
  obtain ⟨opened, enough⟩ := alerts somebody
  refine ⟨opened, ?_⟩
  simp only [holding, List.length_append, List.length_singleton]
  omega

/-- An item that is taken is not missing any longer. -/
theorem AlertsReceivers.pop (alerts : waiting.AlertsReceivers (missing + 1)) {rest : List Item}
    (front : waiting.channel.queue = item :: rest) : (waiting.holding rest).AlertsReceivers missing := by
  intro somebody
  obtain ⟨opened, enough⟩ := alerts somebody
  rw [front, List.length_cons] at enough
  exact ⟨opened, Nat.le_of_succ_le_succ enough⟩

theorem AlertsSenders.pop (alerts : waiting.AlertsSenders missing) {rest : List Item}
    (front : waiting.channel.queue = item :: rest) : (waiting.holding rest).AlertsSenders (missing + 1) := by
  intro somebody
  obtain ⟨opened, enough⟩ := alerts somebody
  rw [front, List.length_cons] at enough
  refine ⟨opened, ?_⟩
  simp only [holding]
  omega

/-! ## What every step keeps -/

/-- Nobody is left parked beside a place or an item for which nobody is woken. -/
structure IsAlert (waiting : Waiting Item) : Prop where
  senders : waiting.AlertsSenders 0
  receivers : waiting.AlertsReceivers 0

theorem isAlert_start (channel : BoundedChannel Item) : IsAlert { channel } :=
  ⟨fun somebody => absurd rfl somebody, fun somebody => absurd rfl somebody⟩

/-- Who comes to send leaves the channel and the receivers as they were, and of the woken senders misses at most
itself. -/
theorem Offers.alert (offers : Offers waiting action item trying) (alert : waiting.IsAlert) :
    trying.AlertsSenders 1 ∧ trying.AlertsReceivers 0 := by
  cases offers with
  | comes =>
      refine ⟨fun somebody => ?_, alert.receivers⟩
      obtain ⟨opened, enough⟩ := alert.senders somebody
      exact ⟨opened, Nat.le_succ_of_le enough⟩
  | returns woken =>
      refine ⟨fun somebody => ?_, alert.receivers⟩
      obtain ⟨opened, enough⟩ := alert.senders somebody
      obtain ⟨inside, _⟩ := List.getElem?_eq_some_iff.mp woken
      refine ⟨opened, ?_⟩
      simp only [List.length_eraseIdx_of_lt inside]
      omega

/-- Who comes to receive leaves the channel and the senders as they were, and of the woken receivers misses at most
itself. -/
theorem Asks.alert (asks : Asks waiting action place trying) (alert : waiting.IsAlert) :
    trying.AlertsSenders 0 ∧ trying.AlertsReceivers 1 := by
  cases asks with
  | comes =>
      refine ⟨alert.senders, fun somebody => ?_⟩
      obtain ⟨opened, enough⟩ := alert.receivers somebody
      exact ⟨opened, Nat.le_succ_of_le enough⟩
  | returns place woken =>
      refine ⟨alert.senders, fun somebody => ?_⟩
      obtain ⟨opened, enough⟩ := alert.receivers somebody
      refine ⟨opened, ?_⟩
      simp only
      omega

/-- At a closed channel nobody is parked, so that nobody misses anything. -/
theorem isAlert_of_closed {otherMissing : Nat} (closed : waiting.channel.closed = true)
    (senders : waiting.AlertsSenders missing) (receivers : waiting.AlertsReceivers otherMissing) :
    waiting.IsAlert := by
  constructor
  · intro somebody
    have opened := (senders somebody).1
    rw [closed] at opened
    cases opened
  · intro somebody
    have opened := (receivers somebody).1
    rw [closed] at opened
    cases opened

theorem IsAlert.turn (alert : waiting.IsAlert) (turn : Turn waiting action event next) : next.IsAlert := by
  cases turn with
  | sends offers opened room =>
      -- the sender takes the place that it may have been woken for, and its item is announced to a receiver
      obtain ⟨senders, receivers⟩ := offers.alert alert
      exact ⟨(senders.push _).notifyReceiver, (receivers.push _).notifyReceiver⟩
  | isRefused offers closed =>
      obtain ⟨senders, receivers⟩ := offers.alert alert
      exact isAlert_of_closed closed senders receivers
  | parksSender offers opened full =>
      obtain ⟨_, receivers⟩ := offers.alert alert
      exact ⟨fun _ => ⟨opened, Nat.le_trans full (Nat.le_add_right _ _)⟩, receivers⟩
  | receives asks front notified =>
      -- the receiver takes the item that it may have been woken for, and its place is announced to a sender
      obtain ⟨senders, receivers⟩ := asks.alert alert
      exact ⟨(senders.pop front).notifySender? notified, (receivers.pop front).notifySender? notified⟩
  | findsDrained asks closed =>
      obtain ⟨senders, receivers⟩ := asks.alert alert
      exact isAlert_of_closed closed senders receivers
  | parksReceiver asks opened empty =>
      obtain ⟨senders, _⟩ := asks.alert alert
      refine ⟨senders, fun _ => ⟨opened, ?_⟩⟩
      simp only [empty]
      exact Nat.zero_le _
  | closes => exact ⟨fun somebody => absurd rfl somebody, fun somebody => absurd rfl somebody⟩
  | rousesSender roused => exact ⟨alert.senders.rouse? roused, alert.receivers.rouse? roused⟩
  | rousesReceiver parked => exact ⟨alert.senders.notifyReceiver, alert.receivers.notifyReceiver⟩

theorem isAlert_run (channel : BoundedChannel Item) (schedule : List (Action Item)) :
    (run { channel } schedule).2.IsAlert :=
  run_induction (fun alert stepped => alert.turn (turn_of_step? stepped)) (isAlert_start channel) schedule

/-! ## Nobody waits in vain -/

/-- Where senders are parked and none is woken, there is no place to send to. -/
theorem IsAlert.send?_eq_none (alert : waiting.IsAlert) (parked : waiting.parkedSenders ≠ [])
    (asleep : waiting.wokenSenders = []) (item : Item) : waiting.channel.send? item = none := by
  obtain ⟨opened, enough⟩ := alert.senders parked
  rw [asleep] at enough
  exact send?_eq_none_iff.mpr ⟨opened, enough⟩

/-- Where receivers are parked and none is woken, there is nothing to receive. -/
theorem IsAlert.receive?_eq_none (alert : waiting.IsAlert) (parked : waiting.parkedReceivers ≠ 0)
    (asleep : waiting.wokenReceivers = 0) : waiting.channel.receive? = none := by
  obtain ⟨opened, enough⟩ := alert.receivers parked
  rw [asleep] at enough
  exact receive?_eq_none_iff.mpr ⟨opened, List.length_eq_zero_iff.mp (Nat.le_zero.mp enough)⟩

end Courier.BoundedChannel.Waiting
