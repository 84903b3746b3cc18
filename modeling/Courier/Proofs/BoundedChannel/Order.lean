import Courier.BoundedChannel.Waiting

/-!
# Order through a bounded channel

Whatever threads send, receive, wait, wake and close in whatever order, what has
been received and what is queued are together what was taken, in the order in
which it was taken. One step passes at most one item; the account of a whole run
is added up from its steps. A closed channel keeps nobody waiting, and gives out
what is queued before it tells that it is drained.
-/

namespace Courier.BoundedChannel

variable {Item : Type} {channel : BoundedChannel Item} {item : Item}

/-! ## Single operations -/

theorem send?_of_closed (closed : channel.closed = true) : channel.send? item = some (false, channel) :=
  if_pos closed

theorem send?_of_room (opened : channel.closed = false) (room : channel.queue.length < channel.capacity) :
    channel.send? item = some (true, { channel with queue := channel.queue ++ [item] }) := by
  rw [send?, opened, if_neg Bool.false_ne_true, if_pos room]

theorem send?_eq_none_iff :
    channel.send? item = none ↔ channel.closed = false ∧ channel.capacity ≤ channel.queue.length := by
  unfold send?
  split
  · simp [*]
  · split <;> simp_all

theorem receive?_of_cons {rest : List Item} (front : channel.queue = item :: rest) :
    channel.receive? = some (some item, { channel with queue := rest }) := by
  rw [receive?, front]

theorem receive?_of_nil (empty : channel.queue = []) :
    channel.receive? = if channel.closed then some (none, channel) else none := by
  rw [receive?, empty]

theorem receive?_eq_none_iff : channel.receive? = none ↔ channel.closed = false ∧ channel.queue = [] := by
  cases front : channel.queue with
  | nil => simp [receive?_of_nil front]
  | cons item rest => simp [receive?_of_cons front]

/-- Only what is closed and empty counts as drained. -/
theorem receive?_eq_drained_iff {next : BoundedChannel Item} :
    channel.receive? = some (none, next) ↔ channel.closed = true ∧ channel.queue = [] ∧ channel = next := by
  cases front : channel.queue with
  | nil => simp [receive?_of_nil front]
  | cons item rest => simp [receive?_of_cons front]

namespace Waiting

variable {waiting next : Waiting Item} {action : Action Item} {event : Event Item}

/-! ## Single steps -/

/-- The item that a step tries to send. -/
def offered? (waiting : Waiting Item) : Action Item → Option Item
  | .send item => some item
  | .sendAgain place => waiting.wokenSenders[place]?
  | _ => none

/-- The item that a step has sent. -/
def sent? (offered : Option Item) : Event Item → Option Item
  | .sent true => offered
  | _ => none

/-- The item that a step has received. -/
def received? : Event Item → Option Item
  | .received item => item
  | _ => none

/-- What a step does to the channel: it passes an item in or out, closes the channel or leaves it. -/
inductive Passage (channel : BoundedChannel Item) (offered : Option Item) :
    Event Item → BoundedChannel Item → Prop where
  | takes (item : Item) (holds : offered = some item) (opened : channel.closed = false)
      (room : channel.queue.length < channel.capacity) :
      Passage channel offered (.sent true) { channel with queue := channel.queue ++ [item] }
  | refuses (closed : channel.closed = true) : Passage channel offered (.sent false) channel
  | gives (item : Item) (rest : List Item) (front : channel.queue = item :: rest) :
      Passage channel offered (.received (some item)) { channel with queue := rest }
  | drained (closed : channel.closed = true) (empty : channel.queue = []) :
      Passage channel offered (.received none) channel
  | parks (opened : channel.closed = false) : Passage channel offered .parked channel
  | closes : Passage channel offered .closed channel.close
  | rouses : Passage channel offered .roused channel

@[simp] theorem channel_notifyReceiver (waiting : Waiting Item) :
    waiting.notifyReceiver.channel = waiting.channel := by
  unfold notifyReceiver
  split <;> rfl

theorem channel_of_rouse? {place : Nat} (roused : waiting.rouse? place = some next) :
    next.channel = waiting.channel := by
  obtain ⟨item, _, rfl⟩ := Option.map_eq_some_iff.mp roused
  rfl

theorem channel_of_notifySender? {place : Nat} (notified : waiting.notifySender? place = some next) :
    next.channel = waiting.channel := by
  unfold notifySender? at notified
  split at notified
  · cases notified
    rfl
  · exact channel_of_rouse? notified

theorem passage_attemptSend (waiting : Waiting Item) (item : Item) :
    Passage waiting.channel (some item) (waiting.attemptSend item).1 (waiting.attemptSend item).2.channel := by
  cases closed : waiting.channel.closed with
  | true =>
      rw [attemptSend, send?_of_closed closed]
      exact .refuses closed
  | false =>
      by_cases room : waiting.channel.queue.length < waiting.channel.capacity
      · rw [attemptSend, send?_of_room closed room]
        simpa using Passage.takes item rfl closed room
      · rw [attemptSend, send?_eq_none_iff.mpr ⟨closed, Nat.le_of_not_lt room⟩]
        exact .parks closed

theorem passage_attemptReceive? {woken : Nat} (offered : Option Item)
    (attempted : waiting.attemptReceive? woken = some (event, next)) :
    Passage waiting.channel offered event next.channel := by
  cases front : waiting.channel.queue with
  | nil =>
      rw [attemptReceive?, receive?_of_nil front] at attempted
      cases closed : waiting.channel.closed with
      | true =>
          simp only [closed, if_true] at attempted
          cases attempted
          exact .drained closed front
      | false =>
          simp only [closed, Bool.false_eq_true, if_false] at attempted
          cases attempted
          exact .parks closed
  | cons item rest =>
      rw [attemptReceive?, receive?_of_cons front] at attempted
      obtain ⟨notified, notify, same⟩ := Option.map_eq_some_iff.mp attempted
      cases same
      rw [channel_of_notifySender? notify]
      exact .gives item rest front

/-- Every step passes at most one item, which is the one that its thread offers or the oldest. -/
theorem passage (step : waiting.step? action = some (event, next)) :
    Passage waiting.channel (waiting.offered? action) event next.channel := by
  cases action with
  | send item =>
      obtain ⟨rfl, rfl⟩ := Prod.mk.inj (Option.some.inj step)
      exact passage_attemptSend waiting item
  | sendAgain place =>
      obtain ⟨item, holds, same⟩ := Option.map_eq_some_iff.mp step
      obtain ⟨rfl, rfl⟩ := Prod.mk.inj same
      rw [offered?, holds]
      exact passage_attemptSend { waiting with wokenSenders := waiting.wokenSenders.eraseIdx place } item
  | receive woken => exact passage_attemptReceive? _ step
  | receiveAgain woken =>
      rw [step?] at step
      split at step
      · cases step
      · exact (passage_attemptReceive? (waiting.offered? (.receiveAgain woken)) step :)
  | close =>
      cases step
      exact .closes
  | rouseSender place =>
      obtain ⟨roused, rouse, same⟩ := Option.map_eq_some_iff.mp step
      cases same
      rw [channel_of_rouse? rouse]
      exact .rouses
  | rouseReceiver =>
      rw [step?] at step
      split at step
      · cases step
      · cases step
        rw [channel_notifyReceiver]
        exact .rouses

namespace Passage

variable {offered : Option Item} {after : BoundedChannel Item}

/-- What comes out first and what stays are what was queued and what goes in. -/
theorem conserves (passage : Passage channel offered event after) :
    (received? event).toList ++ after.queue = channel.queue ++ (sent? offered event).toList := by
  cases passage with
  | takes item holds opened room => simp [received?, sent?, holds]
  | gives item rest front => simp [received?, sent?, front]
  | refuses _ => simp [received?, sent?]
  | drained _ _ => simp [received?, sent?]
  | parks _ => simp [received?, sent?]
  | closes => simp [received?, sent?, BoundedChannel.close]
  | rouses => simp [received?, sent?]

theorem capacity_eq (passage : Passage channel offered event after) : after.capacity = channel.capacity := by
  cases passage <;> rfl

theorem within (passage : Passage channel offered event after)
    (fits : channel.queue.length ≤ channel.capacity) : after.queue.length ≤ after.capacity := by
  cases passage with
  | takes item holds opened room => simpa using Nat.succ_le_of_lt room
  | gives item rest front =>
      rw [front, List.length_cons] at fits
      exact Nat.le_of_succ_le fits
  | refuses _ | drained _ _ | parks _ | closes | rouses => exact fits

/-- Only a close closes. -/
theorem closed_iff (passage : Passage channel offered event after) :
    after.closed = true ↔ channel.closed = true ∨ event = .closed := by
  cases passage <;> simp [BoundedChannel.close]

/-- A closed channel takes nothing. -/
theorem sent?_of_closed (passage : Passage channel offered event after) (closed : channel.closed = true) :
    sent? offered event = none := by
  cases passage with
  | takes item holds opened room => simp [opened] at closed
  | gives | refuses | drained | parks | closes | rouses => rfl

end Passage

/-- A closed channel keeps no thread parked. -/
def Frees (waiting : Waiting Item) : Prop :=
  waiting.channel.closed = true → waiting.parkedSenders = [] ∧ waiting.parkedReceivers = 0

theorem Frees.attemptSend (frees : waiting.Frees) (item : Item) : (waiting.attemptSend item).2.Frees := by
  cases closed : waiting.channel.closed with
  | true =>
      rw [Waiting.attemptSend, send?_of_closed closed]
      exact frees
  | false =>
      suffices opened : (waiting.attemptSend item).2.channel.closed = false by simp [Frees, opened]
      by_cases room : waiting.channel.queue.length < waiting.channel.capacity
      · simp [Waiting.attemptSend, send?_of_room closed room, closed]
      · simp [Waiting.attemptSend, send?_eq_none_iff.mpr ⟨closed, Nat.le_of_not_lt room⟩, closed]

theorem Frees.notifySender? {place : Nat} (frees : waiting.Frees)
    (notified : waiting.notifySender? place = some next) : next.Frees := by
  unfold Waiting.notifySender? at notified
  split at notified
  · cases notified
    exact frees
  · rename_i waits
    intro closed
    rw [channel_of_rouse? notified] at closed
    simp [(frees closed).1] at waits

theorem Frees.attemptReceive? {woken : Nat} (frees : waiting.Frees)
    (attempted : waiting.attemptReceive? woken = some (event, next)) : next.Frees := by
  cases front : waiting.channel.queue with
  | nil =>
      rw [Waiting.attemptReceive?, receive?_of_nil front] at attempted
      cases closed : waiting.channel.closed with
      | true =>
          simp only [closed, if_true] at attempted
          cases attempted
          exact frees
      | false =>
          simp only [closed, Bool.false_eq_true, if_false] at attempted
          cases attempted
          simp [Frees, closed]
  | cons item rest =>
      rw [Waiting.attemptReceive?, receive?_of_cons front] at attempted
      obtain ⟨notified, notify, same⟩ := Option.map_eq_some_iff.mp attempted
      obtain ⟨_, rfl⟩ := Prod.mk.inj same
      have before : Frees { waiting with channel := { waiting.channel with queue := rest } } := frees
      exact before.notifySender? notify

theorem Frees.step (frees : waiting.Frees) (step : waiting.step? action = some (event, next)) : next.Frees := by
  cases action with
  | send item =>
      obtain ⟨_, rfl⟩ := Prod.mk.inj (Option.some.inj step)
      exact frees.attemptSend item
  | sendAgain place =>
      obtain ⟨item, _, same⟩ := Option.map_eq_some_iff.mp step
      obtain ⟨_, rfl⟩ := Prod.mk.inj same
      have before : Frees { waiting with wokenSenders := waiting.wokenSenders.eraseIdx place } := frees
      exact before.attemptSend item
  | receive woken => exact frees.attemptReceive? step
  | receiveAgain woken =>
      rw [step?] at step
      split at step
      · cases step
      · have before : Frees { waiting with wokenReceivers := waiting.wokenReceivers - 1 } := frees
        exact before.attemptReceive? step
  | close =>
      cases step
      exact fun _ => ⟨rfl, rfl⟩
  | rouseSender place =>
      obtain ⟨roused, rouse, same⟩ := Option.map_eq_some_iff.mp step
      obtain ⟨_, rfl⟩ := Prod.mk.inj same
      intro closed
      rw [channel_of_rouse? rouse] at closed
      simp [Waiting.rouse?, (frees closed).1] at rouse
  | rouseReceiver =>
      rw [step?] at step
      split at step
      · cases step
      · rename_i waits
        obtain ⟨_, rfl⟩ := Prod.mk.inj (Option.some.inj step)
        intro closed
        rw [channel_notifyReceiver] at closed
        exact absurd (frees closed).2 waits

/-! ## Runs -/

/-- The items that the sends of a run have put into the channel, in order. -/
def accepted (waiting : Waiting Item) : List (Action Item) → List Item
  | [] => []
  | action :: rest =>
      match waiting.step? action with
      | none => []
      | some (event, next) => (sent? (waiting.offered? action) event).toList ++ accepted next rest

/-- The items that the receives of a run have got out of the channel, in order. -/
def received (events : List (Event Item)) : List Item := events.filterMap received?

/-- A step and a run from where it leads, or no step at all. -/
theorem run_cons (waiting : Waiting Item) (action : Action Item) (rest : List (Action Item)) :
    waiting.run (action :: rest) =
      match waiting.step? action with
      | none => ([], waiting)
      | some (event, next) => (event :: (next.run rest).1, (next.run rest).2) := by
  cases stepped : waiting.step? action with
  | none => simp only [run, stepped]
  | some pair => simp only [run, stepped]

/-- What every step keeps holds at the end of every run. -/
theorem run_induction {motive : Waiting Item → Prop}
    (step : ∀ {waiting next action event}, motive waiting →
      waiting.step? action = some (event, next) → motive next)
    (start : motive waiting) (schedule : List (Action Item)) : motive (waiting.run schedule).2 := by
  induction schedule generalizing waiting with
  | nil => exact start
  | cons action rest ih =>
      rw [run_cons]
      split
      · exact start
      · rename_i event next stepped
        exact ih (step start stepped)

/-- What has been received and what is queued are what was queued and what has been taken since. -/
theorem received_run (waiting : Waiting Item) (schedule : List (Action Item)) :
    received (waiting.run schedule).1 ++ (waiting.run schedule).2.channel.queue =
      waiting.channel.queue ++ waiting.accepted schedule := by
  induction schedule generalizing waiting with
  | nil => simp [run, accepted, received]
  | cons action rest ih =>
      rw [run_cons, accepted]
      split
      · simp [received]
      · rename_i event next step
        have first := (passage step).conserves
        calc received (event :: (next.run rest).1) ++ (next.run rest).2.channel.queue
            = (received? event).toList ++
                (received (next.run rest).1 ++ (next.run rest).2.channel.queue) := by
              cases got : received? event <;> simp [received, got]
          _ = ((received? event).toList ++ next.channel.queue) ++ next.accepted rest := by
              rw [ih, List.append_assoc]
          _ = waiting.channel.queue ++
                ((sent? (waiting.offered? action) event).toList ++ next.accepted rest) := by
              rw [first, List.append_assoc]

/-- Once the channel is closed, no run puts anything into it. -/
theorem accepted_of_closed (closed : waiting.channel.closed = true) (schedule : List (Action Item)) :
    waiting.accepted schedule = [] := by
  induction schedule generalizing waiting with
  | nil => rfl
  | cons action rest ih =>
      rw [accepted]
      split
      · rfl
      · rename_i event next step
        rw [(passage step).sent?_of_closed closed, ih ((passage step).closed_iff.mpr (.inl closed))]
        rfl

theorem capacity_run (waiting : Waiting Item) (schedule : List (Action Item)) :
    (waiting.run schedule).2.channel.capacity = waiting.channel.capacity :=
  run_induction (motive := fun now => now.channel.capacity = waiting.channel.capacity)
    (fun same step => (passage step).capacity_eq.trans same) rfl schedule

theorem length_run_le (fits : waiting.channel.queue.length ≤ waiting.channel.capacity)
    (schedule : List (Action Item)) :
    (waiting.run schedule).2.channel.queue.length ≤ waiting.channel.capacity := by
  rw [← waiting.capacity_run schedule]
  exact run_induction (motive := fun now => now.channel.queue.length ≤ now.channel.capacity)
    (fun fits step => (passage step).within fits) fits schedule

/-- The channel is closed at the end of a run if it was before it or a step has closed it. -/
theorem closed_run (waiting : Waiting Item) (schedule : List (Action Item)) :
    (waiting.run schedule).2.channel.closed = true ↔
      waiting.channel.closed = true ∨ .closed ∈ (waiting.run schedule).1 := by
  induction schedule generalizing waiting with
  | nil => simp [run]
  | cons action rest ih =>
      rw [run_cons]
      split
      · simp
      · rename_i event next step
        rw [ih, (passage step).closed_iff, List.mem_cons, or_assoc, eq_comm (a := event)]

/-- A closed channel gives out what is queued, and then tells that it is drained. -/
theorem run_receives_of_closed (frees : waiting.Frees) (closed : waiting.channel.closed = true) :
    (waiting.run (List.replicate (waiting.channel.queue.length + 1) (.receive 0))).1 =
      waiting.channel.queue.map (fun item => .received (some item)) ++ [.received none] := by
  generalize queued : waiting.channel.queue = items
  induction items generalizing waiting with
  | nil => simp [run_cons, step?, attemptReceive?, receive?_of_nil queued, closed, run]
  | cons item rest ih =>
      have nobody : waiting.parkedSenders = [] := (frees closed).1
      rw [List.length_cons, List.replicate_succ, run_cons]
      have step : waiting.step? (.receive 0) = some (.received (some item),
          { waiting with channel := { waiting.channel with queue := rest } }) := by
        simp [step?, attemptReceive?, receive?_of_cons queued, Waiting.notifySender?, nobody]
      rw [step]
      simpa using ih (frees.step step) closed rfl

/-- Items leave in the order in which they were taken, none is lost and none comes twice, however
many threads send, receive and close in whatever order. There are never more than fit; a send has to
wait only while the channel is open and full, a receive only while it is open and empty, and so never
both. Once closed, the channel takes nothing more and keeps nobody waiting, gives out what is queued,
and is drained as soon as everything that it took has been received. -/
theorem passes_in_order (capacity : Nat) (positive : 0 < capacity) :
    ∃ channel : BoundedChannel Item, ofCapacity capacity = .ok channel ∧
      ∀ (schedule : List (Action Item)) (events : List (Event Item)) (now : Waiting Item),
        run { channel } schedule = (events, now) →
          received events ++ now.channel.queue = accepted { channel } schedule ∧
          now.channel.size ≤ capacity ∧
          (∀ item, now.channel.send? item = none ↔ .closed ∉ events ∧ now.channel.size = capacity) ∧
          (now.channel.receive? = none ↔ .closed ∉ events ∧ now.channel.size = 0) ∧
          (∀ item, ¬(now.channel.send? item = none ∧ now.channel.receive? = none)) ∧
          ((∃ after, now.channel.receive? = some (none, after)) ↔
            .closed ∈ events ∧ received events = accepted { channel } schedule) ∧
          (.closed ∈ events →
            (∀ item, now.channel.send? item = some (false, now.channel)) ∧
            (∀ later, now.accepted later = []) ∧
            now.parkedSenders = [] ∧ now.parkedReceivers = 0 ∧
            (now.run (List.replicate (now.channel.size + 1) (.receive 0))).1 =
              now.channel.queue.map (fun item => .received (some item)) ++ [.received none]) := by
  let empty : BoundedChannel Item := ⟨capacity, [], false, positive⟩
  refine ⟨empty, dif_pos positive, ?_⟩
  intro schedule events now ran
  obtain ⟨rfl, rfl⟩ := Prod.mk.inj ran
  generalize history : (run { channel := empty } schedule).1 = events
  generalize reached : (run { channel := empty } schedule).2 = now
  have conserved : received events ++ now.channel.queue = accepted { channel := empty } schedule := by
    rw [← history, ← reached]
    exact received_run { channel := empty } schedule
  have bound : now.channel.capacity = capacity := by
    rw [← reached]
    exact capacity_run { channel := empty } schedule
  have fits : now.channel.size ≤ capacity := by
    rw [← reached]
    have start : ({ channel := empty } : Waiting Item).channel.queue.length ≤ capacity := Nat.zero_le _
    exact length_run_le start schedule
  have closed : now.channel.closed = true ↔ .closed ∈ events := by
    rw [← history, ← reached]
    simpa [empty] using closed_run { channel := empty } schedule
  have opened : now.channel.closed = false ↔ .closed ∉ events := by
    rw [← closed, Bool.not_eq_true]
  have frees : now.Frees := by
    rw [← reached]
    exact run_induction Frees.step (fun _ => ⟨rfl, rfl⟩) schedule
  have full : ∀ item, now.channel.send? item = none ↔ .closed ∉ events ∧ now.channel.size = capacity := by
    intro item
    rw [send?_eq_none_iff, opened, bound]
    exact and_congr_right fun _ => ⟨fun filled => Nat.le_antisymm fits filled, fun same => Nat.le_of_eq same.symm⟩
  have dry : now.channel.receive? = none ↔ .closed ∉ events ∧ now.channel.size = 0 := by
    rw [receive?_eq_none_iff, opened, size, List.length_eq_zero_iff]
  refine ⟨conserved, fits, full, dry, ?_, ?_, ?_⟩
  · rintro item ⟨noRoom, nothing⟩
    have same := ((full item).mp noRoom).2
    rw [(dry.mp nothing).2] at same
    exact Nat.ne_of_lt positive same
  · simp only [receive?_eq_drained_iff, closed, ← conserved, List.self_eq_append_right]
    simp
  · intro shut
    have shutNow := closed.mpr shut
    refine ⟨fun item => send?_of_closed shutNow, accepted_of_closed shutNow, (frees shutNow).1,
      (frees shutNow).2, run_receives_of_closed frees shutNow⟩

/-- One place: the second sender waits, is woken by the first receiver and has its item taken
before the close, and the third is refused. -/
theorem passes_in_order_crowded :
    (0 < 1) ∧ ∃ channel : BoundedChannel Nat, ofCapacity 1 = .ok channel ∧
      (run { channel } [.send 1, .send 2, .receive 0, .sendAgain 0, .close, .send 3, .receive 0]).1 =
        [.sent true, .parked, .received (some 1), .sent true, .closed, .sent false, .received (some 2)] ∧
      accepted { channel } [.send 1, .send 2, .receive 0, .sendAgain 0, .close, .send 3, .receive 0] = [1, 2] := by
  obtain ⟨channel, made, ordered⟩ := @passes_in_order Nat 1 Nat.one_pos
  cases made
  have passed := ordered
    [.send 1, .send 2, .receive 0, .sendAgain 0, .close, .send 3, .receive 0] _ _ rfl
  exact ⟨Nat.one_pos, _, rfl, rfl, passed.1.symm⟩

end Waiting

end Courier.BoundedChannel
