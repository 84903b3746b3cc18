import Courier.Proofs.BoundedChannel.Waking
import Courier.Proofs.Discovery.Frontier.Completion

/-!
# Single notifications

A channel and a frontier wake one thread for one thing that has come: a place, an item
or a directory. Neither loses a waking by that. Whatever others take in between, and
whoever wakes for no reason, the threads that are woken are as many as the things that
are there, as long as a thread is parked.
-/

namespace Courier

namespace Frontier

/-- Who asks has to wait only while nothing is pending, something is outstanding and nobody has aborted. -/
theorem pop?_eq_none_iff {frontier : Frontier} : frontier.pop? = none ↔
    frontier.aborted = false ∧ frontier.pending = [] ∧ frontier.outstanding ≠ 0 := by
  rcases frontier.pop?_cases with
    ⟨finished, popped⟩ | ⟨path, rest, going, pending, popped⟩ | ⟨going, nothing, outstanding, popped⟩
  · rw [popped]
    refine iff_of_false nofun ?_
    rintro ⟨going, nothing, outstanding⟩
    rcases finished with aborted | ⟨_, none⟩
    · rw [going] at aborted
      cases aborted
    · exact outstanding none
  · rw [popped, pending]
    exact iff_of_false nofun fun ⟨_, never, _⟩ => List.cons_ne_nil _ _ never
  · exact iff_of_true popped ⟨going, nothing, outstanding⟩

namespace Crew

variable {crew : Crew} {history : List Report} {root : String} {visitors : Nat}

/-- Who waits holds nothing. -/
theorem held_add_waits_le (visitor : Visitor) : visitor.held?.toList.length + visitor.waits ≤ 1 := by
  cases visitor <;> simp

theorem length_held_add_waiters_le (crew : Crew) : crew.held.length + crew.waiters ≤ crew.visitors.length := by
  rw [held, waiters]
  induction crew.visitors with
  | nil => exact Nat.le_refl _
  | cons visitor rest ih =>
      have one := held_add_waits_le visitor
      rw [List.map_cons, List.sum_cons, List.length_cons]
      cases holds : visitor.held? with
      | none =>
          rw [List.filterMap_cons_none holds]
          omega
      | some path =>
          rw [holds, Option.toList_some, List.length_singleton] at one
          rw [List.filterMap_cons_some holds, List.length_cons]
          omega

/-- While somebody is parked, two directories for each visitor are all that can be outstanding. -/
theorem IsSound.backlog_le (sound : IsSound root visitors history crew) (parked : crew.waiting.parked ≠ 0) :
    crew.backlog ≤ 2 * visitors := by
  have enough := (sound.alert parked).2.1
  have waits := sound.balanced.waiters
  have hands := crew.length_held_add_waiters_le
  have found := crew.length_found_le_held
  rw [sound.size] at hands
  rw [backlog]
  omega

/-- While somebody is parked the count is not zero, unless visitors are so many that it could wrap. -/
theorem IsSound.outstanding_ne_zero (sound : IsSound root visitors history crew) (few : visitors < 2 ^ 63)
    (parked : crew.waiting.parked ≠ 0) : crew.waiting.frontier.outstanding ≠ 0 := by
  have bound : crew.backlog < 2 ^ 64 := by
    have most := sound.backlog_le parked
    omega
  intro none
  rw [sound.balanced.outstanding] at none
  have zero := congrArg UInt64.toNat none
  rw [UInt64.toNat_ofNat_of_lt' bound] at zero
  exact (sound.alert parked).2.2 zero

end Crew

end Frontier

namespace Waking

open Frontier (Crew)

/-- However many threads share a channel or a frontier: while a sender is parked the channel is open, and other
senders are woken for all its free places; while a receiver is parked it is open, and other receivers are woken for
all that is queued; while a visitor is parked nobody has aborted, others are woken for all that is pending, and
something is outstanding, also by the count unless there are so many visitors that their directories alone could wrap
it. So where a thread is parked and none of its kind is woken, it has to wait. -/
theorem single_notifications_suffice :
    (∀ (Item : Type) (capacity : Nat), 0 < capacity →
      ∃ channel : BoundedChannel Item, BoundedChannel.ofCapacity capacity = .ok channel ∧
        ∀ schedule events now, BoundedChannel.Waiting.run { channel } schedule = (events, now) →
          (.closed ∈ events → now.parkedSenders = [] ∧ now.parkedReceivers = 0) ∧
          (now.parkedSenders ≠ [] →
            .closed ∉ events ∧ capacity - now.channel.size ≤ now.wokenSenders.length ∧
              (now.wokenSenders = [] → ∀ item, now.channel.send? item = none)) ∧
          (now.parkedReceivers ≠ 0 →
            .closed ∉ events ∧ now.channel.size ≤ now.wokenReceivers ∧
              (now.wokenReceivers = 0 → now.channel.receive? = none))) ∧
    ∀ root visitors schedule history crew, (Crew.start root visitors).run schedule = (history, crew) →
      crew.waiting.parked ≠ 0 →
        .aborted ∉ history ∧ crew.waiting.frontier.pending.length ≤ crew.waiting.woken ∧ crew.backlog ≠ 0 ∧
          crew.waiting.frontier.outstanding = UInt64.ofNat crew.backlog ∧
          (visitors < 2 ^ 63 → crew.waiting.frontier.outstanding ≠ 0 ∧
            (crew.waiting.woken = 0 → crew.waiting.frontier.pop? = none)) := by
  refine ⟨fun Item capacity positive => ?_, fun root visitors schedule history crew ran parked => ?_⟩
  · let empty : BoundedChannel Item := ⟨capacity, [], false, positive⟩
    refine ⟨empty, dif_pos positive, fun schedule events now ran => ?_⟩
    have alert := BoundedChannel.Waiting.isAlert_run empty schedule
    have closed := BoundedChannel.Waiting.closed_run { channel := empty } schedule
    have bound := BoundedChannel.Waiting.capacity_run { channel := empty } schedule
    rw [ran] at alert closed bound
    have shut (opened : now.channel.closed = false) : .closed ∉ events := fun member => by
      rw [closed.mpr (.inr member)] at opened
      cases opened
    refine ⟨fun member => ⟨?_, ?_⟩, fun parked => ?_, fun parked => ?_⟩
    · by_contra somebody
      exact shut (alert.senders somebody).1 member
    · by_contra somebody
      exact shut (alert.receivers somebody).1 member
    · obtain ⟨opened, enough⟩ := alert.senders parked
      refine ⟨shut opened, ?_, alert.send?_eq_none parked⟩
      rw [← show now.channel.capacity = capacity from bound]
      exact Nat.sub_le_iff_le_add'.mpr enough
    · obtain ⟨opened, enough⟩ := alert.receivers parked
      exact ⟨shut opened, enough, alert.receive?_eq_none parked⟩
  · have sound : Crew.IsSound root visitors history crew := by
      have run := Crew.IsSound.run root visitors schedule
      rw [ran] at run
      exact run
    obtain ⟨going, enough, something⟩ := sound.alert parked
    refine ⟨fun aborted => ?_, enough, something, sound.balanced.outstanding, fun few => ?_⟩
    · rw [sound.traced.aborted.mpr aborted] at going
      cases going
    · have outstanding := sound.outstanding_ne_zero few parked
      refine ⟨outstanding, fun asleep => Frontier.pop?_eq_none_iff.mpr ⟨going, ?_, outstanding⟩⟩
      rw [asleep] at enough
      exact List.length_eq_zero_iff.mp (Nat.le_zero.mp enough)

/-- A visitor that was not woken takes what another was woken for, and that one parks again. -/
def intrusion : List Crew.Action :=
  [.visit 0 .pop, .visit 1 .pop, .visit 2 .pop, .visit 0 (.push "inner"), .visit 0 .enqueue, .visit 0 .complete,
    .visit 0 .pop, .visit 1 .pop]

/-- Threads that come in between take the one place, the one item and the one directory for which others were woken.
Then nobody is woken, and who is parked has to wait; a close wakes everybody. -/
theorem single_notifications_suffice_intruded :
    0 < 1 ∧ ∃ channel : BoundedChannel Nat, BoundedChannel.ofCapacity 1 = .ok channel ∧
      (∃ events now, BoundedChannel.Waiting.run { channel }
          [.send 1, .send 2, .send 3, .receive 0, .send 4, .sendAgain 0] = (events, now) ∧
        now.parkedSenders = [3, 2] ∧ now.wokenSenders = [] ∧ ∀ item, now.channel.send? item = none) ∧
      (∃ events now, BoundedChannel.Waiting.run { channel }
          [.receive 0, .receive 0, .send 1, .receive 0, .receiveAgain 0] = (events, now) ∧
        now.parkedReceivers = 2 ∧ now.wokenReceivers = 0 ∧ now.channel.receive? = none) ∧
      (∃ events now, BoundedChannel.Waiting.run { channel } [.receive 0, .close] = (events, now) ∧
        .closed ∈ events ∧ now.parkedReceivers = 0) ∧
      3 < 2 ^ 63 ∧ ∃ history crew, (Crew.start "" 3).run intrusion = (history, crew) ∧
        crew.waiting.parked = 2 ∧ crew.waiting.woken = 0 ∧ crew.waiting.frontier.outstanding ≠ 0 ∧
        crew.waiting.frontier.pop? = none := by
  obtain ⟨channel, made, enough⟩ := single_notifications_suffice.1 Nat 1 Nat.one_pos
  cases made
  have ran : (Crew.start "" 3).run intrusion =
      ([.took "", .parked, .parked, .pushed "inner", .queued "inner", .completed "", .took "inner", .parked],
        ⟨{ frontier := ⟨[], 1, false⟩, parked := 2 }, [.visiting "inner", .waiting, .waiting]⟩) := rfl
  have few : 3 < 2 ^ 63 := by decide
  refine ⟨Nat.one_pos, _, rfl, ⟨_, _, rfl, rfl, rfl, ?_⟩, ⟨_, _, rfl, rfl, rfl, ?_⟩, ⟨_, _, rfl, ?_, ?_⟩, few,
    _, _, ran, rfl, rfl, ?_⟩
  · obtain ⟨_, senders, _⟩ := enough [.send 1, .send 2, .send 3, .receive 0, .send 4, .sendAgain 0] _ _ rfl
    exact (senders (by decide)).2.2 rfl
  · obtain ⟨_, _, receivers⟩ := enough [.receive 0, .receive 0, .send 1, .receive 0, .receiveAgain 0] _ _ rfl
    exact (receivers (by decide)).2.2 rfl
  · decide
  · exact ((enough [.receive 0, .close] _ _ rfl).1 (by decide)).2
  · obtain ⟨_, _, _, _, counts⟩ := single_notifications_suffice.2 "" 3 intrusion _ _ ran (by decide)
    obtain ⟨outstanding, waits⟩ := counts few
    exact ⟨outstanding, waits rfl⟩

end Waking

end Courier
