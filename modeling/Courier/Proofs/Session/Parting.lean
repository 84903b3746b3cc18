import Courier.Proofs.Session.Conversation
import Courier.Proofs.Session.Serving
import Courier.Session.Parting

/-!
# Both sides leaving at once

Of the two threads, the first reads the state, marks the peer as gone and moves the
state; the second reads the state, moves it, decides whether to announce itself,
does so and closes the stream. The decision rests on the state that was read first: the mark only
counts for a session that was read as disconnecting, so that a close that reads
the state before the first thread has moved it announces itself all the same.
-/

namespace Courier.Session

namespace Parting

variable {suite : Suite} {session : Session} {parting : Parting}

theorem run_append (suite : Suite) (parting : Parting) (first second : List Thread) :
    parting.run suite (first ++ second) = (parting.run suite first).run suite second := by
  induction first generalizing parting with
  | nil => rfl
  | cons thread rest ih => cases thread <;> exact ih _

/-! ## One thread alone -/

/-- Without the other thread the steps of the first are the handling of a disconnect. -/
theorem run_handler (suite : Suite) (policy : Policy) (session : Session) :
    (({ session } : Parting).run suite (List.replicate 3 .handler)).hearing =
        .ended (session.handle policy .disconnect).1 ∧
      (({ session } : Parting).run suite (List.replicate 3 .handler)).session =
        (session.handle policy .disconnect).2 := by
  by_cases established : session.state = .established
  · simp [List.replicate, run, hear, handle, established]
  · simp [List.replicate, run, hear, handle, established, Message.kind]

/-- Without the other thread the steps of the second are a close. -/
theorem run_closer (suite : Suite) (session : Session) :
    (({ session } : Parting).run suite (List.replicate 5 .closer)).closing = .ended (session.close suite).1 ∧
      (({ session } : Parting).run suite (List.replicate 5 .closer)).session = (session.close suite).2 := by
  cases announced : announces session.state session.peerDisconnected with
  | true => simp [List.replicate, run, close, Session.close, announced]
  | false => simp [List.replicate, run, close, Session.close, announced]

/-! ## The decision -/

/-- Handling the disconnect touches neither the closer nor the channel, and does not take the mark back. -/
theorem hear_frame (parting : Parting) :
    parting.hear.closing = parting.closing ∧ parting.hear.farewell = parting.farewell ∧
      parting.hear.session.transport = parting.session.transport ∧
      (parting.session.peerDisconnected = true → parting.hear.session.peerDisconnected = true) := by
  unfold hear
  split
  · split <;> exact ⟨rfl, rfl, rfl, fun marked => marked⟩
  · exact ⟨rfl, rfl, rfl, fun _ => rfl⟩
  · exact ⟨rfl, rfl, rfl, fun marked => marked⟩
  · exact ⟨rfl, rfl, rfl, fun marked => marked⟩

/-- Once the closer has read the state, it is decided whether it announces itself: by the state that was
found, or by the mark, which is not taken back. -/
inductive Decided (suite : Suite) (transport : Transport) (announced : Bool) (parting : Parting) : Prop where
  | silent (found : Lifecycle) (place : parting.closing = .moving found ∨ parting.closing = .deciding found)
      (decision : announces found parting.session.peerDisconnected = announced)
      (settled : found = .established ∨ parting.session.peerDisconnected = true)
      (owned : parting.session.transport = transport) (nothing : parting.farewell = none)
  | announcing (place : parting.closing = .announcing) (going : announced = true)
      (owned : parting.session.transport = transport)
  | told (place : parting.closing = .hangingUp ∨ ∃ result, parting.closing = .ended result)
      (farewell : parting.farewell = if announced then transport.sealing? suite .disconnect else none)

namespace Decided

variable {transport : Transport} {announced : Bool}

/-- With its first step the closer decides, if the state has not moved or the peer is marked as gone. -/
theorem of_reading (suite : Suite) (reading : parting.closing = .reading) (nothing : parting.farewell = none)
    (settled : parting.session.state = .established ∨ parting.session.peerDisconnected = true) :
    Decided suite parting.session.transport
      (announces parting.session.state parting.session.peerDisconnected) (parting.close suite) := by
  have next : parting.close suite = { parting with closing := .moving parting.session.state } := by
    rw [Parting.close, reading]
  rw [next]
  exact .silent _ (.inl rfl) rfl settled rfl nothing

/-- The handler changes nothing of what is decided. -/
theorem hear (decided : Decided suite transport announced parting) :
    Decided suite transport announced parting.hear := by
  obtain ⟨sameClosing, sameFarewell, sameTransport, marked⟩ := parting.hear_frame
  cases decided with
  | silent found place decision settled owned nothing =>
      rw [← sameClosing] at place
      refine .silent found place ?_ (settled.imp_right marked) (sameTransport.trans owned)
        (sameFarewell.trans nothing)
      rcases settled with rfl | already
      · exact decision
      · rw [marked already, ← decision, already]
  | announcing place going owned =>
      exact .announcing (sameClosing.trans place) going (sameTransport.trans owned)
  | told place farewell =>
      rw [← sameClosing] at place
      exact .told place (sameFarewell.trans farewell)

/-- The closer does what is decided. -/
theorem close (decided : Decided suite transport announced parting) :
    Decided suite transport announced (parting.close suite) := by
  cases decided with
  | silent found place decision settled owned nothing =>
      rcases place with moving | deciding
      · have next : parting.close suite = { parting with
            session := { parting.session with state := parting.session.state.advance .closed }
            closing := .deciding found } := by rw [Parting.close, moving]
        rw [next]
        exact .silent found (.inr rfl) decision settled owned nothing
      · have next : parting.close suite =
            { parting with closing := if announced then .announcing else .hangingUp } := by
          rw [Parting.close, deciding]
          simp only [decision]
        rw [next]
        cases announced with
        | true => exact .announcing rfl rfl owned
        | false => exact .told (.inl rfl) nothing
  | announcing place going owned =>
      have next : parting.close suite = { parting with
          session := parting.session.sendDisconnect suite
          closing := .hangingUp
          farewell := parting.session.transport.sealing? suite .disconnect } := by rw [Parting.close, place]
      rw [next, going]
      exact .told (.inl rfl) (by rw [owned]; rfl)
  | told place farewell =>
      rcases place with hangingUp | ⟨result, ended⟩
      · have next : parting.close suite = { parting with
            session := parting.session.hangUp.2, closing := .ended parting.session.hangUp.1 } := by
          rw [Parting.close, hangingUp]
        rw [next]
        exact .told (.inr ⟨_, rfl⟩) farewell
      · have next : parting.close suite = parting := by rw [Parting.close, ended]
        rw [next]
        exact .told (.inr ⟨result, ended⟩) farewell

/-- A closer that has ended has said farewell if that was decided. -/
theorem farewell_of_ended (decided : Decided suite transport announced parting) {result : Except Failure Unit}
    (ended : parting.closing = .ended result) :
    parting.farewell = if announced then transport.sealing? suite .disconnect else none := by
  cases decided with
  | silent found place => simp [ended] at place
  | announcing place => simp [ended] at place
  | told place farewell => exact farewell

theorem run (decided : Decided suite transport announced parting) (schedule : List Thread) :
    Decided suite transport announced (parting.run suite schedule) := by
  induction schedule generalizing parting with
  | nil => exact decided
  | cons thread rest ih =>
      cases thread with
      | handler => exact ih decided.hear
      | closer => exact ih decided.close

end Decided

/-! ## The end -/

theorem remaining_close_le (suite : Suite) (parting : Parting) :
    (parting.close suite).closing.remaining ≤ parting.closing.remaining - 1 := by
  unfold close
  split <;> rename_i place <;> rw [place]
  · exact Nat.le_refl _
  · exact Nat.le_refl _
  · simp only
    split <;> simp [Closing.remaining]
  · exact Nat.le_refl _
  · exact Nat.le_refl _
  · exact Nat.zero_le _

/-- After five of its steps the closer has ended, whatever the handler does in between. -/
theorem exists_ended (suite : Suite) {schedule : List Thread}
    (enough : parting.closing.remaining ≤ schedule.count .closer) :
    ∃ result, (parting.run suite schedule).closing = .ended result := by
  induction schedule generalizing parting with
  | nil =>
      cases place : parting.closing with
      | ended result => exact ⟨result, place⟩
      | reading | moving | deciding | announcing | hangingUp => simp [place, Closing.remaining] at enough
  | cons thread rest ih =>
      cases thread with
      | handler =>
          obtain ⟨sameClosing, _⟩ := parting.hear_frame
          have other : Thread.handler ≠ .closer := nofun
          rw [List.count_cons_of_ne other, ← sameClosing] at enough
          exact ih enough
      | closer =>
          have less := parting.remaining_close_le suite
          rw [List.count_cons_self] at enough
          exact ih (by omega)

/-! ## Every order -/

/-- How many steps the handler takes before the closer reads the state. -/
def lead (schedule : List Thread) : Nat := (schedule.takeWhile (· == .handler)).length

/-- The closer's first step comes right after the handler's lead. -/
theorem exists_eq_replicate_lead {schedule : List Thread} (takes : 0 < schedule.count .closer) :
    ∃ rest, schedule = List.replicate (lead schedule) .handler ++ .closer :: rest := by
  induction schedule with
  | nil => cases takes
  | cons thread schedule ih =>
      cases thread with
      | handler =>
          have other : Thread.handler ≠ .closer := nofun
          rw [List.count_cons_of_ne other] at takes
          obtain ⟨rest, split⟩ := ih takes
          exact ⟨rest, congrArg (List.cons .handler) split⟩
      | closer => exact ⟨schedule, rfl⟩

theorem run_of_handler_ended (suite : Suite) {result : Except Failure (Option Message)}
    (ended : parting.hearing = .ended result) (count : Nat) :
    parting.run suite (List.replicate count .handler) = parting := by
  have same : parting.hear = parting := by rw [hear, ended]
  induction count with
  | zero => rfl
  | succ count ih => rw [List.replicate_succ, run, same, ih]

/-- What the closer finds: the peer is marked as gone after two steps of the handler, and the state has moved
after three. -/
theorem run_lead (suite : Suite) (established : session.state = .established)
    (unmarked : session.peerDisconnected = false) (count : Nat) :
    (({ session } : Parting).run suite (List.replicate count .handler)).closing = .reading ∧
      (({ session } : Parting).run suite (List.replicate count .handler)).farewell = none ∧
      (({ session } : Parting).run suite (List.replicate count .handler)).session =
        { session with
          peerDisconnected := decide (2 ≤ count)
          state := if count < 3 then .established else .disconnecting } := by
  obtain ⟨address, entropy, transport, state, finished, peerDisconnected⟩ := session
  cases established
  cases unmarked
  match count with
  | 0 | 1 | 2 => exact ⟨rfl, rfl, rfl⟩
  | rest + 3 =>
      have late : ¬ 3 + rest < 3 := by omega
      have known : 2 ≤ 3 + rest := by omega
      rw [Nat.add_comm, ← List.replicate_append_replicate, run_append, run_of_handler_ended suite rfl,
        if_neg late, decide_eq_true known]
      exact ⟨rfl, rfl, rfl⟩

/-- However the steps of the two threads interleave, the close comes to its end, and it says farewell exactly
if it read the state before the handler's third step moved it. Since the peer is marked as gone with the
second step, a farewell is said to a peer that is known to have left if the state is read between these two. -/
theorem farewell_iff_read_before_moved (suite : Suite) (established : session.state = .established)
    (unmarked : session.peerDisconnected = false) {schedule : List Thread}
    (enough : 5 ≤ schedule.count .closer) :
    (∃ result, (({ session } : Parting).run suite schedule).closing = .ended result) ∧
      (({ session } : Parting).run suite schedule).farewell =
        (if lead schedule < 3 then session.transport.sealing? suite .disconnect else none) ∧
      (({ session } : Parting).run suite (List.replicate (lead schedule) .handler)).session.peerDisconnected =
        decide (2 ≤ lead schedule) := by
  obtain ⟨reading, nothing, found⟩ := run_lead suite established unmarked (lead schedule)
  obtain ⟨rest, split⟩ := exists_eq_replicate_lead (Nat.lt_of_lt_of_le (by decide) enough)
  obtain ⟨result, ended⟩ : ∃ result, (({ session } : Parting).run suite schedule).closing = .ended result :=
    exists_ended suite enough
  have met := (congrArg (({ session } : Parting).run suite) split).trans (run_append suite _ _ _)
  rw [run] at met
  rw [met] at ended ⊢
  generalize ({ session } : Parting).run suite (List.replicate (lead schedule) .handler) = before
    at reading nothing found ended ⊢
  have settled : before.session.state = .established ∨ before.session.peerDisconnected = true := by
    by_cases early : lead schedule < 3
    · exact .inl (by simp [found, early])
    · exact .inr (by simp only [found, decide_eq_true_eq]; omega)
  have decided := (Decided.of_reading suite reading nothing settled).run rest
  refine ⟨⟨result, ended⟩, ?_, by rw [found]⟩
  rw [decided.farewell_of_ended ended, found]
  by_cases early : lead schedule < 3
  · simp [early, announces]
  · have marked : 2 ≤ lead schedule := by omega
    simp [early, announces, marked]

/-- The state may be read after the peer was marked as gone, and the farewell still be said. -/
theorem farewell_iff_read_before_moved_marked :
    (({ session := visitedBy [] } : Parting).run Suite.standard
        ([.handler, .handler] ++ List.replicate 5 .closer)).farewell =
      (visitedBy []).transport.sealing? Suite.standard .disconnect := by
  have decided : (({ session := visitedBy [] } : Parting).run Suite.standard
      ([.handler, .handler] ++ List.replicate 5 .closer)).farewell = _ :=
    (farewell_iff_read_before_moved Suite.standard rfl rfl (by decide)).2.1
  exact decided.trans (if_pos (by decide))

/-- That the peer is marked as gone does not keep a later step of the closer from sealing a farewell and
writing it. -/
theorem writes_farewell_to_departed :
    (({ session := visitedBy [] } : Parting).run Suite.standard
        [.handler, .handler]).session.peerDisconnected = true ∧
      (({ session := visitedBy [] } : Parting).run Suite.standard
        [.handler, .handler, .closer, .closer, .closer]).session.takeAccepted.1 = [] ∧
      (({ session := visitedBy [] } : Parting).run Suite.standard
        [.handler, .handler, .closer, .closer, .closer, .closer]).session.takeAccepted.1 =
          Channel.frameAll Suite.standard (Block.little 32 1) 1 [.disconnect] := by
  refine ⟨rfl, rfl, ?_⟩
  have sent : (Channel.visitedBy []).sendFrame Suite.standard Message.disconnect.encode = _ :=
    Channel.sendFrame_of_isLossless rfl ⟨rfl, rfl⟩ (Channel.encode_fits .disconnect) (by decide)
  have told : ({ visitedBy [] with peerDisconnected := true, state := .closed } : Session).sendDisconnect
      Suite.standard = _ := congrArg
        (fun outcome => { visitedBy [] with
          peerDisconnected := true, state := .closed, transport := .secured outcome.2 }) sent
  have reached : (({ session := visitedBy [] } : Parting).run Suite.standard
      [.handler, .handler, .closer, .closer, .closer, .closer]).session =
        ({ visitedBy [] with peerDisconnected := true, state := .closed } : Session).sendDisconnect
          Suite.standard := rfl
  rw [reached, told, Channel.frameAll, List.map_singleton, Channel.wire_cons, Channel.wire_nil, List.append_nil]
  rfl

end Parting

end Courier.Session
