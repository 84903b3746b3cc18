import Courier.Proofs.Handshake.Agreement
import Courier.Proofs.Handshake.Outstanding
import Courier.Proofs.Session.Performance

/-!
# Closing during the handshake

One thread establishes a session while another closes it, and bytes of the peer's
arrive meanwhile. Until the close the handshake is under way on the stream that
the session still owns; after it, it is under way on a closed session, which has
no step to `established`. In between, the work does not notice.
-/

namespace Courier

/-- Closing a session that is connecting closes its stream and announces nothing. -/
theorem Session.close_of_connecting (suite : Suite) {session : Session} {stream : Stream}
    (owned : session.transport = .raw stream) (connecting : session.state = .connecting) :
    session.close suite =
      (if stream.close.1 then .ok () else .error .streamClose,
        { session with state := .closed, transport := .raw stream.close.2 }) := by
  have unannounced : announces session.state session.peerDisconnected = false := by
    simp [announces, connecting]
  rw [close_of_unannounced suite unannounced]
  simp only [hangUp, owned]
  split <;> rename_i closed <;> rw [closed] <;> rfl

namespace Work

/-- What is still to be written. -/
def outstanding (suite : Suite) (work : Work) : Octets :=
  match work.activity with
  | .checking => Handshake.Stage.greeting.outstanding suite work.session.entropy
  | .shaking stage => stage.outstanding suite work.session.entropy
  | _ => []

variable {suite : Suite} {policy : Policy} {given : Stream} {due : Octets} {state : Lifecycle} {work : Work}

/-! ## While the handshake is under way -/

/-- The session is in this state and owns its stream, on which no more was written than was due; if the
work has ended, the handshake has failed. -/
structure Underway (suite : Suite) (given : Stream) (due : Octets) (state : Lifecycle) (work : Work) : Prop where
  shakes : work.activity.Shakes
  state : work.session.state = state
  stream : ∃ next, work.session.transport = .raw next ∧ given.Keeps next ∧
    ∃ written, next.accepted = given.accepted ++ written ∧ written ++ work.outstanding suite <+: due
  failed : ∀ result, work.activity.result? = some result → ∃ error, result = .error (.handshake error)

namespace Underway

/-- The work goes on to another activity without touching the session. -/
theorem goOn (underway : Underway suite given due state work) {activity : Activity}
    (shakes : activity.Shakes)
    (less : ({ work with activity } : Work).outstanding suite <+: work.outstanding suite)
    (failed : ∀ result, activity.result? = some result → ∃ error, result = .error (.handshake error)) :
    Underway suite given due state { work with activity } where
  shakes := shakes
  state := underway.state
  stream := by
    obtain ⟨next, owned, kept, written, accepted, within⟩ := underway.stream
    exact ⟨next, owned, kept, written, accepted, ((List.prefix_append_right_inj written).mpr less).trans within⟩
  failed := failed

/-- A step of the handshake writes a front of what is outstanding. -/
theorem stepped (underway : Underway suite given due state work) {party : Handshake.Party}
    (place : work.activity = .shaking party.stage) (part : work.session = work.session.withParty party) :
    Underway suite given due state
      ⟨.shaking (party.step suite).stage, work.session.withParty (party.step suite)⟩ := by
  have advance := Handshake.Party.advance_step suite party
  obtain ⟨next, owned, kept, written, accepted, within⟩ := underway.stream
  obtain ⟨more, added, behind⟩ := advance.written
  have same : next = party.stream := by
    rw [part] at owned
    exact (Transport.raw.inj owned).symm
  have left : work.outstanding suite = party.outstanding suite := by
    rw [outstanding, place, part]
    rfl
  rw [left] at within
  rw [same] at kept accepted
  refine ⟨.shaking _, underway.state, ⟨_, rfl, kept.trans advance.kept, written ++ more, ?_, ?_⟩, nofun⟩
  · rw [added, accepted, List.append_assoc]
  · rw [List.append_assoc]
    exact ((List.prefix_append_right_inj written).mpr behind).trans within

/-- A step that does not establish the session leaves the handshake under way. -/
theorem step (underway : Underway suite given due state work)
    (unestablished : (work.step suite policy).activity.result? ≠ some (.ok ())) :
    Underway suite given due state (work.step suite policy) := by
  have shaken := shaken suite policy underway.shakes
  generalize work.step suite policy = next at shaken unestablished ⊢
  cases shaken with
  | failed error =>
      refine underway.goOn (.ended _) List.nil_prefix ?_
      rintro result ended
      cases ended
      exact ⟨error, rfl⟩
  | begun place =>
      have same : work.outstanding suite = Handshake.Stage.greeting.outstanding suite work.session.entropy := by
        rw [outstanding, place]
      exact underway.goOn (.shaking _) (same ▸ List.prefix_refl _) nofun
  | stepped party place part unfinished => exact underway.stepped place part
  | agreed stage keys => exact underway.goOn (.installing keys) List.nil_prefix nofun
  | established => exact absurd rfl unestablished
  | ended => exact underway

theorem feed (underway : Underway suite given due state work) (bytes : Octets) :
    Underway suite given due state { work with session := work.session.feed bytes } where
  shakes := underway.shakes
  state := underway.state
  stream := by
    obtain ⟨next, owned, kept, written⟩ := underway.stream
    refine ⟨next.feed bytes, ?_, kept.trans (.feed next bytes), written⟩
    simp only [Session.feed, owned, Transport.mapStream]
  failed := underway.failed

theorem happen (underway : Underway suite given due state work) (happening : Happening)
    (unestablished : (work.happen suite policy happening).activity.result? ≠ some (.ok ())) :
    Underway suite given due state (work.happen suite policy happening) := by
  cases happening with
  | step => exact underway.step unestablished
  | arrival bytes => exact underway.feed bytes

end Underway

/-- Work that has ended stays as it ended. -/
theorem course_of_result {result : Except Failure Unit} (ended : work.activity.result? = some result)
    (happenings : List Happening) :
    (work.course suite policy happenings).activity.result? = some result := by
  induction happenings generalizing work with
  | nil => exact ended
  | cons happening rest ih =>
      refine ih ?_
      cases happening with
      | arrival bytes => exact ended
      | step =>
          obtain ⟨activity, session⟩ := work
          cases activity <;> cases ended
          rfl

/-- Until the session is established, the handshake stays under way. -/
theorem Underway.course (underway : Underway suite given due state work) {happenings : List Happening}
    (unestablished : (work.course suite policy happenings).activity.result? ≠ some (.ok ())) :
    Underway suite given due state (work.course suite policy happenings) := by
  induction happenings generalizing work with
  | nil => exact underway
  | cons happening rest ih =>
      refine ih (underway.happen happening fun established => ?_) unestablished
      exact unestablished (course_of_result established rest)

/-! ## After the close -/

namespace Underway

/-- On a closed session the handshake comes to nothing. -/
theorem result?_step_ne (underway : Underway suite given due .closed work) :
    (work.step suite policy).activity.result? ≠ some (.ok ()) := by
  have shaken := shaken suite policy underway.shakes
  generalize work.step suite policy = next at shaken ⊢
  cases shaken with
  | failed | begun | stepped | agreed => exact nofun
  | established stream keys place possible =>
      rw [underway.state] at possible
      cases possible
  | ended result place =>
      rintro succeeded
      obtain ⟨error, failed⟩ := underway.failed (.ok ()) succeeded
      cases failed

theorem course_closed (underway : Underway suite given due .closed work) (policy : Policy)
    (happenings : List Happening) : Underway suite given due .closed (work.course suite policy happenings) := by
  induction happenings generalizing work with
  | nil => exact underway
  | cons happening rest ih =>
      cases happening with
      | step => exact ih (underway.step underway.result?_step_ne)
      | arrival bytes => exact ih (underway.feed bytes)

/-- Where a session that is connecting was closed, the handshake is under way on the closed stream, with what
is still outstanding. -/
theorem interrupt (underway : Underway suite given due .connecting work) {stream : Stream}
    (owned : work.session.transport = .raw stream) :
    Underway suite stream.close.2 (work.outstanding suite) .closed (work.interrupted suite) := by
  have closed := Session.close_of_connecting suite owned underway.state
  have same : work.interrupted suite =
      { work with session := { work.session with state := .closed, transport := .raw stream.close.2 } } := by
    rw [Work.interrupted, closed]
  rw [same]
  refine ⟨underway.shakes, rfl, ⟨_, rfl, .refl _, [], ?_, List.prefix_refl _⟩, underway.failed⟩
  rw [List.append_nil]

end Underway

/-! ## Both threads -/

/-- Every step of establishing brings its end closer. -/
theorem rank_step_lt (suite : Suite) (policy : Policy) (shakes : work.activity.Shakes)
    (unfinished : work.activity.result? = none) :
    (work.step suite policy).activity.rank < work.activity.rank := by
  have shaken := shaken suite policy shakes
  generalize work.step suite policy = next at shaken ⊢
  cases shaken with
  | failed error =>
      obtain ⟨activity, session⟩ := work
      cases shakes with
      | checking | shaking | installing => simp [finish, Activity.rank]
      | ended => cases unfinished
  | begun place => simp [place, Activity.rank, Handshake.Stage.remaining]
  | stepped party place part going =>
      have falls := party.remaining_step suite going
      simp only [place, Activity.rank]
      omega
  | agreed stage keys place => simp [place, Activity.rank]
  | established stream keys place => simp [place, Activity.rank]
  | ended result place =>
      rw [place] at unfinished
      cases unfinished

/-- After as many steps as its rank, establishing has ended, whatever else happened. -/
theorem exists_result_of_rank_le (suite : Suite) (policy : Policy) {happenings : List Happening}
    (shakes : work.activity.Shakes) (enough : work.activity.rank ≤ happenings.count .step) :
    ∃ result, (work.course suite policy happenings).activity.result? = some result := by
  induction happenings generalizing work with
  | nil =>
      obtain ⟨activity, session⟩ := work
      cases shakes with
      | ended result => exact ⟨result, rfl⟩
      | checking | shaking | installing => simp [Activity.rank] at enough
  | cons happening rest ih =>
      cases ended : work.activity.result? with
      | some result => exact ⟨result, course_of_result ended _⟩
      | none =>
          cases happening with
          | step =>
              have lower := rank_step_lt suite policy shakes ended
              rw [List.count_cons_self] at enough
              refine ih (work.shakes_step suite policy shakes) ?_
              change (work.step suite policy).activity.rank ≤ _
              omega
          | arrival bytes =>
              have other : Happening.arrival bytes ≠ .step := by simp
              rw [List.count_cons_of_ne other] at enough
              exact ih shakes enough

theorem rank_le (shakes : work.activity.Shakes) : work.activity.rank ≤ 9 := by
  obtain ⟨activity, session⟩ := work
  cases shakes with
  | checking | installing | ended => simp [Activity.rank]
  | shaking stage => cases stage <;> simp [Activity.rank, Handshake.Stage.remaining]

/-- Where the stream is closed, no step waits. -/
theorem ready_of_closed {stream : Stream} (owned : work.session.transport = .raw stream)
    (closed : stream.closed = true) : work.ready = true := by
  rw [ready, owned]
  split
  · rename_i found
    cases found
    rw [Stream.readable, closed]
    rfl
  · rfl

/-- The beginning of establishing. -/
theorem underway_checking (suite : Suite) {session : Session} {stream : Stream}
    (owned : session.transport = .raw stream) :
    Underway suite stream (Handshake.Stage.greeting.outstanding suite session.entropy) session.state
      ⟨.checking, session⟩ where
  shakes := .checking
  state := rfl
  stream := ⟨stream, owned, .refl stream, [], (List.append_nil _).symm, List.prefix_refl _⟩
  failed := nofun

/-- A close that comes between any two steps of establishing, before the session is established, wins,
whatever arrives before and after it: the session is closed and stays so, it owns no channel but the
stream, which is closed too; no step waits any more, and after at most nine more of them establishing has
failed with an error of the handshake; and all that was written is a front of the public key and the salt. -/
theorem close_wins_over_handshake (suite : Suite) (policy : Policy) {session : Session} {stream : Stream}
    (owned : session.transport = .raw stream) (connecting : session.state = .connecting)
    {before later : List Happening} {reached last : Work}
    (came : (⟨.checking, session⟩ : Work).course suite policy before = reached)
    (unestablished : reached.activity.result? ≠ some (.ok ()))
    (continued : (reached.interrupted suite).course suite policy later = last) :
    reached.session.state = .connecting ∧ last.session.state = .closed ∧
    (∃ next written, last.session.transport = .raw next ∧ next.accepted = stream.accepted ++ written ∧
      written <+: Handshake.Stage.greeting.outstanding suite session.entropy ∧
      (stream.failingCloses = 0 →
        (reached.session.close suite).1 = .ok () ∧ next.closed = true ∧ last.ready = true)) ∧
    (∀ result, last.activity.result? = some result → ∃ error, result = .error (.handshake error)) ∧
    (9 ≤ later.count .step → ∃ error, last.activity.result? = some (.error (.handshake error))) := by
  subst came
  have begun := (underway_checking suite owned).course unestablished
  rw [connecting] at begun
  obtain ⟨middle, owner, kept, early, accepted, within⟩ := begun.stream
  have ended := (begun.interrupt owner).course_closed policy later
  rw [continued] at ended
  obtain ⟨next, lastOwner, keptClosed, late, added, left⟩ := ended.stream
  refine ⟨begun.state, ended.state, ⟨next, early ++ late, lastOwner, ?_, ?_, ?_⟩, ended.failed, ?_⟩
  · rw [added, Stream.accepted_close, accepted, List.append_assoc]
  · have front := (List.prefix_append late _).trans left
    exact ((List.prefix_append_right_inj early).mpr front).trans within
  · intro closable
    have closes := Stream.close_of_closable (kept.closable closable)
    have closed : next.closed = true := keptClosed.closed (by rw [closes])
    refine ⟨?_, closed, ready_of_closed lastOwner closed⟩
    rw [Session.close_of_connecting suite owner begun.state, closes]
    rfl
  · intro enough
    have shakes := (begun.interrupt owner).shakes
    obtain ⟨result, found⟩ := exists_result_of_rank_le suite policy shakes (Nat.le_trans (rank_le shakes) enough)
    rw [continued] at found
    obtain ⟨error, failed⟩ := ended.failed result found
    exact ⟨error, by rw [found, failed]⟩

section Strangers

open Handshake Meeting Person

/-- The party of one stranger after so many steps, when the other has written its key and salt. -/
def stranger (steps : Nat) : Party :=
  (strangers .left).party Suite.standard (strangers .right) steps 4 ((strangers .left).written Suite.standard steps)

theorem step_stranger {steps : Nat} (more : steps < 4) :
    (stranger steps).step Suite.standard = stranger (steps + 1) := by
  match steps with
  | 0 => exact step_greeting [] (by decide)
  | 1 => exact step_awaitingKey _ (by decide)
  | 2 => exact step_salting _ (by decide)
  | 3 => exact step_awaitingSalt _ (by decide)

/-- The session of that stranger, before the handshake. -/
def visited : Session := (Session.open? "right" {} none).withParty (stranger 0)

theorem course_stranger (taken : Nat) {count : Nat} (within : taken + count ≤ 4) :
    (⟨.shaking (stranger taken).stage, visited.withParty (stranger taken)⟩ : Work).course Suite.standard
        .keepOpen (List.replicate count .step) =
      ⟨.shaking (stranger (taken + count)).stage, visited.withParty (stranger (taken + count))⟩ := by
  induction count generalizing taken with
  | zero => rfl
  | succ count ih =>
      have unfinished : (stranger taken).stage.result? = none := result?_stage_eq_none_iff.mpr (by omega)
      have sum : taken + 1 + count = taken + (count + 1) := by omega
      rw [List.replicate_succ, course, happen, Session.step_shaking visited unfinished,
        step_stranger (by omega), ih (taken + 1) (by omega), sum]

/-- The close wins even if it comes right after the last byte of the peer's salt was read. -/
theorem close_wins_over_handshake_agreeing :
    ∃ error, (((⟨.shaking (stranger 4).stage, visited.withParty (stranger 4)⟩ : Work).interrupted
      Suite.standard).course Suite.standard .keepOpen (List.replicate 9 .step)).activity.result? =
        some (.error (.handshake error)) := by
  have came : (⟨.checking, visited⟩ : Work).course Suite.standard .keepOpen (.step :: List.replicate 4 .step) =
      ⟨.shaking (stranger 4).stage, visited.withParty (stranger 4)⟩ := course_stranger 0 (Nat.le_refl 4)
  obtain ⟨_, _, _, _, ends⟩ :=
    close_wins_over_handshake Suite.standard .keepOpen rfl rfl came nofun rfl
  exact ends (by decide)

end Strangers

end Work

end Courier
