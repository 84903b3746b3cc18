import Courier.Proofs.Handshake.Outstanding
import Courier.Proofs.Session.Serving

/-!
# Operations on a session

Everything that may be done with a session, as data, so that statements can
range over all lives, with the events of each operation and of a run of them.
What establishing, serving and closing come to is said once here, in terms of
what becomes of the session and of its stream.
-/

namespace Courier

namespace Transport

/-- Whether the stream, if there is one, closes at the first attempt. -/
def IsClosable (transport : Transport) : Prop :=
  ∀ stream, transport.stream? = some stream → stream.failingCloses = 0

/-- Whether the stream, if there is one, is closed. -/
def IsHungUp (transport : Transport) : Prop := ∀ stream, transport.stream? = some stream → stream.closed = true

variable {before after : Transport} {count : Nat}

theorem Used.isClosable (used : before.Used count after) (closable : before.IsClosable) : after.IsClosable := by
  intro next found
  obtain ⟨stream, given, kept⟩ := used.kept next found
  exact kept.closable (closable stream given)

theorem Used.isHungUp (used : before.Used count after) (hungUp : before.IsHungUp) : after.IsHungUp := by
  intro next found
  obtain ⟨stream, given, kept⟩ := used.kept next found
  exact kept.closed (hungUp stream given)

end Transport

namespace Session

variable {suite : Suite} {session : Session}

/-! ## Operations and their events -/

/-- The sealing that closing makes, if it announces itself and there is a channel that seals it. -/
def farewell? (suite : Suite) (session : Session) : Option Channel.Sealing :=
  if announces session.state session.peerDisconnected then session.transport.sealing? suite .disconnect
  else none

namespace Operation

/-- The events of an operation. -/
def events (suite : Suite) (session : Session) : Operation → List Event
  | establish =>
      (⟨.checking, session⟩ : Work).events suite .keepOpen ++
        if (session.establish suite).1.isOk then [.established] else []
  | serve policy => (⟨.starting, session⟩ : Work).events suite policy
  | handle policy message => (session.hearing? policy message).toList
  | close => (session.farewell? suite).toList.map .sealed
  | markFinished | arrive _ => []

end Operation

/-- The events of a run of operations. -/
def events (suite : Suite) : Session → List Operation → List Event
  | _, [] => []
  | session, operation :: rest =>
      operation.events suite session ++ events suite (operation.apply suite session) rest

end Session

/-! ## Establishing -/

namespace Work

theorem event?_of_shakes (suite : Suite) (policy : Policy) {work : Work} (shakes : work.activity.Shakes) :
    work.event? suite policy = none := by
  obtain ⟨activity, session⟩ := work
  cases shakes <;> rfl

/-- Nothing is sealed and no message accepted while a session is established. -/
theorem events_of_shakes (suite : Suite) (policy : Policy) (work : Work) (shakes : work.activity.Shakes) :
    work.events suite policy = [] := by
  induction work using (Work.machine suite policy).run_induction with
  | ended work result found => exact events_of_result found
  | step work unfinished ih =>
      have going : work.activity.result? = none := unfinished
      rw [events_of_step going, event?_of_shakes suite policy shakes]
      exact ih (shakes_step suite policy shakes)

end Work

namespace Session

variable {suite : Suite} {session : Session}

/-- What establishing comes to: the session has a new channel, or the handshake fails, or there is none to
make, and the session is as it was but for its stream. -/
inductive Establishing (suite : Suite) (session : Session) : Outcome Session Unit → Prop where
  | completed (stream next : Stream) (entropy : Entropy) (keys : ChannelKeys)
      (owned : session.transport = .raw stream) (connecting : session.state = .connecting)
      (kept : stream.Keeps next) :
      Establishing suite session (.ok (), { session with
        entropy
        state := .established
        transport := .secured (Channel.ofKeys next keys) })
  | failed (stream next : Stream) (entropy : Entropy) (error : HandshakeError)
      (owned : session.transport = .raw stream) (connecting : session.state = .connecting)
      (kept : stream.Keeps next) :
      Establishing suite session (.error (.handshake error), { session with entropy, transport := .raw next })
  | refused (error : HandshakeError) (never : session.awaitsHandshake = false) :
      Establishing suite session (.error (.handshake error), session)

theorem awaitsHandshake_iff :
    session.awaitsHandshake = true ↔
      ∃ stream, session.transport = .raw stream ∧ session.state = .connecting := by
  unfold awaitsHandshake
  cases session.transport with
  | absent | secured channel => simp
  | raw stream => simp

theorem establishing (suite : Suite) (session : Session) :
    Establishing suite session (session.establish suite) := by
  cases awaits : session.awaitsHandshake with
  | false =>
      rw [establish_of_not_awaitsHandshake awaits]
      exact .refused _ awaits
  | true =>
      obtain ⟨stream, owned, connecting⟩ := awaitsHandshake_iff.mp awaits
      have kept := Handshake.keeps_run suite ⟨.greeting, session.entropy, stream⟩
      rw [establish_of_connecting owned connecting, Handshake.perform]
      split <;> rename_i ran <;> rw [ran] at kept
      · exact .completed stream _ _ _ owned connecting kept
      · exact .failed stream _ _ _ owned connecting kept

/-! ## Closing -/

theorem exists_hangUp (session : Session) (closable : session.transport.IsClosable) :
    ∃ transport, session.hangUp = (.ok (), { session with transport }) ∧
      session.transport.Used 0 transport ∧ transport.IsHungUp := by
  obtain ⟨address, entropy, transport, state, finished, peerDisconnected⟩ := session
  cases transport with
  | absent => exact ⟨.absent, rfl, .refl _, fun stream found => nomatch found⟩
  | raw stream =>
      have kept := Stream.Keeps.close stream
      simp only [hangUp, Stream.close_of_closable (closable stream rfl)] at kept ⊢
      refine ⟨_, rfl, ⟨rfl, rfl, ?_⟩, ?_⟩
      · rintro next found
        cases found
        exact ⟨stream, rfl, kept⟩
      · rintro next found
        cases found
        rfl
  | secured channel =>
      have silent := Channel.Silent.close channel
      simp only [hangUp, Channel.close, Stream.close_of_closable (closable channel.stream rfl)] at silent ⊢
      refine ⟨_, rfl, .of_silent silent, ?_⟩
      rintro next found
      cases found
      rfl

/-- Closing what is closed changes nothing. -/
theorem hangUp_of_isHungUp (session : Session) (closable : session.transport.IsClosable)
    (shut : session.transport.IsHungUp) : session.hangUp = (.ok (), session) := by
  obtain ⟨address, entropy, transport, state, finished, peerDisconnected⟩ := session
  cases transport with
  | absent => rfl
  | raw stream => simp only [hangUp, Stream.close_of_closed (closable stream rfl) (shut stream rfl)]
  | secured channel =>
      simp only [hangUp, Channel.close,
        Stream.close_of_closed (closable channel.stream rfl) (shut channel.stream rfl)]

theorem used_sendDisconnect (suite : Suite) (session : Session) :
    ∃ transport, session.sendDisconnect suite = { session with transport } ∧
      session.transport.Used (session.transport.sealing? suite .disconnect).toList.length transport := by
  obtain ⟨address, entropy, transport, state, finished, peerDisconnected⟩ := session
  cases transport with
  | absent | raw stream => exact ⟨_, rfl, .refl _⟩
  | secured channel => exact ⟨_, rfl, .of_send suite channel .disconnect⟩

/-- Closing always succeeds, and makes one sealing if it announces itself and the channel can still seal. -/
theorem exists_close (suite : Suite) (closable : session.transport.IsClosable) :
    ∃ transport, session.close suite = (.ok (), { session with state := .closed, transport }) ∧
      session.transport.Used (session.farewell? suite).toList.length transport ∧ transport.IsHungUp := by
  have closed : session.state.advance .closed = .closed := Lifecycle.advance_closed _
  unfold close farewell?
  simp only [closed]
  split
  · obtain ⟨told, sent, used⟩ := used_sendDisconnect suite { session with state := .closed }
    rw [sent]
    obtain ⟨transport, hungUp, left, shut⟩ :=
      exists_hangUp { session with state := .closed, transport := told } (used.isClosable closable)
    exact ⟨transport, hungUp, used.trans left, shut⟩
  · exact exists_hangUp { session with state := .closed } closable

/-! ## Farewells -/

theorem announces_iff (state : Lifecycle) (peerDisconnected : Bool) :
    announces state peerDisconnected = true ↔
      state = .established ∨ state = .disconnecting ∧ peerDisconnected = false := by
  cases state <;> simp [announces]

theorem isSome_farewell?_iff (suite : Suite) (session : Session) :
    (session.farewell? suite).isSome ↔
      (session.state = .established ∨ session.state = .disconnecting ∧ session.peerDisconnected = false) ∧
        ∃ channel, session.transport = .secured channel ∧ channel.poisoned = false ∧
          channel.sender.counter ≠ Cipher.lastCounter := by
  rw [farewell?, ← announces_iff]
  cases announced : announces session.state session.peerDisconnected with
  | false => simp
  | true =>
      cases owned : session.transport with
      | absent | raw stream => simp [Transport.sealing?]
      | secured channel =>
          have sealable : ((Channel.Operation.send .disconnect).sealing? suite channel).isSome ↔ _ :=
            Channel.Operation.isSome_sealing?_iff rfl
          simpa [Transport.sealing?, Channel.encode_fits] using sealable

/-- A farewell is an event of a close only, and of one that makes a sealing. -/
theorem any_isFarewell_iff (suite : Suite) (session : Session) (operation : Operation) :
    (operation.events suite session).any Event.isFarewell = true ↔
      operation = .close ∧ (session.farewell? suite).isSome := by
  have silent {news : List Event} {next : Session} (served : Served session news next) :
      news.any Event.isFarewell = false := by
    rw [List.any_eq_false]
    intro event present
    simp [(served.replied event present).2]
  cases operation with
  | establish =>
      rw [Operation.events, Work.events_of_shakes suite .keepOpen ⟨.checking, session⟩ .checking]
      split <;> simp [Event.isFarewell]
  | serve policy =>
      rw [Operation.events, silent (Work.served_conclude suite policy ⟨.starting, session⟩ trivial)]
      simp
  | handle policy message =>
      rw [Operation.events, silent (.handle policy session message)]
      simp
  | close =>
      rw [Operation.events]
      cases made : session.farewell? suite with
      | none => simp
      | some sealing =>
          have payload : sealing.payload = Message.disconnect.encode := by
            rw [farewell?] at made
            split at made
            · exact Transport.payload_of_sealing? made
            · cases made
          simp [Event.isFarewell, payload]
  | markFinished | arrive bytes => simp [Operation.events]

/-! ## Serving without a conversation -/

/-- Serving a session that is not established does nothing. -/
theorem serve_of_ne (suite : Suite) (policy : Policy) (left : session.state ≠ .established) :
    (session.serve suite policy).2 = session ∧ (⟨.starting, session⟩ : Work).events suite policy = [] := by
  have polled : (⟨.polling, session⟩ : Work).events suite policy = [] := by
    rw [Work.events_of_step rfl, Work.step, if_neg left, Work.events_of_result rfl]
    rfl
  have started : (⟨.starting, session⟩ : Work).events suite policy =
      ((⟨.starting, session⟩ : Work).step suite policy).events suite policy := Work.events_of_step rfl
  cases owned : session.transport with
  | secured channel =>
      have next : (⟨.starting, session⟩ : Work).step suite policy = ⟨.polling, session⟩ := by
        simp only [Work.step, Work.onChannel, owned]
      rw [serve, perform_starting owned, perform_polling_of_ne left, started, next]
      exact ⟨rfl, polled⟩
  | absent | raw stream =>
      have next : (⟨.starting, session⟩ : Work).step suite policy =
          ⟨.ended (.error (.protocol (.noChannel session.address))), session⟩ := by
        simp only [Work.step, Work.onChannel, owned]
        rfl
      rw [serve, perform_of_step rfl, started, next]
      exact ⟨congrArg Prod.snd (perform_ended _), Work.events_of_result rfl⟩

end Session

end Courier
