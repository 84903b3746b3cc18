import Courier.Client
import Courier.Proofs.Channel.Framing

/-!
# Closing a client

A client announces its departure once and closes its stream, in this order, or in
the other if the announcement has to wait for the peer or takes too long. Whatever
becomes of the announcement, the client is closed then. There is one exception: a
cipher whose nonces are used up refuses to seal the announcement, and the refusal
is passed on before the client is closed.
-/

namespace Courier

/-- Only from an established session it is possible to begin to leave. -/
theorem Lifecycle.canBecome_disconnecting_iff {state : Lifecycle} :
    state.canBecome .disconnecting = true ↔ state = .established := by
  cases state <;> decide

namespace Channel

variable {suite : Suite} {channel : Channel} {promptness : Client.Promptness}

/-- One announcement of a departure on a channel that is closed after it, or before it if the announcement
is given up. -/
def farewell (suite : Suite) (channel : Channel) (promptness : Client.Promptness) : Outcome Channel Unit :=
  if channel.stream.writable ∧ promptness ≠ .overtaken then
    ((channel.send suite .disconnect).1, (channel.send suite .disconnect).2.shut)
  else channel.shut.send suite .disconnect

/-- The one announcement is made before the stream is closed, or after. -/
theorem farewell_eq_or (suite : Suite) (channel : Channel) (promptness : Client.Promptness) :
    channel.farewell suite promptness =
        ((channel.send suite .disconnect).1, (channel.send suite .disconnect).2.shut) ∨
      channel.farewell suite promptness = channel.shut.send suite .disconnect := by
  unfold farewell
  split
  · exact .inl rfl
  · exact .inr rfl

/-- On a closed stream a message is refused, or nothing of it is written. -/
theorem send_shut (suite : Suite) (channel : Channel) (message : Message) :
    (channel.shut.send suite message).1.isOk = false ∧
      (channel.shut.send suite message).2.stream.closed = true := by
  have sealing := preparation suite channel.shut message.encode
  rw [send, sendFrame]
  generalize channel.shut.prepare suite message.encode = prepared at sealing
  cases sealing with
  | poisoned | oversize | exhausted => exact ⟨rfl, rfl⟩
  | framed usable fits more =>
      have spent : channel.shut.stream.IsSpent := .inl rfl
      rw [Outcome.andThen_ok, transmit_of_short]
      · exact ⟨rfl, rfl⟩
      · rw [Stream.capacity_of_isSpent spent, length_frame]
        exact Nat.lt_of_lt_of_le (by decide) (Nat.le_add_right lengthSize _)

theorem farewell_of_poisoned (poisoned : channel.poisoned = true) :
    channel.farewell suite promptness = (.error (.frame (.unusable channel.address)), channel.shut) := by
  have refused (other : Channel) (poisoned : other.poisoned = true) :
      other.send suite .disconnect = (.error (.frame (.unusable other.address)), other) := by
    rw [send, sendFrame, prepare_of_poisoned poisoned, Outcome.andThen_error]
  unfold farewell
  split
  · rw [refused channel poisoned]
  · exact refused channel.shut poisoned

theorem closed_farewell (suite : Suite) (channel : Channel) (promptness : Client.Promptness) :
    (channel.farewell suite promptness).2.stream.closed = true := by
  unfold farewell
  split
  · rfl
  · exact (send_shut suite channel .disconnect).2

/-- A farewell that succeeds was written whole before the stream was closed. -/
theorem accepted_of_farewell {after : Channel} (told : channel.farewell suite promptness = (.ok (), after)) :
    after.stream.accepted = channel.stream.accepted ++
      frame (sealedBody suite channel.sender.key (channel.sender.counter.toNat + 1) Message.disconnect.encode) := by
  unfold farewell at told
  split at told
  · obtain ⟨sends, rfl⟩ := Prod.mk.inj told
    have sent : channel.sendFrame suite Message.disconnect.encode = (.ok (), _) := Prod.ext sends rfl
    exact (of_sendFrame_ok sent).2.2.2
  · have never := (send_shut suite channel .disconnect).1
    rw [told] at never
    cases never

end Channel

namespace Client

variable {suite : Suite} {client : Client} {promptness : Promptness}

theorem conclude_of_closable {channel : Channel} (closable : channel.stream.failingCloses = 0)
    (state : Lifecycle) (delivered : Bool) :
    (⟨channel, state⟩ : Client).conclude delivered = (.ok delivered, ⟨channel.shut, .closed⟩) := by
  rw [conclude, withChannel, Channel.close_of_closable closable, Outcome.andThen_ok, Lifecycle.advance_closed]

/-- The announcement is written and the stream closed, or the other way round, whatever is written. -/
theorem announce_of_closable {channel : Channel} (closable : channel.stream.failingCloses = 0)
    (state : Lifecycle) (framed : Octets) :
    (⟨channel, state⟩ : Client).announce framed promptness =
      if channel.stream.writable ∧ promptness ≠ .overtaken then
        (.ok (promptness == .prompt && (channel.transmit framed).1.isOk),
          ⟨(channel.transmit framed).2.shut, .closed⟩)
      else (.ok false, ⟨(channel.shut.transmit framed).2, .closed⟩) := by
  have kept : (channel.transmit framed).2.stream.failingCloses = 0 := by
    rw [Channel.snd_transmit]
    exact (Stream.Keeps.write channel.stream framed).closable closable
  rw [announce]
  split
  · generalize channel.transmit framed = outcome at kept
    obtain ⟨result, after⟩ := outcome
    cases result with
    | error failure =>
        simp only [Except.isOk, Except.toBool, Bool.and_false]
        exact conclude_of_closable kept state false
    | ok written =>
        simp only [Except.isOk, Except.toBool, Bool.and_true]
        exact conclude_of_closable kept state _
  · rw [withChannel, Channel.close_of_closable closable, Outcome.andThen_ok, Lifecycle.advance_closed]

/-! ## What closing comes to -/

/-- A client that is not established only closes its stream. -/
theorem close_of_left (suite : Suite) {channel : Channel} (closable : channel.stream.failingCloses = 0)
    {state : Lifecycle} (left : state ≠ .established) (promptness : Promptness) :
    (⟨channel, state⟩ : Client).close suite promptness = (.ok false, ⟨channel.shut, .closed⟩) := by
  have passed : ¬ state.canBecome .disconnecting = true :=
    fun possible => left (Lifecycle.canBecome_disconnecting_iff.mp possible)
  rw [close, if_neg passed, withChannel, Channel.close_of_closable closable, Outcome.andThen_ok,
    Lifecycle.advance_closed]

/-- An established client makes one farewell, unless this wants a nonce and there is none. -/
theorem close_of_established (suite : Suite) (closable : client.channel.stream.failingCloses = 0)
    (established : client.state = .established)
    (supplied : client.channel.poisoned = false → client.channel.sender.counter ≠ Cipher.lastCounter)
    (promptness : Promptness) :
    client.close suite promptness =
      (.ok (promptness == .prompt && (client.channel.farewell suite promptness).1.isOk),
        ⟨(client.channel.farewell suite promptness).2, .closed⟩) := by
  rw [close, if_pos (Lifecycle.canBecome_disconnecting_iff.mpr established)]
  cases usable : client.channel.poisoned with
  | true =>
      rw [Channel.farewell_of_poisoned usable]
      simp only [Channel.prepare_of_poisoned usable, Failure.isNetwork, if_true, Except.isOk, Except.toBool,
        Bool.and_false]
      exact conclude_of_closable closable .disconnecting false
  | false =>
      have more := supplied usable
      have fits := Channel.encode_fits .disconnect
      have refuses := (Channel.send_shut suite client.channel .disconnect).1
      have spoken : client.channel.send suite .disconnect = _ := Channel.sendFrame_of_fits usable fits more
      have hushed : client.channel.shut.send suite .disconnect = _ := Channel.sendFrame_of_fits usable fits more
      have stillClosable : ({ client.channel with sender := client.channel.sender.advanced } :
        Channel).stream.failingCloses = 0 := closable
      simp only [Channel.prepare_of_fits usable fits more]
      rw [announce_of_closable stillClosable]
      unfold Channel.farewell
      split
      · rw [spoken]
      · rw [refuses, Bool.and_false, hushed]
        rfl

/-- Where there is no nonce left, the refusal of the cipher is passed on, and the client is left halfway. -/
theorem close_of_exhausted (suite : Suite) (closable : client.channel.stream.failingCloses = 0)
    (established : client.state = .established) (usable : client.channel.poisoned = false)
    (exhausted : client.channel.sender.counter = Cipher.lastCounter) (promptness : Promptness) :
    client.close suite promptness =
      (.error (.crypto .nonceExhausted),
        ⟨if promptness = .prompt then client.channel else client.channel.shut, .disconnecting⟩) := by
  rw [close, if_pos (Lifecycle.canBecome_disconnecting_iff.mpr established)]
  simp only [Channel.prepare_of_exhausted usable (Channel.encode_fits .disconnect) exhausted, Failure.isNetwork,
    Bool.false_eq_true, if_false]
  split
  · rfl
  · rw [withChannel, Channel.close_of_closable closable, Outcome.andThen_ok]

/-! ## When closing completes -/

/-- A client that has to announce its departure and has no nonce left for that. -/
structure IsSpeechless (client : Client) : Prop where
  established : client.state = .established
  usable : client.channel.poisoned = false
  exhausted : client.channel.sender.counter = Cipher.lastCounter

/-- However long it takes, and whatever the channel has come to, closing gives back whether the departure is
known to be announced and leaves the client and its stream closed, exactly unless the client has no nonce left
to announce it with. Such a client is given the refusal of the cipher and is left halfway, its stream closed
only if the time was up before; to close it again completes. -/
theorem close_completes_iff (suite : Suite) (closable : client.channel.stream.failingCloses = 0)
    (promptness : Promptness) :
    ((∃ delivered, (client.close suite promptness).1 = .ok delivered) ∧
          (client.close suite promptness).2.state = .closed ∧
          (client.close suite promptness).2.channel.stream.closed = true ↔
        ¬ client.IsSpeechless) ∧
      (client.IsSpeechless →
        client.close suite promptness =
            (.error (.crypto .nonceExhausted),
              ⟨if promptness = .prompt then client.channel else client.channel.shut, .disconnecting⟩) ∧
          ∀ again, (client.close suite promptness).2.close suite again =
            (.ok false, ⟨client.channel.shut, .closed⟩)) := by
  by_cases speechless : client.IsSpeechless
  · obtain ⟨established, usable, exhausted⟩ := speechless
    rw [close_of_exhausted suite closable established usable exhausted promptness]
    have silent : ¬ ¬ client.IsSpeechless := not_not_intro ⟨established, usable, exhausted⟩
    refine ⟨iff_of_false ?_ silent, fun _ => ⟨rfl, fun again => ?_⟩⟩
    · rintro ⟨⟨delivered, answered⟩, _⟩
      cases answered
    · have left : Lifecycle.disconnecting ≠ .established := nofun
      have shutClosable : client.channel.shut.stream.failingCloses = 0 := closable
      split
      · exact close_of_left suite closable left again
      · exact close_of_left suite shutClosable left again
  · refine ⟨iff_of_true ?_ speechless, fun silent => absurd silent speechless⟩
    by_cases established : client.state = .established
    · have supplied (usable : client.channel.poisoned = false) :
          client.channel.sender.counter ≠ Cipher.lastCounter :=
        fun exhausted => speechless ⟨established, usable, exhausted⟩
      rw [close_of_established suite closable established supplied]
      exact ⟨⟨_, rfl⟩, rfl, Channel.closed_farewell suite client.channel promptness⟩
    · rw [close_of_left suite closable established]
      exact ⟨⟨false, rfl⟩, rfl, rfl⟩

/-- On a channel that is poisoned besides, and whose stream keeps writes waiting, closing completes even without
a nonce. -/
theorem close_completes_iff_poisoned :
    ∃ client : Client, client.state = .established ∧ client.channel.poisoned = true ∧
      client.channel.sender.counter = Cipher.lastCounter ∧ client.channel.stream.writable = false ∧
      client.channel.stream.failingCloses = 0 ∧
      (∃ delivered, (client.close Suite.standard .late).1 = .ok delivered) ∧
      (client.close Suite.standard .late).2.state = .closed ∧
      (client.close Suite.standard .late).2.channel.stream.closed = true := by
  let ruined : Client :=
    { channel :=
        { stream := { address := "peer", stalled := true }
          sender := ⟨Block.little 32 0, Cipher.lastCounter⟩
          receiver := ⟨Block.little 32 1, 1⟩
          poisoned := true } }
  have closable : ruined.channel.stream.failingCloses = 0 := rfl
  have speaks : ¬ ruined.IsSpeechless := fun silent => Bool.noConfusion silent.usable
  exact ⟨ruined, rfl, rfl, rfl, rfl, closable,
    (close_completes_iff Suite.standard closable .late).1.mpr speaks⟩

/-- An established client that has used up its nonces. -/
def speechless : Client where
  channel :=
    { stream := { address := "peer" }
      sender := ⟨Block.little 32 0, Cipher.lastCounter⟩
      receiver := ⟨Block.little 32 1, 1⟩ }

/-- Closing it in time gives back no answer, and leaves it neither closed nor its stream. -/
theorem abandons_close_speechless :
    speechless.channel.stream.failingCloses = 0 ∧
      speechless.close Suite.standard .prompt =
        (.error (.crypto .nonceExhausted), ⟨speechless.channel, .disconnecting⟩) ∧
      speechless.channel.stream.closed = false ∧
      ¬ ((∃ delivered, (speechless.close Suite.standard .prompt).1 = .ok delivered) ∧
        (speechless.close Suite.standard .prompt).2.state = .closed ∧
        (speechless.close Suite.standard .prompt).2.channel.stream.closed = true) := by
  have halfway : speechless.close Suite.standard .prompt =
      (.error (.crypto .nonceExhausted), ⟨speechless.channel, .disconnecting⟩) := rfl
  refine ⟨rfl, halfway, rfl, ?_⟩
  rintro ⟨⟨delivered, answered⟩, _⟩
  rw [halfway] at answered
  cases answered

end Client

end Courier
