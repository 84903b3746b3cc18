import Courier.Proofs.Channel.NonceSequence
import Courier.Proofs.Client.Closing

/-!
# The life of a client

Between any two operations a client is established or closed, and once closed it
stays so, with its stream closed and nothing more read or written. Two things
close it: a departure that it receives, alone or in place of the answer to a
greeting, and its own close. Every operation is told here in terms of the channel
below it, and a run of operations by induction.
-/

namespace Courier.Client

variable {suite : Suite} {client : Client} {message : Message}

/-! ## Single operations -/

theorem send_of_established (suite : Suite) (established : client.state = .established) (message : Message) :
    client.send suite message = client.withChannel (client.channel.send suite message) :=
  if_neg (not_not_intro established)

theorem send_of_left (suite : Suite) (left : client.state ≠ .established) (message : Message) :
    client.send suite message = (.error (.protocol (.sendIn client.state)), client) :=
  if_pos left

theorem receive_of_left (suite : Suite) (left : client.state ≠ .established) :
    client.receive suite = (.error (.protocol (.receiveIn client.state)), client) :=
  if_pos left

/-- What receiving comes to on an established client: a failure of the channel, a departure, which closes the
client, or another message. -/
inductive Receipt (suite : Suite) (channel : Channel) : Outcome Client Message → Prop where
  | failed (failure : Failure) (after : Channel) (received : channel.receive suite = (.error failure, after)) :
      Receipt suite channel (.error failure, ⟨after, .established⟩)
  | parted (after : Channel) (received : channel.receive suite = (.ok .disconnect, after)) :
      Receipt suite channel (.ok .disconnect, ⟨after.shut, .closed⟩)
  | heard (message : Message) (after : Channel) (received : channel.receive suite = (.ok message, after))
      (stays : message ≠ .disconnect) : Receipt suite channel (.ok message, ⟨after, .established⟩)

theorem keeps_receive (suite : Suite) (channel : Channel) :
    channel.stream.Keeps (channel.receive suite).2.stream :=
  (Channel.Silent.receiving.receive suite channel).kept

theorem receipt (suite : Suite) {channel : Channel} (closable : channel.stream.failingCloses = 0) :
    Receipt suite channel ((⟨channel, .established⟩ : Client).receive suite) := by
  have kept := (keeps_receive suite channel).closable closable
  have established : ¬ (⟨channel, .established⟩ : Client).state ≠ .established := not_not_intro rfl
  rw [receive, if_neg established, withChannel]
  generalize received : channel.receive suite = outcome at kept
  obtain ⟨result, after⟩ := outcome
  cases result with
  | error failure => exact .failed failure after received
  | ok message =>
      cases message with
      | disconnect =>
          have left : (⟨after, .established⟩ : Client).leave = (.ok (), ⟨after.shut, .closed⟩) := by
            have possible : (⟨after, .established⟩ : Client).state.canBecome .disconnecting = true := rfl
            rw [leave, if_pos possible, withChannel, Channel.close_of_closable kept]
            rfl
          rw [Outcome.andThen_ok]
          simp only [left]
          exact .parted after received
      | greeting version => exact .heard _ after received (by simp)
      | response status => exact .heard _ after received (by simp)

/-- A greeting that cannot be sent is not waited for. -/
theorem greet_of_unsent {version : UInt32} {failure : Failure} {after : Client}
    (unsent : client.send suite (.greeting version) = (.error failure, after)) :
    client.greet suite version = (.error failure, after) := by
  rw [greet, unsent]
  rfl

/-- After a greeting the next message is received and judged. -/
theorem greet_of_sent {version : UInt32} {after : Client}
    (sent : client.send suite (.greeting version) = (.ok (), after)) :
    client.greet suite version =
      (after.receive suite).andThen fun message client => client.judgeAnswer message := by
  rw [greet, sent, Outcome.andThen_ok]

/-- Judging an answer leaves the client as it is. -/
@[simp] theorem snd_andThen_judgeAnswer (outcome : Outcome Client Message) :
    (outcome.andThen fun message client => client.judgeAnswer message).2 = outcome.2 := by
  obtain ⟨failure | message, client⟩ := outcome
  · rfl
  · cases message <;> rfl

/-- What a client receives its channel has received. -/
theorem fst_receive (suite : Suite) {channel : Channel} (closable : channel.stream.failingCloses = 0) :
    ((⟨channel, .established⟩ : Client).receive suite).1 = (channel.receive suite).1 := by
  have receipt := receipt suite closable
  generalize (⟨channel, .established⟩ : Client).receive suite = outcome at receipt
  cases receipt with
  | failed failure after received => rw [received]
  | parted after received => rw [received]
  | heard message after received stays => rw [received]

section Judging

variable (outcome : Outcome Client Message)

theorem judged_ok_iff (status : Status) :
    (outcome.andThen fun message client => client.judgeAnswer message).1 = .ok status ↔
      outcome.1 = .ok (.response status) := by
  obtain ⟨failure | message, client⟩ := outcome
  · simp [Outcome.andThen]
  · cases message <;> simp [Outcome.andThen, judgeAnswer]

theorem judged_of_unexpected (message : Message) (heard : outcome.1 = .ok message)
    (unexpected : message.kind ≠ .response) :
    (outcome.andThen fun message client => client.judgeAnswer message).1 =
      .error (.protocol (.expectedResponse message.kind)) := by
  obtain ⟨result, client⟩ := outcome
  cases heard
  cases message with
  | response status => exact absurd rfl unexpected
  | greeting version => rfl
  | disconnect => rfl

theorem judged_of_failed (failure : Failure) (failed : outcome.1 = .error failure) :
    (outcome.andThen fun message client => client.judgeAnswer message).1 = .error failure := by
  obtain ⟨result, client⟩ := outcome
  cases failed
  rfl

end Judging

/-! ## Operations -/

/-- What is done with a client, or happens to its stream meanwhile: bytes arrive, and from then on the other
side takes so many bytes more, at once or only when the stream is closed. -/
inductive Operation where
  | greet (version : UInt32)
  | send (message : Message)
  | receive
  | close (promptness : Promptness)
  | giveUp (promptness : Promptness)
  | meanwhile (bytes : Octets) (room : Option Nat) (stalled : Bool)
  deriving DecidableEq

namespace Operation

/-- The client after an operation. -/
def apply (suite : Suite) (client : Client) : Operation → Client
  | greet version => (client.greet suite version).2
  | send message => (client.send suite message).2
  | receive => (client.receive suite).2
  | close promptness => (client.close suite promptness).2
  | giveUp promptness => client.givenUp suite promptness
  | meanwhile bytes room stalled =>
      { client with channel := { client.channel with
        stream := { client.channel.stream.feed bytes with room, stalled } } }

/-- The message that an operation receives, if it does. -/
def heard? (suite : Suite) (client : Client) : Operation → Option Message
  | receive => (client.receive suite).1.toOption
  | greet version =>
      match client.send suite (.greeting version) with
      | (.ok _, client) => (client.receive suite).1.toOption
      | (.error _, _) => none
  | send _ | close _ | giveUp _ | meanwhile .. => none

/-- Whether an operation is to close the client. -/
def closes : Operation → Bool
  | close _ | giveUp _ => true
  | greet _ | send _ | receive | meanwhile .. => false

/-- Whether an operation has something sealed. -/
def seals (client : Client) : Operation → Bool
  | greet _ | send _ | close _ | giveUp _ => client.state == .established && !client.channel.poisoned
  | receive | meanwhile .. => false

/-- Whether there is a nonce for what an operation has sealed. -/
def IsSupplied (client : Client) (operation : Operation) : Prop :=
  operation.seals client = true → client.channel.sender.counter ≠ Cipher.lastCounter

end Operation

/-- The client after a run of operations. -/
def after (suite : Suite) : Client → List Operation → Client
  | client, [] => client
  | client, operation :: rest => after suite (operation.apply suite client) rest

/-- Whether the nonces last for a run of operations. -/
def IsSupplied (suite : Suite) : Client → List Operation → Prop
  | _, [] => True
  | client, operation :: rest =>
      operation.IsSupplied client ∧ IsSupplied suite (operation.apply suite client) rest

/-! ## On an established client -/

section Established

variable {channel : Channel} {promptness : Promptness}

theorem closable_send (suite : Suite) (closable : channel.stream.failingCloses = 0) (message : Message) :
    (channel.send suite message).2.stream.failingCloses = 0 :=
  (Channel.keeps_sendFrame suite channel message.encode).closable closable

theorem closable_farewell (suite : Suite) (closable : channel.stream.failingCloses = 0)
    (promptness : Promptness) : (channel.farewell suite promptness).2.stream.failingCloses = 0 := by
  unfold Channel.farewell
  split
  · exact closable_send suite closable .disconnect
  · have shutClosable : channel.shut.stream.failingCloses = 0 := closable
    exact closable_send suite shutClosable .disconnect

/-- Only a departure that is received closes the client. -/
theorem state_receive_iff (suite : Suite) (closable : channel.stream.failingCloses = 0) :
    ((⟨channel, .established⟩ : Client).receive suite).2.state = .closed ↔
      ((⟨channel, .established⟩ : Client).receive suite).1.toOption = some .disconnect := by
  have receipt := receipt suite closable
  generalize (⟨channel, .established⟩ : Client).receive suite = outcome at receipt
  cases receipt with
  | failed failure after received => simp [Except.toOption]
  | parted after received => simp [Except.toOption]
  | heard message after received stays => simp [Except.toOption, stays]

/-- To give up a client is to close it. -/
theorem givenUp_of_established (suite : Suite) (closable : channel.stream.failingCloses = 0)
    (supplied : channel.poisoned = false → channel.sender.counter ≠ Cipher.lastCounter)
    (promptness : Promptness) :
    (⟨channel, .established⟩ : Client).givenUp suite promptness =
      ⟨(channel.farewell suite promptness).2, .closed⟩ := by
  have closed := Channel.closed_farewell suite channel promptness
  have again := closable_farewell suite closable promptness
  rw [givenUp, if_pos rfl, close_of_established suite closable rfl supplied promptness]
  simp only [Channel.close, Stream.close_of_closed again closed]

end Established

/-! ## On a closed client -/

/-- A client that is closed and whose stream is closed: nothing that is done with it does anything. -/
structure Rests (suite : Suite) (client : Client) : Prop where
  shut : client.channel.stream.closed = true
  greet : ∀ version, client.greet suite version = (.error (.protocol (.sendIn .closed)), client)
  send : ∀ message, client.send suite message = (.error (.protocol (.sendIn .closed)), client)
  receive : client.receive suite = (.error (.protocol (.receiveIn .closed)), client)
  close : ∀ promptness, client.close suite promptness = (.ok false, client)
  givenUp : ∀ promptness, client.givenUp suite promptness = client

theorem rests_of_closed (suite : Suite) {channel : Channel} (closable : channel.stream.failingCloses = 0)
    (shut : channel.stream.closed = true) : Rests suite ⟨channel, .closed⟩ := by
  have left : Lifecycle.closed ≠ .established := nofun
  have again : channel.close = (.ok (), channel) := by
    rw [Channel.close, Stream.close_of_closed closable shut]
  have same : channel.shut = channel := by
    have closes := Channel.close_of_closable closable
    rw [again] at closes
    exact (Prod.mk.inj closes).2.symm
  have unsent (message : Message) : (⟨channel, .closed⟩ : Client).send suite message =
      (.error (.protocol (.sendIn .closed)), ⟨channel, .closed⟩) := send_of_left suite left message
  refine ⟨shut, fun version => greet_of_unsent (unsent _), unsent, receive_of_left suite left, fun promptness => ?_,
    fun promptness => ?_⟩
  · rw [close_of_left suite closable left, same]
  · rw [Client.givenUp, if_neg left, again]

/-- Nothing but its surroundings changes a client that rests. -/
theorem Rests.apply (rests : Rests suite client) (operation : Operation) :
    operation.apply suite client = client ∨
      ∃ bytes room stalled, operation = .meanwhile bytes room stalled := by
  cases operation with
  | greet version => exact .inl (congrArg Prod.snd (rests.greet version))
  | send message => exact .inl (congrArg Prod.snd (rests.send message))
  | receive => exact .inl (congrArg Prod.snd rests.receive)
  | close promptness => exact .inl (congrArg Prod.snd (rests.close promptness))
  | giveUp promptness => exact .inl (rests.givenUp promptness)
  | meanwhile bytes room stalled => exact .inr ⟨bytes, room, stalled, rfl⟩

/-! ## Runs -/

/-- How a client stands between two operations. -/
inductive IsSettled : Client → Prop where
  | established (channel : Channel) (closable : channel.stream.failingCloses = 0) :
      IsSettled ⟨channel, .established⟩
  | closed (channel : Channel) (closable : channel.stream.failingCloses = 0)
      (shut : channel.stream.closed = true) : IsSettled ⟨channel, .closed⟩

namespace IsSettled

variable {operation : Operation}

theorem farewell (suite : Suite) {channel : Channel} (closable : channel.stream.failingCloses = 0)
    (promptness : Promptness) : IsSettled ⟨(channel.farewell suite promptness).2, .closed⟩ :=
  .closed _ (closable_farewell suite closable promptness) (Channel.closed_farewell suite channel promptness)

theorem receive (suite : Suite) {channel : Channel} (closable : channel.stream.failingCloses = 0) :
    IsSettled ((⟨channel, .established⟩ : Client).receive suite).2 := by
  have kept := (keeps_receive suite channel).closable closable
  have receipt := receipt suite closable
  generalize (⟨channel, .established⟩ : Client).receive suite = outcome at receipt
  cases receipt with
  | failed failure after received =>
      rw [received] at kept
      exact .established after kept
  | parted after received =>
      rw [received] at kept
      exact .closed after.shut kept rfl
  | heard message after received stays =>
      rw [received] at kept
      exact .established after kept

/-- Every operation that has a nonce for what it seals leaves a client established or closed; it is closed
exactly if it was, or the operation is to close it, or has received a departure. -/
theorem apply (suite : Suite) (settled : client.IsSettled) (supplied : operation.IsSupplied client) :
    (operation.apply suite client).IsSettled ∧
      ((operation.apply suite client).state = .closed ↔
        client.state = .closed ∨ operation.closes = true ∨
          operation.heard? suite client = some .disconnect) := by
  cases settled with
  | closed channel closable shut =>
      have rests := rests_of_closed suite closable shut
      refine ⟨?_, iff_of_true ?_ (.inl rfl)⟩
      all_goals rcases rests.apply operation with same | ⟨bytes, room, stalled, rfl⟩
      · rw [same]
        exact .closed channel closable shut
      · exact .closed _ closable shut
      · rw [same]
      · rfl
  | established channel closable =>
      cases operation with
      | greet version =>
          have kept := closable_send suite closable (.greeting version)
          have sends : (⟨channel, .established⟩ : Client).send suite (.greeting version) = _ :=
            send_of_established suite rfl (.greeting version)
          rw [withChannel] at sends
          generalize channel.send suite (.greeting version) = outcome at kept sends
          obtain ⟨result, sent⟩ := outcome
          cases result with
          | error failure =>
              rw [Operation.apply, greet_of_unsent sends, Operation.heard?, sends]
              exact ⟨.established sent kept, by simp [Operation.closes]⟩
          | ok written =>
              rw [Operation.apply, greet_of_sent sends, snd_andThen_judgeAnswer, Operation.heard?, sends]
              refine ⟨.receive suite kept, ?_⟩
              simpa [Operation.closes] using state_receive_iff suite kept
      | send message =>
          rw [Operation.apply, send_of_established suite rfl]
          exact ⟨.established _ (closable_send suite closable message),
            by simp [Operation.closes, Operation.heard?, withChannel]⟩
      | receive =>
          rw [Operation.apply, Operation.heard?]
          refine ⟨.receive suite closable, ?_⟩
          simpa [Operation.closes] using state_receive_iff suite closable
      | close promptness =>
          have enough (usable : channel.poisoned = false) : channel.sender.counter ≠ Cipher.lastCounter :=
            supplied (by simp [Operation.seals, usable])
          rw [Operation.apply, close_of_established suite closable rfl enough promptness]
          exact ⟨.farewell suite closable promptness, iff_of_true rfl (.inr (.inl rfl))⟩
      | giveUp promptness =>
          have enough (usable : channel.poisoned = false) : channel.sender.counter ≠ Cipher.lastCounter :=
            supplied (by simp [Operation.seals, usable])
          rw [Operation.apply, givenUp_of_established suite closable enough promptness]
          exact ⟨.farewell suite closable promptness, iff_of_true rfl (.inr (.inl rfl))⟩
      | meanwhile bytes room stalled =>
          exact ⟨.established _ closable, by simp [Operation.apply, Operation.closes, Operation.heard?]⟩

/-- So does every run. -/
theorem run (suite : Suite) (settled : client.IsSettled) {operations : List Operation}
    (supplied : client.IsSupplied suite operations) : (client.after suite operations).IsSettled := by
  induction operations generalizing client with
  | nil => exact settled
  | cons operation rest ih => exact ih (settled.apply suite supplied.1).1 supplied.2

end IsSettled

/-- A close of an established client is one attempt to announce its departure, with the client and the stream
closed whatever comes of it; to give the client up is to close it. -/
theorem close_attempts_once (suite : Suite) {channel : Channel} (closable : channel.stream.failingCloses = 0)
    (supplied : channel.poisoned = false → channel.sender.counter ≠ Cipher.lastCounter)
    (promptness : Promptness) :
    ∃ delivered attempt last,
      (⟨channel, .established⟩ : Client).close suite promptness = (.ok delivered, ⟨last, .closed⟩) ∧
      last.stream.closed = true ∧
      (attempt = channel.send suite .disconnect ∧ last = attempt.2.shut ∨
        attempt = channel.shut.send suite .disconnect ∧ last = attempt.2) ∧
      (delivered = true → attempt.1 = .ok () ∧
        last.stream.accepted = channel.stream.accepted ++
          Channel.frame (Channel.sealedBody suite channel.sender.key (channel.sender.counter.toNat + 1)
            Message.disconnect.encode)) ∧
      (⟨channel, .established⟩ : Client).givenUp suite promptness = ⟨last, .closed⟩ := by
  have closes : (⟨channel, .established⟩ : Client).close suite promptness = _ :=
    close_of_established suite closable rfl supplied promptness
  have drops := givenUp_of_established suite closable supplied promptness
  have shut := Channel.closed_farewell suite channel promptness
  have told (delivered : (promptness == .prompt && (channel.farewell suite promptness).1.isOk) = true) :
      (channel.farewell suite promptness).1 = .ok () ∧
        (channel.farewell suite promptness).2.stream.accepted = channel.stream.accepted ++
          Channel.frame (Channel.sealedBody suite channel.sender.key (channel.sender.counter.toNat + 1)
            Message.disconnect.encode) := by
    have succeeded := (Bool.and_eq_true_iff.mp delivered).2
    generalize made : channel.farewell suite promptness = outcome at succeeded ⊢
    obtain ⟨failure | done, last⟩ := outcome
    · cases succeeded
    · exact ⟨rfl, Channel.accepted_of_farewell made⟩
  rcases channel.farewell_eq_or suite promptness with before | after
  · refine ⟨_, channel.send suite .disconnect, _, closes, shut, .inl ⟨rfl, by rw [before]⟩,
      fun delivered => ⟨?_, (told delivered).2⟩, drops⟩
    have done := (told delivered).1
    rw [before] at done
    exact done
  · refine ⟨_, channel.shut.send suite .disconnect, _, closes, shut, .inr ⟨rfl, by rw [after]⟩,
      fun delivered => ⟨?_, (told delivered).2⟩, drops⟩
    rw [← after]
    exact (told delivered).1

/-- Whatever was done with a client that began on a stream that can be closed, as long as its nonces last: it is
established or closed; what is done next leaves it closed exactly if it was, or closes it, or receives a departure.
Once it is closed its stream is, and whatever is done with it is refused and changes nothing, but for closing,
which gives back that nothing was announced. While it is established, closing makes one attempt to send a
departure, before its stream is closed or after, gives back that it was announced only if its frame was taken
whole, and leaves client and stream closed; giving the client up does the same. A greeting that was sent is
answered with a status exactly if the next message is a response, and with a violation if it is another. -/
theorem is_established_until_closed (suite : Suite) {channel : Channel}
    (closable : channel.stream.failingCloses = 0) {before : List Operation} {now : Client}
    (supplied : IsSupplied suite ⟨channel, .established⟩ before)
    (reached : after suite ⟨channel, .established⟩ before = now) :
    (now.state = .established ∨ now.state = .closed) ∧
    (∀ operation : Operation, operation.IsSupplied now →
      ((operation.apply suite now).state = .closed ↔
        now.state = .closed ∨ operation.closes = true ∨ operation.heard? suite now = some .disconnect)) ∧
    (now.state = .closed → now.Rests suite) ∧
    (now.state = .established → ∀ promptness, (Operation.close promptness).IsSupplied now →
      ∃ delivered attempt last,
        now.close suite promptness = (.ok delivered, ⟨last, .closed⟩) ∧ last.stream.closed = true ∧
        (attempt = now.channel.send suite .disconnect ∧ last = attempt.2.shut ∨
          attempt = now.channel.shut.send suite .disconnect ∧ last = attempt.2) ∧
        (delivered = true → attempt.1 = .ok () ∧
          last.stream.accepted = now.channel.stream.accepted ++
            Channel.frame (Channel.sealedBody suite now.channel.sender.key (now.channel.sender.counter.toNat + 1)
              Message.disconnect.encode)) ∧
        now.givenUp suite promptness = ⟨last, .closed⟩) ∧
    (∀ version sent, now.state = .established →
      now.channel.send suite (.greeting version) = (.ok (), sent) →
        (∀ status, (now.greet suite version).1 = .ok status ↔
          (sent.receive suite).1 = .ok (.response status)) ∧
        (∀ message, (sent.receive suite).1 = .ok message → message.kind ≠ .response →
          (now.greet suite version).1 = .error (.protocol (.expectedResponse message.kind))) ∧
        (∀ failure, (sent.receive suite).1 = .error failure →
          (now.greet suite version).1 = .error failure)) := by
  have settled : now.IsSettled := by
    rw [← reached]
    exact (IsSettled.established channel closable).run suite supplied
  clear reached
  refine ⟨?_, fun operation supplied => (settled.apply suite supplied).2, fun closed => ?_,
    fun established promptness supplied => ?_, fun version sent established sends => ?_⟩
  · cases settled with
    | established channel closable => exact .inl rfl
    | closed channel closable shut => exact .inr rfl
  · cases settled with
    | established channel closable => cases closed
    | closed channel closable shut => exact rests_of_closed suite closable shut
  · cases settled with
    | closed channel closable shut => cases established
    | established channel closable =>
        exact close_attempts_once suite closable (fun usable => supplied (by simp [Operation.seals, usable])) promptness
  · cases settled with
    | closed channel closable shut => cases established
    | established channel closable =>
        have kept := closable_send suite closable (.greeting version)
        have told : (⟨channel, .established⟩ : Client).send suite (.greeting version) = _ :=
          send_of_established suite rfl (.greeting version)
        rw [withChannel, sends] at told
        rw [sends] at kept
        rw [greet_of_sent told, ← fst_receive suite kept]
        exact ⟨judged_ok_iff _, judged_of_unexpected _, judged_of_failed _⟩

/-- The channel of a client whose server has nothing to say. -/
def deserted : Channel where
  stream := { address := "peer" }
  sender := ⟨Block.little 32 0, 0⟩
  receiver := ⟨Block.little 32 1, 0⟩

/-- A client that hears nothing but the end of the stream stays established; once it closes, it rests. -/
theorem is_established_until_closed_deserted :
    deserted.stream.failingCloses = 0 ∧
      IsSupplied Suite.standard ⟨deserted, .established⟩ [.receive, .close .late] ∧
      (after Suite.standard ⟨deserted, .established⟩ [.receive]).state = .established ∧
      (after Suite.standard ⟨deserted, .established⟩ [.receive, .close .late]).state = .closed ∧
      (after Suite.standard ⟨deserted, .established⟩ [.receive, .close .late]).Rests Suite.standard := by
  have closable : deserted.stream.failingCloses = 0 := rfl
  have heard : IsSupplied Suite.standard ⟨deserted, .established⟩ [.receive] := ⟨nofun, trivial⟩
  have stays : (after Suite.standard ⟨deserted, .established⟩ [.receive]).state = .established := rfl
  have supplied : (Operation.close .late).IsSupplied (after Suite.standard ⟨deserted, .established⟩ [.receive]) :=
    fun _ => by decide
  have closes := ((is_established_until_closed Suite.standard closable heard rfl).2.1 (.close .late) supplied).mpr
    (.inr (.inl rfl))
  have both : IsSupplied Suite.standard ⟨deserted, .established⟩ [.receive, .close .late] :=
    ⟨nofun, supplied, trivial⟩
  exact ⟨closable, both, stays, closes, (is_established_until_closed Suite.standard closable both rfl).2.2.1 closes⟩

end Courier.Client
