import Courier.Proofs.Channel.Framing

/-!
# Reception from an adversary

A receiver may be fed any bytes. As long as nothing is forged, which means that
every body that it opens is the one that was sealed under the same counter, it
gives back the payloads of the frames that have arrived unchanged from the
first one on, and nothing after them. The parse position, the counter and
the place of the payload move together; the first deviation ends all three.
-/

namespace Courier.Channel

/-! ## What is intact -/

/-- How many bytes two byte strings begin with in common. -/
def commonLength : Octets → Octets → Nat
  | first :: firsts, second :: seconds =>
      if first = second then commonLength firsts seconds + 1 else 0
  | _, _ => 0

/-- How many of these frames, one after the other, are complete within so many bytes. -/
def framesWithin : List Octets → Nat → Nat
  | [], _ => 0
  | framed :: rest, length =>
      if framed.length ≤ length then framesWithin rest (length - framed.length) + 1 else 0

/-- How many of these frames are complete in what a byte string has in common with them. -/
def intact (sent : List Octets) (bytes : Octets) : Nat :=
  framesWithin sent (commonLength bytes sent.flatten)

theorem commonLength_append (front first second : Octets) :
    commonLength (front ++ first) (front ++ second) = front.length + commonLength first second := by
  induction front with
  | nil => simp
  | cons octet rest ih =>
      simp only [List.cons_append, commonLength, if_true, ih, List.length_cons]
      omega

theorem exists_append_of_le_commonLength {front bytes rest : Octets}
    (reaches : front.length ≤ commonLength bytes (front ++ rest)) :
    ∃ following, bytes = front ++ following := by
  induction front generalizing bytes with
  | nil => exact ⟨bytes, rfl⟩
  | cons octet front ih =>
      cases bytes with
      | nil => simp [commonLength] at reaches
      | cons first bytes =>
          by_cases same : first = octet
          · simp only [List.cons_append, commonLength, if_pos same, List.length_cons,
              Nat.add_le_add_iff_right] at reaches
            obtain ⟨following, split⟩ := ih reaches
            exact ⟨following, by rw [same, split, List.cons_append]⟩
          · simp [commonLength, same] at reaches

@[simp] theorem intact_nil (bytes : Octets) : intact [] bytes = 0 := rfl

theorem intact_append (framed following : Octets) (rest : List Octets) :
    intact (framed :: rest) (framed ++ following) = intact rest following + 1 := by
  rw [intact, List.flatten_cons, commonLength_append, framesWithin, if_pos (Nat.le_add_right _ _),
    Nat.add_sub_cancel_left, intact]

theorem intact_cons_of_not {framed bytes : Octets} (rest : List Octets)
    (deviates : ∀ following, bytes ≠ framed ++ following) : intact (framed :: rest) bytes = 0 := by
  rw [intact, List.flatten_cons, framesWithin, if_neg]
  intro reaches
  obtain ⟨following, split⟩ := exists_append_of_le_commonLength reaches
  exact deviates following split

/-! ## The run -/

/-- Sends payloads one after the other, until one cannot be sent. -/
def sendAll (suite : Suite) : Channel → List Octets → Outcome Channel Unit
  | sender, [] => (.ok (), sender)
  | sender, payload :: rest => (sender.sendFrame suite payload).andThen fun _ next => next.sendAll suite rest

/-- What happens to a receiver: bytes arrive, or it is asked for the next payload. -/
inductive Event where
  | arrive (bytes : Octets)
  | ask
  deriving DecidableEq

/-- All bytes that arrive. -/
def arriving : List Event → Octets
  | [] => []
  | .arrive bytes :: rest => bytes ++ arriving rest
  | .ask :: rest => arriving rest

/-- What a receiver answers each time it is asked. -/
def listen (suite : Suite) : Channel → List Event → List (Except Failure Octets)
  | _, [] => []
  | receiver, .arrive bytes :: rest => (receiver.fed bytes).listen suite rest
  | receiver, .ask :: rest =>
      (receiver.receiveFrame suite).1 :: (receiver.receiveFrame suite).2.listen suite rest

/-- The payloads among the answers. -/
def delivered (answers : List (Except Failure Octets)) : List Octets := answers.filterMap Except.toOption

/-- Whether a receiver that is asked now opens this body, under the nonce of this counter. -/
def Opens (suite : Suite) (receiver : Channel) (counter : Nat) (body : Octets) : Prop :=
  ∃ reading text cipher, receiver.takeSealed = (.ok body, reading) ∧
    reading.receiver.openBuffer suite body = ⟨none, text, cipher⟩ ∧ cipher.counter.toNat = counter

/-- Whether this body is the one that was sealed at this counter when these payloads were sent. -/
def SealedAt (suite : Suite) (cipher : Cipher) (payloads : List Octets) (counter : Nat) (body : Octets) :
    Prop :=
  ∃ k payload, payloads[k]? = some payload ∧ counter = cipher.counter.toNat + k + 1 ∧
    body = sealedBody suite cipher.key counter payload

/-- Whether every body that is opened in a run is the one that was sealed at the same counter. -/
def Unforged (suite : Suite) (cipher : Cipher) (payloads : List Octets) : Channel → List Event → Prop
  | _, [] => True
  | receiver, .arrive bytes :: rest => Unforged suite cipher payloads (receiver.fed bytes) rest
  | receiver, .ask :: rest =>
      (∀ counter body, receiver.Opens suite counter body → SealedAt suite cipher payloads counter body) ∧
        Unforged suite cipher payloads (receiver.receiveFrame suite).2 rest

/-- Whether a receiver refuses an answer because of what has arrived. -/
def IsFrameError (answer : Except Failure Octets) : Prop := ∃ error, answer = .error (.frame error)

/-- What is to be answered at this place if all bytes have arrived before: the payload if its frame is
intact, and otherwise the end of the connection if the intact frames are all that has arrived, and a
frame error if more has. -/
structure IsDue (payloads sent : List Octets) (bytes : Octets) (place : Nat) (answer : Except Failure Octets) :
    Prop where
  delivered : place < intact sent bytes →
    ∃ payload, payloads[place]? = some payload ∧ answer = .ok payload
  ended : intact sent bytes ≤ place → bytes = (sent.take (intact sent bytes)).flatten →
    answer = .error (.connection (.ended .endOfFile))
  refused : intact sent bytes ≤ place → bytes ≠ (sent.take (intact sent bytes)).flatten →
    IsFrameError answer

/-- A channel that can be read from, and whose stream closes at the first attempt. -/
structure IsOpen (channel : Channel) : Prop where
  usable : channel.poisoned = false
  opened : channel.stream.closed = false
  closable : channel.stream.failingCloses = 0

/-! ## One request -/

variable {suite : Suite} {receiver : Channel}

theorem IsOpen.fed (ready : receiver.IsOpen) (bytes : Octets) : (receiver.fed bytes).IsOpen :=
  ⟨ready.usable, ready.opened, ready.closable⟩

/-- The three ways in which a request ends: nothing has arrived, what has arrived is refused for good,
or the first frame is opened. -/
inductive Reception (suite : Suite) (receiver : Channel) : Outcome Channel Octets → Prop where
  | ended (nothing : receiver.stream.incoming = []) :
      Reception suite receiver (.error (.connection (.ended .endOfFile)), receiver)
  | broken (something : receiver.stream.incoming ≠ []) (error : FrameError) (after : Channel)
      (poisoned : after.poisoned = true) :
      Reception suite receiver (.error (.frame error), after)
  | opened (body rest text : Octets) (front : receiver.stream.incoming = frame body ++ rest)
      (opens : receiver.Opens suite (receiver.receiver.counter.toNat + 1) body)
      (more : receiver.receiver.counter ≠ Cipher.lastCounter)
      (decrypts : suite.decrypt receiver.receiver.key
        (Cipher.nonceAt (receiver.receiver.counter.toNat + 1)) body = some text) :
      Reception suite receiver
        (.ok text, { receiver.withUnread rest with receiver := receiver.receiver.advanced })

theorem reception (suite : Suite) (ready : receiver.IsOpen) :
    Reception suite receiver (receiver.receiveFrame suite) := by
  obtain ⟨usable, opened, closable⟩ := ready
  rw [receiveFrame_eq]
  by_cases nothing : receiver.stream.incoming = []
  · rw [takeSealed_of_nil usable opened nothing]
    exact .ended nothing
  · cases found : firstFrame? receiver.stream.incoming with
    | none =>
        obtain ⟨error, unread, taken⟩ :=
          takeSealed_of_firstFrame?_eq_none usable opened closable nothing found
        rw [taken]
        exact .broken nothing error _ rfl
    | some split =>
        obtain ⟨body, rest⟩ := split
        obtain ⟨front, long, _⟩ := eq_frame_of_firstFrame? found
        have taken := takeSealed_of_firstFrame? usable opened found
        have judged : Opening suite (receiver.withUnread rest) body
            ((receiver.withUnread rest).openBody suite body) := opening closable long
        rw [taken, Outcome.andThen_ok]
        generalize (receiver.withUnread rest).openBody suite body = outcome at judged
        cases judged with
        | accepted text more decrypts =>
            have opens : receiver.Opens suite (receiver.receiver.counter.toNat + 1) body :=
              ⟨_, text, _, taken, openBuffer_of_decrypt long more decrypts, Cipher.toNat_advanced more⟩
            exact .opened body rest text front opens more decrypts
        | refused error receiver => exact .broken nothing _ _ rfl

theorem receiveFrame_of_poisoned (suite : Suite) (poisoned : receiver.poisoned = true) :
    receiver.receiveFrame suite = (.error (.frame (.unusable receiver.address)), receiver) := by
  rw [receiveFrame, takeLength, if_pos poisoned]
  rfl

/-! ## What is permanent -/

/-- Once the channel is poisoned every answer is the same refusal. -/
theorem listen_of_poisoned (poisoned : receiver.poisoned = true) (events : List Event) :
    ∀ answer ∈ receiver.listen suite events, IsFrameError answer := by
  induction events generalizing receiver with
  | nil => exact fun _ absent => absurd absent List.not_mem_nil
  | cons event rest ih =>
      cases event with
      | arrive bytes =>
          have stays : (receiver.fed bytes).poisoned = true := poisoned
          exact ih stays
      | ask =>
          rw [listen, receiveFrame_of_poisoned suite poisoned]
          intro answer present
          rcases List.mem_cons.mp present with now | later
          · exact ⟨_, now⟩
          · exact ih poisoned answer later

theorem delivered_of_poisoned (poisoned : receiver.poisoned = true) (events : List Event) :
    delivered (receiver.listen suite events) = [] := by
  refine List.filterMap_eq_nil_iff.mpr fun answer present => ?_
  obtain ⟨error, refused⟩ := listen_of_poisoned poisoned events answer present
  rw [refused]
  rfl

theorem pairwise_of_poisoned (poisoned : receiver.poisoned = true) (events : List Event) :
    (receiver.listen suite events).Pairwise fun earlier later => IsFrameError earlier → IsFrameError later :=
  List.pairwise_of_forall_mem_list fun _ _ later present _ => listen_of_poisoned poisoned events later present

/-- After one frame error every later answer is a frame error. -/
theorem pairwise_listen (ready : receiver.IsOpen) (events : List Event) :
    (receiver.listen suite events).Pairwise fun earlier later =>
      IsFrameError earlier → IsFrameError later := by
  induction events generalizing receiver with
  | nil => exact .nil
  | cons event rest ih =>
      cases event with
      | arrive bytes => exact ih (ready.fed bytes)
      | ask =>
          rw [listen]
          have received := reception suite ready
          generalize receiver.receiveFrame suite = outcome at received
          cases received with
          | ended nothing =>
              refine .cons ?_ (ih ready)
              rintro later present ⟨error, same⟩
              cases same
          | broken something error after poisoned =>
              exact .cons (fun later present _ => listen_of_poisoned poisoned rest later present)
                (pairwise_of_poisoned poisoned rest)
          | opened body following text front opens more decrypts =>
              refine .cons ?_ (ih ⟨ready.usable, ready.opened, ready.closable⟩)
              rintro later present ⟨error, same⟩
              cases same

/-! ## What was sent -/

/-- What is known of payloads that were all sent without failure, from a cipher on. -/
structure WereSent (cipher : Cipher) (payloads : List Octets) : Prop where
  fits : ∀ payload ∈ payloads, Fits payload
  counters : cipher.counter.toNat + payloads.length ≤ Cipher.lastCounter.toNat

theorem of_sendAll_ok {sender written : Channel} {payloads : List Octets}
    (sent : sender.sendAll suite payloads = (.ok (), written)) :
    WereSent sender.sender payloads ∧
      written.stream.accepted = sender.stream.accepted ++
        wire suite sender.sender.key sender.sender.counter.toNat payloads := by
  induction payloads generalizing sender with
  | nil =>
      have bound := sender.sender.counter.toNat_lt
      cases sent
      have last : Cipher.lastCounter.toNat = 2 ^ 64 - 1 := rfl
      refine ⟨⟨fun _ absent => absurd absent List.not_mem_nil, ?_⟩, by simp⟩
      rw [List.length_nil]
      omega
  | cons payload rest ih =>
      rw [sendAll] at sent
      cases first : sender.sendFrame suite payload with
      | mk result next =>
          rw [first] at sent
          cases result with
          | error failure => cases sent
          | ok _ =>
              obtain ⟨fits, more, advanced, accepted⟩ := of_sendFrame_ok first
              obtain ⟨later, whole⟩ := ih sent
              rw [advanced, Cipher.key_advanced, Cipher.toNat_advanced more, accepted] at whole
              have counters := later.counters
              rw [advanced, Cipher.toNat_advanced more] at counters
              refine ⟨⟨?_, ?_⟩, ?_⟩
              · intro each present
                rcases List.mem_cons.mp present with now | tail
                · rw [now]
                  exact fits
                · exact later.fits each tail
              · rw [List.length_cons]
                omega
              · rw [whole, wire_cons, List.append_assoc]

/-- On a stream that loses nothing payloads that fit are all sent, while there are counters for them. -/
theorem exists_sendAll {sender : Channel} {payloads : List Octets} (usable : sender.poisoned = false)
    (lossless : sender.stream.IsLossless) (fit : ∀ payload ∈ payloads, Fits payload)
    (counters : sender.sender.counter.toNat + payloads.length ≤ Cipher.lastCounter.toNat) :
    ∃ written, sender.sendAll suite payloads = (.ok (), written) := by
  induction payloads generalizing sender with
  | nil => exact ⟨sender, rfl⟩
  | cons payload rest ih =>
      rw [List.length_cons] at counters
      have more : sender.sender.counter ≠ Cipher.lastCounter := by
        rw [Cipher.ne_lastCounter_iff]
        omega
      rw [sendAll, sendFrame_of_isLossless usable lossless (fit payload List.mem_cons_self) more]
      refine ih usable ⟨lossless.opened, lossless.unlimited⟩
        (fun later present => fit later (List.mem_cons_of_mem _ present)) ?_
      have advanced := Cipher.toNat_advanced more
      simp only [advanced]
      omega

/-! ## Parse position, counter and place -/

/-- A receiver that has taken so many payloads of those that were sent from a cipher on. -/
structure Follows (cipher : Cipher) (receiver : Channel) (taken : Nat) : Prop where
  ready : receiver.IsOpen
  key : receiver.receiver.key = cipher.key
  counter : receiver.receiver.counter.toNat = cipher.counter.toNat + taken

variable {cipher : Cipher} {payloads : List Octets} {taken : Nat}

/-- The frames of the payloads that are still to be taken. -/
def ahead (suite : Suite) (cipher : Cipher) (payloads : List Octets) (taken : Nat) : List Octets :=
  frames suite cipher.key (cipher.counter.toNat + taken) (payloads.drop taken)

theorem ahead_of_getElem? {payload : Octets} (present : payloads[taken]? = some payload) :
    ahead suite cipher payloads taken =
      frame (sealedBody suite cipher.key (cipher.counter.toNat + taken + 1) payload) ::
        ahead suite cipher payloads (taken + 1) := by
  obtain ⟨within, found⟩ := List.getElem?_eq_some_iff.mp present
  rw [ahead, List.drop_eq_getElem_cons within, found, frames, ahead, Nat.add_assoc]

theorem Follows.fed (follows : Follows cipher receiver taken) (bytes : Octets) :
    Follows cipher (receiver.fed bytes) taken :=
  ⟨follows.ready.fed bytes, follows.key, follows.counter⟩

/-- The first mismatch is a frame that does not open, or one that was sealed at this very place. -/
theorem Follows.opened (lawful : suite.Lawful) (follows : Follows cipher receiver taken)
    {body text : Octets} (rest : Octets)
    (genuine : SealedAt suite cipher payloads (receiver.receiver.counter.toNat + 1) body)
    (more : receiver.receiver.counter ≠ Cipher.lastCounter)
    (decrypts : suite.decrypt receiver.receiver.key
      (Cipher.nonceAt (receiver.receiver.counter.toNat + 1)) body = some text) :
    payloads[taken]? = some text ∧
      body = sealedBody suite cipher.key (cipher.counter.toNat + taken + 1) text ∧
      Follows cipher { receiver.withUnread rest with receiver := receiver.receiver.advanced } (taken + 1) := by
  obtain ⟨place, payload, present, counter, same⟩ := genuine
  rw [follows.counter] at counter same decrypts
  have here : place = taken := by omega
  have inverted : suite.decrypt receiver.receiver.key
      (Cipher.nonceAt (cipher.counter.toNat + taken + 1)) body = some payload := by
    rw [same, follows.key]
    exact lawful.decrypt_encrypt _ _ payload
  rw [inverted] at decrypts
  cases decrypts
  refine ⟨here ▸ present, same, ⟨⟨follows.ready.usable, follows.ready.opened, follows.ready.closable⟩,
    follows.key, ?_⟩⟩
  exact (Cipher.toNat_advanced more).trans (by rw [follows.counter, Nat.add_assoc])

/-- Whatever arrives, and whenever the receiver is asked, it gives back the next payloads, and no more of
them than their frames are intact. -/
theorem Follows.delivered (lawful : suite.Lawful) (follows : Follows cipher receiver taken)
    {events : List Event} (unforged : Unforged suite cipher payloads receiver events) :
    ∃ count ≤ intact (ahead suite cipher payloads taken) (receiver.stream.incoming ++ arriving events),
      Channel.delivered (receiver.listen suite events) = (payloads.drop taken).take count := by
  induction events generalizing receiver taken with
  | nil => exact ⟨0, Nat.zero_le _, rfl⟩
  | cons event rest ih =>
      cases event with
      | arrive bytes =>
          rw [arriving, ← List.append_assoc]
          exact ih (follows.fed bytes) unforged
      | ask =>
          obtain ⟨genuine, later⟩ := unforged
          rw [listen, arriving]
          have received := reception suite follows.ready
          generalize receiver.receiveFrame suite = outcome at received later
          cases received with
          | ended nothing => exact ih follows later
          | broken something error after poisoned =>
              exact ⟨0, Nat.zero_le _, delivered_of_poisoned poisoned rest⟩
          | opened body following text front opens more decrypts =>
              obtain ⟨present, same, next⟩ :=
                follows.opened lawful following (genuine _ _ opens) more decrypts
              obtain ⟨count, within, inOrder⟩ := ih next later
              refine ⟨count + 1, ?_, ?_⟩
              · rw [ahead_of_getElem? present, ← same, front, List.append_assoc, intact_append]
                exact Nat.succ_le_succ within
              · obtain ⟨reached, found⟩ := List.getElem?_eq_some_iff.mp present
                rw [List.drop_eq_getElem_cons reached, found, List.take_succ_cons, ← inOrder]
                rfl

/-! ## Requests after everything has arrived -/

theorem IsDue.now {payload framed following : Octets} {rest sent : List Octets} :
    IsDue (payload :: rest) (framed :: sent) (framed ++ following) 0 (.ok payload) where
  delivered _ := ⟨payload, rfl, rfl⟩
  ended late := by
    rw [intact_append] at late
    exact absurd late (Nat.not_succ_le_zero _)
  refused late := by
    rw [intact_append] at late
    exact absurd late (Nat.not_succ_le_zero _)

theorem IsDue.later {payload framed following : Octets} {rest sent : List Octets} {place : Nat}
    {answer : Except Failure Octets} (due : IsDue rest sent following place answer) :
    IsDue (payload :: rest) (framed :: sent) (framed ++ following) (place + 1) answer := by
  obtain ⟨delivered, ended, refused⟩ := due
  constructor <;> rw [intact_append]
  · intro early
    exact delivered (Nat.lt_of_succ_lt_succ early)
  · intro late same
    rw [List.take_succ_cons, List.flatten_cons] at same
    exact ended (Nat.le_of_succ_le_succ late) (List.append_cancel_left same)
  · intro late different
    rw [List.take_succ_cons, List.flatten_cons] at different
    exact refused (Nat.le_of_succ_le_succ late) fun same => different (congrArg _ same)

/-- Where nothing is intact, the same is due at every place. -/
theorem isDue_of_intact_eq_zero {sent : List Octets} {bytes : Octets} (nothing : intact sent bytes = 0)
    (rest : List Octets) (place : Nat) (answer : Except Failure Octets) :
    IsDue rest sent bytes place answer ↔
      (bytes = [] → answer = .error (.connection (.ended .endOfFile))) ∧
        (bytes ≠ [] → IsFrameError answer) := by
  constructor
  · rintro ⟨_, ended, refused⟩
    rw [nothing] at ended refused
    exact ⟨ended (Nat.zero_le place), refused (Nat.zero_le place)⟩
  · rintro ⟨ended, refused⟩
    constructor <;> rw [nothing]
    · intro early
      exact absurd early (Nat.not_lt_zero place)
    · exact fun _ => ended
    · exact fun _ => refused

/-- A receiver that does not open the next frame has not got it. -/
theorem Follows.intact_eq_zero (lawful : suite.Lawful) (follows : Follows cipher receiver taken)
    (wereSent : WereSent cipher payloads)
    (failed : ∀ payload, (receiver.receiveFrame suite).1 ≠ .ok payload) :
    intact (ahead suite cipher payloads taken) receiver.stream.incoming = 0 := by
  cases present : payloads[taken]? with
  | none =>
      have nothing : payloads.drop taken = [] := List.drop_eq_nil_of_le (List.getElem?_eq_none_iff.mp present)
      rw [ahead, nothing, frames, intact_nil]
  | some payload =>
      obtain ⟨reached, found⟩ := List.getElem?_eq_some_iff.mp present
      have fits : Fits payload := wereSent.fits payload (found ▸ List.getElem_mem reached)
      have more : receiver.receiver.counter ≠ Cipher.lastCounter := by
        have counters := wereSent.counters
        rw [Cipher.ne_lastCounter_iff, follows.counter]
        omega
      rw [ahead_of_getElem? present]
      refine intact_cons_of_not _ fun following front => ?_
      rw [← follows.counter, ← follows.key] at front
      have received := receiveFrame_of_sealed lawful follows.ready.usable follows.ready.opened fits more front
      exact failed payload (by rw [received])

theorem Follows.isDue (lawful : suite.Lawful) (follows : Follows cipher receiver taken)
    (wereSent : WereSent cipher payloads) {asks : Nat}
    (unforged : Unforged suite cipher payloads receiver (List.replicate asks .ask)) {place : Nat}
    {answer : Except Failure Octets}
    (answered : (receiver.listen suite (List.replicate asks .ask))[place]? = some answer) :
    IsDue (payloads.drop taken) (ahead suite cipher payloads taken) receiver.stream.incoming place answer := by
  induction asks generalizing receiver taken place with
  | zero => cases answered
  | succ asks ih =>
      obtain ⟨genuine, later⟩ := unforged
      rw [List.replicate_succ, listen] at answered
      have received := reception suite follows.ready
      have unopened := follows.intact_eq_zero lawful wereSent
      generalize receiver.receiveFrame suite = outcome at received later answered unopened
      cases received with
      | ended nothing =>
          have zero := unopened fun payload same => by cases same
          cases place with
          | zero =>
              cases answered
              rw [isDue_of_intact_eq_zero zero]
              exact ⟨fun _ => rfl, fun something => absurd nothing something⟩
          | succ place =>
              have same := ih follows later answered
              rwa [isDue_of_intact_eq_zero zero] at same ⊢
      | broken something error after poisoned =>
          have zero := unopened fun payload same => by cases same
          rw [isDue_of_intact_eq_zero zero]
          refine ⟨fun nothing => absurd nothing something, fun _ => ?_⟩
          cases place with
          | zero =>
              cases answered
              exact ⟨error, rfl⟩
          | succ place =>
              exact listen_of_poisoned poisoned _ answer (List.mem_of_getElem? answered)
      | opened body following text front opens more decrypts =>
          obtain ⟨present, same, next⟩ := follows.opened lawful following (genuine _ _ opens) more decrypts
          obtain ⟨reached, found⟩ := List.getElem?_eq_some_iff.mp present
          rw [ahead_of_getElem? present, ← same, front, List.drop_eq_getElem_cons reached, found]
          cases place with
          | zero =>
              cases answered
              exact .now
          | succ place => exact (ih next later answered).later

theorem fed_nil (channel : Channel) : channel.fed [] = channel := by
  simp [fed, Stream.feed]

theorem fed_fed (channel : Channel) (first second : Octets) :
    (channel.fed first).fed second = channel.fed (first ++ second) := by
  simp [fed, Stream.feed, List.append_assoc]

/-- How bytes are cut into chunks does not matter to requests that come after all of them. -/
theorem listen_arrivals (suite : Suite) (receiver : Channel) (chunks : List Octets) (events : List Event) :
    receiver.listen suite (chunks.map .arrive ++ events) =
      (receiver.fed chunks.flatten).listen suite events := by
  induction chunks generalizing receiver with
  | nil => rw [List.flatten_nil, fed_nil, List.map_nil, List.nil_append]
  | cons bytes rest ih => rw [List.map_cons, List.cons_append, listen, ih, fed_fed, List.flatten_cons]

theorem unforged_arrivals (chunks : List Octets) (events : List Event) :
    Unforged suite cipher payloads receiver (chunks.map .arrive ++ events) ↔
      Unforged suite cipher payloads (receiver.fed chunks.flatten) events := by
  induction chunks generalizing receiver with
  | nil => rw [List.flatten_nil, fed_nil, List.map_nil, List.nil_append]
  | cons bytes rest ih => rw [List.map_cons, List.cons_append, Unforged, ih, fed_fed, List.flatten_cons]

theorem length_listen_asks (suite : Suite) (receiver : Channel) (asks : Nat) :
    (receiver.listen suite (List.replicate asks .ask)).length = asks := by
  induction asks generalizing receiver with
  | zero => rfl
  | succ asks ih => rw [List.replicate_succ, listen, List.length_cons, ih]

/-! ## Runs without a forgery -/

theorem unforged_of_poisoned (poisoned : receiver.poisoned = true) (events : List Event) :
    Unforged suite cipher payloads receiver events := by
  induction events generalizing receiver with
  | nil => trivial
  | cons event rest ih =>
      cases event with
      | arrive bytes =>
          have stays : (receiver.fed bytes).poisoned = true := poisoned
          exact ih stays
      | ask =>
          rw [Unforged, receiveFrame_of_poisoned suite poisoned]
          refine ⟨?_, ih poisoned⟩
          rintro counter body ⟨reading, text, opened, taken, _⟩
          rw [takeSealed, takeLength, if_pos poisoned] at taken
          cases taken

/-- Bytes that are no frame are no forgery. -/
theorem unforged_of_broken (ready : receiver.IsOpen) (something : receiver.stream.incoming ≠ [])
    (broken : firstFrame? receiver.stream.incoming = none) (events : List Event) :
    Unforged suite cipher payloads receiver (.ask :: events) := by
  obtain ⟨error, unread, refused⟩ :=
    takeSealed_of_firstFrame?_eq_none ready.usable ready.opened ready.closable something broken
  rw [Unforged, receiveFrame_eq, refused]
  refine ⟨?_, unforged_of_poisoned rfl events⟩
  rintro counter body ⟨reading, text, opened, taken, _⟩
  rw [refused] at taken
  cases taken

/-- The frame that was sealed at this place is no forgery. -/
theorem Follows.unforged (lawful : suite.Lawful) (follows : Follows cipher receiver taken)
    {payload rest : Octets} (present : payloads[taken]? = some payload) (fits : Fits payload)
    (more : receiver.receiver.counter ≠ Cipher.lastCounter)
    (front : receiver.stream.incoming =
      frame (sealedBody suite cipher.key (cipher.counter.toNat + taken + 1) payload) ++ rest)
    {events : List Event}
    (later : Unforged suite cipher payloads
      { receiver.withUnread rest with receiver := receiver.receiver.advanced } events) :
    Unforged suite cipher payloads receiver (.ask :: events) := by
  have length := length_sealedBody lawful cipher.key (cipher.counter.toNat + taken + 1) payload
  have long : Gcm.tagSize ≤
      (sealedBody suite cipher.key (cipher.counter.toNat + taken + 1) payload).length := by
    rw [length]
    exact Nat.le_add_left _ _
  have found := firstFrame?_frame long (by rw [length]; exact fits) rest
  rw [← front] at found
  have taking := takeSealed_of_firstFrame? follows.ready.usable follows.ready.opened found
  constructor
  · rintro counter body ⟨reading, text, opened, taken, opens, count⟩
    rw [taking] at taken
    cases taken
    have inverted := openBuffer_of_decrypt long more (by
      rw [follows.key, follows.counter]
      exact lawful.decrypt_encrypt _ _ payload)
    have same : opened = receiver.receiver.advanced := congrArg Cipher.Use.cipher (opens.symm.trans inverted)
    rw [same, Cipher.toNat_advanced more, follows.counter] at count
    exact ⟨_, payload, present, count.symm, by rw [← count]⟩
  · rw [← follows.counter, ← follows.key] at front
    rw [receiveFrame_of_sealed lawful follows.ready.usable follows.ready.opened fits more front]
    exact later

/-- The end of a new connection. -/
def fresh (key : Gcm.Key) : Channel := ofKeys { address := "peer" } ⟨key, key⟩

theorem isOpen_fresh (key : Gcm.Key) : (fresh key).IsOpen := ⟨rfl, rfl, rfl⟩

/-- The first of two frames, and a length field behind it that is too small for any frame. -/
def injectedLength (suite : Suite) (key : Gcm.Key) : List Event :=
  [.arrive (frame (sealedBody suite key 2 [1])), .arrive [0, 0, 0, 0], .ask, .ask, .ask]

theorem unforged_injectedLength (lawful : suite.Lawful) (key : Gcm.Key) :
    Unforged suite (Cipher.ofKey key) [[1], [2]] (fresh key) (injectedLength suite key) := by
  have follows : Follows (Cipher.ofKey key) (fresh key) 0 := ⟨isOpen_fresh key, rfl, rfl⟩
  have arrived := (follows.fed (frame (sealedBody suite key 2 [1]))).fed [0, 0, 0, 0]
  have more : (1 : UInt64) ≠ Cipher.lastCounter := by decide
  refine arrived.unforged lawful (show [[1], [2]][0]? = some [1] from rfl) (by decide) more rfl ?_
  exact unforged_of_broken ⟨rfl, rfl, rfl⟩ (List.cons_ne_nil _ _) rfl _

/-! ## Only what is intact -/

/-- Of the payloads that were sent, a receiver that is fed any bytes gives back those whose frames are
intact, in their order, and nothing else; after a frame error it answers with frame errors only. If all
bytes have arrived before it is asked, it gives back all those payloads, and then tells the end of
the connection if the bytes end there and a frame error if they go on. -/
theorem delivers_only_intact (lawful : suite.Lawful) {sender written : Channel}
    {original : Octets} {events : List Event}
    (sent : sender.sendAll suite payloads = (.ok (), written))
    (wrote : written.stream.accepted = sender.stream.accepted ++ original)
    (ready : receiver.IsOpen) (unread : receiver.stream.incoming = [])
    (sameCipher : receiver.receiver = sender.sender)
    (unforged : Unforged suite sender.sender payloads receiver events) :
    (frames suite sender.sender.key sender.sender.counter.toNat payloads).flatten = original ∧
    (∃ count ≤ intact (frames suite sender.sender.key sender.sender.counter.toNat payloads)
        (arriving events),
      delivered (receiver.listen suite events) = payloads.take count) ∧
    ((receiver.listen suite events).Pairwise fun earlier later =>
      IsFrameError earlier → IsFrameError later) ∧
    ∀ (chunks : List Octets) (asks : Nat), events = chunks.map .arrive ++ List.replicate asks .ask →
      (receiver.listen suite events).length = asks ∧
      ∀ place answer, (receiver.listen suite events)[place]? = some answer →
        IsDue payloads (frames suite sender.sender.key sender.sender.counter.toNat payloads) chunks.flatten
          place answer := by
  obtain ⟨wereSent, whole⟩ := of_sendAll_ok sent
  have follows : Follows sender.sender receiver 0 := ⟨ready, by rw [sameCipher], by rw [sameCipher]; rfl⟩
  refine ⟨?_, ?_, pairwise_listen ready events, ?_⟩
  · exact List.append_cancel_left (whole.symm.trans wrote)
  · have taken := follows.delivered lawful unforged
    rw [unread] at taken
    exact taken
  · rintro chunks asks rfl
    rw [listen_arrivals]
    refine ⟨length_listen_asks _ _ _, fun place answer answered => ?_⟩
    have here := (follows.fed chunks.flatten).isDue lawful wereSent
      ((unforged_arrivals _ _).mp unforged) answered
    change IsDue _ _ (receiver.stream.incoming ++ chunks.flatten) _ _ at here
    rw [unread] at here
    exact here

/-- The payload before the injected length field is delivered. -/
theorem delivers_only_intact_injectedLength :
    ∃ written original,
      (fresh (Block.little 32 1)).sendAll Suite.standard [[1], [2]] = (.ok (), written) ∧
      written.stream.accepted = (fresh (Block.little 32 1)).stream.accepted ++ original ∧
      (fresh (Block.little 32 1)).IsOpen ∧
      Unforged Suite.standard (fresh (Block.little 32 1)).sender [[1], [2]] (fresh (Block.little 32 1))
        (injectedLength Suite.standard (Block.little 32 1)) ∧
      ((fresh (Block.little 32 1)).listen Suite.standard
        (injectedLength Suite.standard (Block.little 32 1)))[0]? = some (.ok [1]) := by
  have fit : ∀ payload ∈ [[1], [2]], Fits payload := by decide
  have lossless : (fresh (Block.little 32 1)).stream.IsLossless := ⟨rfl, rfl⟩
  obtain ⟨written, sent⟩ :
      ∃ written, (fresh (Block.little 32 1)).sendAll Suite.standard [[1], [2]] = (.ok (), written) :=
    exists_sendAll rfl lossless fit (by decide)
  obtain ⟨_, wrote⟩ := of_sendAll_ok sent
  have unforged := unforged_injectedLength Suite.standard_lawful (Block.little 32 1)
  have ready := isOpen_fresh (Block.little 32 1)
  obtain ⟨_, _, _, asked⟩ := delivers_only_intact Suite.standard_lawful sent wrote ready rfl rfl unforged
  obtain ⟨length, due⟩ :=
    asked [frame (sealedBody Suite.standard (Block.little 32 1) 2 [1]), [0, 0, 0, 0]] 3 rfl
  generalize (fresh (Block.little 32 1)).listen Suite.standard
    (injectedLength Suite.standard (Block.little 32 1)) = answers at length due ⊢
  cases answers with
  | nil => cases length
  | cons answer rest =>
      have first := due 0 answer rfl
      have key : (fresh (Block.little 32 1)).sender.key = Block.little 32 1 := rfl
      have counter : (fresh (Block.little 32 1)).sender.counter.toNat = 1 := rfl
      rw [key, counter, frames, List.flatten_cons] at first
      obtain ⟨payload, present, same⟩ := first.delivered (by
        rw [intact_append]
        exact Nat.succ_pos _)
      cases present
      exact ⟨written, _, sent, wrote, ready, unforged, congrArg some same⟩

end Courier.Channel
