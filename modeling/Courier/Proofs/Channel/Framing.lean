import Courier.Channel.Operation
import Courier.Proofs.Cipher
import Courier.Proofs.Stream

/-!
# Frames on the wire

The bytes of one direction are the frames of the payloads one after the other,
each sealed under the nonce of the counter that follows the last one. Here are
the writing of one frame, the splitting of the bytes that have arrived into
the first frame and the rest, and the two operations on a channel in terms of
these.
-/

namespace Courier

@[simp] theorem Outcome.andThen_ok {State Result Next : Type} (result : Result) (state : State)
    (next : Result → State → Outcome State Next) :
    Outcome.andThen (.ok result, state) next = next result state := rfl

@[simp] theorem Outcome.andThen_error {State Result Next : Type} (failure : Failure) (state : State)
    (next : Result → State → Outcome State Next) :
    Outcome.andThen (.error failure, state) next = (.error failure, state) := rfl

/-- Where two operations in a row succeed, the first did. -/
theorem Outcome.exists_of_andThen {State Result Next : Type} {first : Outcome State Result}
    {next : Result → State → Outcome State Next} {last : Next} {state : State}
    (done : first.andThen next = (.ok last, state)) :
    ∃ result middle, first = (.ok result, middle) ∧ next result middle = (.ok last, state) := by
  obtain ⟨result, middle⟩ := first
  cases result with
  | error failure => cases done
  | ok result => exact ⟨result, middle, rfl, done⟩

namespace Channel

/-! ## The wire format -/

/-- Whether a payload is small enough for a frame. -/
def Fits (payload : Octets) : Prop := payload.length + Gcm.tagSize ≤ maximumFrame

instance (payload : Octets) : Decidable (Fits payload) := inferInstanceAs (Decidable (_ ≤ _))

/-- The payload sealed under the nonce of a counter. -/
def sealedBody (suite : Suite) (key : Gcm.Key) (counter : Nat) (payload : Octets) : Octets :=
  suite.encrypt key (Cipher.nonceAt counter) payload

/-- The frames of payloads that are sealed under the nonces after a counter. -/
def frames (suite : Suite) (key : Gcm.Key) : Nat → List Octets → List Octets
  | _, [] => []
  | counter, payload :: rest =>
      frame (sealedBody suite key (counter + 1) payload) :: frames suite key (counter + 1) rest

/-- The bytes of these frames. -/
def wire (suite : Suite) (key : Gcm.Key) (counter : Nat) (payloads : List Octets) : Octets :=
  (frames suite key counter payloads).flatten

theorem length_frame (body : Octets) : (frame body).length = lengthSize + body.length := by
  simp [frame]

@[simp] theorem wire_nil (suite : Suite) (key : Gcm.Key) (counter : Nat) :
    wire suite key counter [] = [] := rfl

theorem wire_cons (suite : Suite) (key : Gcm.Key) (counter : Nat) (payload : Octets) (rest : List Octets) :
    wire suite key counter (payload :: rest) =
      frame (sealedBody suite key (counter + 1) payload) ++ wire suite key (counter + 1) rest := rfl

theorem wire_append (suite : Suite) (key : Gcm.Key) (counter : Nat) (first second : List Octets) :
    wire suite key counter (first ++ second) =
      wire suite key counter first ++ wire suite key (counter + first.length) second := by
  induction first generalizing counter with
  | nil => rfl
  | cons payload rest ih =>
      have shifted : counter + 1 + rest.length = counter + (rest.length + 1) := by omega
      rw [List.cons_append, wire_cons, wire_cons, ih, List.append_assoc, List.length_cons, shifted]

theorem length_sealedBody {suite : Suite} (lawful : suite.Lawful) (key : Gcm.Key) (counter : Nat)
    (payload : Octets) : (sealedBody suite key counter payload).length = payload.length + Gcm.tagSize :=
  lawful.length_encrypt key _ payload

theorem encode_fits (message : Message) : Fits message.encode := by
  cases message <;> simp [Fits, Message.encode, Gcm.tagSize, maximumFrame]

/-! ## The first frame of what has arrived -/

/-- Whether a length field is within its bounds. -/
def IsPermitted (length : Nat) : Prop := ¬ (length < Gcm.tagSize || maximumFrame < length) = true

theorem isPermitted_iff (length : Nat) :
    IsPermitted length ↔ Gcm.tagSize ≤ length ∧ length ≤ maximumFrame := by
  simp [IsPermitted]

/-- The sealed payload of the frame that a byte string begins with, and what follows the frame. -/
def firstFrame? (bytes : Octets) : Option (Octets × Octets) :=
  let length := Octets.ofBig (bytes.take lengthSize)
  let rest := bytes.drop lengthSize
  if bytes.length < lengthSize ∨ length < Gcm.tagSize ∨ maximumFrame < length ∨ rest.length < length then
    none
  else some (rest.take length, rest.drop length)

theorem firstFrame?_append (field : Block lengthSize) (rest : Octets)
    (permitted : IsPermitted (Octets.ofBig field.val)) (whole : Octets.ofBig field.val ≤ rest.length) :
    firstFrame? (field.val ++ rest) =
      some (rest.take (Octets.ofBig field.val), rest.drop (Octets.ofBig field.val)) := by
  obtain ⟨long, short⟩ := (isPermitted_iff _).mp permitted
  have front : (field.val ++ rest).take lengthSize = field.val := List.take_left' field.property
  have following : (field.val ++ rest).drop lengthSize = rest := List.drop_left' field.property
  have enough : lengthSize ≤ (field.val ++ rest).length := by
    rw [List.length_append, field.property]
    exact Nat.le_add_right lengthSize rest.length
  unfold firstFrame?
  simp only [front, following]
  rw [if_neg]
  rintro (few | low | high | cut)
  · exact absurd enough (Nat.not_le_of_lt few)
  · exact absurd long (Nat.not_le_of_lt low)
  · exact absurd short (Nat.not_le_of_lt high)
  · exact absurd whole (Nat.not_le_of_lt cut)

theorem ofBig_lengthField {body : Octets} (short : body.length ≤ maximumFrame) :
    Octets.ofBig (Octets.big lengthSize body.length) = body.length := by
  have fits : body.length < 256 ^ lengthSize := Nat.lt_of_le_of_lt short (by decide)
  rw [Octets.ofBig_big, Nat.mod_eq_of_lt fits]

theorem firstFrame?_frame {body : Octets} (long : Gcm.tagSize ≤ body.length)
    (short : body.length ≤ maximumFrame) (rest : Octets) :
    firstFrame? (frame body ++ rest) = some (body, rest) := by
  have field := ofBig_lengthField short
  have permitted := (isPermitted_iff body.length).mpr ⟨long, short⟩
  have found := firstFrame?_append ⟨_, Octets.length_big lengthSize body.length⟩ (body ++ rest)
    (by rw [field]; exact permitted) (by rw [field, List.length_append]; exact Nat.le_add_right _ _)
  rw [frame, List.append_assoc, found, field, List.take_left' rfl, List.drop_left' rfl]

/-- What is split off is a frame of a permitted length. -/
theorem eq_frame_of_firstFrame? {bytes body rest : Octets} (found : firstFrame? bytes = some (body, rest)) :
    bytes = frame body ++ rest ∧ Gcm.tagSize ≤ body.length ∧ body.length ≤ maximumFrame := by
  unfold firstFrame? at found
  simp only at found
  split at found
  · cases found
  · rename_i permitted
    simp only [not_or, Nat.not_lt] at permitted
    obtain ⟨enough, long, short, whole⟩ := permitted
    cases found
    have length := List.length_take_of_le whole
    have field : (bytes.take lengthSize).length = lengthSize := List.length_take_of_le enough
    have digits := Octets.big_ofBig (bytes.take lengthSize)
    rw [field] at digits
    refine ⟨?_, by rw [length]; exact long, by rw [length]; exact short⟩
    rw [frame, length, digits, List.append_assoc, List.take_append_drop, List.take_append_drop]

/-! ## Closing -/

/-- The channel after its stream was closed. -/
def shut (channel : Channel) : Channel := { channel with stream := { channel.stream with closed := true } }

theorem close_of_closable {channel : Channel} (closable : channel.stream.failingCloses = 0) :
    channel.close = (.ok (), channel.shut) := by
  rw [close, Stream.close_of_closable closable]
  rfl

/-! ## Sending -/

theorem prepare_of_poisoned {suite : Suite} {channel : Channel} (poisoned : channel.poisoned = true)
    (payload : Octets) :
    channel.prepare suite payload = (.error (.frame (.unusable channel.address)), channel) := by
  simp [prepare, poisoned]

theorem prepare_of_oversize {suite : Suite} {channel : Channel} {payload : Octets}
    (usable : channel.poisoned = false) (oversize : ¬ Fits payload) :
    channel.prepare suite payload = (.error (.wire (.oversize payload.length)), channel) := by
  have exceeds : maximumFrame < payload.length + Gcm.tagSize := Nat.lt_of_not_le oversize
  rw [prepare, if_neg (Bool.not_eq_true _ ▸ usable), if_pos exceeds]

theorem prepare_of_exhausted {suite : Suite} {channel : Channel} {payload : Octets}
    (usable : channel.poisoned = false) (fits : Fits payload)
    (exhausted : channel.sender.counter = Cipher.lastCounter) :
    channel.prepare suite payload = (.error (.crypto .nonceExhausted), channel) := by
  have within : ¬ maximumFrame < payload.length + Gcm.tagSize := Nat.not_lt_of_le fits
  have refused : channel.sender.next? = none := (Cipher.next?_eq_none_iff _).mpr exhausted
  rw [prepare, if_neg (Bool.not_eq_true _ ▸ usable), if_neg within]
  simp only [Cipher.sealBuffer, refused]

theorem prepare_of_fits {suite : Suite} {channel : Channel} {payload : Octets}
    (usable : channel.poisoned = false) (fits : Fits payload)
    (more : channel.sender.counter ≠ Cipher.lastCounter) :
    channel.prepare suite payload =
      (.ok (frame (sealedBody suite channel.sender.key (channel.sender.counter.toNat + 1) payload)),
        { channel with sender := channel.sender.advanced }) := by
  have within : ¬ maximumFrame < payload.length + Gcm.tagSize := Nat.not_lt_of_le fits
  rw [prepare, if_neg (Bool.not_eq_true _ ▸ usable), if_neg within]
  simp only [Cipher.sealBuffer, Cipher.next?_of_ne more, Cipher.key_advanced, Cipher.nonce_advanced,
    sealedBody]

/-- The four ways in which the sealing of a payload ends. -/
inductive Preparation (suite : Suite) (channel : Channel) (payload : Octets) :
    Outcome Channel Octets → Prop where
  | poisoned (poisoned : channel.poisoned = true) :
      Preparation suite channel payload (.error (.frame (.unusable channel.address)), channel)
  | oversize (usable : channel.poisoned = false) (oversize : ¬ Fits payload) :
      Preparation suite channel payload (.error (.wire (.oversize payload.length)), channel)
  | exhausted (usable : channel.poisoned = false) (fits : Fits payload)
      (exhausted : channel.sender.counter = Cipher.lastCounter) :
      Preparation suite channel payload (.error (.crypto .nonceExhausted), channel)
  | framed (usable : channel.poisoned = false) (fits : Fits payload)
      (more : channel.sender.counter ≠ Cipher.lastCounter) :
      Preparation suite channel payload
        (.ok (frame (sealedBody suite channel.sender.key (channel.sender.counter.toNat + 1) payload)),
          { channel with sender := channel.sender.advanced })

theorem preparation (suite : Suite) (channel : Channel) (payload : Octets) :
    Preparation suite channel payload (channel.prepare suite payload) := by
  cases usable : channel.poisoned with
  | true =>
      rw [prepare_of_poisoned usable]
      exact .poisoned usable
  | false =>
      by_cases fits : Fits payload
      · by_cases more : channel.sender.counter = Cipher.lastCounter
        · rw [prepare_of_exhausted usable fits more]
          exact .exhausted usable fits more
        · rw [prepare_of_fits usable fits more]
          exact .framed usable fits more
      · rw [prepare_of_oversize usable fits]
        exact .oversize usable fits

theorem stream_prepare (suite : Suite) (channel : Channel) (payload : Octets) :
    (channel.prepare suite payload).2.stream = channel.stream := by
  have sealing := preparation suite channel payload
  generalize channel.prepare suite payload = prepared at sealing
  cases sealing <;> rfl

/-- The frame of a payload that fits is written under the next counter as far as it is taken. -/
theorem sendFrame_of_fits {suite : Suite} {channel : Channel} {payload : Octets}
    (usable : channel.poisoned = false) (fits : Fits payload)
    (more : channel.sender.counter ≠ Cipher.lastCounter) :
    channel.sendFrame suite payload =
      { channel with sender := channel.sender.advanced }.transmit
        (frame (sealedBody suite channel.sender.key (channel.sender.counter.toNat + 1) payload)) := by
  rw [sendFrame, prepare_of_fits usable fits more, Outcome.andThen_ok]

theorem transmit_of_whole {channel : Channel} {framed : Octets}
    (whole : channel.stream.capacity framed.length = framed.length) :
    channel.transmit framed = (.ok (), { channel with stream := (channel.stream.write framed).2.2 }) := by
  simp [transmit, Stream.write, whole]

theorem transmit_of_short {channel : Channel} {framed : Octets}
    (short : channel.stream.capacity framed.length < framed.length) :
    channel.transmit framed =
      (.error (.connection (.writeFailed .brokenPipe)),
        { channel with stream := (channel.stream.write framed).2.2 }) := by
  simp [transmit, Stream.write, short]

theorem snd_transmit (channel : Channel) (framed : Octets) :
    (channel.transmit framed).2 = { channel with stream := (channel.stream.write framed).2.2 } := by
  rw [transmit]
  split <;> rename_i written <;> rw [written]

/-- A send leaves the channel as it is, or writes something under the next counter. -/
theorem snd_sendFrame (suite : Suite) (channel : Channel) (payload : Octets) :
    (channel.sendFrame suite payload).2 = channel ∨
      ∃ framed, (channel.sendFrame suite payload).2 =
        { channel with sender := channel.sender.advanced, stream := (channel.stream.write framed).2.2 } := by
  have sealing := preparation suite channel payload
  rw [sendFrame]
  generalize channel.prepare suite payload = prepared at sealing
  cases sealing with
  | poisoned | oversize | exhausted => exact .inl rfl
  | framed usable fits more =>
      rw [Outcome.andThen_ok, snd_transmit]
      exact .inr ⟨_, rfl⟩

theorem keeps_sendFrame (suite : Suite) (channel : Channel) (payload : Octets) :
    channel.stream.Keeps (channel.sendFrame suite payload).2.stream := by
  rcases snd_sendFrame suite channel payload with same | ⟨framed, written⟩
  · rw [same]
    exact .refl _
  · rw [written]
    exact .write _ _

/-- What was written without failure was taken whole. -/
theorem of_transmit_ok {channel after : Channel} {framed : Octets}
    (sent : channel.transmit framed = (.ok (), after)) :
    after.sender = channel.sender ∧ after.stream.accepted = channel.stream.accepted ++ framed := by
  rcases Nat.lt_or_eq_of_le (channel.stream.capacity_le framed.length) with short | whole
  · rw [transmit_of_short short] at sent
    cases sent
  · rw [transmit_of_whole whole] at sent
    cases sent
    simp only [Stream.write, whole, List.take_length, and_self]

/-- On a stream that loses nothing the frame of every payload that fits is written whole. -/
theorem sendFrame_of_isLossless {suite : Suite} {channel : Channel} {payload : Octets}
    (usable : channel.poisoned = false) (lossless : channel.stream.IsLossless) (fits : Fits payload)
    (more : channel.sender.counter ≠ Cipher.lastCounter) :
    channel.sendFrame suite payload =
      (.ok (),
        { channel with
          sender := channel.sender.advanced
          stream :=
            { channel.stream with
              accepted := channel.stream.accepted ++
                frame (sealedBody suite channel.sender.key (channel.sender.counter.toNat + 1) payload) } }) := by
  rw [sendFrame_of_fits usable fits more]
  simp only [transmit]
  rw [Stream.write_of_isLossless lossless]

/-- A frame that was sent without failure was written whole, under a counter that was not the last. -/
theorem of_sendFrame_ok {suite : Suite} {channel after : Channel} {payload : Octets}
    (sent : channel.sendFrame suite payload = (.ok (), after)) :
    Fits payload ∧ channel.sender.counter ≠ Cipher.lastCounter ∧ after.sender = channel.sender.advanced ∧
      after.stream.accepted = channel.stream.accepted ++
        frame (sealedBody suite channel.sender.key (channel.sender.counter.toNat + 1) payload) := by
  have sealing := preparation suite channel payload
  rw [sendFrame] at sent
  generalize channel.prepare suite payload = prepared at sealing sent
  cases sealing with
  | poisoned | oversize | exhausted => cases sent
  | framed usable fits more =>
      obtain ⟨sender, accepted⟩ := of_transmit_ok sent
      exact ⟨fits, more, sender, accepted⟩

/-! ## Receiving -/

/-- The channel when these bytes are unread. -/
def withUnread (channel : Channel) (bytes : Octets) : Channel :=
  { channel with stream := channel.stream.withUnread bytes }

@[simp] theorem withUnread_withUnread (channel : Channel) (first second : Octets) :
    (channel.withUnread first).withUnread second = channel.withUnread second := rfl

@[simp] theorem withUnread_incoming (channel : Channel) :
    channel.withUnread channel.stream.incoming = channel := rfl

/-- The channel after a corrupt frame: poisoned, and its stream closed. -/
def ruined (channel : Channel) : Channel :=
  { channel with poisoned := true, stream := { channel.stream with closed := true } }

/-- The sealed payload of the next frame, taken off the stream. -/
def takeSealed (channel : Channel) : Outcome Channel Octets :=
  channel.takeLength.andThen fun length channel => channel.takeBody length

theorem receiveFrame_eq (suite : Suite) (channel : Channel) :
    channel.receiveFrame suite = channel.takeSealed.andThen fun body channel => channel.openBody suite body :=
  rfl

theorem fail_of_closable {Result : Type} (channel : Channel) (closable : channel.stream.failingCloses = 0)
    (error : FrameError) :
    (channel.fail error : Outcome Channel Result) = (.error (.frame error), channel.ruined) := by
  simp only [fail, close, Stream.close_of_closable closable]
  rfl

theorem takeLength_of_usable {channel : Channel} (usable : channel.poisoned = false)
    {reading : Except Nat (Block lengthSize)} {rest : Octets}
    (read : channel.stream.read lengthSize = (reading, channel.stream.withUnread rest)) :
    channel.takeLength = (channel.withUnread rest).judgeLength reading := by
  rw [takeLength, if_neg (Bool.not_eq_true _ ▸ usable), read]
  rfl

theorem takeLength_append {channel : Channel} (usable : channel.poisoned = false)
    (opened : channel.stream.closed = false) (field : Block lengthSize) {rest : Octets}
    (front : channel.stream.incoming = field.val ++ rest)
    (permitted : IsPermitted (Octets.ofBig field.val)) :
    channel.takeLength = (.ok (Octets.ofBig field.val), channel.withUnread rest) := by
  rw [takeLength_of_usable usable (Stream.read_append opened field front)]
  exact if_neg permitted

theorem takeLength_of_not_permitted {channel : Channel} (usable : channel.poisoned = false)
    (opened : channel.stream.closed = false) (closable : channel.stream.failingCloses = 0)
    (field : Block lengthSize) {rest : Octets} (front : channel.stream.incoming = field.val ++ rest)
    (refused : ¬ IsPermitted (Octets.ofBig field.val)) :
    channel.takeLength =
      (.error (.frame (.invalidLength (Octets.ofBig field.val))), (channel.withUnread rest).ruined) := by
  rw [takeLength_of_usable usable (Stream.read_append opened field front),
    ← fail_of_closable (channel.withUnread rest) closable]
  exact if_pos (Decidable.not_not.mp refused)

theorem takeLength_of_lt {channel : Channel} (usable : channel.poisoned = false)
    (opened : channel.stream.closed = false) (closable : channel.stream.failingCloses = 0)
    (something : channel.stream.incoming ≠ []) (few : channel.stream.incoming.length < lengthSize) :
    channel.takeLength = (.error (.frame .truncatedLength), (channel.withUnread []).ruined) := by
  have positive : channel.stream.incoming.length ≠ 0 := fun zero =>
    something (List.length_eq_zero_iff.mp zero)
  obtain ⟨found, count⟩ := Nat.exists_eq_succ_of_ne_zero positive
  rw [takeLength_of_usable usable (Stream.read_of_lt opened few), count,
    ← fail_of_closable (channel.withUnread []) closable]
  rfl

theorem takeBody_append (channel : Channel) (opened : channel.stream.closed = false) {body rest : Octets}
    (front : channel.stream.incoming = body ++ rest) :
    channel.takeBody body.length = (.ok body, channel.withUnread rest) := by
  rw [takeBody, Stream.read_append opened ⟨body, rfl⟩ front]
  rfl

theorem takeBody_of_lt (channel : Channel) {length : Nat} (opened : channel.stream.closed = false)
    (closable : channel.stream.failingCloses = 0) (cut : channel.stream.incoming.length < length) :
    channel.takeBody length =
      (.error (.frame (.truncatedBody channel.stream.incoming.length length)),
        (channel.withUnread []).ruined) := by
  rw [takeBody, Stream.read_of_lt opened cut, ← fail_of_closable (channel.withUnread []) closable]
  rfl

/-- A whole frame of a permitted length is taken off the stream, and nothing behind it. -/
theorem takeSealed_of_firstFrame? {channel : Channel} {body rest : Octets}
    (usable : channel.poisoned = false) (opened : channel.stream.closed = false)
    (found : firstFrame? channel.stream.incoming = some (body, rest)) :
    channel.takeSealed = (.ok body, channel.withUnread rest) := by
  obtain ⟨bytes, long, short⟩ := eq_frame_of_firstFrame? found
  have field := ofBig_lengthField short
  have permitted := (isPermitted_iff body.length).mpr ⟨long, short⟩
  rw [frame, List.append_assoc] at bytes
  have first := takeLength_append usable opened ⟨_, Octets.length_big lengthSize body.length⟩ bytes
    (by rw [field]; exact permitted)
  have second : (channel.withUnread (body ++ rest)).takeBody body.length =
      (.ok body, (channel.withUnread (body ++ rest)).withUnread rest) :=
    takeBody_append (channel.withUnread (body ++ rest)) opened rfl
  rw [field] at first
  rw [takeSealed, first, Outcome.andThen_ok, second, withUnread_withUnread]

/-- Where nothing has arrived, the connection has ended and the channel stays as it is. -/
theorem takeSealed_of_nil {channel : Channel} (usable : channel.poisoned = false)
    (opened : channel.stream.closed = false) (nothing : channel.stream.incoming = []) :
    channel.takeSealed = (.error (.connection (.ended .endOfFile)), channel) := by
  have few : channel.stream.incoming.length < lengthSize := by
    rw [nothing]
    decide
  have same : channel.withUnread [] = channel := by
    rw [← nothing, withUnread_incoming]
  rw [takeSealed, takeLength_of_usable usable (Stream.read_of_lt opened few), same, nothing]
  rfl

/-- Bytes that begin with no whole frame of a permitted length ruin the channel. -/
theorem takeSealed_of_firstFrame?_eq_none {channel : Channel} (usable : channel.poisoned = false)
    (opened : channel.stream.closed = false) (closable : channel.stream.failingCloses = 0)
    (something : channel.stream.incoming ≠ []) (broken : firstFrame? channel.stream.incoming = none) :
    ∃ error unread, channel.takeSealed = (.error (.frame error), (channel.withUnread unread).ruined) := by
  by_cases enough : lengthSize ≤ channel.stream.incoming.length
  · let field : Block lengthSize :=
      ⟨channel.stream.incoming.take lengthSize, List.length_take_of_le enough⟩
    let rest := channel.stream.incoming.drop lengthSize
    have front : channel.stream.incoming = field.val ++ rest := (List.take_append_drop lengthSize _).symm
    by_cases permitted : IsPermitted (Octets.ofBig field.val)
    · have cut : rest.length < Octets.ofBig field.val := by
        refine Nat.lt_of_not_le fun whole => ?_
        rw [front, firstFrame?_append field rest permitted whole] at broken
        cases broken
      have body : (channel.withUnread rest).takeBody (Octets.ofBig field.val) =
          (.error (.frame (.truncatedBody rest.length (Octets.ofBig field.val))),
            ((channel.withUnread rest).withUnread []).ruined) := takeBody_of_lt _ opened closable cut
      rw [takeSealed, takeLength_append usable opened field front permitted, Outcome.andThen_ok, body]
      exact ⟨_, [], rfl⟩
    · rw [takeSealed, takeLength_of_not_permitted usable opened closable field front permitted]
      exact ⟨_, rest, rfl⟩
  · rw [takeSealed, takeLength_of_lt usable opened closable something (Nat.lt_of_not_le enough)]
    exact ⟨_, [], rfl⟩

/-- A sealed payload is opened under the next nonce, or it ruins the channel. -/
inductive Opening (suite : Suite) (channel : Channel) (body : Octets) : Outcome Channel Octets → Prop where
  | accepted (text : Octets) (more : channel.receiver.counter ≠ Cipher.lastCounter)
      (opens : suite.decrypt channel.receiver.key (Cipher.nonceAt (channel.receiver.counter.toNat + 1)) body =
        some text) :
      Opening suite channel body (.ok text, { channel with receiver := channel.receiver.advanced })
  | refused (error : CryptoError) (receiver : Cipher) :
      Opening suite channel body (.error (.frame (.crypto error)), { channel with receiver }.ruined)

theorem openBuffer_of_decrypt {suite : Suite} {cipher : Cipher} {body text : Octets}
    (long : Gcm.tagSize ≤ body.length) (more : cipher.counter ≠ Cipher.lastCounter)
    (opens : suite.decrypt cipher.key (Cipher.nonceAt (cipher.counter.toNat + 1)) body = some text) :
    cipher.openBuffer suite body = ⟨none, text, cipher.advanced⟩ := by
  have enough : ¬ body.length < Gcm.tagSize := Nat.not_lt_of_le long
  simp [Cipher.openBuffer, Cipher.next?_of_ne more, enough, Cipher.nonce_advanced, opens]

theorem openBody_of_decrypt {suite : Suite} {channel : Channel} {body text : Octets}
    (long : Gcm.tagSize ≤ body.length) (more : channel.receiver.counter ≠ Cipher.lastCounter)
    (opens : suite.decrypt channel.receiver.key (Cipher.nonceAt (channel.receiver.counter.toNat + 1)) body =
      some text) :
    channel.openBody suite body = (.ok text, { channel with receiver := channel.receiver.advanced }) := by
  simp only [openBody, openBuffer_of_decrypt long more opens]

/-- At the last counter nothing is opened, whatever the body is. -/
theorem openBody_of_exhausted {suite : Suite} (channel : Channel) {body : Octets}
    (closable : channel.stream.failingCloses = 0) (last : channel.receiver.counter = Cipher.lastCounter) :
    channel.openBody suite body = (.error (.frame (.crypto .nonceExhausted)), channel.ruined) := by
  have refused : channel.receiver.next? = none := (Cipher.next?_eq_none_iff _).mpr last
  simp only [openBody, Cipher.openBuffer, refused]
  exact fail_of_closable channel closable _

theorem openBody_of_mismatch {suite : Suite} (channel : Channel) {body : Octets}
    (closable : channel.stream.failingCloses = 0) (long : Gcm.tagSize ≤ body.length)
    (more : channel.receiver.counter ≠ Cipher.lastCounter)
    (refused : suite.decrypt channel.receiver.key (Cipher.nonceAt (channel.receiver.counter.toNat + 1)) body =
      none) :
    channel.openBody suite body =
      (.error (.frame (.crypto .tagMismatch)),
        { channel with receiver := channel.receiver.advanced }.ruined) := by
  have enough : ¬ body.length < Gcm.tagSize := Nat.not_lt_of_le long
  simp only [openBody, Cipher.openBuffer, Cipher.next?_of_ne more, if_neg enough,
    Cipher.key_advanced, Cipher.nonce_advanced, refused]
  exact fail_of_closable { channel with receiver := channel.receiver.advanced } closable _

theorem opening {suite : Suite} {channel : Channel} {body : Octets}
    (closable : channel.stream.failingCloses = 0) (long : Gcm.tagSize ≤ body.length) :
    Opening suite channel body (channel.openBody suite body) := by
  by_cases last : channel.receiver.counter = Cipher.lastCounter
  · rw [openBody_of_exhausted channel closable last]
    exact .refused _ channel.receiver
  · cases opens : suite.decrypt channel.receiver.key
        (Cipher.nonceAt (channel.receiver.counter.toNat + 1)) body with
    | some text =>
        rw [openBody_of_decrypt long last opens]
        exact .accepted text last opens
    | none =>
        rw [openBody_of_mismatch channel closable long last opens]
        exact .refused _ channel.receiver.advanced

/-- The frame that the peer sealed under the next nonce gives its payload back. -/
theorem receiveFrame_of_sealed {suite : Suite} (lawful : suite.Lawful) {channel : Channel}
    {payload rest : Octets} (usable : channel.poisoned = false) (opened : channel.stream.closed = false)
    (fits : Fits payload) (more : channel.receiver.counter ≠ Cipher.lastCounter)
    (front : channel.stream.incoming =
      frame (sealedBody suite channel.receiver.key (channel.receiver.counter.toNat + 1) payload) ++ rest) :
    channel.receiveFrame suite =
      (.ok payload, { channel.withUnread rest with receiver := channel.receiver.advanced }) := by
  have length := length_sealedBody lawful channel.receiver.key (channel.receiver.counter.toNat + 1) payload
  have long : Gcm.tagSize ≤ (sealedBody suite channel.receiver.key
      (channel.receiver.counter.toNat + 1) payload).length := by
    rw [length]
    exact Nat.le_add_left _ _
  have found := firstFrame?_frame long (by rw [length]; exact fits) rest
  rw [← front] at found
  rw [receiveFrame_eq, takeSealed_of_firstFrame? usable opened found]
  exact openBody_of_decrypt long more (lawful.decrypt_encrypt _ _ payload)

end Channel

end Courier
