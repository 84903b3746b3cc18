import Courier.Proofs.Dialogue.Step
import Courier.Proofs.Session.Conversation

/-!
# Messages under way

A lane leads from the end that seals to the end that opens. Its bytes are where
they happen to be: taken off the stream already, arrived and unread, or written
and not yet brought over. Together they are the frames of the messages that are
under way, sealed under the nonces that the opening end comes to next. Two lanes,
one in each direction, join two channels; whatever the connection brings over keeps
them.
-/

namespace Courier

/-- The messages that are under way in one direction, and the bytes of the first of their frames that have been
taken off the stream. -/
structure Transit where
  begun : Octets := []
  messages : List Message := []

namespace Channel

variable {suite : Suite} {near far nearAfter farAfter : Channel} {transit : Transit} {message : Message}
  {rest : List Message} {begun more : Octets} {count : Nat}

/-- The sealed payload in the frame of the message that is opened next. -/
def nextBody (suite : Suite) (far : Channel) (message : Message) : Octets :=
  sealedBody suite far.receiver.key (far.receiver.counter.toNat + 1) message.encode

theorem isPermitted_nextBody (lawful : suite.Lawful) (far : Channel) (message : Message) :
    Gcm.tagSize ≤ (far.nextBody suite message).length ∧ (far.nextBody suite message).length ≤ maximumFrame := by
  rw [nextBody, length_sealedBody lawful]
  exact ⟨Nat.le_add_left _ _, encode_fits message⟩

/-- The length field in front of a sealed payload. -/
def lengthField (body : Octets) : Block lengthSize :=
  ⟨Octets.big lengthSize body.length, Octets.length_big lengthSize body.length⟩

/-- A frame of a message passes the judgement of its length. -/
theorem judgeLength_lengthField (lawful : suite.Lawful) (channel far : Channel) (message : Message) :
    channel.judgeLength (.ok (lengthField (far.nextBody suite message))) =
      (.ok (far.nextBody suite message).length, channel) := by
  have permitted := isPermitted_nextBody lawful far message
  have field : Octets.ofBig (lengthField (far.nextBody suite message)).val = (far.nextBody suite message).length :=
    ofBig_lengthField permitted.2
  have accepted := (isPermitted_iff _).mpr permitted
  rw [← field] at accepted ⊢
  exact if_neg accepted

/-- What is under way from one end to the other. -/
structure Lane (suite : Suite) (near far : Channel) (transit : Transit) : Prop where
  key : near.sender.key = far.receiver.key
  counter : near.sender.counter.toNat = far.receiver.counter.toNat + transit.messages.length
  bytes : transit.begun ++ (far.stream.incoming ++ near.stream.accepted) =
    frameAll suite far.receiver.key far.receiver.counter.toNat transit.messages
  valid : ∀ message ∈ transit.messages, message.isValid = true
  /-- The opening end learns that the sealing end is closed after everything that was written. -/
  told : far.stream.ended = false ∧ far.stream.room = none ∨
    near.stream.closed = true ∧ near.stream.accepted = []

namespace Lane

/-- Nothing changes with what concerns neither what is under way nor what is known of the sealing end. -/
theorem congr (lane : Lane suite near far transit) (sender : nearAfter.sender = near.sender)
    (accepted : nearAfter.stream.accepted = near.stream.accepted)
    (closed : near.stream.closed = true → nearAfter.stream.closed = true)
    (receiver : farAfter.receiver = far.receiver) (incoming : farAfter.stream.incoming = far.stream.incoming)
    (ended : farAfter.stream.ended = far.stream.ended) (room : farAfter.stream.room = far.stream.room) :
    Lane suite nearAfter farAfter transit where
  key := by rw [sender, receiver, lane.key]
  counter := by rw [sender, receiver, lane.counter]
  bytes := by rw [incoming, accepted, receiver, lane.bytes]
  valid := lane.valid
  told := by
    rw [ended, room, accepted]
    exact lane.told.imp_right fun ⟨shut, nothing⟩ => ⟨closed shut, nothing⟩

/-- While the sealing end is open, the opening end knows of nothing else. -/
theorem untold (lane : Lane suite near far transit) (opened : near.stream.closed = false) :
    far.stream.ended = false ∧ far.stream.room = none := by
  refine lane.told.resolve_right fun ⟨closed, _⟩ => ?_
  rw [opened] at closed
  cases closed

/-- What the connection brings over stays on its lane. -/
theorem passed (lane : Lane suite near far transit) {source target : Stream}
    (passed : near.stream.Passed far.stream source target) :
    Lane suite { near with stream := source } { far with stream := target } transit := by
  cases passed with
  | bytes front back something underWay =>
      refine ⟨lane.key, lane.counter, ?_, lane.valid, ?_⟩
      · have bytes := lane.bytes
        rw [underWay] at bytes
        simpa only [Stream.feed, List.append_assoc] using bytes
      · refine lane.told.imp_right fun ⟨_, nothing⟩ => ?_
        rw [nothing] at underWay
        exact absurd (List.append_eq_nil_iff.mp underWay.symm).1 something
  | closing closed nothing news => exact ⟨lane.key, lane.counter, lane.bytes, lane.valid, .inr ⟨closed, nothing⟩⟩

/-- What comes the other way does not concern the lane. -/
theorem passed_back (lane : Lane suite near far transit) {source target : Stream}
    (passed : far.stream.Passed near.stream source target) :
    Lane suite { near with stream := target } { far with stream := source } transit := by
  cases passed with
  | bytes | closing => exact lane.congr rfl rfl id rfl rfl rfl rfl

/-! ### Sending -/

/-- The frame of one more message follows those that are under way. -/
theorem push (lane : Lane suite near far transit) (more : near.sender.counter ≠ Cipher.lastCounter)
    (valid : message.isValid = true) (opened : near.stream.closed = false)
    (sender : nearAfter.sender = near.sender.advanced)
    (accepted : nearAfter.stream.accepted = near.stream.accepted ++
      frame (sealedBody suite near.sender.key (near.sender.counter.toNat + 1) message.encode)) :
    Lane suite nearAfter far { transit with messages := transit.messages ++ [message] } where
  key := by rw [sender, Cipher.key_advanced, lane.key]
  counter := by
    rw [sender, Cipher.toNat_advanced more, lane.counter, List.length_append, List.length_singleton, Nat.add_assoc]
  bytes := by
    have bytes := lane.bytes
    rw [accepted, ← List.append_assoc _ near.stream.accepted, ← List.append_assoc transit.begun, bytes, lane.key,
      lane.counter]
    simp only [frameAll, List.map_append, wire_append, List.length_map, List.map_cons, List.map_nil, wire_cons,
      wire_nil, List.append_nil]
  valid := by
    intro other present
    rcases List.mem_append.mp present with before | last
    · exact lane.valid other before
    · rw [List.mem_singleton.mp last]
      exact valid
  told := .inl (lane.untold opened)

/-! ### Reading -/

/-- Where a block is what comes next, it has arrived as soon as a read of it returns. -/
theorem exists_unread (lane : Lane suite near far transit) (opened : far.stream.closed = false)
    (block : Block count) (whole : transit.begun ++ (block.val ++ more) =
      frameAll suite far.receiver.key far.receiver.counter.toNat transit.messages)
    (ready : far.stream.readable count = true) : ∃ unread, far.stream.incoming = block.val ++ unread := by
  have same : far.stream.incoming ++ near.stream.accepted = block.val ++ more :=
    List.append_cancel_left (lane.bytes.trans whole.symm)
  have enough : block.val.length ≤ far.stream.incoming.length := by
    rw [block.property]
    simp only [Stream.readable, opened, Bool.false_or, Bool.or_eq_true, decide_eq_true_eq] at ready
    rcases ready with ended | enough
    · -- the end is told only after all bytes
      rcases lane.told with ⟨untold, _⟩ | ⟨_, nothing⟩
      · rw [untold] at ended
        cases ended
      · rw [nothing, List.append_nil] at same
        rw [same, List.length_append, block.property]
        exact Nat.le_add_right count more.length
    · exact enough
  obtain ⟨unread, front⟩ : block.val <+: far.stream.incoming :=
    List.prefix_of_prefix_length_le ⟨more, same.symm⟩ ⟨_, rfl⟩ enough
  exact ⟨unread, front.symm⟩

/-- A read takes the block that comes next off the stream. -/
theorem take (lane : Lane suite near far transit) (opened : far.stream.closed = false) (block : Block count)
    (whole : transit.begun ++ (block.val ++ more) =
      frameAll suite far.receiver.key far.receiver.counter.toNat transit.messages)
    (ready : far.stream.readable count = true) :
    ∃ unread, far.stream.read count = (.ok block, far.stream.withUnread unread) ∧
      Lane suite near (far.withUnread unread) { transit with begun := transit.begun ++ block.val } := by
  obtain ⟨unread, front⟩ := lane.exists_unread opened block whole ready
  refine ⟨unread, Stream.read_append opened block front, lane.key, lane.counter, ?_, lane.valid, lane.told⟩
  have bytes := lane.bytes
  rw [front, List.append_assoc, ← List.append_assoc] at bytes
  exact bytes

/-- Once everything has been brought over, a read of the block that comes next returns. -/
theorem readable_of_brought (lane : Lane suite near far transit) (brought : near.stream.accepted = [])
    (block : Block count) (whole : transit.begun ++ (block.val ++ more) =
      frameAll suite far.receiver.key far.receiver.counter.toNat transit.messages) :
    far.stream.readable count = true := by
  have same : far.stream.incoming ++ near.stream.accepted = block.val ++ more :=
    List.append_cancel_left (lane.bytes.trans whole.symm)
  rw [brought, List.append_nil] at same
  have enough : count ≤ far.stream.incoming.length := by
    rw [same, List.length_append, block.property]
    exact Nat.le_add_right count more.length
  simp [Stream.readable, enough]

/-- What comes next where nothing of the first frame has been taken: its length field. -/
theorem whole_length (suite : Suite) (far : Channel) (message : Message) (rest : List Message) :
    ∃ more, [] ++ ((lengthField (far.nextBody suite message)).val ++ more) =
      frameAll suite far.receiver.key far.receiver.counter.toNat (message :: rest) :=
  ⟨_, (List.append_assoc _ _ _).symm⟩

/-- What comes next behind the length field: the sealed payload. -/
theorem whole_body (suite : Suite) (far : Channel) (message : Message) (rest : List Message) :
    ∃ more, (lengthField (far.nextBody suite message)).val ++ (far.nextBody suite message ++ more) =
      frameAll suite far.receiver.key far.receiver.counter.toNat (message :: rest) :=
  ⟨_, (List.append_assoc _ _ _).symm⟩

/-- Where nothing is under way, no bytes are. -/
theorem nothing (lane : Lane suite near far {}) : far.stream.incoming = [] ∧ near.stream.accepted = [] :=
  List.append_eq_nil_iff.mp lane.bytes

/-- Where nothing is under way from an end that is open, a read waits. -/
theorem not_readable (lane : Lane suite near far {}) (nearOpened : near.stream.closed = false)
    (farOpened : far.stream.closed = false) (positive : 0 < count) : far.stream.readable count = false := by
  have untold := (lane.untold nearOpened).1
  have none := lane.nothing.1
  simp [Stream.readable, farOpened, untold, none, Nat.not_le_of_lt positive]

/-! ### Opening -/

/-- The receiving cipher is behind the sealing one while something is under way. -/
theorem more_of_cons (lane : Lane suite near far { begun, messages := message :: rest }) :
    far.receiver.counter ≠ Cipher.lastCounter := by
  have counter := lane.counter
  have bound := near.sender.counter.toNat_lt
  have last : Cipher.lastCounter.toNat = 2 ^ 64 - 1 := rfl
  rw [List.length_cons] at counter
  rw [Cipher.ne_lastCounter_iff]
  omega

/-- The message in the frame that has been taken. -/
theorem openFrame (lawful : suite.Lawful)
    (lane : Lane suite near far { begun := frame (far.nextBody suite message), messages := message :: rest }) :
    (far.openBody suite (far.nextBody suite message)).andThen (fun payload channel => channel.interpret payload) =
        (.ok message, { far with receiver := far.receiver.advanced }) ∧
      Lane suite near { far with receiver := far.receiver.advanced } { messages := rest } := by
  have more := lane.more_of_cons
  have long := (isPermitted_nextBody lawful far message).1
  have opened := openBody_of_decrypt long more (lawful.decrypt_encrypt _ _ message.encode)
  have decoded := Message.decode_encode (lane.valid message List.mem_cons_self)
  refine ⟨?_, ?_, ?_, ?_, ?_, lane.told⟩
  · rw [opened, Outcome.andThen_ok, interpret, decoded]
  · rw [Cipher.key_advanced, lane.key]
  · have counter := lane.counter
    rw [List.length_cons] at counter
    rw [Cipher.toNat_advanced more]
    change _ = _ + rest.length
    omega
  · rw [Cipher.toNat_advanced more]
    exact List.append_cancel_left lane.bytes
  · exact fun other present => lane.valid other (List.mem_cons_of_mem _ present)

end Lane

/-! ## Two lanes -/

/-- A channel on which nothing has gone wrong. -/
structure IsSound (channel : Channel) : Prop where
  usable : channel.poisoned = false
  closable : channel.stream.failingCloses = 0
  prompt : channel.stream.stalled = false

/-- The channel when its stream is this one. -/
def withStream (channel : Channel) (stream : Stream) : Channel := { channel with stream }

/-- The channel after a message was sent. -/
def sent (suite : Suite) (channel : Channel) (message : Message) : Channel :=
  { channel with
    sender := channel.sender.advanced
    stream := { channel.stream with
      accepted := channel.stream.accepted ++
        frame (sealedBody suite channel.sender.key (channel.sender.counter.toNat + 1) message.encode) } }

/-- The channel after the next message was opened. -/
def heard (channel : Channel) : Channel := { channel with receiver := channel.receiver.advanced }

/-- Two sound channels and what is under way between them. -/
structure Joint (suite : Suite) (near far : Channel) (out home : Transit) : Prop where
  nearSound : near.IsSound
  farSound : far.IsSound
  forth : Lane suite near far out
  back : Lane suite far near home

namespace Joint

variable {out home : Transit}

/-- The same, told from the other end. -/
theorem symm (joint : Joint suite near far out home) : Joint suite far near home out :=
  ⟨joint.farSound, joint.nearSound, joint.back, joint.forth⟩

/-- What is brought over changes nothing of what is under way. -/
theorem brought (joint : Joint suite near far out home) {nearAfter farAfter : Stream}
    (brought : near.stream.Brought far.stream nearAfter farAfter) :
    Joint suite (near.withStream nearAfter) (far.withStream farAfter) out home where
  nearSound :=
    have alike := brought.near_alike
    ⟨joint.nearSound.usable, alike.failingCloses.trans joint.nearSound.closable,
      alike.stalled.trans joint.nearSound.prompt⟩
  farSound :=
    have alike := brought.far_alike
    ⟨joint.farSound.usable, alike.failingCloses.trans joint.farSound.closable,
      alike.stalled.trans joint.farSound.prompt⟩
  forth := by
    cases brought with
    | forth passed => exact joint.forth.passed passed
    | back passed => exact joint.forth.passed_back passed
  back := by
    cases brought with
    | forth passed => exact joint.back.passed_back passed
    | back passed => exact joint.back.passed passed

/-- Closing an end takes nothing off its lanes. -/
theorem close (joint : Joint suite near far out home) :
    near.close = (.ok (), near.shut) ∧ Joint suite near.shut far out home := by
  refine ⟨?_, ⟨joint.nearSound.usable, joint.nearSound.closable, joint.nearSound.prompt⟩, joint.farSound,
    joint.forth.congr rfl rfl (fun _ => rfl) rfl rfl rfl rfl, joint.back.congr rfl rfl id rfl rfl rfl rfl⟩
  rw [Channel.close, Stream.close_of_closable joint.nearSound.closable]
  rfl

/-- Between two open ends a message is sent whole. -/
theorem send (joint : Joint suite near far out home) (nearOpened : near.stream.closed = false)
    (farOpened : far.stream.closed = false) (more : near.sender.counter ≠ Cipher.lastCounter)
    (valid : message.isValid = true) :
    near.send suite message = (.ok (), near.sent suite message) ∧
      Joint suite (near.sent suite message) far { out with messages := out.messages ++ [message] } home := by
  have lossless : near.stream.IsLossless := ⟨nearOpened, (joint.back.untold farOpened).2⟩
  refine ⟨sendFrame_of_isLossless joint.nearSound.usable lossless (encode_fits message) more,
    ⟨joint.nearSound.usable, joint.nearSound.closable, joint.nearSound.prompt⟩, joint.farSound,
    joint.forth.push more valid nearOpened rfl rfl, joint.back.congr rfl rfl id rfl rfl rfl rfl⟩

/-- Something is taken off the stream of the far end. -/
theorem taken (joint : Joint suite near far out home) {unread : Octets} {after : Transit}
    (lane : Lane suite near (far.withUnread unread) after) :
    Joint suite near (far.withUnread unread) after home :=
  ⟨joint.nearSound, ⟨joint.farSound.usable, joint.farSound.closable, joint.farSound.prompt⟩, lane,
    joint.back.congr rfl rfl id rfl rfl rfl rfl⟩

/-- The length of the first frame is taken off the stream. -/
theorem readLength (joint : Joint suite near far { messages := message :: rest } home)
    (opened : far.stream.closed = false) (ready : far.stream.readable lengthSize = true) :
    ∃ unread, far.stream.read lengthSize =
        (.ok (lengthField (far.nextBody suite message)), far.stream.withUnread unread) ∧
      Joint suite near (far.withUnread unread)
        ⟨(lengthField (far.nextBody suite message)).val, message :: rest⟩ home := by
  obtain ⟨more, whole⟩ := Lane.whole_length suite far message rest
  obtain ⟨unread, read, lane⟩ := joint.forth.take opened (lengthField (far.nextBody suite message)) whole ready
  exact ⟨unread, read, joint.taken lane⟩

/-- The sealed payload of the first frame is taken off the stream. -/
theorem readBody
    (joint : Joint suite near far ⟨(lengthField (far.nextBody suite message)).val, message :: rest⟩ home)
    (opened : far.stream.closed = false)
    (ready : far.stream.readable (far.nextBody suite message).length = true) :
    ∃ unread, far.stream.read (far.nextBody suite message).length =
        (.ok ⟨far.nextBody suite message, rfl⟩, far.stream.withUnread unread) ∧
      Joint suite near (far.withUnread unread) ⟨frame (far.nextBody suite message), message :: rest⟩ home := by
  obtain ⟨more, whole⟩ := Lane.whole_body suite far message rest
  obtain ⟨unread, read, lane⟩ := joint.forth.take opened ⟨far.nextBody suite message, rfl⟩ whole ready
  exact ⟨unread, read, joint.taken lane⟩

/-- The first message is opened. -/
theorem openFrame (lawful : suite.Lawful)
    (joint : Joint suite near far ⟨frame (far.nextBody suite message), message :: rest⟩ home) :
    (far.openBody suite (far.nextBody suite message)).andThen (fun payload channel => channel.interpret payload) =
        (.ok message, far.heard) ∧
      Joint suite near far.heard { messages := rest } home := by
  obtain ⟨opened, lane⟩ := joint.forth.openFrame lawful
  exact ⟨opened, joint.nearSound, ⟨joint.farSound.usable, joint.farSound.closable, joint.farSound.prompt⟩, lane,
    joint.back.congr rfl rfl id rfl rfl rfl rfl⟩

/-- Once everything has been brought over, the reads of the first frame return. -/
theorem readable_length (joint : Joint suite near far { messages := message :: rest } home)
    (brought : near.stream.accepted = []) : far.stream.readable lengthSize = true :=
  have ⟨_, whole⟩ := Lane.whole_length suite far message rest
  joint.forth.readable_of_brought brought (lengthField (far.nextBody suite message)) whole

theorem readable_body
    (joint : Joint suite near far ⟨(lengthField (far.nextBody suite message)).val, message :: rest⟩ home)
    (brought : near.stream.accepted = []) : far.stream.readable (far.nextBody suite message).length = true :=
  have ⟨_, whole⟩ := Lane.whole_body suite far message rest
  joint.forth.readable_of_brought brought ⟨far.nextBody suite message, rfl⟩ whole

end Joint

end Channel

end Courier
