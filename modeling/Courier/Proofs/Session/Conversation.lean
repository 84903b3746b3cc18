import Courier.Proofs.Message
import Courier.Proofs.Session.Performance

/-!
# Serving as a conversation

What a session does on the wire while it is served is decided by the messages
alone: it hears them in order up to the first that ends the conversation, and
every greeting that it hears is answered by one frame. The induction is on the
messages that are unread; the channel after each of them is given in closed
form, so that the turns of the loop compose.
-/

namespace Courier

/-- What a server replies to a message, if anything. -/
def Message.reply? : Message → Option Message
  | greeting version => some (.response (if version = protocolVersion then .ok else .unsupported))
  | response _ => none
  | disconnect => none

/-- The replies to messages, in order. -/
def Message.replies (messages : List Message) : List Message := messages.filterMap reply?

namespace Policy

/-- Whether the conversation goes on after a message. -/
def goesOnAfter (policy : Policy) : Message → Bool
  | .greeting version => policy == .keepOpen || version == protocolVersion
  | .response _ => false
  | .disconnect => false

/-- The message that ends the conversation, if there is one. -/
def last? (policy : Policy) (messages : List Message) : Option Message :=
  messages.find? fun message => !policy.goesOnAfter message

/-- The messages that are heard: all up to the one that ends the conversation, this one included. -/
def heard (policy : Policy) (messages : List Message) : List Message :=
  messages.takeWhile policy.goesOnAfter ++ (policy.last? messages).toList

/-- The messages behind the one that ends the conversation. -/
def unheard (policy : Policy) (messages : List Message) : List Message :=
  (messages.dropWhile policy.goesOnAfter).tail

section Lists

variable {policy : Policy} {message : Message} (rest : List Message)

theorem last?_cons_of_goesOn (goesOn : policy.goesOnAfter message = true) :
    policy.last? (message :: rest) = policy.last? rest := by
  simp [last?, goesOn]

theorem last?_cons_of_ends (ends : policy.goesOnAfter message = false) :
    policy.last? (message :: rest) = some message := by
  simp [last?, ends]

theorem heard_cons_of_goesOn (goesOn : policy.goesOnAfter message = true) :
    policy.heard (message :: rest) = message :: policy.heard rest := by
  simp [heard, goesOn, last?_cons_of_goesOn rest goesOn]

theorem heard_cons_of_ends (ends : policy.goesOnAfter message = false) :
    policy.heard (message :: rest) = [message] := by
  simp [heard, ends, last?_cons_of_ends rest ends]

theorem unheard_cons_of_goesOn (goesOn : policy.goesOnAfter message = true) :
    policy.unheard (message :: rest) = policy.unheard rest := by
  simp [unheard, goesOn]

theorem unheard_cons_of_ends (ends : policy.goesOnAfter message = false) :
    policy.unheard (message :: rest) = rest := by
  simp [unheard, ends]

/-- Whatever comes behind it, the first message is heard. -/
theorem exists_heard_cons (policy : Policy) (message : Message) (rest : List Message) :
    ∃ later, policy.heard (message :: rest) = message :: later := by
  cases goesOn : policy.goesOnAfter message with
  | true => exact ⟨_, heard_cons_of_goesOn rest goesOn⟩
  | false => exact ⟨_, heard_cons_of_ends rest goesOn⟩

/-- Heard and unheard messages are all messages. -/
theorem heard_append_unheard (policy : Policy) (messages : List Message) :
    policy.heard messages ++ policy.unheard messages = messages := by
  induction messages with
  | nil => rfl
  | cons message rest ih =>
      cases goesOn : policy.goesOnAfter message with
      | true => rw [heard_cons_of_goesOn rest goesOn, unheard_cons_of_goesOn rest goesOn, List.cons_append, ih]
      | false => rw [heard_cons_of_ends rest goesOn, unheard_cons_of_ends rest goesOn, List.singleton_append]

theorem length_heard_le (policy : Policy) (messages : List Message) :
    (policy.heard messages).length ≤ messages.length := by
  have all := congrArg List.length (policy.heard_append_unheard messages)
  rw [List.length_append] at all
  omega

end Lists

end Policy

namespace Channel

variable {suite : Suite} {policy : Policy} {channel : Channel} {message : Message}
  {messages heard rest : List Message}

/-- The bytes of the frames of messages that are sealed under the nonces after a counter. -/
def frameAll (suite : Suite) (key : Gcm.Key) (counter : Nat) (messages : List Message) : Octets :=
  wire suite key counter (messages.map Message.encode)

/-- The frames of the replies to messages. -/
def answers (suite : Suite) (channel : Channel) (heard : List Message) : Octets :=
  frameAll suite channel.sender.key channel.sender.counter.toNat (Message.replies heard)

/-- The channel after these messages were received and their replies sent, with other messages still
unread. -/
def conversed (suite : Suite) (channel : Channel) (heard unheard : List Message) : Channel :=
  { channel with
    sender := channel.sender.advancedBy (Message.replies heard).length
    receiver := channel.receiver.advancedBy heard.length
    stream := (channel.stream.write (channel.answers suite heard)).2.2.withUnread
      (frameAll suite channel.receiver.key (channel.receiver.counter.toNat + heard.length) unheard) }

/-- A channel on which a conversation can take place: the frames of the peer's messages are what is unread,
sealed under the nonces that come next, there is room for the replies, and the counters last. -/
structure IsReadyFor (suite : Suite) (policy : Policy) (messages : List Message) (channel : Channel) : Prop where
  usable : channel.poisoned = false
  opened : channel.stream.closed = false
  valid : ∀ message ∈ messages, message.isValid = true
  unread : channel.stream.incoming =
    frameAll suite channel.receiver.key channel.receiver.counter.toNat messages
  receivable : channel.receiver.counter.toNat + messages.length ≤ Cipher.lastCounter.toNat
  sealable : channel.sender.counter.toNat + (Message.replies (policy.heard messages)).length ≤
    Cipher.lastCounter.toNat
  taken : channel.stream.Takes (channel.answers suite (policy.heard messages)).length

/-! ## One message -/

theorem replies_cons (message : Message) (rest : List Message) :
    Message.replies (message :: rest) = Message.replies [message] ++ Message.replies rest :=
  List.filterMap_append (l := [message])

/-- The channel after its first message was received. -/
def received (suite : Suite) (channel : Channel) (rest : List Message) : Channel :=
  { channel.withUnread (frameAll suite channel.receiver.key (channel.receiver.counter.toNat + 1) rest) with
    receiver := channel.receiver.advanced }

/-- The frames of the replies to messages are those to the first and then those to the others. -/
theorem answers_cons {later : List Message}
    (within : channel.sender.counter.toNat + (Message.replies [message]).length ≤ Cipher.lastCounter.toNat)
    (unheard : List Message) :
    channel.answers suite (message :: later) =
      channel.answers suite [message] ++
        (channel.conversed suite [message] unheard).answers suite later := by
  have counted : (channel.sender.advancedBy (Message.replies [message]).length).counter.toNat =
      channel.sender.counter.toNat + (Message.replies [message]).length := Cipher.toNat_advancedBy within
  simp only [answers, conversed, frameAll, counted, Cipher.key_advancedBy]
  rw [replies_cons, List.map_append, wire_append, List.length_map]

/-- A conversation without messages changes nothing. -/
theorem conversed_nil (nothing : channel.stream.incoming = []) : channel.conversed suite [] [] = channel := by
  have taken : channel.stream.Takes ([] : Octets).length := (Stream.takes_iff _ _).mpr (Or.inl rfl)
  have written : (channel.stream.write []).2.2 = channel.stream := by
    simp [Stream.write_of_takes taken]
  have unread : channel.stream.withUnread [] = channel.stream := by
    rw [← nothing, Stream.withUnread_incoming]
  simp only [conversed, answers, frameAll, Message.replies, List.filterMap_nil, List.map_nil, wire_nil, written,
    unread, List.length_nil, Cipher.advancedBy_zero]

/-- What a conversation leaves is what its first message leaves and then the others. -/
theorem conversed_conversed {later unheard : List Message}
    (receivable : channel.receiver.counter.toNat + 1 ≤ Cipher.lastCounter.toNat)
    (within : channel.sender.counter.toNat + (Message.replies [message]).length ≤ Cipher.lastCounter.toNat)
    (taken : channel.stream.Takes (channel.answers suite (message :: later)).length) :
    (channel.conversed suite [message] rest).conversed suite later unheard =
      channel.conversed suite (message :: later) unheard := by
  have counted : (channel.receiver.advancedBy 1).counter.toNat = channel.receiver.counter.toNat + 1 :=
    Cipher.toNat_advancedBy receivable
  have whole : channel.answers suite (message :: later) = _ := answers_cons within rest
  rw [whole] at taken
  have sender : (channel.sender.advancedBy (Message.replies [message]).length).advancedBy
      (Message.replies later).length = channel.sender.advancedBy (Message.replies (message :: later)).length := by
    rw [Cipher.advancedBy_advancedBy, ← List.length_append, ← replies_cons]
  have receiver : (channel.receiver.advancedBy 1).advancedBy later.length =
      channel.receiver.advancedBy (message :: later).length := by
    rw [Cipher.advancedBy_advancedBy, List.length_cons, Nat.add_comm 1]
  have stream : ((channel.stream.write (channel.answers suite [message])).2.2.write
      ((channel.conversed suite [message] rest).answers suite later)).2.2 =
      (channel.stream.write (channel.answers suite (message :: later))).2.2 := by
    rw [Stream.write_write taken, whole]
  have counter : channel.receiver.counter.toNat + 1 + later.length =
      channel.receiver.counter.toNat + (message :: later).length := by
    rw [List.length_cons, Nat.add_assoc, Nat.add_comm 1]
  unfold conversed
  rw [← sender, ← receiver, ← stream, ← counter, ← counted]
  rfl

namespace IsReadyFor

variable {session : Session}

theorem sealable_first (ready : channel.IsReadyFor suite policy (message :: rest)) :
    channel.sender.counter.toNat + (Message.replies [message]).length ≤ Cipher.lastCounter.toNat := by
  obtain ⟨later, same⟩ := policy.exists_heard_cons message rest
  have sealable := ready.sealable
  rw [same, replies_cons, List.length_append] at sealable
  omega

theorem receivable_first (ready : channel.IsReadyFor suite policy (message :: rest)) :
    channel.receiver.counter.toNat + 1 ≤ Cipher.lastCounter.toNat := by
  have receivable := ready.receivable
  rw [List.length_cons] at receivable
  omega

theorem taken_first (ready : channel.IsReadyFor suite policy (message :: rest)) :
    channel.stream.Takes (channel.answers suite [message]).length := by
  obtain ⟨later, same⟩ := policy.exists_heard_cons message rest
  have taken := ready.taken
  rw [same, answers_cons ready.sealable_first rest] at taken
  exact taken.of_append.1

/-- The first message is received, and the others stay unread. -/
theorem receive (lawful : suite.Lawful) (ready : channel.IsReadyFor suite policy (message :: rest)) :
    channel.receive suite = (.ok message, channel.received suite rest) := by
  have more : channel.receiver.counter ≠ Cipher.lastCounter := by
    have receivable := ready.receivable_first
    rw [Cipher.ne_lastCounter_iff]
    omega
  have decoded := Message.decode_encode (ready.valid message List.mem_cons_self)
  rw [Channel.receive, receiveFrame_of_sealed lawful ready.usable ready.opened (encode_fits message) more
    ready.unread, Outcome.andThen_ok, interpret, decoded]
  rfl

/-- The reply to the first message is sent. -/
theorem send (ready : channel.IsReadyFor suite policy (message :: rest)) {reply : Message}
    (replied : message.reply? = some reply) :
    (channel.received suite rest).send suite reply = (.ok (), channel.conversed suite [message] rest) := by
  have replies : Message.replies [message] = [reply] := by simp [Message.replies, replied]
  have sealable := ready.sealable_first
  have taken := ready.taken_first
  have framed : channel.answers suite [message] =
      frame (sealedBody suite channel.sender.key (channel.sender.counter.toNat + 1) reply.encode) := by
    simp [answers, frameAll, replies, wire_cons]
  rw [replies, List.length_singleton] at sealable
  have more : channel.sender.counter ≠ Cipher.lastCounter := by
    rw [Cipher.ne_lastCounter_iff]
    omega
  have sent : (channel.received suite rest).sendFrame suite reply.encode =
      { channel.received suite rest with sender := channel.sender.advanced }.transmit
        (frame (sealedBody suite channel.sender.key (channel.sender.counter.toNat + 1) reply.encode)) :=
    sendFrame_of_fits ready.usable (encode_fits reply) more
  rw [← framed] at sent
  rw [Channel.send, sent, conversed, replies]
  exact transmit_of_whole taken

/-- Where there is no reply, the conversation is over with the receipt. -/
theorem received_eq (ready : channel.IsReadyFor suite policy (message :: rest))
    (silent : message.reply? = none) :
    channel.received suite rest = channel.conversed suite [message] rest := by
  have replies : Message.replies [message] = [] := by simp [Message.replies, silent]
  have nothing : channel.answers suite [message] = [] := by simp [answers, frameAll, replies]
  have taken := ready.taken_first
  have written := Stream.write_of_takes taken
  rw [received, conversed, written, replies, nothing]
  simp [withUnread, Stream.withUnread, Cipher.advancedBy_one]

/-- If the conversation goes on, the channel is ready for the other messages. -/
theorem later (ready : channel.IsReadyFor suite policy (message :: rest))
    (goesOn : policy.goesOnAfter message = true) :
    (channel.conversed suite [message] rest).IsReadyFor suite policy rest := by
  have receivable := ready.receivable
  have sealable := ready.sealable
  have taken := ready.taken
  have read : (channel.receiver.advancedBy 1).counter.toNat = channel.receiver.counter.toNat + 1 :=
    Cipher.toNat_advancedBy ready.receivable_first
  have sealed : (channel.sender.advancedBy (Message.replies [message]).length).counter.toNat =
      channel.sender.counter.toNat + (Message.replies [message]).length :=
    Cipher.toNat_advancedBy ready.sealable_first
  rw [Policy.heard_cons_of_goesOn rest goesOn] at sealable taken
  rw [List.length_cons] at receivable
  rw [replies_cons, List.length_append] at sealable
  rw [answers_cons ready.sealable_first rest] at taken
  constructor
  · exact ready.usable
  · exact ready.opened
  · intro later present
    exact ready.valid later (List.mem_cons_of_mem _ present)
  · change _ = frameAll suite channel.receiver.key (channel.receiver.advancedBy 1).counter.toNat rest
    rw [read]
    rfl
  · change (channel.receiver.advancedBy 1).counter.toNat + _ ≤ _
    rw [read]
    omega
  · change (channel.sender.advancedBy _).counter.toNat + _ ≤ _
    rw [sealed]
    omega
  · exact taken.of_append.2

end IsReadyFor

/-- A new channel on which these messages of the peer's are unread. -/
def visitedBy (messages : List Message) : Channel :=
  ofKeys
    { address := "visitor"
      incoming := frameAll Suite.standard (Block.little 32 2) 1 messages }
    ⟨Block.little 32 1, Block.little 32 2⟩

theorem isReadyFor_visitedBy (policy : Policy) (messages : List Message)
    (valid : ∀ message ∈ messages, message.isValid = true) (few : messages.length < 2 ^ 32) :
    (visitedBy messages).IsReadyFor Suite.standard policy messages := by
  have last : Cipher.lastCounter.toNat = 2 ^ 64 - 1 := rfl
  have fresh : (visitedBy messages).sender.counter.toNat = 1 := rfl
  have unused : (visitedBy messages).receiver.counter.toNat = 1 := rfl
  have heard := policy.length_heard_le messages
  have replies : (Message.replies (policy.heard messages)).length ≤ (policy.heard messages).length :=
    List.length_filterMap_le _ _
  constructor
  · rfl
  · rfl
  · exact valid
  · rfl
  · omega
  · omega
  · exact (Stream.takes_iff _ _).mpr (Or.inr ⟨rfl, fun room limited => nomatch limited⟩)

end Channel

/-! ## The turns of the loop -/

namespace Session

variable {suite : Suite} {policy : Policy} {session : Session} {channel : Channel} {message : Message}
  {messages rest : List Message}

/-- What becomes of a session when this message ended its conversation, or none did and the peer is gone. -/
def partedAfter (session : Session) : Option Message → Outcome Session Unit
  | none => (.error (.connection (.ended .endOfFile)), session)
  | some (.greeting _) => (.ok (), { session with state := .disconnecting })
  | some (.response _) => (.error (.protocol (.unwelcome .response)), session)
  | some .disconnect => (.ok (), { session with peerDisconnected := true, state := .disconnecting })

theorem perform_polling_of_ready (lawful : suite.Lawful) (established : session.state = .established)
    (owned : session.transport = .secured channel)
    (ready : channel.IsReadyFor suite policy (message :: rest)) :
    session.perform suite policy .polling =
      (session.withChannel (channel.received suite rest)).perform suite policy (.hearing message) := by
  rw [perform_polling_of_established established, perform_awaitingLength owned, ready.receive lawful, pursue_ok]

/-- The reply that a session owes is sent, and then it looks at its state again. -/
theorem perform_replying_of_ready (ready : channel.IsReadyFor suite policy (message :: rest))
    {reply : Message} (replied : message.reply? = some reply) (state : Lifecycle) :
    ({ session.withChannel (channel.received suite rest) with state } : Session).perform suite policy
        (.replying reply) =
      ({ session.withChannel (channel.conversed suite [message] rest) with state } : Session).perform suite
        policy .polling := by
  have owned : ({ session.withChannel (channel.received suite rest) with state } : Session).transport =
      .secured (channel.received suite rest) := rfl
  rw [perform_replying owned, ready.send replied, pursue_ok]
  rfl

/-- One turn: the conversation goes on, or the message was its last. -/
theorem turn (lawful : suite.Lawful) (established : session.state = .established)
    (owned : session.transport = .secured channel)
    (ready : channel.IsReadyFor suite policy (message :: rest)) :
    session.perform suite policy .polling =
      if policy.goesOnAfter message then
        (session.withChannel (channel.conversed suite [message] rest)).perform suite policy .polling
      else (session.withChannel (channel.conversed suite [message] rest)).partedAfter (some message) := by
  rw [perform_polling_of_ready lawful established owned ready, perform_hearing]
  have handled := handling policy (session.withChannel (channel.received suite rest)) message
  generalize (session.withChannel (channel.received suite rest)).handle policy message = outcome at handled
  cases handled with
  | untimely message left => exact absurd established left
  | unwelcome status _ =>
      have ends : ¬ policy.goesOnAfter (.response status) = true := Bool.false_ne_true
      rw [if_neg ends, ← ready.received_eq rfl]
      rfl
  | answered version _ stays =>
      have goesOn : policy.goesOnAfter (.greeting version) = true := by
        rcases stays with rfl | rfl <;> simp [Policy.goesOnAfter]
      rw [if_pos goesOn]
      exact perform_replying_of_ready ready rfl session.state
  | dismissed version _ unsupported closes =>
      have ends : ¬ policy.goesOnAfter (.greeting version) = true := by
        simp [Policy.goesOnAfter, closes, unsupported]
      rw [if_neg ends]
      refine (perform_replying_of_ready ready rfl .disconnecting).trans ?_
      exact perform_polling_of_ne Lifecycle.noConfusion
  | released _ =>
      have ends : ¬ policy.goesOnAfter .disconnect = true := Bool.false_ne_true
      rw [if_neg ends, ← ready.received_eq rfl]
      exact perform_polling_of_ne Lifecycle.noConfusion

/-- Where nothing is unread, the peer has closed the connection. -/
theorem perform_polling_of_nil (established : session.state = .established)
    (owned : session.transport = .secured channel) (ready : channel.IsReadyFor suite policy []) :
    session.perform suite policy .polling = session.partedAfter none := by
  have nothing : channel.receive suite = (.error (.connection (.ended .endOfFile)), channel) := by
    rw [Channel.receive, Channel.receiveFrame_eq,
      Channel.takeSealed_of_nil ready.usable ready.opened ready.unread]
    rfl
  rw [perform_polling_of_established established, perform_awaitingLength owned, nothing, pursue_error,
    withChannel_of_owned owned]
  rfl

/-- All turns: the messages that are heard decide what is left of the channel, and the last of them how the
session is left. -/
theorem perform_polling_of_isReadyFor (lawful : suite.Lawful) (established : session.state = .established)
    (owned : session.transport = .secured channel) (ready : channel.IsReadyFor suite policy messages) :
    session.perform suite policy .polling =
      (session.withChannel
        (channel.conversed suite (policy.heard messages) (policy.unheard messages))).partedAfter
          (policy.last? messages) := by
  induction messages generalizing session channel with
  | nil =>
      have same : channel.conversed suite (policy.heard []) (policy.unheard []) = channel :=
        Channel.conversed_nil ready.unread
      rw [perform_polling_of_nil established owned ready, same, withChannel_of_owned owned]
      rfl
  | cons message rest ih =>
      rw [turn lawful established owned ready]
      cases goesOn : policy.goesOnAfter message with
      | true =>
          have next : (session.withChannel (channel.conversed suite [message] rest)).perform suite policy .polling =
              ((session.withChannel (channel.conversed suite [message] rest)).withChannel _).partedAfter _ :=
            ih established rfl (ready.later goesOn)
          have taken := ready.taken
          rw [Policy.heard_cons_of_goesOn rest goesOn] at taken
          rw [if_pos rfl, next, Policy.heard_cons_of_goesOn rest goesOn,
            Policy.unheard_cons_of_goesOn rest goesOn, Policy.last?_cons_of_goesOn rest goesOn,
            ← Channel.conversed_conversed ready.receivable_first ready.sealable_first taken]
          rfl
      | false =>
          rw [if_neg Bool.false_ne_true, Policy.heard_cons_of_ends rest goesOn,
            Policy.unheard_cons_of_ends rest goesOn, Policy.last?_cons_of_ends rest goesOn]

/-- A conversation ends with a greeting only if the policy is to close. -/
theorem last?_keepOpen_ne_greeting (messages : List Message) (version : UInt32) :
    Policy.keepOpen.last? messages ≠ some (.greeting version) := by
  intro last
  have ends := List.find?_some last
  exact Bool.false_ne_true ends

/-- An established session that finds frames of the peer's messages unread and its replies taken serves them
as the messages say: it hears them up to the first that ends the conversation, replies to each greeting
among them in order, is left as that last message leaves it, and the frames behind it stay unread. -/
theorem serve_refines_conversation (lawful : suite.Lawful) (established : session.state = .established)
    (owned : session.transport = .secured channel) (ready : channel.IsReadyFor suite policy messages) :
    session.serve suite policy =
        (session.withChannel
          (channel.conversed suite (policy.heard messages) (policy.unheard messages))).partedAfter
            (policy.last? messages) ∧
      policy.heard messages ++ policy.unheard messages = messages ∧
      (channel.conversed suite (policy.heard messages) (policy.unheard messages)).stream.accepted =
        channel.stream.accepted ++
          Channel.frameAll suite channel.sender.key channel.sender.counter.toNat
            (Message.replies (policy.heard messages)) ∧
      (channel.conversed suite (policy.heard messages) (policy.unheard messages)).stream.incoming =
        Channel.frameAll suite channel.receiver.key
          (channel.receiver.counter.toNat + (policy.heard messages).length) (policy.unheard messages) ∧
      (policy = .keepOpen → ∀ version, policy.last? messages ≠ some (.greeting version)) := by
  refine ⟨?_, policy.heard_append_unheard messages, ?_, rfl, ?_⟩
  · rw [serve, perform_starting owned]
    exact perform_polling_of_isReadyFor lawful established owned ready
  · have written := Stream.write_of_takes ready.taken
    rw [Channel.conversed, written]
    rfl
  · rintro rfl version
    exact last?_keepOpen_ne_greeting messages version

/-- A session with a new channel on which these messages of the peer's are unread. -/
def visitedBy (messages : List Message) : Session where
  address := "visitor"
  entropy := {}
  state := .established
  transport := .secured (.visitedBy messages)

/-- A greeting of another version is answered too, and what comes behind it stays unread. -/
theorem serve_refines_conversation_unsupported :
    (visitedBy [.greeting 1, .greeting 2, .disconnect]).serve Suite.standard .close =
        (.ok (), { visitedBy [.greeting 1, .greeting 2, .disconnect] with
          state := .disconnecting
          transport := .secured ((Channel.visitedBy [.greeting 1, .greeting 2, .disconnect]).conversed
            Suite.standard [.greeting 1, .greeting 2] [.disconnect]) }) ∧
      ((Channel.visitedBy [.greeting 1, .greeting 2, .disconnect]).conversed Suite.standard
          [.greeting 1, .greeting 2] [.disconnect]).stream.accepted =
        [] ++ Channel.frameAll Suite.standard (Block.little 32 1) 1
          [.response .ok, .response .unsupported] := by
  have ready := Channel.isReadyFor_visitedBy .close [.greeting 1, .greeting 2, .disconnect]
    (by decide) (by decide)
  have owned : (visitedBy [.greeting 1, .greeting 2, .disconnect]).transport =
      .secured (.visitedBy [.greeting 1, .greeting 2, .disconnect]) := rfl
  obtain ⟨served, _, accepted, _⟩ := serve_refines_conversation Suite.standard_lawful rfl owned ready
  exact ⟨served, accepted⟩

end Session

end Courier
