import Courier.Proofs.Dialogue.Step
import Courier.Proofs.Handshake.Outstanding
import Courier.Proofs.Session.Serving

/-!
# Dialogues end

However a client and a handler step, and in whatever pieces the connection brings
over what they write, a dialogue has only so many steps. A step of either side
brings that side closer to its end, and it writes at most one message, or one part
of the handshake; what is written is brought over once, and there every byte can
keep the handler busy for two more steps.
-/

namespace Courier

variable {suite : Suite}

/-! ## What one step writes -/

/-- The most bytes that one step writes. -/
def mostWritten : Nat := 64

theorem Stream.length_accepted_write_le (stream : Stream) (data : Octets) :
    (stream.write data).2.2.accepted.length ≤ stream.accepted.length + data.length := by
  simp only [write, List.length_append, List.length_take]
  omega

namespace Channel

theorem length_frame_encode_le (lawful : suite.Lawful) (key : Gcm.Key) (counter : Nat) (message : Message) :
    (frame (sealedBody suite key counter message.encode)).length ≤ mostWritten := by
  rw [length_frame, length_sealedBody lawful]
  cases message <;> simp [Message.encode, lengthSize, Gcm.tagSize, mostWritten]

theorem length_accepted_transmit_le (channel : Channel) (framed : Octets) :
    (channel.transmit framed).2.stream.accepted.length ≤ channel.stream.accepted.length + framed.length := by
  rw [snd_transmit]
  exact channel.stream.length_accepted_write_le framed

theorem length_accepted_send_le (lawful : suite.Lawful) (channel : Channel) (message : Message) :
    (channel.send suite message).2.stream.accepted.length ≤ channel.stream.accepted.length + mostWritten := by
  have sealing := preparation suite channel message.encode
  rw [send, sendFrame]
  generalize channel.prepare suite message.encode = prepared at sealing
  cases sealing with
  | poisoned | oversize | exhausted => exact Nat.le_add_right _ _
  | framed usable fits more =>
      exact Nat.le_trans (length_accepted_transmit_le _ _)
        (Nat.add_le_add_left (length_frame_encode_le lawful _ _ message) _)

end Channel

namespace Handshake.Party

theorem length_outstanding_le (suite : Suite) (party : Party) : (party.outstanding suite).length ≤ mostWritten := by
  have salt : ((party.entropy.salts.head?.map Subtype.val).getD []).length ≤ 32 := by
    cases party.entropy.salts.head? with
    | none => exact Nat.zero_le _
    | some salt => exact Nat.le_of_eq salt.property
  have key : ((party.entropy.privateKeys.head?.map fun own => (suite.publicKey own).val).getD []).length ≤ 32 := by
    cases party.entropy.privateKeys.head? with
    | none => exact Nat.zero_le _
    | some own => exact Nat.le_of_eq (suite.publicKey own).property
  unfold outstanding Stage.outstanding
  split
  · rw [List.length_append]
    exact Nat.add_le_add key salt
  · exact Nat.le_trans salt (by decide)
  · exact Nat.le_trans salt (by decide)
  · exact Nat.zero_le _
  · exact Nat.zero_le _
  · exact Nat.zero_le _

theorem length_accepted_step_le (suite : Suite) (party : Party) :
    (party.step suite).stream.accepted.length ≤ party.stream.accepted.length + mostWritten := by
  obtain ⟨written, accepted, due⟩ := (advance_step suite party).written
  have bound := due.length_le
  have most := party.length_outstanding_le suite
  rw [List.length_append] at bound
  rw [accepted, List.length_append]
  omega

end Handshake.Party

namespace Session

/-- How many of the bytes that the session has written are still under way. -/
def underWay (session : Session) : Nat :=
  (session.transport.stream?.map fun stream => stream.accepted.length).getD 0

theorem underWay_of_owned {session : Session} {channel : Channel} (owned : session.transport = .secured channel) :
    session.underWay = channel.stream.accepted.length := by
  rw [underWay, owned]
  rfl

theorem underWay_hangUp (session : Session) : session.hangUp.2.underWay = session.underWay := by
  cases owned : session.transport with
  | absent => rw [hangUp, owned]
  | raw stream =>
      have same := congrArg List.length stream.accepted_close
      rw [hangUp, owned]
      simp only
      split <;> rename_i closed <;> rw [closed] at same <;> simpa [underWay, owned, Transport.stream?] using same
  | secured channel =>
      rw [hangUp, owned, underWay_of_owned owned, ← (Channel.Silent.close channel).accepted]
      rfl

theorem underWay_sendDisconnect_le (lawful : suite.Lawful) (session : Session) :
    (session.sendDisconnect suite).underWay ≤ session.underWay + mostWritten := by
  unfold sendDisconnect
  split
  · rename_i channel owned
    rw [underWay_of_owned owned]
    exact channel.length_accepted_send_le lawful .disconnect
  · exact Nat.le_add_right _ _

theorem underWay_close_le (lawful : suite.Lawful) (session : Session) :
    (session.close suite).2.underWay ≤ session.underWay + mostWritten := by
  unfold close
  simp only
  rw [underWay_hangUp]
  split
  · exact underWay_sendDisconnect_le lawful { session with state := session.state.advance .closed }
  · exact Nat.le_add_right _ _

theorem underWay_handle (policy : Policy) (session : Session) (message : Message) :
    (session.handle policy message).2.underWay = session.underWay := by
  have handled := handling policy session message
  generalize session.handle policy message = outcome at handled
  cases handled <;> rfl

end Session

namespace Work

variable {work : Work}

theorem underWay_onChannel_le {next : Channel → Work}
    (goesOn : ∀ channel, work.session.transport = .secured channel →
      (next channel).session.underWay ≤ channel.stream.accepted.length + mostWritten) :
    (work.onChannel next).session.underWay ≤ work.session.underWay + mostWritten := by
  unfold onChannel
  split
  · rename_i channel owned
    rw [Session.underWay_of_owned owned]
    exact goesOn channel owned
  · exact Nat.le_add_right _ _

theorem underWay_resume {Result : Type} (work : Work) (outcome : Outcome Channel Result) (next : Result → Activity) :
    (work.resume outcome next).session.underWay = outcome.2.stream.accepted.length := by
  obtain ⟨failure | result, channel⟩ := outcome <;> rfl

theorem underWay_step_le (lawful : suite.Lawful) (policy : Policy) (work : Work) :
    (work.step suite policy).session.underWay ≤ work.session.underWay + mostWritten := by
  have silent {before after : Channel} (silent : Channel.Silent before after) :
      after.stream.accepted.length ≤ before.stream.accepted.length + mostWritten := by
    rw [silent.accepted]
    exact Nat.le_add_right _ _
  obtain ⟨activity, session⟩ := work
  cases activity with
  | checking | polling =>
      unfold step
      simp only
      split <;> exact Nat.le_add_right _ _
  | shaking stage =>
      change ((⟨.shaking stage, session⟩ : Work).shake suite stage).session.underWay ≤ _
      unfold shake
      split
      · exact Nat.le_add_right _ _
      · exact Nat.le_add_right _ _
      · rename_i stream unfinished owned
        have owned : session.transport = .raw stream := owned
        have most := Handshake.Party.length_accepted_step_le suite ⟨stage, session.entropy, stream⟩
        simpa [Session.underWay, Transport.stream?, owned] using most
      · exact Nat.le_add_right _ _
  | installing keys =>
      change ((⟨.installing keys, session⟩ : Work).install keys).session.underWay ≤ _
      unfold install
      split
      · rename_i stream owned
        have owned : session.transport = .raw stream := owned
        split
        · simp [Session.underWay, Transport.stream?, owned, Channel.ofKeys]
        · exact Nat.le_add_right _ _
      · exact Nat.le_add_right _ _
  | starting =>
      refine underWay_onChannel_le fun channel owned => ?_
      rw [← Session.underWay_of_owned owned]
      exact Nat.le_add_right _ _
  | awaitingLength =>
      refine underWay_onChannel_le fun channel owned => ?_
      unfold readLength
      split
      · rw [← Session.underWay_of_owned owned]
        exact Nat.le_add_right _ _
      · exact silent (Channel.Silent.receiving.read channel _)
  | measuring reading =>
      refine underWay_onChannel_le fun channel owned => ?_
      rw [underWay_resume]
      exact silent (Channel.Silent.receiving.judgeLength channel reading)
  | awaitingBody length =>
      exact underWay_onChannel_le fun channel owned => silent (Channel.Silent.receiving.read channel _)
  | opening length reading =>
      refine underWay_onChannel_le fun channel owned => ?_
      rw [underWay_resume]
      exact silent (Channel.Silent.receiving.openFrame suite channel length reading)
  | hearing message =>
      have same := session.underWay_handle policy message
      change ((⟨.hearing message, session⟩ : Work).hear policy message).session.underWay ≤ _
      unfold hear
      split <;> rename_i heard <;> rw [heard] at same <;> rw [same] <;> exact Nat.le_add_right _ _
  | replying reply =>
      refine underWay_onChannel_le fun channel owned => ?_
      rw [underWay_resume]
      exact channel.length_accepted_send_le lawful reply
  | ended result => exact Nat.le_add_right _ _

end Work

namespace Handler

theorem underWay_step_le (lawful : suite.Lawful) (policy : Policy) (handler : Handler) :
    (handler.step suite policy).session.underWay ≤ handler.session.underWay + mostWritten := by
  obtain ⟨session, phase⟩ := handler
  cases phase with
  | establishing activity =>
      change (establish suite policy ⟨session, _⟩ activity).session.underWay ≤ _
      unfold establish
      split
      · exact Nat.le_add_right _ _
      · exact Nat.le_add_right _ _
      · exact Work.underWay_step_le lawful policy ⟨activity, session⟩
  | serving activity =>
      change (serve suite policy ⟨session, _⟩ activity).session.underWay ≤ _
      unfold serve
      split
      · exact Nat.le_add_right _ _
      · exact Work.underWay_step_le lawful policy ⟨activity, session⟩
  | closing =>
      have written := session.underWay_close_le lawful
      rcases closed : session.close suite with ⟨_ | _, after⟩ <;> simpa only [step, closed] using written
  | marking => cases marked : session.finished <;> simp [step, Session.markFinished, marked, Session.underWay]
  | removing | retired | fallen => exact Nat.le_add_right _ _

end Handler

namespace Client

variable {client : Client}

/-- How many of the bytes that the client has written are still under way. -/
def underWay (client : Client) : Nat := client.channel.stream.accepted.length

theorem underWay_send_le (lawful : suite.Lawful) (client : Client) (message : Message) :
    (client.send suite message).2.underWay ≤ client.underWay + mostWritten := by
  unfold send
  split
  · exact Nat.le_add_right _ _
  · exact client.channel.length_accepted_send_le lawful message

theorem underWay_closed (client : Client) :
    (client.withChannel client.channel.close).2.underWay = client.underWay :=
  congrArg List.length (Channel.Silent.close client.channel).accepted

theorem underWay_andThen {First Second : Type} {outcome : Outcome Client First}
    {next : First → Client → Outcome Client Second}
    (same : ∀ result client, (next result client).2.underWay = client.underWay) :
    (outcome.andThen next).2.underWay = outcome.2.underWay := by
  obtain ⟨failure | result, client⟩ := outcome
  · rfl
  · exact same result client

theorem underWay_leave (client : Client) : client.leave.2.underWay = client.underWay := by
  have same := underWay_closed { client with state := .disconnecting }
  unfold leave
  split
  · split <;> rename_i closed <;> rw [closed] at same <;> exact same
  · rfl

theorem underWay_heed (client : Client) (message : Message) :
    (client.heed message).2.underWay = client.underWay := by
  cases message with
  | disconnect => exact (underWay_andThen fun _ _ => rfl).trans client.underWay_leave
  | greeting | response => rfl

theorem underWay_receiveBody (suite : Suite) (client : Client) (length : Nat) :
    (client.receiveBody suite length).2.underWay = client.underWay := by
  have silent : Channel.Silent client.channel
      (((client.channel.takeBody length).andThen fun body channel => channel.openBody suite body).andThen
        fun payload channel => channel.interpret payload).2 :=
    (Channel.Silent.receiving.read client.channel length).trans
      (Channel.Silent.receiving.openFrame suite _ length _)
  refine (underWay_andThen fun message client => client.underWay_heed message).trans ?_
  exact congrArg List.length silent.accepted

theorem underWay_conclude (client : Client) (delivered : Bool) :
    (client.conclude delivered).2.underWay = client.underWay :=
  (underWay_andThen fun _ _ => rfl).trans client.underWay_closed

theorem underWay_judgeAnswer (client : Client) (message : Message) :
    (client.judgeAnswer message).2.underWay = client.underWay := by
  cases message <;> rfl

namespace Calling

theorem underWay_giveBack (greeted : Bool) (outcome : Outcome Client Message) :
    (giveBack greeted outcome).client.underWay = outcome.2.underWay := by
  cases greeted with
  | false => rfl
  | true => exact underWay_andThen fun message client => client.underWay_judgeAnswer message

theorem underWay_listen (client : Client) (greeted : Bool) :
    (listen client greeted).client.underWay = client.underWay := by
  have silent := Channel.Silent.receiving.takeLength client.channel
  unfold listen
  split
  · exact underWay_giveBack greeted _
  · split <;> rename_i taken <;> rw [taken] at silent
    · exact (underWay_giveBack greeted _).trans (congrArg List.length silent.accepted)
    · exact congrArg List.length silent.accepted

theorem underWay_announce_le (client : Client) (framed : Octets) :
    (announce client framed).client.underWay ≤ client.underWay + framed.length := by
  unfold announce
  split
  · have written := client.channel.length_accepted_transmit_le framed
    split <;> rename_i sent <;> rw [sent] at written <;> exact written
  · rename_i waits
    have closed := client.underWay_closed
    rw [Client.announce, if_neg fun writable => waits writable.1]
    generalize client.withChannel client.channel.close = outcome at closed
    obtain ⟨failure | _, shut⟩ := outcome
    · exact Nat.le_trans (Nat.le_of_eq closed) (Nat.le_add_right _ _)
    · exact closed ▸ shut.channel.length_accepted_transmit_le framed

theorem underWay_leave_le (lawful : suite.Lawful) (client : Client) :
    (leave suite client).client.underWay ≤ client.underWay + mostWritten := by
  unfold leave
  split
  · have sealing := Channel.preparation suite client.channel Message.disconnect.encode
    simp only
    generalize client.channel.prepare suite Message.disconnect.encode = prepared at sealing
    cases sealing with
    | poisoned | oversize | exhausted =>
        simp only
        split <;> exact Nat.le_add_right _ _
    | framed usable fits more =>
        exact Nat.le_trans (underWay_announce_le _ _)
          (Nat.add_le_add_left (Channel.length_frame_encode_le lawful _ _ .disconnect) _)
  · rename_i elsewhere
    rw [Client.close, if_neg elsewhere]
    refine Nat.le_trans (Nat.le_of_eq ?_) (Nat.le_add_right _ _)
    exact (underWay_andThen fun _ _ => rfl).trans
      (underWay_closed { client with state := client.state.advance .closed })

theorem underWay_step_le (lawful : suite.Lawful) (calling : Calling) :
    (calling.step suite).client.underWay ≤ calling.client.underWay + mostWritten := by
  unfold step
  split
  · have sent := underWay_send_le lawful calling.client (.greeting ‹UInt32›)
    unfold ask
    split <;> rename_i outcome <;> rw [outcome] at sent <;> exact sent
  · exact underWay_send_le lawful calling.client _
  · rw [underWay_listen]
    exact Nat.le_add_right _ _
  · rw [underWay_giveBack, underWay_receiveBody]
    exact Nat.le_add_right _ _
  · exact underWay_leave_le lawful calling.client
  · rename_i delivered _
    exact Nat.le_trans (Nat.le_of_eq (calling.client.underWay_conclude delivered)) (Nat.le_add_right _ _)
  · exact Nat.le_add_right _ _

theorem unfinished_of_ready {calling : Calling} (ready : calling.ready = true) :
    calling.stage.result? = none := by
  obtain ⟨stage, client⟩ := calling
  cases stage <;> first | rfl | cases ready

end Calling

namespace Caller

/-- A bound on the steps of the calls that have not returned. -/
def weight (caller : Caller) : Nat := ((caller.stage?).map Stage.rank).getD 0 + 4 * caller.calls.length

theorem rank_start_le (call : Call) : (Stage.start call).rank ≤ 3 := by
  cases call <;> simp [Stage.start, Stage.rank]

/-- The weight is that of the call that is under way or comes next, and of those behind it. -/
theorem rank_le_weight {caller : Caller} {calling : Calling} {calls : List Call}
    (current : caller.current? = some (calling, calls)) :
    calling.client = caller.client ∧ calling.stage.rank + 4 * calls.length ≤ caller.weight := by
  obtain ⟨client, _ | stage, calls, returns⟩ := caller
  · cases calls with
    | nil => cases current
    | cons call rest =>
        cases current
        refine ⟨rfl, ?_⟩
        have bound := rank_start_le call
        simp only [weight, Option.map_none, Option.getD_none, List.length_cons]
        omega
  · cases current
    exact ⟨rfl, Nat.le_refl _⟩

theorem weight_step (lawful : suite.Lawful) {caller : Caller} (ready : caller.ready = true) :
    (caller.step suite).weight < caller.weight ∧
      (caller.step suite).client.underWay ≤ caller.client.underWay + mostWritten := by
  cases current : caller.current? with
  | none => simp [Caller.ready, current] at ready
  | some pair =>
      obtain ⟨calling, calls⟩ := pair
      have able : calling.ready = true := by simpa [Caller.ready, current] using ready
      obtain ⟨same, before⟩ := rank_le_weight current
      have falls := calling.rank_step suite (Calling.unfinished_of_ready able)
      have written := calling.underWay_step_le lawful
      rw [same] at written
      simp only [step, current]
      split <;> rename_i stepped <;> rw [stepped] at falls written
      · refine ⟨?_, written⟩
        change 0 + 4 * calls.length < caller.weight
        omega
      · rename_i stage client _
        refine ⟨?_, written⟩
        change stage.rank + 4 * calls.length < caller.weight
        change stage.rank < calling.stage.rank at falls
        omega

end Caller

end Client

/-! ## What one step takes away -/

namespace Handler

/-- Every byte that arrives is good for two more steps. -/
theorem weight_withStream_le {handler : Handler} {far : Stream}
    (owned : handler.session.transport.stream? = some far) (after : Stream)
    (more : far.incoming.length ≤ after.incoming.length) :
    (handler.withStream after).weight ≤
      handler.weight + 2 * (after.incoming.length - far.incoming.length) := by
  have before : handler.session.unread = far.incoming.length := by rw [Session.unread, owned]; rfl
  have afterwards : (handler.withStream after).session.unread = after.incoming.length := by
    rw [Session.unread, stream?_withStream owned]
    rfl
  obtain ⟨session, phase⟩ := handler
  cases phase with
  | establishing activity | serving activity =>
      simp only [weight, withStream, Work.weight] at before afterwards ⊢
      omega
  | closing | marking | removing | retired | fallen => exact Nat.le_add_right _ _

end Handler

namespace Dialogue

variable {dialogue next : Dialogue} {handler : Handler} {action : Action}

/-- What is still to be told of the other end's closing. -/
def untold (stream : Stream) : Nat := if stream.ended then 0 else 1

theorem untold_le (stream : Stream) : untold stream ≤ 1 := by
  unfold untold
  split <;> decide

/-- What a handler weighs, and what it has written that is under way. -/
def handlerWeight (handler : Handler) : Nat :=
  (mostWritten + 2) * handler.weight + handler.session.underWay +
    (handler.session.transport.stream?.map untold).getD 0

/-- What a client weighs, and what it has written that is under way: a byte of the client's is good for two
steps of the handler, of which each may write. -/
def callerWeight (caller : Client.Caller) : Nat :=
  (3 * (mostWritten + 2) * mostWritten + 2) * caller.weight + 3 * (mostWritten + 2) * caller.client.underWay +
    untold caller.client.channel.stream

/-- A bound on the steps of a dialogue. -/
def weight (dialogue : Dialogue) : Nat :=
  callerWeight dialogue.caller + (dialogue.handler?.map handlerWeight).getD 0

theorem callerWeight_step_lt (lawful : suite.Lawful) {caller : Client.Caller} (ready : caller.ready = true) :
    callerWeight (caller.step suite) < callerWeight caller := by
  obtain ⟨falls, written⟩ := Client.Caller.weight_step lawful ready
  have told := untold_le (caller.step suite).client.channel.stream
  simp only [callerWeight, mostWritten] at written ⊢
  omega

theorem handlerWeight_step_lt (lawful : suite.Lawful) (policy : Policy) (ready : handler.ready = true) :
    handlerWeight (handler.step suite policy) < handlerWeight handler := by
  have falls := handler.weight_step suite policy ready
  have written := handler.underWay_step_le lawful policy
  have told : ((handler.step suite policy).session.transport.stream?.map untold).getD 0 ≤ 1 := by
    cases (handler.step suite policy).session.transport.stream? with
    | none => exact Nat.zero_le 1
    | some stream => exact untold_le stream
  simp only [handlerWeight, mostWritten] at written ⊢
  omega

theorem handlerWeight_of_owned {stream : Stream} (owned : handler.session.transport.stream? = some stream) :
    handlerWeight handler = (mostWritten + 2) * handler.weight + stream.accepted.length + untold stream := by
  simp only [handlerWeight, Session.underWay, owned, Option.map_some, Option.getD_some]

/-- What a client weighs whose stream is this one. -/
theorem callerWeight_withStreams (dialogue : Dialogue) (near far : Stream) :
    callerWeight (dialogue.withStreams near far).caller =
      (3 * (mostWritten + 2) * mostWritten + 2) * dialogue.caller.weight +
        3 * (mostWritten + 2) * near.accepted.length + untold near := rfl

theorem untold_hangUp_lt {stream : Stream} (news : stream.ended = false) : untold stream.hangUp < untold stream := by
  have told : untold stream.hangUp = 0 := rfl
  have still : untold stream = 1 := by rw [untold, news]; rfl
  omega

/-- What comes over to the handler leaves room for the steps that it is good for. -/
theorem weight_passesForth_lt {far nearAfter farAfter : Stream}
    (owned : handler.session.transport.stream? = some far)
    (passed : dialogue.near.Passed far nearAfter farAfter) :
    callerWeight (dialogue.withStreams nearAfter farAfter).caller + handlerWeight (handler.withStream farAfter) <
      callerWeight dialogue.caller + handlerWeight handler := by
  have now : callerWeight dialogue.caller = _ := callerWeight_withStreams dialogue dialogue.near far
  rw [callerWeight_withStreams, now, handlerWeight_of_owned owned,
    handlerWeight_of_owned (Handler.stream?_withStream owned farAfter)]
  cases passed with
  | bytes front rest something underWay =>
      have bound := Handler.weight_withStream_le owned (far.feed front) (by simp [Stream.feed])
      have positive : 0 < front.length := List.length_pos_iff.mpr something
      have told : untold { dialogue.near with accepted := rest } = untold dialogue.near := rfl
      have farTold : untold (far.feed front) = untold far := rfl
      have kept : (far.feed front).accepted = far.accepted := rfl
      simp only [Stream.feed, List.length_append] at bound
      rw [told, farTold, kept, underWay, List.length_append]
      simp only [mostWritten, Stream.feed]
      omega
  | closing closed nothing news =>
      have bound := Handler.weight_withStream_le owned far.hangUp (Nat.le_refl _)
      have told := untold_hangUp_lt news
      have same : far.hangUp.incoming.length - far.incoming.length = 0 := Nat.sub_self _
      have kept : far.hangUp.accepted = far.accepted := rfl
      rw [kept]
      rw [same] at bound
      simp only [mostWritten]
      omega

/-- What comes over to the client is not under way any more. -/
theorem weight_passesBack_lt {far nearAfter farAfter : Stream}
    (owned : handler.session.transport.stream? = some far)
    (passed : far.Passed dialogue.near farAfter nearAfter) :
    callerWeight (dialogue.withStreams nearAfter farAfter).caller + handlerWeight (handler.withStream farAfter) <
      callerWeight dialogue.caller + handlerWeight handler := by
  have unread : farAfter.incoming = far.incoming := by cases passed <;> rfl
  have bound := Handler.weight_withStream_le owned farAfter (Nat.le_of_eq (by rw [unread]))
  rw [unread, Nat.sub_self] at bound
  have now : callerWeight dialogue.caller = _ := callerWeight_withStreams dialogue dialogue.near far
  rw [callerWeight_withStreams, now, handlerWeight_of_owned owned,
    handlerWeight_of_owned (Handler.stream?_withStream owned farAfter)]
  cases passed with
  | bytes front rest something underWay =>
      have positive : 0 < front.length := List.length_pos_iff.mpr something
      have told : untold (dialogue.near.feed front) = untold dialogue.near := rfl
      have farTold : untold { far with accepted := rest } = untold far := rfl
      have kept : (dialogue.near.feed front).accepted = dialogue.near.accepted := rfl
      rw [told, farTold, kept, underWay, List.length_append]
      simp only [mostWritten] at bound ⊢
      omega
  | closing closed nothing news =>
      have told := untold_hangUp_lt news
      have kept : dialogue.near.hangUp.accepted = dialogue.near.accepted := rfl
      rw [kept]
      simp only [mostWritten] at bound ⊢
      omega

theorem weight_of_handler? (found : dialogue.handler? = some handler) :
    dialogue.weight = callerWeight dialogue.caller + handlerWeight handler := by
  rw [weight, found]
  rfl

/-- Every step brings the end of the dialogue closer. -/
theorem weight_step (lawful : suite.Lawful) (stepped : dialogue.step? suite action = some next) :
    next.weight < dialogue.weight := by
  cases move stepped with
  | calls ready => exact Nat.add_lt_add_right (callerWeight_step_lt lawful ready) _
  | handles handler found ready =>
      rw [weight_of_handler? found, weight_of_handler? (handler?_advance found)]
      exact Nat.add_lt_add_left (handlerWeight_step_lt lawful _ ready) _
  | passesForth handler far near after found owned passed =>
      rw [weight_of_handler? found, weight_of_handler? (handler?_withStreams found near after)]
      exact weight_passesForth_lt owned passed
  | passesBack handler far near after found owned passed =>
      rw [weight_of_handler? found, weight_of_handler? (handler?_withStreams found near after)]
      exact weight_passesBack_lt owned passed

/-- A dialogue ends however its steps are ordered. -/
theorem length_le_weight (lawful : suite.Lawful) {schedule : List Action}
    (ran : dialogue.run? suite schedule = some next) : next.weight + schedule.length ≤ dialogue.weight := by
  induction schedule generalizing dialogue with
  | nil =>
      cases ran
      exact Nat.le_refl _
  | cons action rest ih =>
      obtain ⟨middle, stepped, ran⟩ := Option.bind_eq_some_iff.mp ran
      have falls := weight_step lawful stepped
      have later := ih ran
      rw [List.length_cons]
      omega

/-- Nothing more can happen. -/
def IsStill (suite : Suite) (dialogue : Dialogue) : Prop := ∀ action, dialogue.step? suite action = none

/-- Every dialogue can be taken to where nothing more can happen. -/
theorem exists_isStill (lawful : suite.Lawful) (dialogue : Dialogue) :
    ∃ schedule next, dialogue.run? suite schedule = some next ∧ next.IsStill suite := by
  induction weight : dialogue.weight using Nat.strongRecOn generalizing dialogue with
  | ind bound ih =>
      by_cases still : dialogue.IsStill suite
      · exact ⟨[], dialogue, rfl, still⟩
      · obtain ⟨action, possible⟩ := Classical.not_forall.mp still
        obtain ⟨middle, stepped⟩ := Option.ne_none_iff_exists'.mp possible
        have falls := weight_step lawful stepped
        rw [weight] at falls
        obtain ⟨schedule, next, ran, rests⟩ := ih middle.weight falls middle rfl
        refine ⟨action :: schedule, next, ?_, rests⟩
        rw [run?, List.foldlM_cons, stepped]
        exact ran

end Dialogue

end Courier
