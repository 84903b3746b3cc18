import Courier.Proofs.Session.Conversation
import Courier.Proofs.Session.Parting
import Courier.Session.Standoff

/-!
# Serving and closing under locks

The steps of two threads on one session are listed here, those of sending under the
channel's lock first. One thread alone does what the session does without locks.
-/

namespace Courier

/-! ## What receiving leaves alone -/

namespace Channel

/-- Between these two nothing was sealed, and only what poisoned the channel may have closed the stream. -/
structure Received (before after : Channel) : Prop where
  sender : after.sender = before.sender
  stalled : after.stream.stalled = before.stream.stalled
  ended : after.stream.ended = before.stream.ended
  usable : after.poisoned = false → before.poisoned = false
  closed : after.poisoned = false → after.stream.closed = before.stream.closed

namespace Received

theorem refl (channel : Channel) : Received channel channel := ⟨rfl, rfl, rfl, fun usable => usable, fun _ => rfl⟩

theorem trans {first second third : Channel} (begun : Received first second) (ended : Received second third) :
    Received first third where
  sender := ended.sender.trans begun.sender
  stalled := ended.stalled.trans begun.stalled
  ended := ended.ended.trans begun.ended
  usable := fun usable => begun.usable (ended.usable usable)
  closed := fun usable => (ended.closed usable).trans (begun.closed (ended.usable usable))

theorem fail {Result : Type} (channel : Channel) (error : FrameError) :
    Received channel (channel.fail error : Outcome Channel Result).2 := by
  rw [snd_fail, Channel.close, Stream.close]
  cases channel.stream.failingCloses <;>
    exact ⟨rfl, rfl, rfl, Bool.noConfusion, Bool.noConfusion⟩

theorem read (channel : Channel) (count : Nat) :
    Received channel { channel with stream := (channel.stream.read count).2 } := by
  unfold Stream.read
  simp only
  split <;> exact ⟨rfl, rfl, rfl, fun usable => usable, fun _ => rfl⟩

theorem receiving : Receiving Received :=
  ⟨refl, trans, read, fun _ _ => ⟨rfl, rfl, rfl, fun usable => usable, fun _ => rfl⟩, fail⟩

end Received

end Channel

/-! ## Sending under a lock -/

namespace Session

namespace Sending

variable {suite : Suite} {thread : Thread} {channel : Channel} {owner : Option Thread} {message : Message}

/-- What the next step of sending is. -/
inductive Progress (thread : Thread) (channel : Channel) (owner : Option Thread) :
    Sending → Sending × Channel × Option Thread → Prop where
  | taken (message : Message) (free : owner = none) :
      Progress thread channel owner (waiting message) (sealing message, channel, some thread)
  | refused (message : Message) (failure : Failure)
      (why : channel.poisoned = true ∨ channel.sender.counter = Cipher.lastCounter) :
      Progress thread channel owner (sealing message) (sent (.error failure), channel, none)
  | sealed (message : Message) (framed : Octets) :
      Progress thread channel owner (sealing message)
        (writing framed, { channel with sender := channel.sender.advanced }, owner)
  | written (framed : Octets) (result : Except Failure Unit) (writable : channel.stream.writable = true) :
      Progress thread channel owner (writing framed)
        (sent result, { channel with stream := (channel.stream.write framed).2.2 }, none)

theorem progress {sending : Sending} {next : Sending × Channel × Option Thread}
    (stepped : sending.step? suite thread channel owner = some next) :
    Progress thread channel owner sending next := by
  cases sending with
  | waiting message =>
      rw [step?, Option.ite_none_right_eq_some] at stepped
      obtain ⟨free, same⟩ := stepped
      cases same
      exact .taken message free
  | sealing message =>
      have sealing := Channel.preparation suite channel message.encode
      rw [step?] at stepped
      generalize channel.prepare suite message.encode = prepared at sealing stepped
      cases sealing with
      | poisoned poisoned =>
          cases stepped
          exact .refused message _ (.inl poisoned)
      | oversize usable oversize => exact absurd (Channel.encode_fits message) oversize
      | exhausted usable fits exhausted =>
          cases stepped
          exact .refused message _ (.inr exhausted)
      | framed usable fits more =>
          cases stepped
          exact .sealed message _
  | writing framed =>
      rw [step?, Option.ite_none_right_eq_some] at stepped
      obtain ⟨writable, same⟩ := stepped
      cases same
      rw [Channel.snd_transmit]
      exact .written framed _ writable
  | sent result => cases stepped

end Sending

/-! ## The two threads -/

namespace Standoff

variable {suite : Suite} {policy : Policy} {standoff next : Standoff} {channel after : Channel} {thread : Thread}

/-- What the next step of a thread that sends is: it begins, goes on or has done. -/
inductive Sends (channel : Channel) (standoff : Standoff) (thread : Thread) (message : Message)
    (next : Except Failure Unit → Standoff) : Standoff → Prop where
  | begun (nothing : standoff.sending thread = none) :
      Sends channel standoff thread message next
        { standoff with sending := Function.update standoff.sending thread (some (.waiting message)) }
  | progressed (sending sent : Sending) (after : Channel) (owner : Option Thread)
      (sends : standoff.sending thread = some sending)
      (progress : sending.Progress thread channel standoff.sendOwner (sent, after, owner)) :
      Sends channel standoff thread message next
        { standoff with
          session := standoff.session.withChannel after
          sending := Function.update standoff.sending thread (some sent)
          sendOwner := owner }
  | done (result : Except Failure Unit) (sent : standoff.sending thread = some (.sent result)) :
      Sends channel standoff thread message next
        { next result with sending := Function.update standoff.sending thread none }

theorem sends_of_send? {message : Message} {follow : Except Failure Unit → Standoff}
    (owned : standoff.session.transport = .secured channel)
    (stepped : standoff.send? suite thread message follow = some next) :
    Sends channel standoff thread message follow next := by
  rw [send?, owned] at stepped
  cases sends : standoff.sending thread with
  | none =>
      rw [sends] at stepped
      cases stepped
      exact .begun sends
  | some sending =>
      rw [sends] at stepped
      cases sending with
      | sent result =>
          cases stepped
          exact .done result sends
      | waiting message | sealing message | writing framed =>
          simp only [Option.map_eq_some_iff] at stepped
          obtain ⟨⟨sent, after, owner⟩, progressed, rfl⟩ := stepped
          exact .progressed _ sent after owner sends (Sending.progress progressed)

theorem run_append (suite : Suite) (policy : Policy) (standoff : Standoff) (first second : List Move) :
    standoff.run suite policy (first ++ second) =
      (standoff.run suite policy first).run suite policy second := by
  induction first generalizing standoff with
  | nil => rfl
  | cons move rest ih => exact ih _

/-! ## One thread alone -/

section Alone

variable {session : Session} {sealed : Channel} {framed : Octets} {message : Message}

theorem writable_of_prepare (writable : channel.stream.writable = true)
    (prepared : channel.prepare suite message.encode = (.ok framed, sealed)) :
    sealed.stream.writable = true := by
  have kept := channel.stream_prepare suite message.encode
  rw [prepared] at kept
  rw [kept, writable]

/-- Without the other thread, and where writes return, the steps of closing are a close. -/
theorem run_closer (suite : Suite) (policy : Policy) (owned : session.transport = .secured channel)
    (writable : channel.stream.writable = true) :
    (({ session } : Standoff).run suite policy (List.replicate 10 (.step .closer))).shutting =
        .ended (session.close suite).1 ∧
      (({ session } : Standoff).run suite policy (List.replicate 10 (.step .closer))).session =
        (session.close suite).2 := by
  cases announced : announces session.state session.peerDisconnected with
  | false => simp [List.replicate, run, move, step?, shut?, Session.close, announced, owned]
  | true =>
      rcases prepared : channel.prepare suite Message.disconnect.encode with ⟨failure | framed, sealed⟩
      · simp [List.replicate, run, move, step?, shut?, send?, Sending.step?, Session.close,
          sendDisconnect, Channel.send, Channel.sendFrame, announced, owned, prepared, withChannel]
      · have still := writable_of_prepare writable prepared
        simp [List.replicate, run, move, step?, shut?, send?, Sending.step?, Session.close,
          sendDisconnect, Channel.send, Channel.sendFrame, announced, owned, prepared, withChannel, still]

/-- Without the other thread, and where writes return, the steps of replying are one step of the work. -/
theorem run_replying (suite : Suite) (policy : Policy) (owned : session.transport = .secured channel)
    (writable : channel.stream.writable = true) (reply : Message) :
    (({ session, serving := .replying reply } : Standoff).run suite policy
        (List.replicate 5 (.step .handler))).serving =
        (({ session, serving := .replying reply } : Standoff).worked suite policy).serving ∧
      (({ session, serving := .replying reply } : Standoff).run suite policy
        (List.replicate 5 (.step .handler))).session =
        (({ session, serving := .replying reply } : Standoff).worked suite policy).session := by
  rcases prepared : channel.prepare suite reply.encode with ⟨failure | framed, sealed⟩
  · simp [List.replicate, run, move, step?, serve?, send?, Sending.step?, worked, Work.step,
      Work.onChannel, Work.resume, Channel.send, Channel.sendFrame, owned, prepared, withChannel]
  · have still := writable_of_prepare writable prepared
    rcases written : sealed.transmit framed with ⟨failure | done, taken⟩ <;>
      simp [List.replicate, run, move, step?, serve?, send?, Sending.step?, worked, Work.step,
        Work.onChannel, Work.resume, Channel.send, Channel.sendFrame, owned, prepared, withChannel, still, written]

end Alone

/-! ## Courses of one thread -/

/-- Where the next step of serving sends nothing and returns, it is one step of the work. -/
theorem move_handler (suite : Suite) (policy : Policy) (silent : ∀ reply, standoff.serving ≠ .replying reply)
    (returns : standoff.mayWork = true) :
    standoff.move suite policy (.step .handler) = standoff.worked suite policy := by
  rw [move, step?]
  unfold serve?
  split
  · rename_i result place
    simp only [worked, place]
    cases standoff
    cases place
    rfl
  · rename_i reply place
    exact absurd place (silent reply)
  · rw [if_pos returns]
    rfl

/-- The same with the thread that serves at another place, which leaves this channel. -/
def served (standoff : Standoff) (channel : Channel) (serving : Activity) : Standoff :=
  { standoff with session := standoff.session.withChannel channel, serving }

/-- Two steps of serving take the length of a frame. -/
theorem run_takeLength (suite : Suite) (policy : Policy) (standoff : Standoff) {length : Nat}
    (ended : channel.stream.ended = true) (taken : channel.takeLength = (.ok length, after)) :
    (standoff.served channel .awaitingLength).run suite policy [.step .handler, .step .handler] =
      standoff.served after (.awaitingBody length) := by
  obtain ⟨stream, sender, receiver, poisoned⟩ := channel
  cases poisoned with
  | true => cases taken
  | false =>
      have judged : ({ stream := (stream.read Channel.lengthSize).2, sender, receiver } : Channel).judgeLength
          (stream.read Channel.lengthSize).1 = (.ok length, after) := taken
      have reads : (standoff.served ⟨stream, sender, receiver, false⟩ .awaitingLength).move suite policy
          (.step .handler) =
            standoff.served ⟨(stream.read Channel.lengthSize).2, sender, receiver, false⟩
              (.measuring (stream.read Channel.lengthSize).1) := by
        refine move_handler suite policy (fun reply => Activity.noConfusion) ?_
        change stream.readable Channel.lengthSize = true
        rw [Stream.readable, show stream.ended = true from ended, Bool.or_true, Bool.true_or]
      have judges : (standoff.served ⟨(stream.read Channel.lengthSize).2, sender, receiver, false⟩
          (.measuring (stream.read Channel.lengthSize).1)).move suite policy (.step .handler) =
            standoff.served after (.awaitingBody length) := by
        refine (move_handler suite policy (fun reply => Activity.noConfusion) rfl).trans ?_
        simp [served, withChannel, worked, Work.step, Work.onChannel, Work.resume, judged]
      rw [run, reads, run, judges, run]

/-- Two more open it. -/
theorem run_openFrame (suite : Suite) (policy : Policy) (standoff : Standoff) {length : Nat} {message : Message}
    (ended : channel.stream.ended = true)
    (opened : Work.openFrame suite { channel with stream := (channel.stream.read length).2 } length
      (channel.stream.read length).1 = (.ok message, after)) :
    (standoff.served channel (.awaitingBody length)).run suite policy [.step .handler, .step .handler] =
      standoff.served after (.hearing message) := by
  have reads : (standoff.served channel (.awaitingBody length)).move suite policy (.step .handler) =
      standoff.served { channel with stream := (channel.stream.read length).2 }
        (.opening length (channel.stream.read length).1) := by
    refine move_handler suite policy (fun reply => Activity.noConfusion) ?_
    change channel.stream.readable length = true
    rw [Stream.readable, ended, Bool.or_true, Bool.true_or]
  have opens : (standoff.served { channel with stream := (channel.stream.read length).2 }
      (.opening length (channel.stream.read length).1)).move suite policy (.step .handler) =
        standoff.served after (.hearing message) := by
    refine (move_handler suite policy (fun reply => Activity.noConfusion) rfl).trans ?_
    simp [served, withChannel, worked, Work.step, Work.onChannel, Work.resume, opened]
  rw [run, reads, run, opens, run]

/-- The steps of serving that take a message off a stream of which nothing more is to come are one receipt. -/
theorem run_receive (suite : Suite) (policy : Policy) (standoff : Standoff) {message : Message}
    (ended : channel.stream.ended = true) (received : channel.receive suite = (.ok message, after)) :
    (standoff.served channel .awaitingLength).run suite policy (List.replicate 4 (.step .handler)) =
      standoff.served after (.hearing message) := by
  obtain ⟨payload, last, frame, interpreted⟩ := Outcome.exists_of_andThen received
  obtain ⟨body, middle, taken, opened⟩ := Outcome.exists_of_andThen frame
  obtain ⟨length, measured, judged, read⟩ := Outcome.exists_of_andThen taken
  have still : measured.stream.ended = true := by
    have kept := Channel.Received.receiving.takeLength channel
    rw [judged] at kept
    exact kept.ended.trans ended
  have whole : Work.openFrame suite { measured with stream := (measured.stream.read length).2 } length
      (measured.stream.read length).1 = (.ok message, after) := by
    have judgement : ({ measured with stream := (measured.stream.read length).2 } : Channel).judgeBody length
        (measured.stream.read length).1 = (.ok body, middle) := read
    rw [Work.openFrame, judgement, Outcome.andThen_ok, opened, Outcome.andThen_ok, interpreted]
  rw [← run_openFrame suite policy standoff still whole, ← run_takeLength suite policy standoff ended judged]
  exact run_append suite policy _ [.step .handler, .step .handler] [.step .handler, .step .handler]

/-- The same with that thread inside the write of a reply. -/
def writing (standoff : Standoff) (channel : Channel) (reply : Message) (framed : Octets) : Standoff :=
  { standoff.served channel (.replying reply) with
    sending := Function.update standoff.sending .handler (some (.writing framed))
    sendOwner := some .handler }

/-- Three steps of the thread that serves take it into the write of its reply. -/
theorem run_reply (suite : Suite) (policy : Policy) {reply : Message} {framed : Octets} {sealed : Channel}
    (silent : standoff.sending .handler = none) (free : standoff.sendOwner = none)
    (prepared : channel.prepare suite reply.encode = (.ok framed, sealed)) :
    (standoff.served channel (.replying reply)).run suite policy (List.replicate 3 (.step .handler)) =
      standoff.writing sealed reply framed := by
  simp [List.replicate, run, move, step?, serve?, send?, Sending.step?, writing, served, withChannel, silent, free,
    prepared]

/-- Five steps of the closer take it into its announcement. -/
theorem run_announce (suite : Suite) (policy : Policy) (owned : standoff.session.transport = .secured channel)
    (established : standoff.session.state = .established) (entering : standoff.shutting = .entering)
    (free : standoff.sessionOwner = none) (silent : standoff.sending .closer = none) :
    standoff.run suite policy (List.replicate 5 (.step .closer)) =
      { standoff with
        session := { standoff.session with state := .closed }
        shutting := .announcing
        sending := Function.update standoff.sending .closer (some (.waiting .disconnect))
        sessionOwner := some .closer } := by
  have announced : announces .established standoff.session.peerDisconnected = true := rfl
  have moved : Lifecycle.established.advance .closed = .closed := rfl
  simp [List.replicate, run, move, step?, shut?, send?, owned, established, entering, free, silent, announced, moved]

/-- Seven steps of serving take an established session from its start to the reply to a greeting. -/
theorem run_greeted (suite : Suite) (policy : Policy) (established : standoff.session.state = .established)
    (free : standoff.sessionOwner = none) (ended : channel.stream.ended = true)
    (received : channel.receive suite = (.ok (.greeting protocolVersion), after)) :
    (standoff.served channel .starting).run suite policy (List.replicate 7 (.step .handler)) =
      standoff.served after (.replying (.response .ok)) := by
  have starts : (standoff.served channel .starting).move suite policy (.step .handler) =
      standoff.served channel .polling := by
    refine (move_handler suite policy (fun reply => Activity.noConfusion) ?_).trans rfl
    simp [mayWork, served, free]
  have polls : (standoff.served channel .polling).move suite policy (.step .handler) =
      standoff.served channel .awaitingLength := by
    refine (move_handler suite policy (fun reply => Activity.noConfusion) rfl).trans ?_
    simp [served, withChannel, worked, Work.step, established]
  have hears : (standoff.served after (.hearing (.greeting protocolVersion))).move suite policy (.step .handler) =
      standoff.served after (.replying (.response .ok)) := by
    refine (move_handler suite policy (fun reply => Activity.noConfusion) rfl).trans ?_
    simp [served, withChannel, worked, Work.step, Work.hear, handle, established, answer]
  have first : List.replicate 7 (Move.step .handler) =
      .step .handler :: .step .handler :: (List.replicate 4 (.step .handler) ++ [.step .handler]) := rfl
  rw [first, run, starts, run, polls, run_append, run_receive suite policy standoff ended received, run, hears, run]

end Standoff

end Session

end Courier
