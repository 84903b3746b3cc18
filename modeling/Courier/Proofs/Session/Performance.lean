import Courier.Proofs.Channel.Framing
import Courier.Proofs.Machine
import Courier.Session.Activity

/-!
# Activities without a pause

Performed to its end, an activity comes to what its steps come to. The five steps
that take a message off the stream are one `receive`, and what follows is
`handle` and, for a reply, one `send`. The handshake of a session is the handshake
on its stream, and makes a channel of it.
-/

namespace Courier

theorem Outcome.andThen_assoc {State First Second Third : Type} (outcome : Outcome State First)
    (second : First → State → Outcome State Second) (third : Second → State → Outcome State Third) :
    (outcome.andThen second).andThen third =
      outcome.andThen fun result state => (second result state).andThen third := by
  obtain ⟨result, state⟩ := outcome
  cases result <;> rfl

/-- Does the work to its end. -/
def Work.conclude (suite : Suite) (policy : Policy) (work : Work) : Outcome Session Unit :=
  work.session.perform suite policy work.activity

namespace Session

variable {suite : Suite} {policy : Policy} {session : Session} {channel : Channel}

theorem withChannel_of_owned (owned : session.transport = .secured channel) :
    session.withChannel channel = session := by
  rw [withChannel, ← owned]

/-- Goes on with the result of an operation on the channel, or ends with its failure. -/
def pursue {Result : Type} (suite : Suite) (policy : Policy) (session : Session)
    (outcome : Outcome Channel Result) (next : Result → Activity) : Outcome Session Unit :=
  match outcome with
  | (.error failure, channel) => (.error failure, session.withChannel channel)
  | (.ok result, channel) => (session.withChannel channel).perform suite policy (next result)

@[simp] theorem pursue_error {Result : Type} (failure : Failure) (channel : Channel) (next : Result → Activity) :
    session.pursue suite policy (.error failure, channel) next =
      (.error failure, session.withChannel channel) := rfl

@[simp] theorem pursue_ok {Result : Type} (result : Result) (channel : Channel) (next : Result → Activity) :
    session.pursue suite policy (.ok result, channel) next =
      (session.withChannel channel).perform suite policy (next result) := rfl

/-- Two operations after each other are pursued like the one that they make up. -/
theorem pursue_andThen {First Second : Type} {outcome : Outcome Channel First}
    {second : First → Channel → Outcome Channel Second} {middle : First → Activity}
    {last : Second → Activity}
    (goesOn : ∀ result channel, (session.withChannel channel).perform suite policy (middle result) =
      session.pursue suite policy (second result channel) last) :
    session.pursue suite policy outcome middle =
      session.pursue suite policy (outcome.andThen second) last := by
  obtain ⟨result, state⟩ := outcome
  cases result with
  | error failure => rfl
  | ok result => exact goesOn result state

/-! ## Single steps -/

theorem perform_of_step {activity : Activity} (unfinished : activity.result? = none) :
    session.perform suite policy activity =
      ((⟨activity, session⟩ : Work).step suite policy).conclude suite policy := by
  have next : (Work.machine suite policy).run ⟨activity, session⟩ =
      (Work.machine suite policy).run ((⟨activity, session⟩ : Work).step suite policy) :=
    Machine.run_of_step unfinished
  rw [perform, next]
  rfl

@[simp] theorem perform_ended (result : Except Failure Unit) :
    session.perform suite policy (.ended result) = (result, session) := by
  have ran : (Work.machine suite policy).run ⟨.ended result, session⟩ = (result, ⟨.ended result, session⟩) :=
    Machine.run_of_result rfl
  rw [perform, ran]

theorem conclude_onChannel {work : Work} (owned : work.session.transport = .secured channel)
    (next : Channel → Work) :
    (work.onChannel next).conclude suite policy = (next channel).conclude suite policy := by
  rw [Work.onChannel, owned]

/-- Where a step is an operation on the channel, its result is pursued. -/
theorem conclude_resume {Result : Type} (work : Work) (outcome : Outcome Channel Result)
    (next : Result → Activity) :
    (work.resume outcome next).conclude suite policy = work.session.pursue suite policy outcome next := by
  obtain ⟨result, state⟩ := outcome
  cases result with
  | error failure => exact perform_ended _
  | ok result => rfl

/-! ## Messages -/

theorem perform_starting (owned : session.transport = .secured channel) :
    session.perform suite policy .starting = session.perform suite policy .polling := by
  rw [perform_of_step rfl]
  exact conclude_onChannel owned _

theorem perform_polling_of_established (established : session.state = .established) :
    session.perform suite policy .polling = session.perform suite policy .awaitingLength := by
  rw [perform_of_step rfl, Work.step, if_pos established]
  rfl

theorem perform_polling_of_ne (left : session.state ≠ .established) :
    session.perform suite policy .polling = (.ok (), session) := by
  rw [perform_of_step rfl, Work.step, if_neg left]
  exact perform_ended _

theorem perform_opening (owned : session.transport = .secured channel) (length : Nat)
    (reading : Except Nat (Block length)) :
    session.perform suite policy (.opening length reading) =
      session.pursue suite policy (Work.openFrame suite channel length reading) .hearing := by
  rw [perform_of_step rfl]
  exact (conclude_onChannel owned _).trans (conclude_resume _ _ _)

theorem perform_awaitingBody (owned : session.transport = .secured channel) (length : Nat) :
    session.perform suite policy (.awaitingBody length) =
      session.pursue suite policy
        (((channel.takeBody length).andThen fun body channel => channel.openBody suite body).andThen
          fun payload channel => channel.interpret payload) .hearing := by
  rw [perform_of_step rfl]
  have read : (session.withChannel { channel with stream := (channel.stream.read length).2 }).transport =
      .secured { channel with stream := (channel.stream.read length).2 } := rfl
  exact (conclude_onChannel owned _).trans (perform_opening read length _)

theorem perform_measuring (owned : session.transport = .secured channel)
    (reading : Except Nat (Block Channel.lengthSize)) :
    session.perform suite policy (.measuring reading) =
      session.pursue suite policy (channel.judgeLength reading) .awaitingBody := by
  rw [perform_of_step rfl]
  exact (conclude_onChannel owned _).trans (conclude_resume _ _ _)

/-- The steps that take the length of a frame off the stream. -/
theorem perform_takeLength (owned : session.transport = .secured channel) :
    session.perform suite policy .awaitingLength =
      session.pursue suite policy channel.takeLength .awaitingBody := by
  rw [perform_of_step rfl]
  refine (conclude_onChannel owned _).trans ?_
  rw [Work.readLength, Channel.takeLength]
  split
  · rw [pursue_error, withChannel_of_owned owned]
    exact perform_ended _
  · have read : (session.withChannel
        { channel with stream := (channel.stream.read Channel.lengthSize).2 }).transport =
        .secured { channel with stream := (channel.stream.read Channel.lengthSize).2 } := rfl
    exact perform_measuring read _

/-- The steps that take a message off the stream are one receipt. -/
theorem perform_awaitingLength (owned : session.transport = .secured channel) :
    session.perform suite policy .awaitingLength =
      session.pursue suite policy (channel.receive suite) .hearing := by
  have body (length : Nat) (channel : Channel) :
      (session.withChannel channel).perform suite policy (.awaitingBody length) =
        (session.withChannel channel).pursue suite policy _ .hearing := perform_awaitingBody rfl length
  rw [perform_takeLength owned, Channel.receive, Channel.receiveFrame]
  simp only [Outcome.andThen_assoc] at body ⊢
  exact pursue_andThen body

theorem perform_hearing (message : Message) :
    session.perform suite policy (.hearing message) =
      match session.handle policy message with
      | (.error failure, session) => (.error failure, session)
      | (.ok none, session) => session.perform suite policy .polling
      | (.ok (some reply), session) => session.perform suite policy (.replying reply) := by
  rw [perform_of_step rfl]
  change ((⟨.hearing message, session⟩ : Work).hear policy message).conclude suite policy = _
  rw [Work.hear]
  rcases session.handle policy message with ⟨_ | _ | reply, after⟩
  · exact perform_ended _
  · rfl
  · rfl

theorem perform_replying (owned : session.transport = .secured channel) (reply : Message) :
    session.perform suite policy (.replying reply) =
      session.pursue suite policy (channel.send suite reply) fun _ => .polling := by
  rw [perform_of_step rfl]
  exact (conclude_onChannel owned _).trans (conclude_resume _ _ _)

/-- What handling a message comes to: it is not the time for it or not its place, or the session stays as it
is, or it leaves, for a version that it does not support or because the peer does. -/
inductive Handling (policy : Policy) (session : Session) : Message → Outcome Session (Option Message) → Prop where
  | untimely (message : Message) (left : session.state ≠ .established) :
      Handling policy session message
        (.error (.protocol (.received message.kind session.state)), session)
  | unwelcome (status : Status) (established : session.state = .established) :
      Handling policy session (.response status) (.error (.protocol (.unwelcome .response)), session)
  | answered (version : UInt32) (established : session.state = .established)
      (stays : policy = .keepOpen ∨ version = protocolVersion) :
      Handling policy session (.greeting version) (.ok (some (answer version)), session)
  | dismissed (version : UInt32) (established : session.state = .established)
      (unsupported : version ≠ protocolVersion) (closes : policy = .close) :
      Handling policy session (.greeting version)
        (.ok (some (answer version)), { session with state := .disconnecting })
  | released (established : session.state = .established) :
      Handling policy session .disconnect
        (.ok none, { session with peerDisconnected := true, state := .disconnecting })

theorem handling (policy : Policy) (session : Session) (message : Message) :
    Handling policy session message (session.handle policy message) := by
  unfold handle
  by_cases established : session.state = .established
  · rw [if_neg (not_not_intro established)]
    have advanced : session.state.advance .disconnecting = .disconnecting := by rw [established]; rfl
    cases message with
    | greeting version =>
        simp only
        by_cases leaving : version ≠ protocolVersion ∧ policy = .close
        · rw [if_pos leaving, advanced]
          exact .dismissed version established leaving.1 leaving.2
        · rw [if_neg leaving]
          refine .answered version established ?_
          cases policy with
          | keepOpen => exact Or.inl rfl
          | close => exact Or.inr (Decidable.not_not.mp fun other => leaving ⟨other, rfl⟩)
    | response status => exact .unwelcome status established
    | disconnect =>
        rw [advanced]
        exact .released established
  · rw [if_pos established]
    exact .untimely message established

end Session

/-! ## The handshake -/

/-- The session when this is its part in the handshake. -/
def Session.withParty (session : Session) (party : Handshake.Party) : Session :=
  { session with entropy := party.entropy, transport := .raw party.stream }

/-- The parts of establishing, and its end. -/
inductive Activity.Shakes : Activity → Prop where
  | checking : Shakes .checking
  | shaking (stage : Handshake.Stage) : Shakes (.shaking stage)
  | installing (keys : ChannelKeys) : Shakes (.installing keys)
  | ended (result : Except Failure Unit) : Shakes (.ended result)

namespace Work

/-- What a step of establishing comes to: it fails, or the handshake begins, goes on or has come to keys, or
the session is established. -/
inductive Shaken (suite : Suite) (work : Work) : Work → Prop where
  | failed (error : HandshakeError) (unfinished : work.activity.result? = none) :
      Shaken suite work (work.finish (.error (.handshake error)))
  | begun (place : work.activity = .checking) : Shaken suite work { work with activity := .shaking .greeting }
  | stepped (party : Handshake.Party) (place : work.activity = .shaking party.stage)
      (part : work.session = work.session.withParty party) (unfinished : party.stage.result? = none) :
      Shaken suite work
        ⟨.shaking (party.step suite).stage, work.session.withParty (party.step suite)⟩
  | agreed (stage : Handshake.Stage) (keys : ChannelKeys) (place : work.activity = .shaking stage) :
      Shaken suite work { work with activity := .installing keys }
  | established (stream : Stream) (keys : ChannelKeys) (place : work.activity = .installing keys)
      (possible : work.session.state.canBecome .established = true) :
      Shaken suite work ⟨.ended (.ok ()), { work.session with
        state := .established
        transport := .secured (Channel.ofKeys stream keys) }⟩
  | ended (result : Except Failure Unit) (place : work.activity = .ended result) : Shaken suite work work

theorem shaken (suite : Suite) (policy : Policy) {work : Work} (shakes : work.activity.Shakes) :
    Shaken suite work (work.step suite policy) := by
  obtain ⟨activity, session⟩ := work
  cases shakes with
  | checking =>
      unfold step
      simp only
      split
      · exact .begun rfl
      · exact .failed _ rfl
  | shaking stage =>
      change Shaken suite _ ((⟨.shaking stage, session⟩ : Work).shake suite stage)
      unfold shake
      split
      · exact .failed _ rfl
      · exact .agreed stage _ rfl
      · rename_i stream unfinished owned
        exact .stepped ⟨stage, session.entropy, stream⟩ rfl (by rw [Session.withParty, ← owned]) unfinished
      · exact .failed _ rfl
  | installing keys =>
      change Shaken suite _ ((⟨.installing keys, session⟩ : Work).install keys)
      unfold install
      split
      · split
        · rename_i stream owned possible
          exact .established stream keys rfl possible
        · exact .failed _ rfl
      · exact .failed _ rfl
  | ended result => exact .ended result rfl

theorem shakes_step (suite : Suite) (policy : Policy) {work : Work} (shakes : work.activity.Shakes) :
    (work.step suite policy).activity.Shakes := by
  have shaken := shaken suite policy shakes
  generalize work.step suite policy = next at shaken ⊢
  cases shaken with
  | failed error => exact .ended _
  | begun => exact .shaking _
  | stepped party => exact .shaking _
  | agreed stage keys => exact .installing keys
  | established stream keys => exact .ended _
  | ended result place => exact shakes

end Work

namespace Session

section Handshake

variable {suite : Suite} {policy : Policy} {session : Session} {stream : Stream}

/-- A step of the handshake is a step of the party that the session is in it. -/
theorem step_shaking (session : Session) {party : Handshake.Party} (unfinished : party.stage.result? = none) :
    (⟨.shaking party.stage, session.withParty party⟩ : Work).step suite policy =
      ⟨.shaking (party.step suite).stage, session.withParty (party.step suite)⟩ := by
  change (⟨.shaking party.stage, session.withParty party⟩ : Work).shake suite party.stage = _
  simp only [Work.shake, unfinished]
  rfl

theorem perform_shaking (party : Handshake.Party) :
    (session.withParty party).perform suite policy (.shaking party.stage) =
      match (Handshake.machine suite).run party with
      | (.ok keys, party) => (session.withParty party).perform suite policy (.installing keys)
      | (.error error, party) => (.error (.handshake error), session.withParty party) := by
  induction party using (Handshake.machine suite).run_induction with
  | ended party result found =>
      have finished : party.stage.result? = some result := found
      rw [Machine.run_of_result found, perform_of_step rfl]
      change ((⟨_, session.withParty party⟩ : Work).shake suite party.stage).conclude suite policy = _
      cases result with
      | error error =>
          simp only [Work.shake, finished]
          exact perform_ended _
      | ok keys =>
          simp only [Work.shake, finished]
          rfl
  | step party unfinished ih =>
      have going : party.stage.result? = none := unfinished
      rw [Machine.run_of_step unfinished, ← ih, perform_of_step rfl, step_shaking session going]
      rfl

theorem perform_installing (owned : session.transport = .raw stream) (connecting : session.state = .connecting)
    (keys : ChannelKeys) :
    session.perform suite policy (.installing keys) =
      (.ok (), { session with
        state := .established
        transport := .secured (Channel.ofKeys stream keys) }) := by
  have possible : session.state.canBecome .established = true := by rw [connecting]; rfl
  rw [perform_of_step rfl]
  change ((⟨_, session⟩ : Work).install keys).conclude suite policy = _
  simp only [Work.install, owned, if_pos possible]
  exact perform_ended _

/-- Establishing a session that awaits its handshake is the handshake on its stream. -/
theorem establish_of_connecting (owned : session.transport = .raw stream)
    (connecting : session.state = .connecting) :
    session.establish suite =
      match Handshake.perform suite session.entropy stream with
      | (.ok keys, party) =>
          (.ok (), { session with
            entropy := party.entropy
            state := .established
            transport := .secured (Channel.ofKeys party.stream keys) })
      | (.error error, party) => (.error (.handshake error), session.withParty party) := by
  have awaits : session.awaitsHandshake = true := by
    simp only [awaitsHandshake, owned, connecting, beq_self_eq_true]
  have begun : session.withParty ⟨.greeting, session.entropy, stream⟩ = session := by
    rw [withParty, ← owned]
  have shaken : (session.withParty ⟨.greeting, session.entropy, stream⟩).perform suite .keepOpen
      (.shaking .greeting) = _ := perform_shaking ⟨.greeting, session.entropy, stream⟩
  rw [begun] at shaken
  rw [establish, perform_of_step rfl, Work.step, if_pos awaits]
  refine shaken.trans ?_
  rw [Handshake.perform]
  split
  · rename_i keys party _
    have owned : (session.withParty party).transport = .raw party.stream := rfl
    exact perform_installing owned connecting keys
  · rfl

/-- Any other session refuses. -/
theorem establish_of_not_awaitsHandshake (refused : session.awaitsHandshake = false) :
    session.establish suite = (.error (.handshake (.notAwaiting session.address)), session) := by
  rw [establish, perform_of_step rfl, Work.step, if_neg (Bool.not_eq_true _ ▸ refused)]
  exact perform_ended _

end Handshake

/-! ## Closing -/

/-- A close that is not announced closes the stream and no more. -/
theorem close_of_unannounced (suite : Suite) {session : Session}
    (unannounced : announces session.state session.peerDisconnected = false) :
    session.close suite = { session with state := .closed }.hangUp := by
  simp [close, unannounced]

end Session

end Courier
