import Courier.Session

/-!
# What is done on a session, step by step

The thread that serves a session first runs the handshake and then answers
messages. Others may close the session between any two of its steps, so the
work is given by its steps: a read, a write, a look at the state. `establish` and
`serve` are the runs of these steps without a pause; with an alarm, another
party closes the session right after a given number of reads.
-/

namespace Courier

/-- What the thread that serves a session does next. -/
inductive Activity where
  | checking
  | shaking (stage : Handshake.Stage)
  | installing (keys : ChannelKeys)
  | starting
  | polling
  | awaitingLength
  | measuring (reading : Except Nat (Block Channel.lengthSize))
  | awaitingBody (length : Nat)
  | opening (length : Nat) (reading : Except Nat (Block length))
  | hearing (message : Message)
  | replying (reply : Message)
  | ended (result : Except Failure Unit)

namespace Activity

def result? : Activity → Option (Except Failure Unit)
  | ended result => some result
  | _ => none

/-- A bound on the steps until the next read that takes a byte. -/
def rank : Activity → Nat
  | checking => 9
  | shaking stage => stage.remaining + 2
  | installing _ => 1
  | starting => 4
  | polling => 3
  | awaitingLength => 2
  | measuring (.ok _) => 9
  | measuring (.error _) => 1
  | awaitingBody _ => 8
  | opening _ _ => 7
  | hearing _ => 6
  | replying _ => 5
  | ended _ => 0

end Activity

/-- A session and what is done on it. -/
structure Work where
  activity : Activity
  session : Session

namespace Work

def finish (work : Work) (result : Except Failure Unit) : Work := { work with activity := .ended result }

/-- Goes on with the result of an operation on the channel, or ends with its failure. -/
def resume {Result : Type} (work : Work) (outcome : Outcome Channel Result)
    (next : Result → Activity) : Work :=
  match outcome with
  | (.error failure, channel) => ⟨.ended (.error failure), { work.session with transport := .secured channel }⟩
  | (.ok result, channel) => ⟨next result, { work.session with transport := .secured channel }⟩

/-- Does something on the channel; without one, the work ends. -/
def onChannel (work : Work) (next : Channel → Work) : Work :=
  match work.session.transport with
  | .secured channel => next channel
  | _ => work.finish (.error (.protocol (.noChannel work.session.address)))

/-- The next step of the handshake on the stream that the session still owns. -/
def shake (suite : Suite) (work : Work) (stage : Handshake.Stage) : Work :=
  match stage.result?, work.session.transport with
  | some (.error error), _ => work.finish (.error (.handshake error))
  | some (.ok keys), _ => { work with activity := .installing keys }
  | none, .raw stream =>
      match Handshake.Party.step suite ⟨stage, work.session.entropy, stream⟩ with
      | ⟨stage, entropy, stream⟩ => ⟨.shaking stage, { work.session with entropy, transport := .raw stream }⟩
  | none, _ => work.finish (.error (.handshake (.notAwaiting work.session.address)))

/-- Hands the stream over to a channel, unless the session was closed meanwhile. -/
def install (work : Work) (keys : ChannelKeys) : Work :=
  match work.session.transport with
  | .raw stream =>
      if work.session.state.canBecome .established then
        ⟨.ended (.ok ()),
          { work.session with
            state := .established
            transport := .secured (Channel.ofKeys stream keys) }⟩
      else work.finish (.error (.handshake (.closedMeanwhile work.session.address)))
  | _ => work.finish (.error (.handshake (.closedMeanwhile work.session.address)))

/-- Reads the length field of the next frame, unless the channel is unusable. -/
def readLength (work : Work) (channel : Channel) : Work :=
  if channel.poisoned then work.finish (.error (.frame (.unusable channel.address)))
  else
    match channel.stream.read Channel.lengthSize with
    | (reading, stream) =>
        ⟨.measuring reading, { work.session with transport := .secured { channel with stream } }⟩

/-- Reads the sealed payload of a frame. -/
def readBody (work : Work) (channel : Channel) (length : Nat) : Work :=
  match channel.stream.read length with
  | (reading, stream) =>
      ⟨.opening length reading, { work.session with transport := .secured { channel with stream } }⟩

/-- Judges, opens and interprets a sealed payload. -/
def openFrame (suite : Suite) (channel : Channel) (length : Nat) (reading : Except Nat (Block length)) :
    Outcome Channel Message :=
  ((channel.judgeBody length reading).andThen fun body channel => channel.openBody suite body).andThen
    fun payload channel => channel.interpret payload

def hear (work : Work) (policy : Policy) (message : Message) : Work :=
  match work.session.handle policy message with
  | (.error failure, session) => ⟨.ended (.error failure), session⟩
  | (.ok none, session) => ⟨.polling, session⟩
  | (.ok (some reply), session) => ⟨.replying reply, session⟩

/-- The next step of the work; work that has ended stays as it is. -/
def step (suite : Suite) (policy : Policy) (work : Work) : Work :=
  match work.activity with
  | .checking =>
      if work.session.awaitsHandshake then { work with activity := .shaking .greeting }
      else work.finish (.error (.handshake (.notAwaiting work.session.address)))
  | .shaking stage => work.shake suite stage
  | .installing keys => work.install keys
  | .starting => work.onChannel fun _ => { work with activity := .polling }
  | .polling =>
      if work.session.state = .established then { work with activity := .awaitingLength }
      else work.finish (.ok ())
  | .awaitingLength => work.onChannel fun channel => work.readLength channel
  | .measuring reading =>
      work.onChannel fun channel => work.resume (channel.judgeLength reading) .awaitingBody
  | .awaitingBody length => work.onChannel fun channel => work.readBody channel length
  | .opening length reading =>
      work.onChannel fun channel => work.resume (openFrame suite channel length reading) .hearing
  | .hearing message => work.hear policy message
  | .replying reply =>
      work.onChannel fun channel => work.resume (channel.send suite reply) fun _ => .polling
  | .ended _ => work

/-- How many bytes the next step reads, if it reads. -/
def wants (work : Work) : Option Nat :=
  match work.activity, work.session.transport with
  | .shaking stage, .raw _ => stage.wants
  | .awaitingLength, .secured channel => if channel.poisoned then none else some Channel.lengthSize
  | .awaitingBody length, .secured _ => some length
  | _, _ => none

/-- Whether the next step returns at once. -/
def ready (work : Work) : Bool :=
  match work.wants, work.session.transport.stream? with
  | some count, some stream => stream.readable count
  | _, _ => true

def weight (work : Work) : Nat := 2 * work.session.unread + work.activity.rank

theorem unread_secured (session : Session) (channel : Channel) :
    ({ session with transport := .secured channel } : Session).unread = channel.stream.incoming.length := rfl

theorem weight_finish (work : Work) (result : Except Failure Unit) :
    (work.finish result).weight = 2 * work.session.unread := rfl

/-- Going on after an operation that keeps the unread bytes lowers the weight if the rank falls. -/
theorem weight_resume {Result : Type} (work : Work) (channel : Channel)
    (outcome : Outcome Channel Result) (next : Result → Activity)
    (owned : work.session.transport = .secured channel)
    (kept : outcome.2.stream.incoming = channel.stream.incoming)
    (positive : 0 < work.activity.rank)
    (lower : ∀ result channel, outcome = (.ok result, channel) → (next result).rank < work.activity.rank) :
    (work.resume outcome next).weight < work.weight := by
  have before : work.session.unread = channel.stream.incoming.length := by
    simp [Session.unread, owned, Transport.stream?]
  match outcome with
  | (.error failure, after) =>
      have zero : (Activity.ended (.error failure)).rank = 0 := rfl
      simp only [resume, weight, unread_secured, before, zero]
      rw [show after.stream.incoming = channel.stream.incoming from kept]
      omega
  | (.ok result, after) =>
      have falls := lower result after rfl
      simp only [resume, weight, unread_secured, before]
      rw [show after.stream.incoming = channel.stream.incoming from kept]
      omega

theorem weight_onChannel (work : Work) (next : Channel → Work) (positive : 0 < work.activity.rank)
    (lower : ∀ channel, work.session.transport = .secured channel →
      (next channel).weight < work.weight) :
    (work.onChannel next).weight < work.weight := by
  unfold onChannel
  split
  · rename_i channel owned
    exact lower channel owned
  · rw [weight_finish]
    simp only [weight]
    omega

theorem weight_shake (suite : Suite) (work : Work) (stage : Handshake.Stage)
    (place : work.activity = .shaking stage) : (work.shake suite stage).weight < work.weight := by
  unfold shake
  split
  · simp only [weight, finish, place, Activity.rank]
    omega
  · simp only [weight, place, Activity.rank]
    omega
  · rename_i stream unfinished owned
    have falls := Handshake.Party.remaining_step suite ⟨stage, work.session.entropy, stream⟩ unfinished
    have kept := Handshake.Party.length_incoming_step_le suite ⟨stage, work.session.entropy, stream⟩
    have before : work.session.unread = stream.incoming.length := by
      simp [Session.unread, owned, Transport.stream?]
    generalize Handshake.Party.step suite ⟨stage, work.session.entropy, stream⟩ = party at falls kept
    have after : ({ work.session with entropy := party.entropy, transport := .raw party.stream } :
        Session).unread = party.stream.incoming.length := rfl
    simp only [weight, before, after, place, Activity.rank]
    simp only at falls kept
    omega
  · simp only [weight, finish, place, Activity.rank]
    omega

theorem weight_install (work : Work) (keys : ChannelKeys) (place : work.activity = .installing keys) :
    (work.install keys).weight < work.weight := by
  unfold install
  split
  · rename_i stream owned
    split
    · simp [weight, place, Activity.rank, Session.unread, owned, Transport.stream?, Channel.ofKeys]
    · simp [weight, finish, place, Activity.rank]
  · simp [weight, finish, place, Activity.rank]

theorem weight_readLength (work : Work) (channel : Channel) (place : work.activity = .awaitingLength)
    (owned : work.session.transport = .secured channel) :
    (work.readLength channel).weight < work.weight := by
  have before : work.session.unread = channel.stream.incoming.length := by
    simp [Session.unread, owned, Transport.stream?]
  unfold readLength
  split
  · simp [weight, finish, place, Activity.rank]
  · split
    rename_i reading stream taken
    cases reading with
    | error found =>
        have kept := channel.stream.length_incoming_read_le Channel.lengthSize
        rw [taken] at kept
        simp only [weight, unread_secured, before, place, Activity.rank]
        simp only at kept
        omega
    | ok field =>
        have kept := congrArg List.length (Stream.incoming_of_read taken)
        rw [List.length_append, field.property] at kept
        simp only [weight, unread_secured, before, place, Activity.rank]
        simp only [Channel.lengthSize] at kept
        omega

theorem weight_readBody (work : Work) (channel : Channel) (length : Nat)
    (place : work.activity = .awaitingBody length)
    (owned : work.session.transport = .secured channel) :
    (work.readBody channel length).weight < work.weight := by
  have before : work.session.unread = channel.stream.incoming.length := by
    simp [Session.unread, owned, Transport.stream?]
  have kept := channel.stream.length_incoming_read_le length
  unfold readBody
  split
  rename_i reading stream taken
  rw [taken] at kept
  simp only [weight, unread_secured, before, place, Activity.rank]
  simp only at kept
  omega

theorem incoming_openFrame (suite : Suite) (channel : Channel) (length : Nat)
    (reading : Except Nat (Block length)) :
    (openFrame suite channel length reading).2.stream.incoming = channel.stream.incoming := by
  have judged := channel.incoming_judgeBody length reading
  unfold openFrame Outcome.andThen
  split
  · rename_i found
    split at found
    · cases found
      simp_all
    · rename_i opened
      have kept := Channel.incoming_openBody suite (channel.judgeBody length reading).2 ‹Octets›
      simp_all
  · rename_i found
    split at found
    · cases found
    · have kept := Channel.incoming_openBody suite (channel.judgeBody length reading).2 ‹Octets›
      rw [Channel.incoming_interpret]
      simp_all

theorem unread_handle (session : Session) (policy : Policy) (message : Message) :
    (session.handle policy message).2.unread = session.unread := by
  unfold Session.handle
  split
  · rfl
  · split
    · simp only
      split <;> rfl
    · rfl
    · rfl

/-- Every step of work that has not ended brings its end closer. -/
theorem weight_step (suite : Suite) (policy : Policy) (work : Work)
    (unfinished : work.activity.result? = none) : (work.step suite policy).weight < work.weight := by
  unfold step
  split <;> rename_i place
  · split <;> simp [weight, finish, place, Activity.rank, Handshake.Stage.remaining]
  · exact work.weight_shake suite _ place
  · exact work.weight_install _ place
  · refine work.weight_onChannel _ (by rw [place]; decide) fun channel _ => ?_
    simp [weight, place, Activity.rank]
  · split <;> simp [weight, finish, place, Activity.rank]
  · exact work.weight_onChannel _ (by rw [place]; decide) fun channel owned =>
      work.weight_readLength channel place owned
  · rename_i reading
    refine work.weight_onChannel _ ?_ fun channel owned => ?_
    · rw [place]
      cases reading <;> simp [Activity.rank]
    · refine work.weight_resume channel _ _ owned (channel.incoming_judgeLength reading) ?_ ?_
      · rw [place]
        cases reading <;> simp [Activity.rank]
      · intro length after judged
        rw [place]
        cases reading with
        | ok field => simp [Activity.rank]
        | error found =>
            cases found with
            | zero => cases judged
            | succ found =>
                simp only [Channel.judgeLength, Channel.fail, Outcome.andThen] at judged
                split at judged <;> cases judged
  · exact work.weight_onChannel _ (by rw [place]; simp [Activity.rank]) fun channel owned =>
      work.weight_readBody channel _ place owned
  · refine work.weight_onChannel _ (by rw [place]; simp [Activity.rank]) fun channel owned => ?_
    refine work.weight_resume channel _ _ owned (incoming_openFrame suite channel _ _) ?_ ?_
    · rw [place]
      simp [Activity.rank]
    · intro message after _
      rw [place]
      simp [Activity.rank]
  · rename_i message
    have kept := unread_handle work.session policy message
    unfold hear
    split <;> rename_i heard <;> rw [heard] at kept <;>
      simp only [weight, place, Activity.rank] <;> simp only at kept <;> omega
  · refine work.weight_onChannel _ (by rw [place]; simp [Activity.rank]) fun channel owned => ?_
    refine work.weight_resume channel _ _ owned (channel.incoming_sendFrame suite _) ?_ ?_
    · rw [place]
      simp [Activity.rank]
    · intro _ after _
      rw [place]
      simp [Activity.rank]
  · rw [place] at unfinished
    cases unfinished

end Work

/-! ## Alarms -/

/-- Work that another party interrupts: after `readsLeft` more reads it closes the session. -/
structure Work.Alarmed where
  work : Work
  readsLeft : Option Nat

namespace Work.Alarmed

/-- The other party closes the session; if that fails, the work ends with the failure. -/
def ring (suite : Suite) (work : Work) : Work :=
  match work.session.close suite with
  | (.ok (), session) => { work with session }
  | (.error failure, session) => ⟨.ended (.error failure), session⟩

/-- The next step of the work, and the close that is due right after it. -/
def step (suite : Suite) (policy : Policy) (alarmed : Work.Alarmed) : Work.Alarmed :=
  match alarmed.work.wants, alarmed.readsLeft with
  | some _, some 1 => ⟨ring suite (alarmed.work.step suite policy), none⟩
  | some _, some (left + 1) => ⟨alarmed.work.step suite policy, some left⟩
  | _, left => ⟨alarmed.work.step suite policy, left⟩

theorem unread_hangUp (session : Session) : session.hangUp.2.unread = session.unread := by
  unfold Session.hangUp
  split
  · rfl
  · rename_i stream owned
    have kept := stream.incoming_close
    split <;> rename_i closed <;> rw [closed] at kept <;>
      simp_all [Session.unread, Transport.stream?]
  · rename_i channel owned
    have kept := channel.stream.incoming_close
    simp only [Channel.close, Session.unread, owned, Transport.stream?, Option.map_some, Option.getD_some]
    split <;> simp_all

theorem unread_sendDisconnect (suite : Suite) (session : Session) :
    (session.sendDisconnect suite).unread = session.unread := by
  unfold Session.sendDisconnect
  split
  · rename_i channel owned
    have kept := channel.incoming_sendFrame suite Message.disconnect.encode
    simp only [Channel.send, Session.unread, owned, Transport.stream?, Option.map_some, Option.getD_some, kept]
  · rfl

theorem unread_close (suite : Suite) (session : Session) : (session.close suite).2.unread = session.unread := by
  unfold Session.close
  simp only
  rw [unread_hangUp]
  split
  · exact unread_sendDisconnect _ _
  · rfl

theorem weight_ring_le (suite : Suite) (work : Work) : (ring suite work).weight ≤ work.weight := by
  have kept := unread_close suite work.session
  unfold ring
  split <;> rename_i closed <;> rw [closed] at kept <;> simp only at kept <;>
    simp only [weight, Activity.rank, kept] <;> omega

theorem weight_step (suite : Suite) (policy : Policy) (alarmed : Work.Alarmed)
    (unfinished : alarmed.work.activity.result? = none) :
    (alarmed.step suite policy).work.weight < alarmed.work.weight := by
  have falls := alarmed.work.weight_step suite policy unfinished
  unfold step
  split
  · exact Nat.lt_of_le_of_lt (weight_ring_le suite _) falls
  · exact falls
  · exact falls

/-- Interrupted work, step by step. -/
def machine (suite : Suite) (policy : Policy) : Machine Work.Alarmed (Except Failure Unit) where
  result? alarmed := alarmed.work.activity.result?
  step := step suite policy
  weight alarmed := alarmed.work.weight
  weight_step := weight_step suite policy

end Work.Alarmed

/-- The work on a session, step by step. -/
def Work.machine (suite : Suite) (policy : Policy) : Machine Work (Except Failure Unit) where
  result? work := work.activity.result?
  step := Work.step suite policy
  weight := Work.weight
  weight_step := Work.weight_step suite policy

namespace Work

/-! ## Interruptions -/

/-- What may happen to work: it takes its next step, or bytes of the peer's arrive. -/
inductive Happening where
  | step
  | arrival (bytes : Octets)
  deriving DecidableEq

def happen (suite : Suite) (policy : Policy) (work : Work) : Happening → Work
  | .step => work.step suite policy
  | .arrival bytes => { work with session := work.session.feed bytes }

/-- The work after this happened to it. -/
def course (suite : Suite) (policy : Policy) : Work → List Happening → Work
  | work, [] => work
  | work, happening :: rest => course suite policy (work.happen suite policy happening) rest

/-- Another thread closes the session. -/
def interrupted (suite : Suite) (work : Work) : Work := { work with session := (work.session.close suite).2 }

end Work

namespace Session

/-- Does one activity to its end. -/
def perform (suite : Suite) (policy : Policy) (activity : Activity) (session : Session) :
    Outcome Session Unit :=
  match (Work.machine suite policy).run ⟨activity, session⟩ with
  | (result, work) => (result, work.session)

/-- Does one activity to its end while an alarm is set, and tells what is left of the alarm. -/
def performAlarmed (suite : Suite) (policy : Policy) (activity : Activity) (session : Session)
    (readsLeft : Option Nat) : Outcome Session Unit × Option Nat :=
  match (Work.Alarmed.machine suite policy).run ⟨⟨activity, session⟩, readsLeft⟩ with
  | (result, alarmed) => ((result, alarmed.work.session), alarmed.readsLeft)

/-- Runs the handshake and makes a channel of the stream. -/
def establish (suite : Suite) (session : Session) : Outcome Session Unit :=
  session.perform suite .keepOpen .checking

/-- Answers messages until the session is no longer established. -/
def serve (suite : Suite) (policy : Policy) (session : Session) : Outcome Session Unit :=
  session.perform suite policy .starting

end Session

end Courier
