import Courier.Proofs.Channel.NonceSequence
import Courier.Proofs.Session.Performance
import Courier.Session.Operation

/-!
# What serving does to a session

A session accepts messages and seals payloads; these are its events, in the order
of the steps that they happen at. Whatever a served session meets, what it seals
are replies, it leaves only for `disconnecting`, and the counter of its channel
tells how many payloads were sealed. Each step says so of itself, and the run by
induction.
-/

namespace Courier

/-! ## Transports -/

namespace Transport

def channel? : Transport → Option Channel
  | secured channel => some channel
  | _ => none

/-- The counter that payloads are sealed after; a channel that is still to come begins with one. -/
def counter : Transport → Nat
  | secured channel => channel.sender.counter.toNat
  | _ => 1

theorem payload_of_sealing? {suite : Suite} {transport : Transport} {message : Message}
    {sealing : Channel.Sealing} (made : transport.sealing? suite message = some sealing) :
    sealing.payload = message.encode := by
  cases transport with
  | absent | raw stream => cases made
  | secured channel =>
      have outgoing : (Channel.Operation.send message).outgoing? = some sealing.payload :=
        Channel.Operation.outgoing?_of_sealing? made
      exact (Option.some.inj outgoing).symm

/-- The same transport after so many sealings. -/
structure Used (before : Transport) (count : Nat) (after : Transport) : Prop where
  secured : after.channel?.isSome = before.channel?.isSome
  counter : after.counter = before.counter + count
  kept : ∀ next, after.stream? = some next → ∃ stream, before.stream? = some stream ∧ stream.Keeps next

namespace Used

theorem refl (transport : Transport) : Used transport 0 transport :=
  ⟨rfl, rfl, fun next found => ⟨next, found, .refl next⟩⟩

theorem trans {first second third : Transport} {begun ended : Nat} (former : Used first begun second)
    (latter : Used second ended third) : Used first (begun + ended) third where
  secured := latter.secured.trans former.secured
  counter := by rw [latter.counter, former.counter, Nat.add_assoc]
  kept := by
    intro last found
    obtain ⟨middle, between, later⟩ := latter.kept last found
    obtain ⟨stream, before, earlier⟩ := former.kept middle between
    exact ⟨stream, before, earlier.trans later⟩

theorem of_keeps {before after : Stream} (kept : before.Keeps after) : Used (.raw before) 0 (.raw after) where
  secured := rfl
  counter := rfl
  kept := by
    rintro next found
    cases found
    exact ⟨before, rfl, kept⟩

theorem feed (transport : Transport) (bytes : Octets) :
    Used transport 0 (transport.mapStream fun stream => stream.feed bytes) := by
  cases transport with
  | absent => exact .refl _
  | raw stream => exact of_keeps (.feed stream bytes)
  | secured channel =>
      refine ⟨rfl, rfl, ?_⟩
      rintro next found
      cases found
      exact ⟨channel.stream, rfl, .feed channel.stream bytes⟩

theorem of_silent {before after : Channel} (silent : Channel.Silent before after) :
    Used (.secured before) 0 (.secured after) where
  secured := rfl
  counter := congrArg (fun cipher => cipher.counter.toNat) silent.sender
  kept := by
    rintro next found
    cases found
    exact ⟨before.stream, rfl, silent.kept⟩

/-- A send uses as many nonces as it makes sealings. -/
theorem of_send (suite : Suite) (channel : Channel) (message : Message) :
    Used (.secured channel) ((Transport.secured channel).sealing? suite message).toList.length
      (.secured (channel.send suite message).2) where
  secured := rfl
  counter := by
    have counted := (Channel.counter_after suite channel [.send message]).2
    rw [Channel.sealings, Channel.sealings, List.append_nil] at counted
    exact counted
  kept := by
    rintro next found
    cases found
    exact ⟨channel.stream, rfl, Channel.keeps_sendFrame suite channel message.encode⟩

end Used

end Transport

/-! ## Events -/

namespace Session

/-- What happens to a session that its peer or its owner can tell. -/
inductive Event where
  | established
  | sealed (sealing : Channel.Sealing)
  | heard (message : Message)

namespace Event

def sealing? : Event → Option Channel.Sealing
  | sealed sealing => some sealing
  | _ => none

/-- Whether a disconnect was sealed. -/
def isFarewell : Event → Bool
  | sealed sealing => sealing.payload == Message.disconnect.encode
  | _ => false

end Event

/-- The sealings among events. -/
def sealings (events : List Event) : List Channel.Sealing := events.filterMap Event.sealing?

theorem sealings_append (first second : List Event) :
    sealings (first ++ second) = sealings first ++ sealings second := List.filterMap_append

/-- The event that a message makes, if the session accepts it. -/
def hearing? (policy : Policy) (session : Session) (message : Message) : Option Event :=
  match (session.handle policy message).1 with
  | .ok _ => some (.heard message)
  | .error _ => none

end Session

open Session (Event)

namespace Work

/-- The event at the next step of the work, if there is one. -/
def event? (suite : Suite) (policy : Policy) (work : Work) : Option Event :=
  match work.activity with
  | .hearing message => work.session.hearing? policy message
  | .replying reply => (work.session.transport.sealing? suite reply).map .sealed
  | _ => none

/-- The events until the work ends. -/
def events (suite : Suite) (policy : Policy) (work : Work) : List Event :=
  ((Work.machine suite policy).trail work).filterMap (event? suite policy)

variable {suite : Suite} {policy : Policy} {work : Work}

theorem events_of_result {result : Except Failure Unit} (ended : work.activity.result? = some result) :
    work.events suite policy = [] := by
  rw [events, Machine.trail_of_result ended]
  rfl

theorem events_of_step (unfinished : work.activity.result? = none) :
    work.events suite policy =
      (work.event? suite policy).toList ++ (work.step suite policy).events suite policy := by
  rw [events, Machine.trail_of_step unfinished, List.filterMap_cons]
  cases work.event? suite policy with
  | none => rfl
  | some event => rfl

end Work

namespace Session

/-! ## One step -/

/-- What serving does to a session, by its events. -/
structure Served (before : Session) (events : List Event) (after : Session) : Prop where
  transport : before.transport.Used (sealings events).length after.transport
  state : after.state = before.state ∨ before.state = .established ∧ after.state = .disconnecting
  finished : after.finished = before.finished
  replied : ∀ event ∈ events, event ≠ .established ∧ event.isFarewell = false
  peer : after.peerDisconnected = true ↔ before.peerDisconnected = true ∨ .heard .disconnect ∈ events
  left : .heard .disconnect ∈ events → after.state = .disconnecting

namespace Served

variable {suite : Suite} {policy : Policy} {session : Session}

theorem quiet {transport : Transport} {entropy : Entropy} (used : session.transport.Used 0 transport) :
    Served session [] { session with entropy, transport } where
  transport := used
  state := .inl rfl
  finished := rfl
  replied := List.forall_mem_nil _
  peer := by simp
  left := fun absent => nomatch absent

theorem refl (session : Session) : Served session [] session := quiet (.refl session.transport)

theorem of_silent {before after : Channel} (owned : session.transport = .secured before)
    (silent : Channel.Silent before after) : Served session [] (session.withChannel after) :=
  quiet (owned ▸ Transport.Used.of_silent silent)

theorem trans {first second third : Session} {begun ended : List Event} (former : Served first begun second)
    (latter : Served second ended third) : Served first (begun ++ ended) third where
  transport := by
    rw [sealings_append, List.length_append]
    exact former.transport.trans latter.transport
  state := by
    rcases former.state with same | ⟨established, left⟩
    · rw [← same]
      exact latter.state
    · refine .inr ⟨established, ?_⟩
      rcases latter.state with same | ⟨back, _⟩
      · rw [same, left]
      · rw [left] at back
        cases back
  finished := latter.finished.trans former.finished
  replied := List.forall_mem_append.mpr ⟨former.replied, latter.replied⟩
  peer := by rw [latter.peer, former.peer, List.mem_append, or_assoc]
  left := by
    intro heard
    rcases List.mem_append.mp heard with early | late
    · have left := former.left early
      rcases latter.state with same | ⟨back, _⟩
      · rw [same, left]
      · rw [left] at back
        cases back
    · exact latter.left late

/-- A message is accepted, or nothing changes. -/
theorem handle (policy : Policy) (session : Session) (message : Message) :
    Served session (session.hearing? policy message).toList (session.handle policy message).2 := by
  have handled := handling policy session message
  rw [hearing?]
  generalize session.handle policy message = outcome at handled
  cases handled with
  | untimely message left => exact refl session
  | unwelcome status established => exact refl session
  | answered version established stays =>
      exact ⟨.refl _, .inl rfl, rfl, by simp [Event.isFarewell], by simp, by simp⟩
  | dismissed version established unsupported closes =>
      exact ⟨.refl _, .inr ⟨established, rfl⟩, rfl, by simp [Event.isFarewell], by simp, by simp⟩
  | released established =>
      exact ⟨.refl _, .inr ⟨established, rfl⟩, rfl, by simp [Event.isFarewell], by simp, fun _ => rfl⟩

/-- An answer is sent under the next nonce, or refused before it is sealed. -/
theorem reply (suite : Suite) {channel : Channel} (owned : session.transport = .secured channel)
    (version : UInt32) :
    Served session ((session.transport.sealing? suite (answer version)).map Event.sealed).toList
      (session.withChannel (channel.send suite (answer version)).2) := by
  have used := Transport.Used.of_send suite channel (answer version)
  have other : (answer version).encode ≠ Message.disconnect.encode := by
    intro same
    have length := congrArg List.length same
    simp [answer, Message.encode] at length
  rw [← owned] at used
  cases made : session.transport.sealing? suite (answer version) with
  | none =>
      rw [made] at used
      exact quiet used
  | some sealing =>
      have payload := Transport.payload_of_sealing? made
      rw [made] at used
      exact ⟨used, .inl rfl, rfl, by simp [Event.isFarewell, payload, other], by simp [withChannel], by simp⟩

end Served

end Session

/-- Whether this is a part of serving, in which whatever is sent is an answer. -/
def Activity.Serves : Activity → Prop
  | .checking | .shaking _ | .installing _ => False
  | .replying reply => ∃ version, reply = Session.answer version
  | _ => True

namespace Work

variable {suite : Suite} {policy : Policy} {work : Work}

open Session (Served)

theorem served_onChannel {events : List Event} {next : Channel → Work}
    (nothing : (∀ channel, work.session.transport ≠ .secured channel) → events = [])
    (goesOn : ∀ channel, work.session.transport = .secured channel →
      Served work.session events (next channel).session ∧ (next channel).activity.Serves) :
    Served work.session events (work.onChannel next).session ∧ (work.onChannel next).activity.Serves := by
  unfold onChannel
  split
  · rename_i channel owned
    exact goesOn channel owned
  · rename_i missing
    rw [nothing missing]
    exact ⟨.refl _, trivial⟩

theorem served_resume {events : List Event} {Result : Type} {outcome : Outcome Channel Result}
    {next : Result → Activity} (served : Served work.session events (work.session.withChannel outcome.2))
    (serves : ∀ result, (next result).Serves) :
    Served work.session events (work.resume outcome next).session ∧ (work.resume outcome next).activity.Serves := by
  obtain ⟨result, channel⟩ := outcome
  cases result with
  | error failure => exact ⟨served, trivial⟩
  | ok result => exact ⟨served, serves result⟩

theorem served_hear (policy : Policy) (session : Session) (message : Message) :
    Served session (session.hearing? policy message).toList
        ((⟨.hearing message, session⟩ : Work).hear policy message).session ∧
      ((⟨.hearing message, session⟩ : Work).hear policy message).activity.Serves := by
  have served := Served.handle policy session message
  have handled := Session.handling policy session message
  unfold hear
  simp only
  generalize session.handle policy message = outcome at handled served
  cases handled with
  | untimely message left => exact ⟨served, trivial⟩
  | unwelcome status established => exact ⟨served, trivial⟩
  | answered version established stays => exact ⟨served, version, rfl⟩
  | dismissed version established unsupported closes => exact ⟨served, version, rfl⟩
  | released established => exact ⟨served, trivial⟩

/-- Every step of serving does what its event says, and is followed by another step of serving. -/
theorem served_step (suite : Suite) (policy : Policy) (work : Work) (serves : work.activity.Serves) :
    Served work.session (work.event? suite policy).toList (work.step suite policy).session ∧
      (work.step suite policy).activity.Serves := by
  obtain ⟨activity, session⟩ := work
  cases activity with
  | checking | shaking stage | installing keys => exact serves.elim
  | starting => exact served_onChannel (fun _ => rfl) fun channel owned => ⟨.refl _, trivial⟩
  | polling =>
      unfold step
      simp only
      split <;> exact ⟨.refl _, trivial⟩
  | awaitingLength =>
      refine served_onChannel (fun _ => rfl) fun channel owned => ?_
      unfold readLength
      split
      · exact ⟨.refl _, trivial⟩
      · exact ⟨.of_silent owned (Channel.Silent.receiving.read channel _), trivial⟩
  | measuring reading =>
      exact served_onChannel (fun _ => rfl) fun channel owned =>
        served_resume (.of_silent owned (Channel.Silent.receiving.judgeLength channel reading)) fun _ => trivial
  | awaitingBody length =>
      exact served_onChannel (fun _ => rfl) fun channel owned =>
        ⟨.of_silent owned (Channel.Silent.receiving.read channel _), trivial⟩
  | opening length reading =>
      exact served_onChannel (fun _ => rfl) fun channel owned =>
        served_resume (.of_silent owned (Channel.Silent.receiving.openFrame suite channel length reading))
          fun _ => trivial
  | hearing message => exact served_hear policy session message
  | replying reply =>
      obtain ⟨version, rfl⟩ := serves
      refine served_onChannel ?_ fun channel owned => served_resume (.reply suite owned version) fun _ => trivial
      intro missing
      cases owned : session.transport with
      | absent | raw stream => simp [event?, owned, Transport.sealing?]
      | secured channel => exact absurd owned (missing channel)
  | ended result => exact ⟨.refl _, trivial⟩

/-- All of serving does what its events say. -/
theorem served_conclude (suite : Suite) (policy : Policy) (work : Work) (serves : work.activity.Serves) :
    Served work.session (work.events suite policy) (work.conclude suite policy).2 := by
  induction work using (Work.machine suite policy).run_induction with
  | ended work result found =>
      have ended : work.activity.result? = some result := found
      obtain ⟨activity, session⟩ := work
      cases activity <;> cases ended
      rw [events_of_result rfl, conclude, Session.perform_ended]
      exact .refl session
  | step work unfinished ih =>
      have going : work.activity.result? = none := unfinished
      obtain ⟨now, later⟩ := served_step suite policy work serves
      rw [events_of_step going, conclude, Session.perform_of_step going]
      exact now.trans (ih later)

end Work

end Courier
