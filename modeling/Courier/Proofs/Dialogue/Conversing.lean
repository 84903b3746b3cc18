import Courier.Proofs.Channel.Delivery
import Courier.Proofs.Dialogue.Measure
import Courier.Proofs.Dialogue.Progress
import Courier.Proofs.Server.Isolation

/-!
# Conversations end to end

However the steps of a client and of the handler at the server are ordered, and in
whatever pieces the connection brings over what they write, a client that greets is
answered as its version deserves, and both sides stay established until one of them
ends the conversation. If the client does, it is closed and the server, which says
nothing more, closes the session and removes it. If the server does, it closes and
removes the session, and a client that takes notice is closed too.
-/

namespace Courier

open Client (Call Return Caller)

/-! ## Handlers -/

/-- A stream whose other end is open, that closes at the first attempt and on which no write waits. -/
structure Stream.IsSteady (stream : Stream) : Prop where
  untold : stream.ended = false
  closable : stream.failingCloses = 0
  prompt : stream.stalled = false

namespace Handler

variable {suite : Suite} {policy : Policy} {handler : Handler}

/-- An established session that nothing has happened to since, and its handler, which is about to read. -/
structure Attends (handler : Handler) (far : Channel) (address : String) : Prop where
  awaits : handler.phase.Awaits
  owned : handler.session.transport = .secured far
  located : handler.session.address = address
  established : handler.session.state = .established
  unfinished : handler.session.finished = false
  own : handler.session.peerDisconnected = false

theorem isRetired_step (suite : Suite) (policy : Policy) (sound : handler.IsSound) :
    (handler.step suite policy).isRetired = (handler.isRemoving || handler.isRetired) := by
  have residents := sound.resident?_step suite policy
  unfold resident? at residents
  cases after : (handler.step suite policy).isRetired <;> cases removing : handler.isRemoving <;>
    cases before : handler.isRetired <;> simp_all

/-- What the connection brings over changes nothing that concerns the registry. -/
theorem IsSound.withStream (sound : handler.IsSound) {far farAfter : Stream}
    (owned : handler.session.transport.stream? = some far) (alike : Stream.Passed.Alike far farAfter) :
    (handler.withStream farAfter).IsSound := by
  have retained : handler.session.Retains (handler.withStream farAfter).session := by
    refine ⟨rfl, rfl, fun stream found => ⟨farAfter, stream?_withStream owned farAfter, ?_, ?_⟩⟩
    · cases owned.symm.trans found
      exact fun closable => alike.failingCloses.trans closable
    · cases owned.symm.trans found
      exact fun closed => alike.closed.trans closed
  exact sound.retained retained (.inl rfl)

end Handler

namespace Dialogue

variable {suite : Suite} {policy : Policy} {ending : Ending} {whole : Prospect} {dialogue next : Dialogue}
  {handler : Handler} {action : Action} {schedule : List Action} {address : String}

/-! ## Every schedule -/

/-- A dialogue that is in one of the scenes of a conversation, with the session registered until its handler
has retired. -/
structure Plays (suite : Suite) (policy : Policy) (ending : Ending) (whole : Prospect) (address : String)
    (dialogue : Dialogue) (handler : Handler) : Prop where
  found : dialogue.handler? = some handler
  served : dialogue.server.policy = policy
  scene : Scene suite policy ending whole dialogue.caller handler
  sound : handler.IsSound
  located : handler.session.address = address
  listed : dialogue.server.registry.has address = !handler.isRetired

namespace Plays

theorem handles (lawful : suite.Lawful) (enough : whole.answers ≤ Cipher.lastCounter.toNat)
    (plays : dialogue.Plays suite policy ending whole address handler) (ready : handler.ready = true) :
    Plays suite policy ending whole address { dialogue with server := dialogue.server.advance suite dialogue.place }
      (handler.step suite policy) where
  found := by rw [handler?_advance plays.found, plays.served]
  served := by
    rw [← plays.served]
    unfold Server.advance
    simp only
    split <;> rfl
  scene := plays.scene.handle lawful enough plays.sound ready
  sound := plays.sound.step suite policy
  located := (handler.caller_step suite policy).trans plays.located
  listed := by
    have there : dialogue.server.handlers[dialogue.place]? = some handler := plays.found
    have here : dialogue.server.isFrom address dialogue.place = true := by
      simp [Server.isFrom, there, Handler.caller, plays.located]
    rw [Server.has_advance, plays.listed, here, there, Handler.isRetired_step suite policy plays.sound,
      Option.any_some]
    cases handler.isRemoving <;> cases handler.isRetired <;> rfl

theorem brings (plays : dialogue.Plays suite policy ending whole address handler) {far nearAfter farAfter : Stream}
    (owned : handler.session.transport.stream? = some far)
    (brought : dialogue.near.Brought far nearAfter farAfter) :
    Plays suite policy ending whole address (dialogue.withStreams nearAfter farAfter)
      (handler.withStream farAfter) where
  found := handler?_withStreams plays.found nearAfter farAfter
  served := plays.served
  scene := plays.scene.brought owned brought
  sound := plays.sound.withStream owned brought.far_alike
  located := plays.located
  listed := plays.listed

/-- Every step leads from scene to scene. -/
theorem step (lawful : suite.Lawful) (asks : whole.asks ≤ Cipher.lastCounter.toNat)
    (answers : whole.answers ≤ Cipher.lastCounter.toNat)
    (plays : dialogue.Plays suite policy ending whole address handler)
    (stepped : dialogue.step? suite action = some next) :
    ∃ after, next.Plays suite policy ending whole address after := by
  cases move stepped with
  | calls ready =>
      exact ⟨handler, plays.found, plays.served, plays.scene.call lawful asks ready, plays.sound, plays.located,
        plays.listed⟩
  | handles other found ready =>
      cases plays.found.symm.trans found
      exact ⟨_, plays.handles lawful answers ready⟩
  | passesForth other far near after found owned passed =>
      cases plays.found.symm.trans found
      exact ⟨_, plays.brings owned (.forth passed)⟩
  | passesBack other far near after found owned passed =>
      cases plays.found.symm.trans found
      exact ⟨_, plays.brings owned (.back passed)⟩

theorem run (lawful : suite.Lawful) (asks : whole.asks ≤ Cipher.lastCounter.toNat)
    (answers : whole.answers ≤ Cipher.lastCounter.toNat)
    (plays : dialogue.Plays suite policy ending whole address handler)
    (ran : dialogue.run? suite schedule = some next) : ∃ after, next.Plays suite policy ending whole address after := by
  induction schedule generalizing dialogue handler with
  | nil =>
      cases ran
      exact ⟨handler, plays⟩
  | cons action rest ih =>
      obtain ⟨middle, stepped, ran⟩ := Option.bind_eq_some_iff.mp ran
      obtain ⟨between, plays⟩ := plays.step lawful asks answers stepped
      exact ih plays ran

end Plays

/-! ## Where a dialogue stands -/

/-- Both sides are established, and the session is registered. -/
structure IsOpen (dialogue : Dialogue) (address : String) : Prop where
  client : dialogue.caller.client.state = .established
  session : ∃ handler, dialogue.handler? = some handler ∧ handler.session.state = .established
  registered : dialogue.server.registry.has address = true

/-- The session is closed with its stream, its handler has retired, and it is off the registry. -/
structure IsOver (dialogue : Dialogue) (address : String) : Prop where
  session : ∃ handler, dialogue.handler? = some handler ∧ handler.isRetired = true ∧ handler.session.IsClosed
  removed : dialogue.server.registry.has address = false

namespace Plays

theorem isOpen (plays : dialogue.Plays suite policy ending whole address handler)
    (unbegun : ending.calls.length ≤ dialogue.caller.calls.length) : dialogue.IsOpen address := by
  obtain ⟨client, session, still⟩ := plays.scene.established_of_unbegun unbegun
  have listed := plays.listed
  rw [still] at listed
  exact ⟨client, ⟨handler, plays.found, session⟩, listed⟩

theorem isOver (plays : dialogue.Plays suite policy ending whole address handler)
    (retired : handler.isRetired = true) : dialogue.IsOver address := by
  have listed := plays.listed
  rw [retired] at listed
  exact ⟨⟨handler, plays.found, retired, plays.sound.isClosed_of_isRetired retired⟩, listed⟩

/-- What was written has been brought over once nothing more can happen, and both sides wait or have ended. -/
theorem last (plays : dialogue.Plays suite policy ending whole address handler) (still : dialogue.IsStill suite) :
    Scene.Last suite whole ending dialogue.caller handler := by
  obtain ⟨far, owned, _⟩ := plays.sound.closable
  have reached : dialogue.far? = some far := (far?_eq plays.found).trans owned
  refine plays.scene.last ?_ ?_ ?_ ?_
  · have call := still .call
    simpa [step?] using call
  · have handle := still .handle
    have there : dialogue.server.handlers[dialogue.place]? = some handler := plays.found
    simpa [step?, Server.canAdvance, there] using handle
  · by_contra something
    have forth := still (.forth (.bytes dialogue.near.accepted.length))
    simp only [step?, reached, Option.bind_some, Option.map_eq_none_iff] at forth
    exact Stream.pass?_ne_none something far forth
  · intro other found
    cases owned.symm.trans found
    by_contra something
    have back := still (.back (.bytes far.accepted.length))
    simp only [step?, reached, Option.bind_some, Option.map_eq_none_iff] at back
    exact Stream.pass?_ne_none something dialogue.near back

end Plays

/-! ## From the beginning -/

/-- A client on which these calls are about to be made, joined to a session of a server: the ciphers of the
two ends mirror each other, the streams lose nothing, and nothing is under way. -/
structure Begins (policy : Policy) (near far : Channel) (address : String) (calls : List Call)
    (dialogue : Dialogue) : Prop where
  served : dialogue.server.policy = policy
  caller : dialogue.caller = { client := { channel := near }, calls }
  attends : ∃ handler, dialogue.handler? = some handler ∧ handler.Attends far address
  listed : dialogue.server.registry.has address = true
  joined : Duplex.Joined ⟨near, far⟩
  near : near.stream.IsSteady
  far : far.stream.IsSteady

/-- What greetings of these versions return. -/
def answers (versions : List UInt32) : List Return := versions.map fun version => .greeted (.ok (verdict version))

/-- What the calls will return, and the counters that the two ends will have come to. -/
def foreseen (policy : Policy) (near far : Channel) (calls : List Call) : Prospect :=
  ⟨(policy.prospect calls).returns, near.sender.counter.toNat + (policy.prospect calls).asks,
    far.sender.counter.toNat + (policy.prospect calls).answers⟩

/-- What is foreseen of greetings after which the conversation goes on, and of what follows them. -/
theorem foreseen_append {greetings : List UInt32}
    (goesOn : ∀ version ∈ greetings, policy.goesOnAfter (.greeting version) = true) (near far : Channel)
    (calls : List Call) :
    foreseen policy near far (greetings.map .greet ++ calls) =
      ⟨answers greetings ++ (policy.prospect calls).returns,
        near.sender.counter.toNat + (greetings.length + (policy.prospect calls).asks),
        far.sender.counter.toNat + (greetings.length + (policy.prospect calls).answers)⟩ := by
  rw [foreseen, Policy.prospect_append goesOn]
  rfl

/-- The server has sealed up to this counter, and the client has opened all of it. -/
def HasSaid (dialogue : Dialogue) (counter : Nat) : Prop :=
  ∃ handler far, dialogue.handler? = some handler ∧ handler.session.transport = .secured far ∧
    far.sender.counter.toNat = counter ∧ dialogue.caller.client.channel.receiver.counter.toNat = counter ∧
    far.stream.accepted = [] ∧ dialogue.near.incoming = []

/-- The counters of the two ends last for so many messages of the client's and of the server's. -/
structure Lasts (near far : Channel) (asks answers : Nat) : Prop where
  asks : near.sender.counter.toNat + asks ≤ Cipher.lastCounter.toNat
  answers : far.sender.counter.toNat + answers ≤ Cipher.lastCounter.toNat

/-- How a client that only greets stands: its greetings are answered, and both sides stay as they are. -/
structure Stays (suite : Suite) (address : String) (greetings : List UInt32) (next : Dialogue) : Prop where
  returned : next.caller.returns <+: answers greetings
  isOpen : next.IsOpen address
  last : next.IsStill suite → next.caller.returns = answers greetings

/-- How a client stands that greets and then closes: until it closes, both sides stay as they are, and in the
end both have closed and the server has said no more than its answers. -/
structure Leaves (suite : Suite) (address : String) (greetings : List UInt32) (said : Nat) (next : Dialogue) :
    Prop where
  returned : next.caller.returns <+: answers greetings ++ [.closed (.ok true)]
  isOpen : next.caller.calls ≠ [] → next.IsOpen address
  last : next.IsStill suite → next.caller.returns = answers greetings ++ [.closed (.ok true)] ∧
    next.caller.client.state = .closed ∧ next.IsOver address ∧ next.HasSaid said

/-- How a client stands that the server dismisses for the last of these versions, whatever it calls later:
until that greeting both sides stay as they are, and in the end the session is closed and removed. A client that
takes notice is closed by that, and refuses everything then. -/
structure IsDismissed (suite : Suite) (address : String) (greetings : List UInt32) (later : List Call)
    (next : Dialogue) : Prop where
  returned : next.caller.returns <+: answers greetings ∨ answers greetings <+: next.caller.returns
  isOpen : later.length < next.caller.calls.length → next.IsOpen address
  last : next.IsStill suite → answers greetings <+: next.caller.returns ∧ next.IsOver address
  noticed : ∀ rest, later = .receive :: rest →
    next.caller.returns <+: answers greetings ++ .received (.ok .disconnect) :: rest.map Call.onClosed ∧
      (next.IsStill suite →
        next.caller.returns = answers greetings ++ .received (.ok .disconnect) :: rest.map Call.onClosed ∧
          next.caller.client.state = .closed)

namespace Begins

variable {near far : Channel} {calls : List Call}

theorem joint (begins : dialogue.Begins policy near far address calls) (suite : Suite) :
    Channel.Joint suite near far {} {} := by
  have lane {from' to' : Channel} (mirrored : to'.receiver = from'.sender) (unread : to'.stream.incoming = [])
      (written : from'.stream.accepted = []) (steady : to'.stream.IsSteady) (lossless : to'.stream.IsLossless) :
      Channel.Lane suite from' to' {} :=
    { key := by rw [mirrored]
      counter := by rw [mirrored]; rfl
      bytes := by rw [unread, written]; rfl
      valid := fun _ absent => absurd absent List.not_mem_nil
      told := .inl ⟨steady.untold, lossless.unlimited⟩ }
  have joined := begins.joined
  exact {
    nearSound := ⟨joined.usable .left, begins.near.closable, begins.near.prompt⟩
    farSound := ⟨joined.usable .right, begins.far.closable, begins.far.prompt⟩
    forth := lane (joined.ciphers .left) (joined.unread .right) (joined.carried .left) begins.far
      (joined.lossless .right)
    back := lane (joined.ciphers .right) (joined.unread .left) (joined.carried .right) begins.near
      (joined.lossless .left) }

theorem plays (begins : dialogue.Begins policy near far address calls) (script : Script policy ending calls) :
    ∃ handler, dialogue.Plays suite policy ending (foreseen policy near far calls) address handler := by
  obtain ⟨handler, found, attends⟩ := begins.attends
  have joined := begins.joined
  have awaiting {session : Session} {phase : Phase} (awaits : phase.Awaits) :
      phase.isOpen = true ∧ (⟨session, phase⟩ : Handler).isFallen = false := by
    cases awaits <;> exact ⟨rfl, rfl⟩
  obtain ⟨early, lasts⟩ := awaiting attends.awaits
  have same : handler = ⟨handler.session.withChannel far, handler.phase⟩ := by
    rw [Session.withChannel_of_owned attends.owned]
  refine ⟨handler, found, begins.served, ?_, ⟨?_, lasts, fun _ => attends.unfinished, fun late => ?_⟩,
    attends.located, ?_⟩
  · rw [begins.caller, same]
    exact .quiet ⟨begins.joint suite, (joined.lossless .left).opened, (joined.lossless .right).opened, attends.own⟩
      attends.established attends.awaits script ⟨rfl, rfl, rfl⟩
  · exact ⟨far.stream, by rw [attends.owned]; rfl, begins.far.closable⟩
  · rw [early] at late
    cases late
  · rw [begins.listed]
    obtain ⟨session, phase⟩ := handler
    cases phase <;> first | rfl | cases early

/-- Every run of a dialogue that begins with greetings leads through the scenes of its script. -/
theorem run (lawful : suite.Lawful) {greetings : List UInt32}
    (goesOn : ∀ version ∈ greetings, policy.goesOnAfter (.greeting version) = true)
    (begins : dialogue.Begins policy near far address (greetings.map .greet ++ calls))
    (script : Script policy ending calls)
    (lasts : Lasts near far (greetings.length + (policy.prospect calls).asks)
      (greetings.length + (policy.prospect calls).answers))
    (ran : dialogue.run? suite schedule = some next) :
    ∃ handler, next.Plays suite policy ending
      ⟨answers greetings ++ (policy.prospect calls).returns,
        near.sender.counter.toNat + (greetings.length + (policy.prospect calls).asks),
        far.sender.counter.toNat + (greetings.length + (policy.prospect calls).answers)⟩ address handler := by
  obtain ⟨handler, plays⟩ := begins.plays (script.append goesOn)
  rw [foreseen_append goesOn] at plays
  exact plays.run lawful lasts.asks lasts.answers ran

end Begins

section Endings

variable {near far : Channel} {greetings : List UInt32}

/-- The client only greets. -/
theorem stays_of_begins (lawful : suite.Lawful)
    (goesOn : ∀ version ∈ greetings, policy.goesOnAfter (.greeting version) = true)
    (begins : dialogue.Begins policy near far address (greetings.map .greet))
    (lasts : Lasts near far greetings.length greetings.length)
    (ran : dialogue.run? suite schedule = some next) : next.Stays suite address greetings := by
  rw [← List.append_nil (greetings.map Call.greet)] at begins
  obtain ⟨handler, plays⟩ := begins.run lawful goesOn .staying lasts ran
  have nothing : answers greetings ++ (policy.prospect []).returns = answers greetings := List.append_nil _
  rw [nothing] at plays
  refine ⟨?_, plays.isOpen (Nat.zero_le _), fun still => ?_⟩
  · rcases plays.scene.returns_prefix with returned | ⟨_, _, _, last, _⟩
    · exact returned
    · cases last
  · have last := plays.last still
    generalize next.caller = caller at last ⊢
    cases last with
    | staying => rfl

/-- The client greets and closes. -/
theorem leaves_of_begins (lawful : suite.Lawful)
    (goesOn : ∀ version ∈ greetings, policy.goesOnAfter (.greeting version) = true)
    (begins : dialogue.Begins policy near far address (greetings.map .greet ++ [.close]))
    (lasts : Lasts near far (greetings.length + 1) greetings.length)
    (ran : dialogue.run? suite schedule = some next) :
    next.Leaves suite address greetings (far.sender.counter.toNat + greetings.length) := by
  obtain ⟨handler, plays⟩ := begins.run lawful goesOn .leaving lasts ran
  refine ⟨?_, fun something => plays.isOpen (List.length_pos_iff.mpr something), fun still => ?_⟩
  · rcases plays.scene.returns_prefix with returned | ⟨_, _, _, last, _⟩
    · exact returned
    · cases last
  · have last := plays.last still
    have found := plays.found
    have gone (retired : handler.isRetired = true) := plays.isOver retired
    obtain ⟨caller, server, place⟩ := next
    cases last with
    | leaving joint sealed =>
        obtain ⟨unread, carried⟩ := joint.back.nothing
        exact ⟨rfl, rfl, gone rfl, _, _, found, rfl, sealed, joint.back.counter.symm.trans sealed, carried, unread⟩

/-- The server dismisses the client. -/
theorem isDismissed_of_begins (lawful : suite.Lawful)
    (goesOn : ∀ version ∈ greetings, policy.goesOnAfter (.greeting version) = true) {version : UInt32}
    {later : List Call} (ends : policy.goesOnAfter (.greeting version) = false)
    (begins : dialogue.Begins policy near far address (greetings.map .greet ++ .greet version :: later))
    (lasts : Lasts near far (greetings.length + 1) (greetings.length + 2))
    (ran : dialogue.run? suite schedule = some next) :
    next.IsDismissed suite address (greetings ++ [version]) later := by
  have prospect : policy.prospect (.greet version :: later) =
      ⟨.greeted (.ok (verdict version)) :: aftermath later, 1, 2⟩ := by
    rw [Policy.prospect_greet, Policy.outstanding, Policy.remainder, if_neg (Bool.not_eq_true _ ▸ ends)]
  have begun := begins.run lawful goesOn (.dismissed version later ends) (by rw [prospect]; exact lasts) ran
  rw [prospect] at begun
  obtain ⟨handler, plays⟩ := begun
  have whole : answers greetings ++ .greeted (.ok (verdict version)) :: aftermath later =
      answers (greetings ++ [version]) ++ aftermath later := by simp [answers]
  rw [whole] at plays
  have expected : next.caller.returns <+: answers (greetings ++ [version]) ++ aftermath later ∨
      answers (greetings ++ [version]) ++ aftermath later <+: next.caller.returns ∧ aftermath later = [] := by
    rcases plays.scene.returns_prefix with returned | ⟨returned, _, _, last, unaware⟩
    · exact .inl returned
    · cases last
      exact .inr ⟨returned, unaware⟩
  refine ⟨?_, fun unbegun => plays.isOpen unbegun, fun still => ?_, ?_⟩
  · rcases expected with returned | ⟨returned, _⟩
    · exact List.prefix_or_prefix_of_prefix returned (List.prefix_append _ _)
    · exact .inr ((List.prefix_append _ _).trans returned)
  · have gone (retired : handler.isRetired = true) := plays.isOver retired
    have last := plays.last still
    cases last with
    | dismissed returned => exact ⟨(List.prefix_append _ _).trans returned, gone rfl⟩
  · rintro rest rfl
    have aware : aftermath (.receive :: rest) ≠ [] := List.cons_ne_nil _ _
    refine ⟨expected.resolve_right fun both => aware both.2, fun still => ?_⟩
    have last := plays.last still
    cases last with
    | dismissed _ noticed => exact noticed aware

end Endings

/-- A client converses with its session at a server, in whatever order the two and the connection take their
steps. As long as the policy is to keep sessions open, or the versions are supported, every greeting is answered
as its version deserves and both sides stay established, with the session registered; after that a close returns
that it was delivered, and in the end both sides are closed, the session is removed and the server has sent its
answers and nothing else. If the policy is to close, the first version that is not supported is answered too, and
in the end the session is closed and removed; a client that receives next learns of it, is closed and refuses
every later call. No schedule is longer than the weight of the dialogue. -/
theorem converses (lawful : suite.Lawful) (policy : Policy) (near far : Channel) (address : String)
    (greetings : List UInt32)
    (goesOn : policy = .keepOpen ∨ ∀ version ∈ greetings, version = protocolVersion) :
    (∀ dialogue schedule next, Begins policy near far address (greetings.map .greet) dialogue →
      Lasts near far greetings.length greetings.length → dialogue.run? suite schedule = some next →
        schedule.length ≤ dialogue.weight ∧ next.Stays suite address greetings) ∧
    (∀ dialogue schedule next, Begins policy near far address (greetings.map .greet ++ [.close]) dialogue →
      Lasts near far (greetings.length + 1) greetings.length → dialogue.run? suite schedule = some next →
        schedule.length ≤ dialogue.weight ∧
          next.Leaves suite address greetings (far.sender.counter.toNat + greetings.length)) ∧
    (policy = .close → ∀ version later dialogue schedule next, version ≠ protocolVersion →
      Begins policy near far address (greetings.map .greet ++ .greet version :: later) dialogue →
      Lasts near far (greetings.length + 1) (greetings.length + 2) → dialogue.run? suite schedule = some next →
        schedule.length ≤ dialogue.weight ∧ next.IsDismissed suite address (greetings ++ [version]) later) := by
  have goesOn : ∀ version ∈ greetings, policy.goesOnAfter (.greeting version) = true := by
    intro version present
    rcases goesOn with rfl | supported
    · rfl
    · simp [Policy.goesOnAfter, supported version present]
  have bounded {dialogue next : Dialogue} {schedule : List Action}
      (ran : dialogue.run? suite schedule = some next) : schedule.length ≤ dialogue.weight :=
    Nat.le_trans (Nat.le_add_left _ _) (length_le_weight lawful ran)
  refine ⟨?_, ?_, ?_⟩
  · intro dialogue schedule next begins lasts ran
    exact ⟨bounded ran, stays_of_begins lawful goesOn begins lasts ran⟩
  · intro dialogue schedule next begins lasts ran
    exact ⟨bounded ran, leaves_of_begins lawful goesOn begins lasts ran⟩
  · intro closes version later dialogue schedule next unsupported begins lasts ran
    have ends : policy.goesOnAfter (.greeting version) = false := by simp [Policy.goesOnAfter, closes, unsupported]
    exact ⟨bounded ran, isDismissed_of_begins lawful goesOn ends begins lasts ran⟩

/-- One end of a new connection between a client and a server. -/
def fresh (address : String) (sealing opening : Nat) : Channel :=
  .ofKeys { address, ended := false } ⟨Block.little 32 sealing, Block.little 32 opening⟩

/-- A client that has connected to a server of this policy, and the calls that are about to be made. -/
def visit (policy : Policy) (calls : List Call) : Dialogue where
  caller := { client := { channel := fresh "server" 1 2 }, calls }
  server :=
    { address := "server", port := 0, policy, registry := ⟨[("visitor", 0)]⟩
      handlers := [⟨{ address := "visitor", entropy := {}, state := .established
                      transport := .secured (fresh "visitor" 2 1) }, .serving .starting⟩] }
  place := 0

theorem begins_visit (policy : Policy) (calls : List Call) :
    Begins policy (fresh "server" 1 2) (fresh "visitor" 2 1) "visitor" calls (visit policy calls) where
  served := rfl
  caller := rfl
  attends := ⟨_, rfl, .starting, rfl, rfl, rfl, rfl, rfl⟩
  listed := by
    change Registry.has ⟨[("visitor", 0)]⟩ "visitor" = true
    decide
  joined :=
    { ciphers := fun side => by cases side <;> rfl
      usable := fun side => by cases side <;> rfl
      lossless := fun side => by cases side <;> exact ⟨rfl, rfl⟩
      unread := fun side => by cases side <;> rfl
      carried := fun side => by cases side <;> rfl }
  near := ⟨rfl, rfl, rfl⟩
  far := ⟨rfl, rfl, rfl⟩

theorem lasts_visit {asks answers : Nat} (fewAsks : asks ≤ 100) (fewAnswers : answers ≤ 100) :
    Lasts (fresh "server" 1 2) (fresh "visitor" 2 1) asks answers := by
  have last : Cipher.lastCounter.toNat = 2 ^ 64 - 1 := rfl
  have near : (fresh "server" 1 2).sender.counter.toNat = 1 := rfl
  have far : (fresh "visitor" 2 1).sender.counter.toNat = 1 := rfl
  constructor <;> omega

/-- One client is answered twice and closes, another greets a server that tolerates no other version. -/
theorem converses_unsupported :
    (∃ schedule next, (visit .keepOpen [.greet 1, .greet 2]).run? Suite.standard schedule = some next ∧
      next.caller.returns = [.greeted (.ok .ok), .greeted (.ok .unsupported)] ∧ next.IsOpen "visitor") ∧
    (∃ schedule next, (visit .keepOpen [.greet 1, .greet 2, .close]).run? Suite.standard schedule = some next ∧
      next.caller.returns = [.greeted (.ok .ok), .greeted (.ok .unsupported), .closed (.ok true)] ∧
      next.caller.client.state = .closed ∧ next.IsOver "visitor" ∧ next.HasSaid 3) ∧
    (∃ schedule next,
      (visit .close [.greet 1, .greet 2, .receive, .greet 1]).run? Suite.standard schedule = some next ∧
      next.caller.returns =
        [.greeted (.ok .ok), .greeted (.ok .unsupported), .received (.ok .disconnect),
          .greeted (.error (.protocol (.sendIn .closed)))] ∧
      next.caller.client.state = .closed ∧ next.IsOver "visitor") := by
  have lawful := Suite.standard_lawful
  refine ⟨?_, ?_, ?_⟩
  · obtain ⟨schedule, next, ran, still⟩ := exists_isStill lawful (visit .keepOpen [.greet 1, .greet 2])
    have stays := ((converses lawful .keepOpen _ _ _ [1, 2] (.inl rfl)).1 _ schedule next (begins_visit _ _)
      (lasts_visit (by decide) (by decide)) ran).2
    exact ⟨schedule, next, ran, stays.last still, stays.isOpen⟩
  · obtain ⟨schedule, next, ran, still⟩ := exists_isStill lawful (visit .keepOpen [.greet 1, .greet 2, .close])
    have leaves := ((converses lawful .keepOpen _ _ _ [1, 2] (.inl rfl)).2.1 _ schedule next (begins_visit _ _)
      (lasts_visit (by decide) (by decide)) ran).2
    exact ⟨schedule, next, ran, leaves.last still⟩
  · obtain ⟨schedule, next, ran, still⟩ :=
      exists_isStill lawful (visit .close [.greet 1, .greet 2, .receive, .greet 1])
    have dismissed := ((converses lawful .close _ _ _ [1] (.inr fun _ => List.mem_singleton.mp)).2.2 rfl 2
      [.receive, .greet 1] _ schedule next (by decide) (begins_visit _ _) (lasts_visit (by decide) (by decide)) ran).2
    obtain ⟨returned, closed⟩ := (dismissed.noticed [.greet 1] rfl).2 still
    exact ⟨schedule, next, ran, returned, closed, (dismissed.last still).2⟩

end Dialogue

end Courier
