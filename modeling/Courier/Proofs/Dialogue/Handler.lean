import Courier.Proofs.Dialogue.Lane
import Courier.Proofs.Server.Handler

/-!
# The steps of a handler in a dialogue

What a handler does when its session is joined to a client: it waits for a frame,
takes it off the stream in two reads, opens it and hears the message, and replies
whole. A session that is leaving is closed next, with a farewell unless the client
left first. Each step is given with what is under way afterwards.
-/

namespace Courier

open Channel (Joint)

variable {suite : Suite} {policy : Policy} {near far : Channel} {out home : Transit} {message : Message}
  {rest : List Message} {begun : Octets} {session : Session} {phase : Phase}

namespace Phase

/-- The places of a handler that waits for the next frame, or is about to. -/
inductive Awaits : Phase → Prop where
  | established : Awaits (.establishing (.ended (.ok ())))
  | starting : Awaits (.serving .starting)
  | polling : Awaits (.serving .polling)
  | awaitingLength : Awaits (.serving .awaitingLength)

/-- The places of a handler that takes the frame of this sealed payload, with what it has taken off the stream. -/
inductive Takes (body : Octets) : Octets → Phase → Prop where
  | awaiting {phase : Phase} (awaits : phase.Awaits) : Takes body [] phase
  | measuring : Takes body (Channel.lengthField body).val (.serving (.measuring (.ok (Channel.lengthField body))))
  | awaitingBody : Takes body (Channel.lengthField body).val (.serving (.awaitingBody body.length))
  | opening : Takes body (Channel.frame body) (.serving (.opening body.length (.ok ⟨body, rfl⟩)))

/-- The places of a handler whose session is leaving and is to be closed. -/
inductive Leaves : Phase → Prop where
  | polling : Leaves (.serving .polling)
  | ended : Leaves (.serving (.ended (.ok ())))
  | closing : Leaves .closing

end Phase

namespace Handler

/-- The handler when its work on messages has come so far. -/
def ofWork (work : Work) : Handler := ⟨work.session, .serving work.activity⟩

theorem step_serving {activity : Activity} (unfinished : activity.result? = none) :
    (⟨session, .serving activity⟩ : Handler).step suite policy =
      ofWork ((⟨activity, session⟩ : Work).step suite policy) := by
  simp only [step, serve, unfinished]
  rfl

theorem withStream_withChannel (session : Session) (far : Channel) (phase : Phase) (after : Stream) :
    (⟨session.withChannel far, phase⟩ : Handler).withStream after =
      ⟨session.withChannel (far.withStream after), phase⟩ := rfl

/-! ## Waiting and taking -/

/-- A handler comes to its wait for the next frame, and there it stays. -/
theorem step_of_awaits (awaits : phase.Awaits) (established : session.state = .established) :
    phase = .serving .awaitingLength ∨
      ∃ next : Phase, next.Awaits ∧
        (⟨session.withChannel far, phase⟩ : Handler).step suite policy = ⟨session.withChannel far, next⟩ := by
  cases awaits with
  | established => exact .inr ⟨_, .starting, rfl⟩
  | starting => exact .inr ⟨_, .polling, rfl⟩
  | polling =>
      refine .inr ⟨_, .awaitingLength, ?_⟩
      have still : (session.withChannel far).state = .established := established
      rw [step_serving rfl, Work.step, if_pos still]
      rfl
  | awaitingLength => exact .inl rfl

/-- While nothing is under way to it, a handler that waits for a frame can not go on. -/
theorem not_ready_of_joint (joint : Joint suite near far {} home) (nearOpened : near.stream.closed = false)
    (farOpened : far.stream.closed = false) :
    (⟨session.withChannel far, .serving .awaitingLength⟩ : Handler).ready = false := by
  have waits : far.stream.readable Channel.lengthSize = false :=
    joint.forth.not_readable nearOpened farOpened (by decide)
  simp [ready, work?, Work.ready, Work.wants, Session.withChannel, joint.farSound.usable, Transport.stream?, waits]

/-- One step of a handler that takes a frame: it has come closer to the message, or hears it next. -/
theorem step_of_takes (lawful : suite.Lawful) (takes : phase.Takes (far.nextBody suite message) begun)
    (joint : Joint suite near far ⟨begun, message :: rest⟩ home) (opened : far.stream.closed = false)
    (established : session.state = .established)
    (ready : (⟨session.withChannel far, phase⟩ : Handler).ready = true) :
    ∃ unread,
      (∃ begun phase', Phase.Takes (far.nextBody suite message) begun phase' ∧
        Joint suite near (far.withUnread unread) ⟨begun, message :: rest⟩ home ∧
        (⟨session.withChannel far, phase⟩ : Handler).step suite policy =
          ⟨session.withChannel (far.withUnread unread), phase'⟩) ∨
      (Joint suite near (far.withUnread unread).heard { messages := rest } home ∧
        (⟨session.withChannel far, phase⟩ : Handler).step suite policy =
          ⟨session.withChannel (far.withUnread unread).heard, .serving (.hearing message)⟩) := by
  cases takes with
  | awaiting awaits =>
      rcases step_of_awaits awaits established with rfl | ⟨next, awaits, stepped⟩
      · have ready : far.stream.readable Channel.lengthSize = true := by
          simpa [Handler.ready, work?, Work.ready, Work.wants, Session.withChannel, joint.farSound.usable,
            Transport.stream?] using ready
        obtain ⟨unread, read, after⟩ := joint.readLength opened ready
        refine ⟨unread, .inl ⟨_, _, .measuring, after, ?_⟩⟩
        have usable : ¬ far.poisoned = true := ne_true_of_eq_false joint.farSound.usable
        rw [step_serving rfl]
        change ofWork (Work.readLength _ far) = _
        rw [Work.readLength, if_neg usable, read]
        rfl
      · exact ⟨far.stream.incoming, .inl ⟨_, _, .awaiting awaits, joint, stepped⟩⟩
  | measuring =>
      have judged := Channel.judgeLength_lengthField lawful far far message
      refine ⟨far.stream.incoming, .inl ⟨_, _, .awaitingBody, joint, ?_⟩⟩
      rw [step_serving rfl]
      change ofWork (Work.resume _ (far.judgeLength _) _) = _
      rw [judged]
      rfl
  | awaitingBody =>
      obtain ⟨unread, read, after⟩ := joint.readBody opened ready
      refine ⟨unread, .inl ⟨_, _, .opening, after, ?_⟩⟩
      rw [step_serving rfl]
      change ofWork (Work.readBody _ far _) = _
      rw [Work.readBody, read]
      rfl
  | opening =>
      obtain ⟨opens, last⟩ := joint.openFrame lawful
      refine ⟨far.stream.incoming, .inr ⟨last, ?_⟩⟩
      have opens : Work.openFrame suite far _ (.ok ⟨far.nextBody suite message, rfl⟩) = _ := opens
      rw [step_serving rfl]
      change ofWork (Work.resume _ (Work.openFrame suite far _ _) _) = _
      rw [opens]
      rfl

/-- A handler that takes a frame goes on once everything has been brought over. -/
theorem ready_of_takes (takes : phase.Takes (far.nextBody suite message) begun)
    (joint : Joint suite near far ⟨begun, message :: rest⟩ home) (brought : near.stream.accepted = []) :
    (⟨session.withChannel far, phase⟩ : Handler).ready = true := by
  cases takes with
  | awaiting awaits =>
      cases awaits with
      | established | starting | polling => rfl
      | awaitingLength =>
          have enough := joint.readable_length brought
          simp [ready, work?, Work.ready, Work.wants, Session.withChannel, joint.farSound.usable, Transport.stream?,
            enough]
  | measuring | opening => rfl
  | awaitingBody => exact joint.readable_body brought

/-! ## Hearing and replying -/

theorem step_hearing_greeting (established : session.state = .established) (version : UInt32) :
    (⟨session.withChannel far, .serving (.hearing (.greeting version))⟩ : Handler).step suite policy =
      if policy.goesOnAfter (.greeting version) then
        ⟨session.withChannel far, .serving (.replying (Session.answer version))⟩
      else
        ⟨{ session with state := .disconnecting }.withChannel far,
          .serving (.replying (Session.answer version))⟩ := by
  rw [step_serving rfl]
  change ofWork (Work.hear _ policy _) = _
  have handled := Session.handling policy (session.withChannel far) (.greeting version)
  rw [Work.hear]
  simp only
  generalize (session.withChannel far).handle policy (.greeting version) = outcome at handled
  cases handled with
  | untimely _ left => exact absurd established left
  | answered _ _ stays =>
      have goesOn : policy.goesOnAfter (.greeting version) = true := by
        rcases stays with rfl | rfl <;> simp [Policy.goesOnAfter]
      rw [if_pos goesOn]
      rfl
  | dismissed _ _ unsupported closes =>
      have ends : ¬ policy.goesOnAfter (.greeting version) = true := by
        simp [Policy.goesOnAfter, closes, unsupported]
      rw [if_neg ends]
      rfl

theorem step_hearing_disconnect (established : session.state = .established) :
    (⟨session.withChannel far, .serving (.hearing .disconnect)⟩ : Handler).step suite policy =
      ⟨{ session with peerDisconnected := true, state := .disconnecting }.withChannel far,
        .serving .polling⟩ := by
  rw [step_serving rfl]
  change ofWork (Work.hear _ policy _) = _
  have handled := Session.handling policy (session.withChannel far) .disconnect
  rw [Work.hear]
  simp only
  generalize (session.withChannel far).handle policy .disconnect = outcome at handled
  cases handled with
  | untimely _ left => exact absurd established left
  | released _ => rfl

/-- A reply is sent whole. -/
theorem step_replying (joint : Joint suite near far out home) (nearOpened : near.stream.closed = false)
    (farOpened : far.stream.closed = false) (more : far.sender.counter ≠ Cipher.lastCounter) {reply : Message}
    (valid : reply.isValid = true) :
    (⟨session.withChannel far, .serving (.replying reply)⟩ : Handler).step suite policy =
      ⟨session.withChannel (far.sent suite reply), .serving .polling⟩ := by
  have sends := (joint.symm.send farOpened nearOpened more valid).1
  rw [step_serving rfl]
  change ofWork (Work.resume _ (far.send suite reply) _) = _
  rw [sends]
  rfl

/-! ## Leaving -/

/-- A handler whose session is leaving comes to closing it. -/
theorem step_of_leaves (leaves : phase.Leaves) (leaving : session.state = .disconnecting) :
    phase = .closing ∨
      ∃ next : Phase, next.Leaves ∧ (⟨session, phase⟩ : Handler).step suite policy = ⟨session, next⟩ := by
  cases leaves with
  | polling =>
      refine .inr ⟨_, .ended, ?_⟩
      have left : session.state ≠ .established := by
        rw [leaving]
        exact Lifecycle.noConfusion
      rw [step_serving rfl, Work.step, if_neg left]
      rfl
  | ended => exact .inr ⟨_, .closing, rfl⟩
  | closing => exact .inl rfl

theorem ready_of_leaves (leaves : phase.Leaves) : (⟨session, phase⟩ : Handler).ready = true := by
  cases leaves <;> rfl

/-- The stream of a session is closed under its channel. -/
theorem hangUp_of_joint (joint : Joint suite near far out home) (session : Session) :
    (session.withChannel far).hangUp = (.ok (), session.withChannel far.shut) := by
  have closes := joint.symm.close.1
  have owned : (session.withChannel far).transport = .secured far := rfl
  simp only [Session.hangUp, owned, closes]
  rfl

/-- Closing a session that leaves on its own account sends a farewell. -/
theorem step_closing (joint : Joint suite near far out home) (nearOpened : near.stream.closed = false)
    (farOpened : far.stream.closed = false) (more : far.sender.counter ≠ Cipher.lastCounter)
    (leaving : session.state = .disconnecting) (own : session.peerDisconnected = false) :
    (⟨session.withChannel far, .closing⟩ : Handler).step suite policy =
      ⟨{ session with state := .closed }.withChannel (far.sent suite .disconnect).shut, .marking⟩ := by
  have valid : Message.disconnect.isValid = true := rfl
  obtain ⟨sends, after⟩ := joint.symm.send farOpened nearOpened more valid
  have announced : Session.announces (session.withChannel far).state (session.withChannel far).peerDisconnected =
      true := by
    change Session.announces session.state session.peerDisconnected = true
    rw [leaving, own]
    rfl
  have told : Session.sendDisconnect suite ({ session with state := .closed }.withChannel far) =
      { session with state := .closed }.withChannel (far.sent suite .disconnect) := by
    change ({ session with state := .closed } : Session).withChannel (far.send suite .disconnect).2 = _
    rw [sends]
  have closes : (session.withChannel far).close suite =
      (Session.sendDisconnect suite ({ session with state := .closed }.withChannel far)).hangUp := by
    rw [Session.close, if_pos announced, Lifecycle.advance_closed]
    rfl
  rw [told, hangUp_of_joint after.symm] at closes
  simp only [step, closes]

/-- Closing a session whose client left first sends nothing. -/
theorem step_closing_released (joint : Joint suite near far out home) (leaving : session.state = .disconnecting)
    (released : session.peerDisconnected = true) :
    (⟨session.withChannel far, .closing⟩ : Handler).step suite policy =
      ⟨{ session with state := .closed }.withChannel far.shut, .marking⟩ := by
  have silent : Session.announces (session.withChannel far).state (session.withChannel far).peerDisconnected =
      false := by
    change Session.announces session.state session.peerDisconnected = false
    rw [leaving, released]
    rfl
  have closes : (session.withChannel far).close suite =
      (.ok (), { session with state := .closed }.withChannel far.shut) :=
    (Session.close_of_unannounced suite silent).trans (hangUp_of_joint joint { session with state := .closed })
  simp only [step, closes]

/-- What is left of a handler that has closed its session concerns neither its state nor its channel. -/
theorem step_of_late (late : phase.isOpen = false) :
    ∃ phase' : Phase, ∃ finished : Bool, phase'.isOpen = false ∧
      (⟨session, phase⟩ : Handler).step suite policy = ⟨{ session with finished }, phase'⟩ := by
  have passes := passage suite policy ⟨session, phase⟩
  generalize (⟨session, phase⟩ : Handler).step suite policy = next at passes ⊢
  cases passes with
  | works place =>
      have early : phase.isOpen = true := place
      rw [late] at early
      cases early
  | closes place | falls place =>
      have closing : phase = .closing := place
      rw [closing] at late
      cases late
  | marks | yields => exact ⟨_, true, rfl, rfl⟩
  | removes => exact ⟨_, session.finished, rfl, rfl⟩
  | rests => exact ⟨phase, session.finished, late, rfl⟩

theorem step_withChannel_of_late (late : phase.isOpen = false) :
    ∃ next : Session, ∃ phase' : Phase, phase'.isOpen = false ∧
      (⟨session.withChannel far, phase⟩ : Handler).step suite policy = ⟨next.withChannel far, phase'⟩ :=
  have ⟨phase', finished, late, stepped⟩ := step_of_late late
  ⟨{ session with finished }, phase', late, stepped⟩

/-- A handler that has closed its session goes on until it has retired. -/
theorem eq_retired_of_late (late : phase.isOpen = false)
    (idle : (⟨session, phase⟩ : Handler).ready = false) : phase = .retired := by
  cases phase with
  | establishing | serving | closing | fallen => cases late
  | marking | removing => cases idle
  | retired => rfl

end Handler

end Courier
