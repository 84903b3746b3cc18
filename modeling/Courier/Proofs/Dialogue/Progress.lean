import Courier.Proofs.Dialogue.Scene

/-!
# From scene to scene

Whatever step the client or the handler takes, and whatever the connection brings
over, a conversation goes from one of its scenes to another. There is one lemma for
each scene in which the side whose turn it is does something; in the others it
waits.
-/

namespace Courier

open Client (Call Return Caller Calling Stage)
open Channel (Joint)

namespace Scene

variable {suite : Suite} {policy : Policy} {near far : Channel} {session : Session} {phase : Phase}
  {home : Transit} {begun : Octets} {said : List Message} {ending : Ending} {whole : Prospect} {caller : Caller}
  {handler : Handler} {calls later : List Call} {returns : List Return} {version : UInt32} {stage : Stage}

/-! ## Steps of the caller -/

/-- With nothing under way, the client greets or closes. -/
theorem call_of_quiet (enough : whole.asks ≤ Cipher.lastCounter.toNat)
    (talks : Talks suite near far session {} {}) (established : session.state = .established)
    (awaits : phase.Awaits) (script : Script policy ending calls)
    (accounts : Accounts whole near far returns (policy.prospect calls)) (something : calls ≠ []) :
    Scene suite policy ending whole (Caller.step suite { client := ⟨near, .established⟩, calls, returns })
      ⟨session.withChannel far, phase⟩ := by
  have greets {version : UInt32} {later : List Call} (script : Script policy ending (.greet version :: later))
      (accounts : Accounts whole near far returns (policy.prospect (.greet version :: later))) :
      Scene suite policy ending whole
        (Caller.step suite { client := ⟨near, .established⟩, calls := .greet version :: later, returns })
        ⟨session.withChannel far, phase⟩ := by
    have more := accounts.more_asks enough (Nat.succ_pos _)
    rw [Caller.step_greet talks.joint talks.nearOpened talks.farOpened more]
    exact .asked (talks.ask more rfl) established (.awaiting awaits) script (accounts.ask more _)
  cases script with
  | staying => exact absurd rfl something
  | dismissed version later ends => exact greets (.dismissed version later ends) accounts
  | greeting version goesOn rest => exact greets (.greeting version goesOn rest) accounts
  | leaving =>
      have more := accounts.more_asks enough Nat.one_pos
      rw [Caller.step_close talks.joint talks.nearOpened talks.farOpened more]
      exact .parting (talks.ask more rfl).joint (.announced accounts.returned)
        (.taking (.awaiting awaits) established talks.farOpened) rfl accounts.answered

/-- The client comes closer to its answer, or has it and calls next. -/
theorem call_of_answered (lawful : suite.Lawful)
    (talks : Talks suite near far session {} ⟨begun, [Session.answer version]⟩)
    (established : session.state = .established) (awaits : phase.Awaits)
    (waits : stage.Waits (near.nextBody suite (Session.answer version)) true begun)
    (script : Script policy ending calls)
    (accounts : Accounts whole near far (returns ++ [.greeted (.ok (verdict version))]) (policy.prospect calls))
    (ready : Caller.ready { client := ⟨near, .established⟩, stage? := some stage, calls, returns } = true) :
    Scene suite policy ending whole
      (Caller.step suite { client := ⟨near, .established⟩, stage? := some stage, calls, returns })
      ⟨session.withChannel far, phase⟩ := by
  obtain ⟨unread, ⟨stage, begun, waits, joint, stepped⟩ | ⟨joint, returned⟩⟩ :=
    Caller.step_of_waits lawful rfl waits talks.nearOpened talks.joint ready
  · rw [stepped]
    exact .answered ⟨joint, talks.nearOpened, talks.farOpened, talks.own⟩ established awaits waits script
      ⟨accounts.returned, accounts.asked, accounts.answered⟩
  · rw [returned _ _ rfl]
    exact .quiet ⟨joint, talks.nearOpened, talks.farOpened, talks.own⟩ established awaits script
      ⟨accounts.returned, accounts.asked, accounts.answered⟩

/-- The client comes closer to the answer that dismisses it, or has it. -/
theorem call_of_dismissed (lawful : suite.Lawful) {later : List Call}
    (joint : Joint suite near far {} ⟨begun, Session.answer version :: said⟩)
    (opened : near.stream.closed = false) (dismisses : Dismisses far said session phase)
    (waits : stage.Waits (near.nextBody suite (Session.answer version)) true begun)
    (last : ending = .dismissed version later)
    (returned : returns ++ .greeted (.ok (verdict version)) :: aftermath later = whole.returns)
    (ready : Caller.ready { client := ⟨near, .established⟩, stage? := some stage, calls := later, returns } = true) :
    Scene suite policy ending whole
      (Caller.step suite { client := ⟨near, .established⟩, stage? := some stage, calls := later, returns })
      ⟨session.withChannel far, phase⟩ := by
  obtain ⟨unread, ⟨stage, begun, waits, joint, stepped⟩ | ⟨joint, notes⟩⟩ :=
    Caller.step_of_waits lawful rfl waits opened joint ready
  · rw [stepped]
    exact .dismissed joint opened dismisses waits last returned
  · rw [notes _ _ rfl]
    refine .abandoned joint opened dismisses last ?_
    rw [List.append_assoc]
    exact returned

/-- A client that takes notice of its dismissal comes closer to that, or is closed by it. -/
theorem call_of_waits (lawful : suite.Lawful) (joint : Joint suite near far {} ⟨begun, [.disconnect]⟩)
    (opened : near.stream.closed = false) (late : phase.isOpen = false)
    (waits : stage.Waits (near.nextBody suite .disconnect) false begun)
    (last : ending = .dismissed version (.receive :: later))
    (returned : caller.returns ++ .received (.ok .disconnect) :: later.map Call.onClosed = whole.returns)
    (current : caller.current? = some (⟨stage, ⟨near, .established⟩⟩, later)) (ready : caller.ready = true) :
    Scene suite policy ending whole (caller.step suite) ⟨session.withChannel far, phase⟩ := by
  obtain ⟨unread, ⟨stage, begun, waits, joint, stepped⟩ | ⟨joint, notes⟩⟩ :=
    Caller.step_of_waits lawful current waits opened joint ready
  · rw [stepped]
    exact .noticing joint opened late waits last returned
  · have closes := Calling.heed_disconnect joint
    have gives : Calling.giveBack false (Client.heed ⟨(near.withUnread unread).heard, .established⟩ .disconnect) =
        ⟨.returned (.received (.ok .disconnect)), ⟨(near.withUnread unread).heard.shut, .closed⟩⟩ := by
      rw [closes]
      rfl
    rw [notes _ _ gives]
    refine .gone joint.close.2.nearSound rfl late last (Nat.le_succ _) ?_
    rw [List.append_assoc]
    exact returned

/-- A client that was dismissed takes notice of it, or does not. -/
theorem call_of_abandoned (lawful : suite.Lawful) (joint : Joint suite near far {} ⟨[], said⟩)
    (opened : near.stream.closed = false) (dismisses : Dismisses far said session phase)
    (last : ending = .dismissed version later) (returned : returns ++ aftermath later = whole.returns)
    (ready : Caller.ready { client := ⟨near, .established⟩, calls := later, returns } = true) :
    Scene suite policy ending whole
      (Caller.step suite { client := ⟨near, .established⟩, calls := later, returns })
      ⟨session.withChannel far, phase⟩ := by
  have strays (unaware : aftermath later = []) : Scene suite policy ending whole
      (Caller.step suite { client := ⟨near, .established⟩, calls := later, returns })
      ⟨session.withChannel far, phase⟩ := by
    obtain ⟨more, fewer⟩ :=
      Caller.step_extends suite { client := ⟨near, .established⟩, calls := later, returns }
    rw [unaware, List.append_nil] at returned
    refine .astray last unaware fewer (returned ▸ more) ?_
    cases dismisses with
    | leaving leaves state => exact .inl ⟨leaves, state⟩
    | closed late => exact .inr late
  cases later with
  | nil => cases ready
  | cons call later =>
      cases call with
      | greet | send | close => exact strays rfl
      | receive =>
          cases dismisses with
          | leaving leaves state own farOpened more =>
              rw [Caller.not_ready_of_joint rfl joint opened farOpened] at ready
              cases ready
          | closed late =>
              have begins : Stage.Waits (near.nextBody suite .disconnect) false [] (.start .receive) := .listening
              exact call_of_waits lawful joint opened late begins last returned rfl ready

/-- Every step of the caller leads from scene to scene. -/
theorem call (lawful : suite.Lawful) (enough : whole.asks ≤ Cipher.lastCounter.toNat)
    (scene : Scene suite policy ending whole caller handler) (ready : caller.ready = true) :
    Scene suite policy ending whole (caller.step suite) handler := by
  cases scene with
  | quiet talks established awaits script accounts =>
      refine call_of_quiet enough talks established awaits script accounts fun nothing => ?_
      rw [nothing] at ready
      cases ready
  | asked talks | hearing talks | replying talks =>
      rw [Caller.not_ready_of_joint rfl talks.joint talks.nearOpened talks.farOpened] at ready
      cases ready
  | answered talks established awaits waits script accounts =>
      exact call_of_answered lawful talks established awaits waits script accounts ready
  | dismissed joint opened dismisses waits last returned =>
      exact call_of_dismissed lawful joint opened dismisses waits last returned ready
  | abandoned joint opened dismisses last returned =>
      exact call_of_abandoned lawful joint opened dismisses last returned ready
  | noticing joint opened late waits last returned =>
      exact call_of_waits lawful joint opened late waits last returned rfl ready
  | @gone near far session phase calls later returns version sound closed late last fewer returned =>
      cases calls with
      | nil => cases ready
      | cons call calls =>
          rw [Caller.step_of_closed sound closed]
          refine .gone sound closed late last (Nat.le_of_succ_le fewer) ?_
          rw [List.append_assoc]
          exact returned
  | astray last unaware fewer returned leaves =>
      obtain ⟨more, left⟩ := caller.step_extends suite
      exact .astray last unaware (Nat.le_trans left fewer) (returned.trans more) leaves
  | parting joint parts releases last answered =>
      cases parts with
      | announced returned =>
          rw [Caller.step_parting joint, returned]
          exact .parting joint.close.2 .closed releases last answered
      | closed => cases ready

/-! ## Steps of the handler -/

/-- A handler that waits for a greeting can not go on without one. -/
theorem step_awaits (talks : Talks suite near far session {} home) (awaits : phase.Awaits)
    (established : session.state = .established)
    (ready : (⟨session.withChannel far, phase⟩ : Handler).ready = true) :
    ∃ next : Phase, next.Awaits ∧
      (⟨session.withChannel far, phase⟩ : Handler).step suite policy = ⟨session.withChannel far, next⟩ := by
  rcases Handler.step_of_awaits awaits established with rfl | stepped
  · rw [Handler.not_ready_of_joint talks.joint talks.nearOpened talks.farOpened] at ready
    cases ready
  · exact stepped

/-- The handler comes closer to the greeting, or hears it next. -/
theorem handle_of_asked (lawful : suite.Lawful)
    (talks : Talks suite near far session ⟨begun, [.greeting version]⟩ {})
    (established : session.state = .established)
    (takes : phase.Takes (far.nextBody suite (.greeting version)) begun)
    (script : Script policy ending (.greet version :: calls))
    (accounts : Accounts whole near far returns (policy.outstanding version calls))
    (ready : (⟨session.withChannel far, phase⟩ : Handler).ready = true) :
    Scene suite policy ending whole
      { client := ⟨near, .established⟩, stage? := some (.listening true), calls, returns }
      ((⟨session.withChannel far, phase⟩ : Handler).step suite policy) := by
  obtain ⟨unread, ⟨begun, next, takes, joint, stepped⟩ | ⟨joint, stepped⟩⟩ :=
    Handler.step_of_takes lawful takes talks.joint talks.farOpened established ready
  · rw [stepped]
    exact .asked ⟨joint, talks.nearOpened, talks.farOpened, talks.own⟩ established takes script
      ⟨accounts.returned, accounts.asked, accounts.answered⟩
  · rw [stepped]
    exact .hearing ⟨joint, talks.nearOpened, talks.farOpened, talks.own⟩ established script
      ⟨accounts.returned, accounts.asked, accounts.answered⟩

/-- The version decides whether the session leaves; it is answered either way. -/
theorem handle_of_hearing (talks : Talks suite near far session {} {})
    (established : session.state = .established) (script : Script policy ending (.greet version :: calls))
    (accounts : Accounts whole near far returns (policy.outstanding version calls)) :
    Scene suite policy ending whole
      { client := ⟨near, .established⟩, stage? := some (.listening true), calls, returns }
      ((⟨session.withChannel far, .serving (.hearing (.greeting version))⟩ : Handler).step suite policy) := by
  rw [Handler.step_hearing_greeting established]
  split
  · rename_i goesOn
    exact .replying talks (by rw [if_pos goesOn, established]) script accounts
  · rename_i ends
    have left : Talks suite near far { session with state := .disconnecting } {} {} :=
      ⟨talks.joint, talks.nearOpened, talks.farOpened, talks.own⟩
    exact .replying left (by rw [if_neg ends]) script accounts

/-- Once the answer is sent, the handler waits again, or dismisses the client. -/
theorem handle_of_replying (enough : whole.answers ≤ Cipher.lastCounter.toNat)
    (talks : Talks suite near far session {} {})
    (state : session.state = if policy.goesOnAfter (.greeting version) then .established else .disconnecting)
    (script : Script policy ending (.greet version :: calls))
    (accounts : Accounts whole near far returns (policy.outstanding version calls)) :
    Scene suite policy ending whole
      { client := ⟨near, .established⟩, stage? := some (.listening true), calls, returns }
      ((⟨session.withChannel far, .serving (.replying (Session.answer version))⟩ : Handler).step suite policy) := by
  have valid := isValid_answer version
  have more := accounts.more_answers enough (Nat.succ_pos _)
  have later : Accounts whole near (far.sent suite (Session.answer version)) returns
      { policy.outstanding version calls with answers := (policy.remainder version calls).answers } :=
    accounts.answer more (Session.answer version)
  rw [Handler.step_replying talks.joint talks.nearOpened talks.farOpened more valid]
  cases goesOn : policy.goesOnAfter (.greeting version) with
  | true =>
      have same : policy.remainder version calls = policy.prospect calls := if_pos goesOn
      rw [if_pos goesOn] at state
      refine .answered (talks.answer more valid) state .polling .listening (script.of_goesOn goesOn) ?_
      rw [← same]
      exact ⟨by rw [List.append_assoc]; exact later.returned, later.asked, later.answered⟩
  | false =>
      have ends : ¬ policy.goesOnAfter (.greeting version) = true := Bool.not_eq_true _ ▸ goesOn
      have same : policy.remainder version calls = ⟨aftermath calls, 0, 1⟩ := if_neg ends
      rw [if_neg ends] at state
      rw [Policy.outstanding, same] at later
      exact .dismissed (talks.answer more valid).joint talks.nearOpened
        (.leaving .polling state talks.own talks.farOpened (later.more_answers enough Nat.one_pos)) .listening
        (script.of_ends goesOn) later.returned

/-- Whatever becomes of the client, a session that is leaving is closed and its handler comes to an end. -/
theorem handle_of_astray (closable : session.IsClosable)
    (leaves : phase.Leaves ∧ session.state = .disconnecting ∨ phase.isOpen = false) :
    ∃ next : Session, ∃ phase' : Phase,
      (⟨session, phase⟩ : Handler).step suite policy = ⟨next, phase'⟩ ∧
        (phase'.Leaves ∧ next.state = .disconnecting ∨ phase'.isOpen = false) := by
  rcases leaves with ⟨leaves, state⟩ | late
  · rcases Handler.step_of_leaves leaves state with rfl | ⟨next, leaves, stepped⟩
    · exact ⟨_, _, Handler.step_closing_of_isClosable closable, .inr rfl⟩
    · exact ⟨_, _, stepped, .inl ⟨leaves, state⟩⟩
  · obtain ⟨_, _, late, stepped⟩ := Handler.step_of_late late
    exact ⟨_, _, stepped, .inr late⟩

/-- Every step of the handler leads from scene to scene. -/
theorem handle (lawful : suite.Lawful) (enough : whole.answers ≤ Cipher.lastCounter.toNat)
    (scene : Scene suite policy ending whole caller handler) (own : handler.IsSound)
    (ready : handler.ready = true) : Scene suite policy ending whole caller (handler.step suite policy) := by
  cases scene with
  | quiet talks established awaits script accounts =>
      obtain ⟨next, awaits, stepped⟩ := step_awaits talks awaits established ready
      rw [stepped]
      exact .quiet talks established awaits script accounts
  | asked talks established takes script accounts =>
      exact handle_of_asked lawful talks established takes script accounts ready
  | hearing talks established script accounts => exact handle_of_hearing talks established script accounts
  | replying talks state script accounts => exact handle_of_replying enough talks state script accounts
  | answered talks established awaits waits script accounts =>
      obtain ⟨next, awaits, stepped⟩ := step_awaits talks awaits established ready
      rw [stepped]
      exact .answered talks established awaits waits script accounts
  | dismissed joint opened dismisses waits last returned =>
      obtain ⟨_, _, _, _, stepped, dismisses, joint⟩ := dismisses.step [_] joint opened
      rw [stepped]
      exact .dismissed joint opened dismisses waits last returned
  | abandoned joint opened dismisses last returned =>
      obtain ⟨_, _, _, _, stepped, dismisses, joint⟩ := dismisses.step [] joint opened
      rw [stepped]
      exact .abandoned joint opened dismisses last returned
  | noticing joint opened late waits last returned =>
      obtain ⟨_, _, late, stepped⟩ := Handler.step_withChannel_of_late late
      rw [stepped]
      exact .noticing joint opened late waits last returned
  | gone sound closed late last fewer returned =>
      obtain ⟨_, _, late, stepped⟩ := Handler.step_withChannel_of_late late
      rw [stepped]
      exact .gone sound closed late last fewer returned
  | astray last unaware fewer returned leaves =>
      obtain ⟨_, _, stepped, leaves⟩ := handle_of_astray own.closable leaves
      rw [stepped]
      exact .astray last unaware fewer returned leaves
  | parting joint parts releases last answered =>
      obtain ⟨_, _, _, _, stepped, releases, joint, same⟩ := releases.step lawful joint ready
      rw [stepped]
      exact .parting joint parts releases last (same ▸ answered)

/-! ## What is brought over -/

/-- What the connection brings over leads from scene to scene. -/
theorem brought (scene : Scene suite policy ending whole caller handler) {farStream nearAfter farAfter : Stream}
    (owned : handler.session.transport.stream? = some farStream)
    (brought : caller.client.channel.stream.Brought farStream nearAfter farAfter) :
    Scene suite policy ending whole (caller.withStream nearAfter) (handler.withStream farAfter) := by
  cases scene with
  | quiet talks established awaits script accounts =>
      cases owned
      rw [Handler.withStream_withChannel]
      exact .quiet (talks.brought brought) established awaits script (accounts.withStreams _ _)
  | asked talks established takes script accounts =>
      cases owned
      rw [Handler.withStream_withChannel]
      exact .asked (talks.brought brought) established takes script (accounts.withStreams _ _)
  | hearing talks established script accounts =>
      cases owned
      rw [Handler.withStream_withChannel]
      exact .hearing (talks.brought brought) established script (accounts.withStreams _ _)
  | replying talks state script accounts =>
      cases owned
      rw [Handler.withStream_withChannel]
      exact .replying (talks.brought brought) state script (accounts.withStreams _ _)
  | answered talks established awaits waits script accounts =>
      cases owned
      rw [Handler.withStream_withChannel]
      exact .answered (talks.brought brought) established awaits waits script (accounts.withStreams _ _)
  | dismissed joint opened dismisses waits last returned =>
      cases owned
      rw [Handler.withStream_withChannel]
      exact .dismissed (joint.brought brought) (brought.near_alike.closed.trans opened)
        (dismisses.brought brought.far_alike) waits last returned
  | abandoned joint opened dismisses last returned =>
      cases owned
      rw [Handler.withStream_withChannel]
      exact .abandoned (joint.brought brought) (brought.near_alike.closed.trans opened)
        (dismisses.brought brought.far_alike) last returned
  | noticing joint opened late waits last returned =>
      cases owned
      rw [Handler.withStream_withChannel]
      exact .noticing (joint.brought brought) (brought.near_alike.closed.trans opened) late waits last returned
  | gone sound closed late last fewer returned =>
      cases owned
      rw [Handler.withStream_withChannel]
      have alike := brought.near_alike
      exact .gone ⟨sound.usable, alike.failingCloses.trans sound.closable, alike.stalled.trans sound.prompt⟩
        (alike.closed.trans closed) late last fewer returned
  | astray last unaware fewer returned leaves => exact .astray last unaware fewer returned leaves
  | parting joint parts releases last answered =>
      cases owned
      rw [Handler.withStream_withChannel]
      cases parts with
      | announced returned =>
          exact .parting (joint.brought brought) (.announced returned) (releases.brought brought.far_alike) last
            answered
      | closed => exact .parting (joint.brought brought) .closed (releases.brought brought.far_alike) last answered

end Scene

end Courier
