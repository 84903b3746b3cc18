import Courier.Proofs.Dialogue.Handler
import Courier.Proofs.Dialogue.Script

/-!
# The scenes of a conversation

Client and handler take turns, so what they do together has few scenes: nothing is
under way, a greeting is, it is heard, its answer is. An answer that dismisses the
client leaves the two to themselves, and so does the client's own departure. Every
scene says where both are, what is under way between them, and how what the calls
have returned and what is still to come make up the whole.
-/

namespace Courier

open Client (Call Return Caller Calling Stage)
open Channel (Joint)

variable {suite : Suite} {policy : Policy} {near far : Channel} {session : Session} {phase : Phase}
  {out home : Transit} {begun : Octets} {said : List Message}

/-! ## Where the two are -/

/-- Two open ends with what is under way between them, where the client has not left. -/
structure Talks (suite : Suite) (near far : Channel) (session : Session) (out home : Transit) : Prop where
  joint : Joint suite near far out home
  nearOpened : near.stream.closed = false
  farOpened : far.stream.closed = false
  own : session.peerDisconnected = false

/-- What the calls have returned and the two ends have sent, with what is still to come, makes up the whole. -/
structure Accounts (whole : Prospect) (near far : Channel) (returns : List Return) (rest : Prospect) : Prop where
  returned : returns ++ rest.returns = whole.returns
  asked : near.sender.counter.toNat + rest.asks = whole.asks
  answered : far.sender.counter.toNat + rest.answers = whole.answers

/-- A handler that ends the conversation on its own account: what it still sends is its farewell. -/
inductive Dismisses (far : Channel) : List Message → Session → Phase → Prop where
  | leaving {session : Session} {phase : Phase} (leaves : phase.Leaves) (state : session.state = .disconnecting)
      (own : session.peerDisconnected = false) (opened : far.stream.closed = false)
      (more : far.sender.counter ≠ Cipher.lastCounter) : Dismisses far [] session phase
  | closed {session : Session} {phase : Phase} (late : phase.isOpen = false) :
      Dismisses far [.disconnect] session phase

/-- A handler whose client has announced its departure. -/
inductive Releases (suite : Suite) (far : Channel) : Transit → Session → Phase → Prop where
  | taking {begun : Octets} {session : Session} {phase : Phase}
      (takes : phase.Takes (far.nextBody suite .disconnect) begun) (established : session.state = .established)
      (opened : far.stream.closed = false) : Releases suite far ⟨begun, [.disconnect]⟩ session phase
  | hearing {session : Session} (established : session.state = .established) :
      Releases suite far {} session (.serving (.hearing .disconnect))
  | leaving {session : Session} {phase : Phase} (leaves : phase.Leaves) (state : session.state = .disconnecting)
      (released : session.peerDisconnected = true) : Releases suite far {} session phase
  | closed {session : Session} {phase : Phase} (late : phase.isOpen = false) : Releases suite far {} session phase

/-- A client that has announced its departure, and then is closed. -/
inductive Parts (whole : List Return) (near : Channel) : Caller → Prop where
  | announced {returns : List Return} (returned : returns ++ [.closed (.ok true)] = whole) :
      Parts whole near { client := ⟨near, .disconnecting⟩, stage? := some (.parting true), returns }
  | closed : Parts whole near { client := ⟨near, .closed⟩, returns := whole }

/-- Where the client and the handler of a conversation are. -/
inductive Scene (suite : Suite) (policy : Policy) (ending : Ending) (whole : Prospect) : Caller → Handler → Prop where
  | quiet {near far : Channel} {session : Session} {phase : Phase} {calls : List Call} {returns : List Return}
      (talks : Talks suite near far session {} {}) (established : session.state = .established)
      (awaits : phase.Awaits) (script : Script policy ending calls)
      (accounts : Accounts whole near far returns (policy.prospect calls)) :
      Scene suite policy ending whole { client := ⟨near, .established⟩, calls, returns }
        ⟨session.withChannel far, phase⟩
  | asked {near far : Channel} {session : Session} {phase : Phase} {calls : List Call} {returns : List Return}
      {begun : Octets} {version : UInt32}
      (talks : Talks suite near far session ⟨begun, [.greeting version]⟩ {})
      (established : session.state = .established)
      (takes : phase.Takes (far.nextBody suite (.greeting version)) begun)
      (script : Script policy ending (.greet version :: calls))
      (accounts : Accounts whole near far returns (policy.outstanding version calls)) :
      Scene suite policy ending whole
        { client := ⟨near, .established⟩, stage? := some (.listening true), calls, returns }
        ⟨session.withChannel far, phase⟩
  | hearing {near far : Channel} {session : Session} {calls : List Call} {returns : List Return} {version : UInt32}
      (talks : Talks suite near far session {} {}) (established : session.state = .established)
      (script : Script policy ending (.greet version :: calls))
      (accounts : Accounts whole near far returns (policy.outstanding version calls)) :
      Scene suite policy ending whole
        { client := ⟨near, .established⟩, stage? := some (.listening true), calls, returns }
        ⟨session.withChannel far, .serving (.hearing (.greeting version))⟩
  | replying {near far : Channel} {session : Session} {calls : List Call} {returns : List Return} {version : UInt32}
      (talks : Talks suite near far session {} {})
      (state : session.state =
        if policy.goesOnAfter (.greeting version) then .established else .disconnecting)
      (script : Script policy ending (.greet version :: calls))
      (accounts : Accounts whole near far returns (policy.outstanding version calls)) :
      Scene suite policy ending whole
        { client := ⟨near, .established⟩, stage? := some (.listening true), calls, returns }
        ⟨session.withChannel far, .serving (.replying (Session.answer version))⟩
  | answered {near far : Channel} {session : Session} {phase : Phase} {stage : Stage} {calls : List Call}
      {returns : List Return} {begun : Octets} {version : UInt32}
      (talks : Talks suite near far session {} ⟨begun, [Session.answer version]⟩)
      (established : session.state = .established) (awaits : phase.Awaits)
      (waits : stage.Waits (near.nextBody suite (Session.answer version)) true begun)
      (script : Script policy ending calls)
      (accounts : Accounts whole near far (returns ++ [.greeted (.ok (verdict version))]) (policy.prospect calls)) :
      Scene suite policy ending whole
        { client := ⟨near, .established⟩, stage? := some stage, calls, returns }
        ⟨session.withChannel far, phase⟩
  | dismissed {near far : Channel} {session : Session} {phase : Phase} {stage : Stage} {later : List Call}
      {returns : List Return} {begun : Octets} {said : List Message} {version : UInt32}
      (joint : Joint suite near far {} ⟨begun, Session.answer version :: said⟩)
      (opened : near.stream.closed = false) (dismisses : Dismisses far said session phase)
      (waits : stage.Waits (near.nextBody suite (Session.answer version)) true begun)
      (last : ending = .dismissed version later)
      (returned : returns ++ .greeted (.ok (verdict version)) :: aftermath later = whole.returns) :
      Scene suite policy ending whole
        { client := ⟨near, .established⟩, stage? := some stage, calls := later, returns }
        ⟨session.withChannel far, phase⟩
  | abandoned {near far : Channel} {session : Session} {phase : Phase} {later : List Call} {returns : List Return}
      {said : List Message} {version : UInt32} (joint : Joint suite near far {} ⟨[], said⟩)
      (opened : near.stream.closed = false) (dismisses : Dismisses far said session phase)
      (last : ending = .dismissed version later) (returned : returns ++ aftermath later = whole.returns) :
      Scene suite policy ending whole { client := ⟨near, .established⟩, calls := later, returns }
        ⟨session.withChannel far, phase⟩
  | noticing {near far : Channel} {session : Session} {phase : Phase} {stage : Stage} {later : List Call}
      {returns : List Return} {begun : Octets} {version : UInt32}
      (joint : Joint suite near far {} ⟨begun, [.disconnect]⟩) (opened : near.stream.closed = false)
      (late : phase.isOpen = false) (waits : stage.Waits (near.nextBody suite .disconnect) false begun)
      (last : ending = .dismissed version (.receive :: later))
      (returned : returns ++ .received (.ok .disconnect) :: later.map Call.onClosed = whole.returns) :
      Scene suite policy ending whole
        { client := ⟨near, .established⟩, stage? := some stage, calls := later, returns }
        ⟨session.withChannel far, phase⟩
  | gone {near far : Channel} {session : Session} {phase : Phase} {calls later : List Call} {returns : List Return}
      {version : UInt32} (sound : near.IsSound) (closed : near.stream.closed = true) (late : phase.isOpen = false)
      (last : ending = .dismissed version later) (fewer : calls.length ≤ later.length)
      (returned : returns ++ calls.map Call.onClosed = whole.returns) :
      Scene suite policy ending whole { client := ⟨near, .closed⟩, calls, returns } ⟨session.withChannel far, phase⟩
  | astray {caller : Caller} {session : Session} {phase : Phase} {later : List Call} {version : UInt32}
      (last : ending = .dismissed version later) (unaware : aftermath later = [])
      (fewer : caller.calls.length ≤ later.length) (returned : whole.returns <+: caller.returns)
      (leaves : phase.Leaves ∧ session.state = .disconnecting ∨ phase.isOpen = false) :
      Scene suite policy ending whole caller ⟨session, phase⟩
  | parting {near far : Channel} {session : Session} {phase : Phase} {caller : Caller} {out : Transit}
      (joint : Joint suite near far out {}) (parts : Parts whole.returns near caller)
      (releases : Releases suite far out session phase) (last : ending = .leaving)
      (answered : far.sender.counter.toNat = whole.answers) :
      Scene suite policy ending whole caller ⟨session.withChannel far, phase⟩

/-! ## Two open ends -/

namespace Talks

theorem ask (talks : Talks suite near far session {} {}) (more : near.sender.counter ≠ Cipher.lastCounter)
    {message : Message} (valid : message.isValid = true) :
    Talks suite (near.sent suite message) far session ⟨[], [message]⟩ {} :=
  ⟨(talks.joint.send talks.nearOpened talks.farOpened more valid).2, talks.nearOpened, talks.farOpened, talks.own⟩

theorem answer (talks : Talks suite near far session {} {}) (more : far.sender.counter ≠ Cipher.lastCounter)
    {message : Message} (valid : message.isValid = true) :
    Talks suite near (far.sent suite message) session {} ⟨[], [message]⟩ :=
  ⟨(talks.joint.symm.send talks.farOpened talks.nearOpened more valid).2.symm, talks.nearOpened, talks.farOpened,
    talks.own⟩

theorem brought (talks : Talks suite near far session out home) {nearAfter farAfter : Stream}
    (brought : near.stream.Brought far.stream nearAfter farAfter) :
    Talks suite (near.withStream nearAfter) (far.withStream farAfter) session out home :=
  ⟨talks.joint.brought brought, brought.near_alike.closed.trans talks.nearOpened,
    brought.far_alike.closed.trans talks.farOpened, talks.own⟩

end Talks

namespace Accounts

variable {whole rest : Prospect} {returns : List Return}

/-- The client can send what it has still to send. -/
theorem more_asks (accounts : Accounts whole near far returns rest)
    (enough : whole.asks ≤ Cipher.lastCounter.toNat) (positive : 0 < rest.asks) :
    near.sender.counter ≠ Cipher.lastCounter := by
  have asked := accounts.asked
  rw [Cipher.ne_lastCounter_iff]
  omega

/-- The server can send what it has still to send. -/
theorem more_answers (accounts : Accounts whole near far returns rest)
    (enough : whole.answers ≤ Cipher.lastCounter.toNat) (positive : 0 < rest.answers) :
    far.sender.counter ≠ Cipher.lastCounter := by
  have answered := accounts.answered
  rw [Cipher.ne_lastCounter_iff]
  omega

/-- Something that was to be asked has been. -/
theorem ask (accounts : Accounts whole near far returns { rest with asks := rest.asks + 1 })
    (more : near.sender.counter ≠ Cipher.lastCounter) (message : Message) :
    Accounts whole (near.sent suite message) far returns rest where
  returned := accounts.returned
  asked := by
    have asked := accounts.asked
    change near.sender.advanced.counter.toNat + rest.asks = _
    rw [Cipher.toNat_advanced more, Nat.add_right_comm]
    exact asked
  answered := accounts.answered

/-- Something that was to be answered has been. -/
theorem answer (accounts : Accounts whole near far returns { rest with answers := rest.answers + 1 })
    (more : far.sender.counter ≠ Cipher.lastCounter) (message : Message) :
    Accounts whole near (far.sent suite message) returns rest where
  returned := accounts.returned
  asked := accounts.asked
  answered := by
    have answered := accounts.answered
    change far.sender.advanced.counter.toNat + rest.answers = _
    rw [Cipher.toNat_advanced more, Nat.add_right_comm]
    exact answered

theorem withStreams (accounts : Accounts whole near far returns rest) (nearAfter farAfter : Stream) :
    Accounts whole (near.withStream nearAfter) (far.withStream farAfter) returns rest :=
  ⟨accounts.returned, accounts.asked, accounts.answered⟩

end Accounts

/-! ## Ends of the conversation -/

/-- A handler that dismisses its client comes closer to its farewell, or sends it, or has nothing more to send. -/
theorem Dismisses.step (dismisses : Dismisses far said session phase) (first : List Message)
    (joint : Joint suite near far out ⟨begun, first ++ said⟩) (opened : near.stream.closed = false) :
    ∃ far' session' phase' said',
      (⟨session.withChannel far, phase⟩ : Handler).step suite policy = ⟨session'.withChannel far', phase'⟩ ∧
        Dismisses far' said' session' phase' ∧ Joint suite near far' out ⟨begun, first ++ said'⟩ := by
  cases dismisses with
  | leaving leaves state own farOpened more =>
      have disconnecting : (session.withChannel far).state = .disconnecting := state
      rcases Handler.step_of_leaves leaves disconnecting with rfl | ⟨next, leaves, stepped⟩
      · have valid : Message.disconnect.isValid = true := rfl
        have told := (joint.symm.send farOpened opened more valid).2.close.2.symm
        rw [List.append_nil] at told
        exact ⟨_, _, _, _, Handler.step_closing joint opened farOpened more state own, .closed rfl, told⟩
      · exact ⟨_, _, _, _, stepped, .leaving leaves state own farOpened more, joint⟩
  | closed late =>
      obtain ⟨_, _, late, stepped⟩ := Handler.step_withChannel_of_late late
      exact ⟨_, _, _, _, stepped, .closed late, joint⟩

theorem Dismisses.brought (dismisses : Dismisses far said session phase) {farAfter : Stream}
    (alike : Stream.Passed.Alike far.stream farAfter) : Dismisses (far.withStream farAfter) said session phase := by
  cases dismisses with
  | leaving leaves state own opened more => exact .leaving leaves state own (alike.closed.trans opened) more
  | closed late => exact .closed late

/-- A handler whose client has announced its departure hears of it, closes the session and sends nothing. -/
theorem Releases.step (lawful : suite.Lawful) (releases : Releases suite far out session phase)
    (joint : Joint suite near far out home)
    (ready : (⟨session.withChannel far, phase⟩ : Handler).ready = true) :
    ∃ far' session' phase' out',
      (⟨session.withChannel far, phase⟩ : Handler).step suite policy = ⟨session'.withChannel far', phase'⟩ ∧
        Releases suite far' out' session' phase' ∧ Joint suite near far' out' home ∧ far'.sender = far.sender := by
  cases releases with
  | taking takes established opened =>
      obtain ⟨unread, ⟨begun, next, takes, joint, stepped⟩ | ⟨joint, stepped⟩⟩ :=
        Handler.step_of_takes lawful takes joint opened established ready
      · exact ⟨_, _, _, _, stepped, .taking takes established opened, joint, rfl⟩
      · exact ⟨_, _, _, _, stepped, .hearing established, joint, rfl⟩
  | hearing established =>
      exact ⟨_, _, _, _, Handler.step_hearing_disconnect established, .leaving .polling rfl rfl, joint, rfl⟩
  | leaving leaves state released =>
      have disconnecting : (session.withChannel far).state = .disconnecting := state
      rcases Handler.step_of_leaves leaves disconnecting with rfl | ⟨next, leaves, stepped⟩
      · exact ⟨_, _, _, _, Handler.step_closing_released joint state released, .closed rfl,
          joint.symm.close.2.symm, rfl⟩
      · exact ⟨_, _, _, _, stepped, .leaving leaves state released, joint, rfl⟩
  | closed late =>
      obtain ⟨_, _, late, stepped⟩ := Handler.step_withChannel_of_late late
      exact ⟨_, _, _, _, stepped, .closed late, joint, rfl⟩

theorem Releases.brought (releases : Releases suite far out session phase) {farAfter : Stream}
    (alike : Stream.Passed.Alike far.stream farAfter) :
    Releases suite (far.withStream farAfter) out session phase := by
  cases releases with
  | taking takes established opened => exact .taking takes established (alike.closed.trans opened)
  | hearing established => exact .hearing established
  | leaving leaves state released => exact .leaving leaves state released
  | closed late => exact .closed late

/-! ## What a scene tells -/

namespace Scene

variable {ending : Ending} {whole : Prospect} {caller : Caller} {handler : Handler}

/-- The calls return what was foreseen; a client that was dismissed and does not take notice may call on. -/
theorem returns_prefix (scene : Scene suite policy ending whole caller handler) :
    caller.returns <+: whole.returns ∨
      whole.returns <+: caller.returns ∧
        ∃ version later, ending = .dismissed version later ∧ aftermath later = [] := by
  cases scene with
  | quiet _ _ _ _ accounts | asked _ _ _ _ accounts | hearing _ _ _ accounts | replying _ _ _ accounts =>
      exact .inl ⟨_, accounts.returned⟩
  | answered _ _ _ _ _ accounts => exact .inl ⟨_, (List.append_assoc _ _ _).symm.trans accounts.returned⟩
  | dismissed _ _ _ _ _ returned | abandoned _ _ _ _ returned | noticing _ _ _ _ _ returned
  | gone _ _ _ _ _ returned => exact .inl ⟨_, returned⟩
  | astray last unaware _ returned => exact .inr ⟨returned, _, _, last, unaware⟩
  | parting _ parts =>
      cases parts with
      | announced returned => exact .inl ⟨_, returned⟩
      | closed => exact .inl (List.prefix_refl _)

/-- As long as the last calls have not begun, both sides are established. -/
theorem established_of_unbegun (scene : Scene suite policy ending whole caller handler)
    (unbegun : ending.calls.length ≤ caller.calls.length) :
    caller.client.state = .established ∧ handler.session.state = .established ∧ handler.isRetired = false := by
  have still {session : Session} {phase : Phase} (place : phase.isOpen = true) :
      (⟨session, phase⟩ : Handler).isRetired = false := by
    cases phase <;> first | rfl | cases place
  have early {phase : Phase} (awaits : phase.Awaits) : phase.isOpen = true := by cases awaits <;> rfl
  have begun {version : UInt32} {later calls : List Call} (last : ending = .dismissed version later)
      (fewer : calls.length ≤ later.length) : ¬ ending.calls.length ≤ calls.length := by
    rw [last]
    exact Nat.not_le_of_lt (Nat.lt_succ_of_le fewer)
  cases scene with
  | quiet _ established awaits => exact ⟨rfl, established, still (early awaits)⟩
  | asked _ established takes =>
      refine ⟨rfl, established, still ?_⟩
      cases takes with
      | awaiting awaits => exact early awaits
      | measuring | awaitingBody | opening => rfl
  | hearing _ established => exact ⟨rfl, established, rfl⟩
  | @replying _ _ _ calls _ version _ state script =>
      cases goesOn : policy.goesOnAfter (.greeting version) with
      | true => exact ⟨rfl, state.trans (if_pos goesOn), rfl⟩
      | false => exact absurd unbegun (begun (script.of_ends goesOn) (Nat.le_refl _))
  | answered _ established awaits => exact ⟨rfl, established, still (early awaits)⟩
  | dismissed _ _ _ _ last => exact absurd unbegun (begun last (Nat.le_refl _))
  | abandoned _ _ _ last => exact absurd unbegun (begun last (Nat.le_refl _))
  | noticing _ _ _ _ last => exact absurd unbegun (begun last (Nat.le_succ _))
  | gone _ _ _ last fewer => exact absurd unbegun (begun last fewer)
  | astray last _ fewer => exact absurd unbegun (begun last fewer)
  | parting _ parts _ last =>
      rw [last] at unbegun
      cases parts <;> cases unbegun

/-- The scenes in which nothing more can happen. -/
inductive Last (suite : Suite) (whole : Prospect) : Ending → Caller → Handler → Prop where
  | staying {near far : Channel} {session : Session} {phase : Phase}
      (talks : Talks suite near far session {} {}) (established : session.state = .established) :
      Last suite whole .staying { client := ⟨near, .established⟩, returns := whole.returns }
        ⟨session.withChannel far, phase⟩
  | leaving {near far : Channel} {session : Session} (joint : Joint suite near far {} {})
      (answered : far.sender.counter.toNat = whole.answers) :
      Last suite whole .leaving { client := ⟨near, .closed⟩, returns := whole.returns }
        ⟨session.withChannel far, .retired⟩
  | dismissed {caller : Caller} {session : Session} {version : UInt32} {later : List Call}
      (returned : whole.returns <+: caller.returns)
      (noticed : aftermath later ≠ [] → caller.returns = whole.returns ∧ caller.client.state = .closed) :
      Last suite whole (.dismissed version later) caller ⟨session, .retired⟩

/-- Where nothing more can happen, the conversation has come to its end. -/
theorem last (scene : Scene suite policy ending whole caller handler) (silent : caller.ready = false)
    (idle : handler.ready = false) (broughtForth : caller.client.channel.stream.accepted = [])
    (broughtBack : ∀ far, handler.session.transport.stream? = some far → far.accepted = []) :
    Last suite whole ending caller handler := by
  have goesOn {ready : Bool} (able : ready = true) (unable : ready = false) :
      Last suite whole ending caller handler := by
    rw [able] at unable
    cases unable
  cases scene with
  | quiet talks established awaits script accounts =>
      cases script with
      | staying =>
          have returned := (List.append_nil _).symm.trans accounts.returned
          rw [returned]
          exact .staying talks established
      | leaving | dismissed | greeting => exact goesOn rfl silent
  | asked talks established takes => exact goesOn (Handler.ready_of_takes takes talks.joint broughtForth) idle
  | hearing | replying => exact goesOn rfl idle
  | answered talks _ _ waits => exact goesOn (Caller.ready_of_waits rfl waits talks.joint (broughtBack _ rfl)) silent
  | dismissed joint _ _ waits => exact goesOn (Caller.ready_of_waits rfl waits joint (broughtBack _ rfl)) silent
  | @abandoned near far session phase later returns said version joint opened dismisses last returned =>
      cases dismisses with
      | leaving leaves => exact goesOn (Handler.ready_of_leaves leaves) idle
      | closed late =>
          cases Handler.eq_retired_of_late late idle
          cases last
          cases later with
          | nil =>
              have returned : whole.returns = returns := returned.symm.trans (List.append_nil returns)
              exact .dismissed (returned ▸ List.prefix_refl _) fun aware => absurd rfl aware
          | cons call later =>
              cases call with
              | greet | send | close => exact goesOn rfl silent
              | receive =>
                  have begins : Stage.Waits (near.nextBody suite .disconnect) false [] (.start .receive) := .listening
                  exact goesOn (Caller.ready_of_waits rfl begins joint (broughtBack _ rfl)) silent
  | noticing joint _ _ waits => exact goesOn (Caller.ready_of_waits rfl waits joint (broughtBack _ rfl)) silent
  | @gone _ _ _ _ calls _ _ _ sound closed late last fewer returned =>
      cases Handler.eq_retired_of_late late idle
      cases last
      cases calls with
      | nil =>
          rw [List.map_nil, List.append_nil] at returned
          exact .dismissed (returned ▸ List.prefix_refl _) fun _ => ⟨returned, rfl⟩
      | cons call calls => cases call <;> exact goesOn rfl silent
  | astray last unaware fewer returned leaves =>
      rcases leaves with ⟨leaves, _⟩ | late
      · exact goesOn (Handler.ready_of_leaves leaves) idle
      · cases Handler.eq_retired_of_late late idle
        cases last
        exact .dismissed returned fun aware => absurd unaware aware
  | parting joint parts releases last answered =>
      cases parts with
      | announced => exact goesOn rfl silent
      | closed =>
          cases last
          cases releases with
          | taking takes => exact goesOn (Handler.ready_of_takes takes joint broughtForth) idle
          | hearing => exact goesOn rfl idle
          | leaving leaves => exact goesOn (Handler.ready_of_leaves leaves) idle
          | closed late =>
              cases Handler.eq_retired_of_late late idle
              exact .leaving joint answered

end Scene

end Courier
