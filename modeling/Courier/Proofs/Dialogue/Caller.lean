import Courier.Proofs.Dialogue.Lane

/-!
# The steps of a caller

What a call does when its client is joined to the other end: it sends whole, it
takes the next frame off the stream in two reads, it takes note of what came. Each
step is given with what is under way afterwards. On a client that is closed, every
call returns at its first step.
-/

namespace Courier.Client

open Channel (Joint)

variable {suite : Suite} {near far : Channel} {out home : Transit} {message : Message} {rest : List Message}
  {version : UInt32} {greeted : Bool}

/-- What a call returns on a client that is closed. -/
def Call.onClosed : Call → Return
  | .greet _ => .greeted (.error (.protocol (.sendIn .closed)))
  | .send _ => .sent (.error (.protocol (.sendIn .closed)))
  | .receive => .received (.error (.protocol (.receiveIn .closed)))
  | .close => .closed (.ok false)

/-- The places of a call that waits for the frame of this sealed payload, with what it has taken off the
stream. -/
inductive Stage.Waits (body : Octets) (greeted : Bool) : Octets → Stage → Prop where
  | listening : Waits body greeted [] (.listening greeted)
  | awaitingBody : Waits body greeted (Channel.lengthField body).val (.awaitingBody greeted body.length)

namespace Calling

theorem ask_of_joint (joint : Joint suite near far out home) (nearOpened : near.stream.closed = false)
    (farOpened : far.stream.closed = false) (more : near.sender.counter ≠ Cipher.lastCounter) (version : UInt32) :
    ask suite ⟨near, .established⟩ version =
      ⟨.listening true, ⟨near.sent suite (.greeting version), .established⟩⟩ := by
  have sends : near.send suite (.greeting version) = (.ok (), near.sent suite (.greeting version)) :=
    (joint.send nearOpened farOpened more rfl).1
  have established : ¬ (⟨near, .established⟩ : Client).state ≠ .established := not_not_intro rfl
  rw [ask, Client.send, if_neg established, withChannel, sends]

theorem listen_of_joint (lawful : suite.Lawful) (joint : Joint suite near far out { messages := message :: rest })
    (opened : near.stream.closed = false) (ready : near.stream.readable Channel.lengthSize = true)
    (greeted : Bool) :
    ∃ unread, listen ⟨near, .established⟩ greeted =
        ⟨.awaitingBody greeted (near.nextBody suite message).length, ⟨near.withUnread unread, .established⟩⟩ ∧
      Joint suite (near.withUnread unread) far out
        ⟨(Channel.lengthField (near.nextBody suite message)).val, message :: rest⟩ := by
  obtain ⟨unread, read, after⟩ := joint.symm.readLength opened ready
  refine ⟨unread, ?_, after.symm⟩
  have established : ¬ (⟨near, .established⟩ : Client).state ≠ .established := not_not_intro rfl
  have taken : near.takeLength = (.ok (near.nextBody suite message).length, near.withUnread unread) :=
    (Channel.takeLength_of_usable joint.nearSound.usable read).trans
      (Channel.judgeLength_lengthField lawful _ near message)
  rw [listen, if_neg established]
  simp only [taken]

theorem receiveBody_of_joint (lawful : suite.Lawful)
    (joint : Joint suite near far out
      ⟨(Channel.lengthField (near.nextBody suite message)).val, message :: rest⟩)
    (opened : near.stream.closed = false)
    (ready : near.stream.readable (near.nextBody suite message).length = true) :
    ∃ unread, Client.receiveBody suite ⟨near, .established⟩ (near.nextBody suite message).length =
        heed ⟨(near.withUnread unread).heard, .established⟩ message ∧
      Joint suite (near.withUnread unread).heard far out { messages := rest } := by
  obtain ⟨unread, read, after⟩ := joint.symm.readBody opened ready
  obtain ⟨opens, last⟩ := after.openFrame lawful
  refine ⟨unread, ?_, last.symm⟩
  have taken : near.takeBody (near.nextBody suite message).length =
      (.ok (near.nextBody suite message), near.withUnread unread) := by
    rw [Channel.takeBody, read]
    rfl
  rw [Client.receiveBody, taken, Outcome.andThen_ok]
  have opens : ((near.withUnread unread).openBody suite (near.nextBody suite message)).andThen _ = _ := opens
  rw [opens]
  rfl

theorem heed_disconnect (joint : Joint suite near far out home) :
    heed ⟨near, .established⟩ .disconnect = (.ok .disconnect, ⟨near.shut, .closed⟩) := by
  have possible : (⟨near, .established⟩ : Client).state.canBecome .disconnecting = true := rfl
  rw [heed, Client.leave, if_pos possible, withChannel, joint.close.1]
  rfl

/-- The departure is announced whole. -/
theorem leave_of_joint (joint : Joint suite near far out home) (nearOpened : near.stream.closed = false)
    (farOpened : far.stream.closed = false) (more : near.sender.counter ≠ Cipher.lastCounter) :
    leave suite ⟨near, .established⟩ = ⟨.parting true, ⟨near.sent suite .disconnect, .disconnecting⟩⟩ := by
  have sends : near.send suite .disconnect = (.ok (), near.sent suite .disconnect) :=
    (joint.send nearOpened farOpened more rfl).1
  have possible : (⟨near, .established⟩ : Client).state.canBecome .disconnecting = true := rfl
  have prepared : near.prepare suite Message.disconnect.encode = _ :=
    Channel.prepare_of_fits joint.nearSound.usable (Channel.encode_fits .disconnect) more
  rw [Channel.send, Channel.sendFrame, prepared, Outcome.andThen_ok] at sends
  have writable : near.stream.writable = true := by simp [Stream.writable, joint.nearSound.prompt]
  rw [leave, if_pos possible]
  simp only [prepared, announce]
  rw [if_pos writable, sends]

theorem conclude_of_joint (joint : Joint suite near far out home) (delivered : Bool) :
    Client.conclude ⟨near, .disconnecting⟩ delivered = (.ok delivered, ⟨near.shut, .closed⟩) := by
  rw [Client.conclude, withChannel, joint.close.1]
  rfl

/-- Whatever is called on a closed client returns at once, and the client stays as it is. -/
theorem step_start_of_closed (sound : near.IsSound) (closed : near.stream.closed = true) (call : Call) :
    (⟨.start call, ⟨near, .closed⟩⟩ : Calling).step suite = ⟨.returned call.onClosed, ⟨near, .closed⟩⟩ := by
  cases call with
  | greet | send | receive => rfl
  | close =>
      have again : near.close = (.ok (), near) := by
        rw [Channel.close, Stream.close_of_closed sound.closable closed]
      have left : ¬ (⟨near, .closed⟩ : Client).state.canBecome .disconnecting = true := Bool.false_ne_true
      change leave suite ⟨near, .closed⟩ = _
      rw [leave, if_neg left, Client.close, if_neg left, withChannel]
      simp only [again]
      rfl

end Calling

/-! ## Callers -/

namespace Caller

variable {caller : Caller} {calling : Calling} {calls : List Call} {stage : Stage} {client : Client}
  {result : Return} {begun : Octets}

/-- The caller when its client has this stream. -/
def withStream (caller : Caller) (stream : Stream) : Caller :=
  { caller with client := { caller.client with channel := caller.client.channel.withStream stream } }

theorem ready_of_current (current : caller.current? = some (calling, calls)) :
    caller.ready = calling.ready := by
  rw [ready, current]
  rfl

theorem step_of_going (current : caller.current? = some (calling, calls))
    (stepped : calling.step suite = ⟨stage, client⟩) (going : stage.result? = none) :
    caller.step suite = { client, stage? := some stage, calls, returns := caller.returns } := by
  simp only [step, current, stepped]
  cases stage <;> first | rfl | cases going

theorem step_of_returned (current : caller.current? = some (calling, calls))
    (stepped : calling.step suite = ⟨.returned result, client⟩) :
    caller.step suite = { client, calls, returns := caller.returns ++ [result] } := by
  simp only [step, current, stepped]

/-- A greeting is sent whole, and then its answer is waited for. -/
theorem step_greet (joint : Joint suite near far out home) (nearOpened : near.stream.closed = false)
    (farOpened : far.stream.closed = false) (more : near.sender.counter ≠ Cipher.lastCounter) (version : UInt32)
    (calls : List Call) (returns : List Return) :
    step suite { client := ⟨near, .established⟩, calls := .greet version :: calls, returns } =
      { client := ⟨near.sent suite (.greeting version), .established⟩, stage? := some (.listening true), calls,
        returns } := by
  have asks : (⟨.start (.greet version), ⟨near, .established⟩⟩ : Calling).step suite = _ :=
    Calling.ask_of_joint joint nearOpened farOpened more version
  exact step_of_going rfl asks rfl

/-- The departure is announced whole. -/
theorem step_close (joint : Joint suite near far out home) (nearOpened : near.stream.closed = false)
    (farOpened : far.stream.closed = false) (more : near.sender.counter ≠ Cipher.lastCounter)
    (calls : List Call) (returns : List Return) :
    step suite { client := ⟨near, .established⟩, calls := .close :: calls, returns } =
      { client := ⟨near.sent suite .disconnect, .disconnecting⟩, stage? := some (.parting true), calls, returns } := by
  have leaves : (⟨.start .close, ⟨near, .established⟩⟩ : Calling).step suite = _ :=
    Calling.leave_of_joint joint nearOpened farOpened more
  exact step_of_going rfl leaves rfl

/-- Once it is announced, the client is closed. -/
theorem step_parting (joint : Joint suite near far out home) (calls : List Call) (returns : List Return) :
    step suite { client := ⟨near, .disconnecting⟩, stage? := some (.parting true), calls, returns } =
      { client := ⟨near.shut, .closed⟩, calls, returns := returns ++ [.closed (.ok true)] } := by
  have concludes := Calling.conclude_of_joint joint true
  have stepped : (⟨.parting true, ⟨near, .disconnecting⟩⟩ : Calling).step suite =
      ⟨.returned (.closed (.ok true)), ⟨near.shut, .closed⟩⟩ := by
    rw [Calling.step]
    simp only [concludes]
  exact step_of_returned rfl stepped

theorem step_of_closed (sound : near.IsSound) (closed : near.stream.closed = true) (call : Call)
    (calls : List Call) (returns : List Return) :
    step suite { client := ⟨near, .closed⟩, calls := call :: calls, returns } =
      { client := ⟨near, .closed⟩, calls, returns := returns ++ [call.onClosed] } :=
  step_of_returned rfl (Calling.step_start_of_closed sound closed call)

/-- One step of a call that waits for a message which is under way: it has come closer to the message, or
takes note of it and returns. -/
theorem step_of_waits (lawful : suite.Lawful)
    (current : caller.current? = some (⟨stage, ⟨near, .established⟩⟩, calls))
    (waits : stage.Waits (near.nextBody suite message) greeted begun) (opened : near.stream.closed = false)
    (joint : Joint suite near far out ⟨begun, message :: rest⟩) (ready : caller.ready = true) :
    ∃ unread,
      (∃ stage begun, Stage.Waits (near.nextBody suite message) greeted begun stage ∧
        Joint suite (near.withUnread unread) far out ⟨begun, message :: rest⟩ ∧
        caller.step suite =
          { client := ⟨near.withUnread unread, .established⟩, stage? := some stage, calls,
            returns := caller.returns }) ∨
      (Joint suite (near.withUnread unread).heard far out { messages := rest } ∧
        ∀ result client,
          Calling.giveBack greeted (heed ⟨(near.withUnread unread).heard, .established⟩ message) =
            ⟨.returned result, client⟩ →
          caller.step suite = { client, calls, returns := caller.returns ++ [result] }) := by
  rw [ready_of_current current] at ready
  cases waits with
  | listening =>
      have ready : near.stream.readable Channel.lengthSize = true := by
        simpa [Calling.ready, joint.nearSound.usable] using ready
      obtain ⟨unread, listens, after⟩ := Calling.listen_of_joint lawful joint opened ready greeted
      exact ⟨unread, .inl ⟨_, _, .awaitingBody, after, step_of_going current listens rfl⟩⟩
  | awaitingBody =>
      obtain ⟨unread, receives, after⟩ := Calling.receiveBody_of_joint lawful joint opened ready
      refine ⟨unread, .inr ⟨after, fun result client returned => step_of_returned current ?_⟩⟩
      rw [← returned, ← receives]
      rfl

/-- While nothing is under way to it, a call that waits for a message can not go on. -/
theorem not_ready_of_joint (current : caller.current? = some (⟨.listening greeted, ⟨near, .established⟩⟩, calls))
    (joint : Joint suite near far out {}) (nearOpened : near.stream.closed = false)
    (farOpened : far.stream.closed = false) : caller.ready = false := by
  have waits : near.stream.readable Channel.lengthSize = false :=
    joint.back.not_readable farOpened nearOpened (by decide)
  simp [ready_of_current current, Calling.ready, joint.nearSound.usable, waits]

/-- A call that waits for a message goes on once everything has been brought over. -/
theorem ready_of_waits
    (current : caller.current? = some (⟨stage, ⟨near, .established⟩⟩, calls))
    (waits : stage.Waits (near.nextBody suite message) greeted begun)
    (joint : Joint suite near far out ⟨begun, message :: rest⟩) (brought : far.stream.accepted = []) :
    caller.ready = true := by
  rw [ready_of_current current]
  cases waits with
  | listening => simp [Calling.ready, joint.symm.readable_length brought]
  | awaitingBody => exact joint.symm.readable_body brought

/-- A step takes back nothing that was returned, and adds no calls. -/
theorem step_extends (suite : Suite) (caller : Caller) :
    caller.returns <+: (caller.step suite).returns ∧ (caller.step suite).calls.length ≤ caller.calls.length := by
  cases current : caller.current? with
  | none =>
      simp only [step, current]
      exact ⟨List.prefix_refl _, Nat.le_refl _⟩
  | some pair =>
      obtain ⟨calling, calls⟩ := pair
      have fewer : calls.length ≤ caller.calls.length := by
        obtain ⟨client, _ | stage, _ | ⟨call, rest⟩, returns⟩ := caller <;> cases current
        · exact Nat.le_succ _
        · exact Nat.le_refl _
        · exact Nat.le_refl _
      simp only [step, current]
      split
      · exact ⟨List.prefix_append _ _, fewer⟩
      · exact ⟨List.prefix_refl _, fewer⟩

end Caller

end Courier.Client
