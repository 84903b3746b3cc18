import Courier.Proofs.Channel.Poisoning

/-!
# The two directions of a channel

What is sent depends on the cipher that seals and on the room of the stream, and
what is received on the cipher that opens and on the bytes that have arrived. The
channel itself, whether it is usable and its stream open, belongs to both: a
receive that meets a corrupt frame ends it for both. As long as none does, a run is
its sends and its receives side by side.
-/

namespace Courier

/-- A step that does not notice a change of the state goes on from a changed state as from the state itself. -/
theorem Outcome.andThen_map {State Result Next : Type} {change : State → State} {first : Outcome State Result}
    {next : Result → State → Outcome State Next}
    (unnoticed : ∀ result state, next result (change state) = Prod.map id change (next result state)) :
    Outcome.andThen (Prod.map id change first) next = Prod.map id change (first.andThen next) := by
  obtain ⟨result, state⟩ := first
  cases result with
  | error failure => rfl
  | ok result => exact unnoticed result state

/-! ## Streams -/

namespace Stream

/-- The stream that writes as one stream and reads as another. -/
def meld (outward inward : Stream) : Stream :=
  { inward with accepted := outward.accepted, room := outward.room }

variable (outward inward : Stream)

/-- Reading does not look at what was written. -/
theorem read_meld (count : Nat) :
    (outward.meld inward).read count = Prod.map id outward.meld (inward.read count) := by
  have same : (outward.meld inward).available count = inward.available count := rfl
  unfold read
  simp only [same]
  split <;> rfl

theorem close_meld : (outward.meld inward).close = Prod.map id outward.meld inward.close := by
  have same : (outward.meld inward).failingCloses = inward.failingCloses := rfl
  unfold close
  rw [same]
  split <;> rfl

/-- Writing does not look at what has arrived. -/
theorem write_meld (closed : outward.closed = inward.closed) (data : Octets) :
    (outward.meld inward).write data =
      ((outward.write data).1, (outward.write data).2.1, (outward.write data).2.2.meld inward) := by
  have same : (outward.meld inward).capacity data.length = outward.capacity data.length := by
    unfold capacity
    rw [closed]
    rfl
  unfold write
  rw [same]
  rfl

end Stream

namespace Channel

variable {suite : Suite} {outward inward : Channel} {operation : Operation}

/-- The channel that sends as one channel and receives as another. -/
def meld (outward inward : Channel) : Channel :=
  { inward with sender := outward.sender, stream := outward.stream.meld inward.stream }

@[simp] theorem meld_self (channel : Channel) : channel.meld channel = channel := rfl

/-- What both directions depend on is the same for two channels. -/
structure Agrees (first second : Channel) : Prop where
  poisoned : first.poisoned = second.poisoned
  closed : first.stream.closed = second.stream.closed
  address : first.address = second.address

theorem Agrees.refl (channel : Channel) : Agrees channel channel := ⟨rfl, rfl, rfl⟩

theorem Agrees.trans {first second third : Channel} (begun : Agrees first second) (ended : Agrees second third) :
    Agrees first third :=
  ⟨begun.poisoned.trans ended.poisoned, begun.closed.trans ended.closed, begun.address.trans ended.address⟩

/-! ## Receiving beside sends -/

section Receiving

variable (suite outward inward)

theorem fail_meld {Result : Type} (error : FrameError) :
    ((outward.meld inward).fail error : Outcome Channel Result) = Prod.map id outward.meld (inward.fail error) := by
  have closing := outward.stream.close_meld inward.stream
  have same : (outward.meld inward).stream.close = (outward.stream.meld inward.stream).close := rfl
  unfold fail close
  simp only [same, closing]
  generalize inward.stream.close = closed
  obtain ⟨done, stream⟩ := closed
  cases done <;> rfl

theorem judgeLength_meld (reading : Except Nat (Block lengthSize)) :
    (outward.meld inward).judgeLength reading = Prod.map id outward.meld (inward.judgeLength reading) := by
  unfold judgeLength
  split
  · rfl
  · exact fail_meld outward inward _
  · simp only
    split
    · exact fail_meld outward inward _
    · rfl

theorem takeLength_meld :
    (outward.meld inward).takeLength = Prod.map id outward.meld inward.takeLength := by
  have same : (outward.meld inward).poisoned = inward.poisoned := rfl
  have reading : (outward.meld inward).stream.read lengthSize =
      Prod.map id outward.stream.meld (inward.stream.read lengthSize) := outward.stream.read_meld _ _
  unfold takeLength
  rw [same, reading]
  split
  · rfl
  · exact judgeLength_meld outward { inward with stream := (inward.stream.read lengthSize).2 } _

theorem judgeBody_meld (length : Nat) (reading : Except Nat (Block length)) :
    (outward.meld inward).judgeBody length reading =
      Prod.map id outward.meld (inward.judgeBody length reading) := by
  cases reading with
  | error found => exact fail_meld outward inward _
  | ok body => rfl

theorem takeBody_meld (length : Nat) :
    (outward.meld inward).takeBody length = Prod.map id outward.meld (inward.takeBody length) := by
  have reading : (outward.meld inward).stream.read length =
      Prod.map id outward.stream.meld (inward.stream.read length) := outward.stream.read_meld _ _
  unfold takeBody
  rw [reading]
  exact judgeBody_meld outward { inward with stream := (inward.stream.read length).2 } length _

theorem openBody_meld (body : Octets) :
    (outward.meld inward).openBody suite body = Prod.map id outward.meld (inward.openBody suite body) := by
  have same : (outward.meld inward).receiver = inward.receiver := rfl
  unfold openBody
  rw [same]
  generalize inward.receiver.openBuffer suite body = use
  obtain ⟨refusal, payload, receiver⟩ := use
  cases refusal with
  | some error => exact fail_meld outward { inward with receiver } _
  | none => rfl

theorem interpret_meld (payload : Octets) :
    (outward.meld inward).interpret payload = Prod.map id outward.meld (inward.interpret payload) := by
  unfold interpret
  split <;> rfl

/-- Receiving does not notice what was sent. -/
theorem receiveFrame_meld :
    (outward.meld inward).receiveFrame suite = Prod.map id outward.meld (inward.receiveFrame suite) := by
  rw [receiveFrame, takeLength_meld, Outcome.andThen_map fun length channel => takeBody_meld outward channel length,
    Outcome.andThen_map fun body channel => openBody_meld suite outward channel body]
  rfl

theorem receive_meld :
    (outward.meld inward).receive suite = Prod.map id outward.meld (inward.receive suite) := by
  rw [receive, receiveFrame_meld, Outcome.andThen_map fun payload channel => interpret_meld outward channel payload]
  rfl

end Receiving

/-! ## Sending beside receipts -/

theorem prepare_meld (agrees : Agrees outward inward) (payload : Octets) :
    (outward.meld inward).prepare suite payload = Prod.map id (·.meld inward) (outward.prepare suite payload) := by
  have poisoned : (outward.meld inward).poisoned = outward.poisoned := agrees.poisoned.symm
  have address : (outward.meld inward).address = outward.address := agrees.address.symm
  have sender : (outward.meld inward).sender = outward.sender := rfl
  cases usable : outward.poisoned with
  | true =>
      rw [prepare_of_poisoned usable, prepare_of_poisoned (poisoned.trans usable), address]
      rfl
  | false =>
      unfold prepare
      rw [sender, if_neg (Bool.eq_false_iff.mp usable), if_neg (Bool.eq_false_iff.mp (poisoned.trans usable))]
      split
      · rfl
      · split <;> rfl

theorem transmit_meld (agrees : Agrees outward inward) (framed : Octets) :
    (outward.meld inward).transmit framed = Prod.map id (·.meld inward) (outward.transmit framed) := by
  have writing : (outward.meld inward).stream.write framed = _ := outward.stream.write_meld _ agrees.closed framed
  unfold transmit
  rw [writing]
  generalize outward.stream.write framed = written
  obtain ⟨count, fault, stream⟩ := written
  cases fault <;> rfl

/-- Sending does not notice what was received. -/
theorem sendFrame_meld (agrees : Agrees outward inward) (payload : Octets) :
    (outward.meld inward).sendFrame suite payload =
      Prod.map id (·.meld inward) (outward.sendFrame suite payload) := by
  have kept : (outward.prepare suite payload).2.Agrees inward := by
    have sealing := preparation suite outward payload
    generalize outward.prepare suite payload = prepared at sealing
    cases sealing with
    | poisoned | oversize | exhausted => exact agrees
    | framed usable fits more => exact ⟨agrees.poisoned, agrees.closed, agrees.address⟩
  rw [sendFrame, prepare_meld agrees, sendFrame]
  generalize outward.prepare suite payload = prepared at kept
  obtain ⟨framed, middle⟩ := prepared
  cases framed with
  | error failure => rfl
  | ok framed => exact transmit_meld kept framed

/-- Sending ends the channel for neither direction. -/
theorem agrees_sendFrame (suite : Suite) (channel : Channel) (payload : Octets) :
    (channel.sendFrame suite payload).2.Agrees channel := by
  rcases snd_sendFrame suite channel payload with same | ⟨framed, written⟩
  · rw [same]
    exact .refl channel
  · rw [written]
    exact ⟨rfl, rfl, rfl⟩

/-! ## Receipts that end nothing -/

/-- What is thrown on a corrupt frame: a frame error, or in its place what the stream throws on being closed. -/
def IsAlarm : Failure → Prop
  | .frame _ | .streamClose => True
  | _ => False

/-- A receipt that does not end the channel leaves what both directions depend on. -/
def IsCalm {Result : Type} (channel : Channel) (outcome : Outcome Channel Result) : Prop :=
  (∀ failure, outcome.1 = .error failure → ¬ IsAlarm failure) → channel.Agrees outcome.2

theorem isCalm_fail {Result : Type} (channel middle : Channel) (error : FrameError) :
    channel.IsCalm (middle.fail error : Outcome Channel Result) := by
  intro quiet
  unfold fail close at quiet
  generalize ({ middle with poisoned := true } : Channel).stream.close = closed at quiet
  obtain ⟨done, stream⟩ := closed
  cases done with
  | true => exact absurd trivial (quiet _ rfl)
  | false => exact absurd trivial (quiet _ rfl)

theorem IsCalm.andThen {Result Next : Type} {channel : Channel} {first : Outcome Channel Result}
    {next : Result → Channel → Outcome Channel Next} (begun : channel.IsCalm first)
    (ended : ∀ result middle, IsCalm middle (next result middle)) : channel.IsCalm (first.andThen next) := by
  obtain ⟨result, middle⟩ := first
  cases result with
  | error failure => exact fun quiet => begun fun other same => quiet other (by cases same; rfl)
  | ok result => exact fun quiet => (begun nofun).trans (ended result middle quiet)

theorem agrees_read (channel : Channel) (count : Nat) :
    channel.Agrees { channel with stream := (channel.stream.read count).2 } := by
  unfold Stream.read
  simp only
  split <;> exact ⟨rfl, rfl, rfl⟩

theorem isCalm_takeLength (channel : Channel) : channel.IsCalm channel.takeLength := by
  have read := agrees_read channel lengthSize
  unfold takeLength
  split
  · exact fun _ => .refl channel
  · unfold judgeLength
    simp only
    split
    · exact fun _ => read
    · exact isCalm_fail _ _ _
    · split
      · exact isCalm_fail _ _ _
      · exact fun _ => read

theorem isCalm_takeBody (channel : Channel) (length : Nat) : channel.IsCalm (channel.takeBody length) := by
  have read := agrees_read channel length
  unfold takeBody judgeBody
  simp only
  split
  · exact isCalm_fail _ _ _
  · exact fun _ => read

theorem isCalm_openBody (suite : Suite) (channel : Channel) (body : Octets) :
    channel.IsCalm (channel.openBody suite body) := by
  unfold openBody
  split
  · exact isCalm_fail _ _ _
  · exact fun _ => ⟨rfl, rfl, rfl⟩

theorem isCalm_interpret (channel : Channel) (payload : Octets) : channel.IsCalm (channel.interpret payload) := by
  unfold interpret
  split <;> exact fun _ => .refl channel

theorem isCalm_receiveFrame (suite : Suite) (channel : Channel) : channel.IsCalm (channel.receiveFrame suite) :=
  ((isCalm_takeLength channel).andThen fun length middle => isCalm_takeBody middle length).andThen
    fun body middle => isCalm_openBody suite middle body

theorem isCalm_receive (suite : Suite) (channel : Channel) : channel.IsCalm (channel.receive suite) :=
  (isCalm_receiveFrame suite channel).andThen fun payload middle => isCalm_interpret middle payload

/-! ## Operations -/

/-- The failure that an answer tells. -/
def Answer.failure? : Answer → Option Failure
  | done (.error failure) | payload (.error failure) | message (.error failure) => some failure
  | _ => none

namespace Operation

theorem perform_meld_of_outgoing? {payload : Octets} (agrees : Agrees outward inward)
    (outgoing : operation.outgoing? = some payload) :
    operation.perform suite (outward.meld inward) =
      Prod.map id (·.meld inward) (operation.perform suite outward) := by
  rw [perform_of_outgoing? suite _ outgoing, perform_of_outgoing? suite _ outgoing, sendFrame_meld agrees]
  rfl

theorem agrees_perform_of_outgoing? {payload : Octets} (suite : Suite) (channel : Channel)
    (outgoing : operation.outgoing? = some payload) : (operation.perform suite channel).2.Agrees channel := by
  rw [perform_of_outgoing? suite _ outgoing]
  exact agrees_sendFrame suite channel payload

theorem perform_meld_of_receives (receives : operation.receives = true) :
    operation.perform suite (outward.meld inward) =
      Prod.map id outward.meld (operation.perform suite inward) := by
  cases operation with
  | receive =>
      rw [perform, receive_meld]
      rfl
  | receiveFrame =>
      rw [perform, receiveFrame_meld]
      rfl
  | send message | sendFrame payload | close | feed bytes => cases receives

theorem agrees_perform_of_receives {channel : Channel} (receives : operation.receives = true)
    (quiet : ∀ failure, (operation.perform suite channel).1.failure? = some failure → ¬ IsAlarm failure) :
    channel.Agrees (operation.perform suite channel).2 := by
  cases operation with
  | receive =>
      refine isCalm_receive suite channel fun failure thrown => quiet failure ?_
      rw [perform, Prod.map_fst, thrown]
      rfl
  | receiveFrame =>
      refine isCalm_receiveFrame suite channel fun failure thrown => quiet failure ?_
      rw [perform, Prod.map_fst, thrown]
      rfl
  | send message | sendFrame payload | close | feed bytes => cases receives

/-- What uses a channel receives or has something to send. -/
theorem exists_outgoing?_of_uses (uses : operation.uses = true) (silent : operation.receives = false) :
    ∃ payload, operation.outgoing? = some payload := by
  rwa [Operation.uses, silent, Bool.or_false, Option.isSome_iff_exists] at uses

end Operation

/-! ## Runs -/

/-- The operations of a run with what they answer. -/
def transcript (suite : Suite) : Channel → List Operation → List (Operation × Answer)
  | _, [] => []
  | channel, operation :: rest =>
      (operation, (operation.perform suite channel).1) :: transcript suite (operation.perform suite channel).2 rest

/-- Whether an operation receives and throws what is thrown on a corrupt frame. -/
def IsAlarming (entry : Operation × Answer) : Prop :=
  entry.1.receives = true ∧ ∃ failure, entry.2.failure? = some failure ∧ IsAlarm failure

/-- The operations of a run that do not receive. -/
def sendsOf (operations : List Operation) : List Operation := operations.filter fun operation => !operation.receives

/-- The operations of a run that receive. -/
def receiptsOf (operations : List Operation) : List Operation := operations.filter fun operation => operation.receives

/-- A run answers and leaves what its sends and its receipts do, each on a channel of their own. -/
structure SideBySide (suite : Suite) (outward inward : Channel) (operations : List Operation) : Prop where
  sends : ((outward.meld inward).transcript suite operations).filter (fun entry => !entry.1.receives) =
    outward.transcript suite (sendsOf operations)
  receipts : ((outward.meld inward).transcript suite operations).filter (fun entry => entry.1.receives) =
    inward.transcript suite (receiptsOf operations)
  after : (outward.meld inward).after suite operations =
    (outward.after suite (sendsOf operations)).meld (inward.after suite (receiptsOf operations))

namespace SideBySide

variable {rest : List Operation}

theorem send {after : Channel} (silent : operation.receives = false)
    (performed : operation.perform suite (outward.meld inward) =
      Prod.map id (·.meld inward) (operation.perform suite outward))
    (left : after = (operation.perform suite outward).2) (beside : SideBySide suite after inward rest) :
    SideBySide suite outward inward (operation :: rest) := by
  subst left
  have sends : sendsOf (operation :: rest) = operation :: sendsOf rest := by simp [sendsOf, silent]
  have receipts : receiptsOf (operation :: rest) = receiptsOf rest := by simp [receiptsOf, silent]
  refine ⟨?_, ?_, ?_⟩
  · rw [sends, transcript, performed, transcript, List.filter_cons, silent]
    exact congrArg (List.cons _) beside.sends
  · rw [receipts, transcript, performed, List.filter_cons, silent]
    exact beside.receipts
  · rw [sends, receipts, Channel.after, performed, Channel.after]
    exact beside.after

theorem receipt {after : Channel} (receives : operation.receives = true)
    (performed : operation.perform suite (outward.meld inward) =
      Prod.map id outward.meld (operation.perform suite inward))
    (left : after = (operation.perform suite inward).2) (beside : SideBySide suite outward after rest) :
    SideBySide suite outward inward (operation :: rest) := by
  subst left
  have sends : sendsOf (operation :: rest) = sendsOf rest := by simp [sendsOf, receives]
  have receipts : receiptsOf (operation :: rest) = operation :: receiptsOf rest := by simp [receiptsOf, receives]
  refine ⟨?_, ?_, ?_⟩
  · rw [sends, transcript, performed, List.filter_cons, receives]
    exact beside.sends
  · rw [receipts, transcript, performed, transcript, List.filter_cons, receives]
    exact congrArg (List.cons _) beside.receipts
  · rw [sends, receipts, Channel.after, performed, Channel.after]
    exact beside.after

end SideBySide

/-- Unless a receipt meets a corrupt frame, and then it does so with and without the sends, a run is its sends and
its receipts side by side. -/
theorem sideBySide_or_alarming (suite : Suite) {operations : List Operation} (agrees : Agrees outward inward)
    (uses : ∀ operation ∈ operations, operation.uses = true) :
    SideBySide suite outward inward operations ∨
      (∃ entry ∈ (outward.meld inward).transcript suite operations, IsAlarming entry) ∧
        ∃ entry ∈ inward.transcript suite (receiptsOf operations), IsAlarming entry := by
  induction operations generalizing outward inward with
  | nil => exact .inl ⟨rfl, rfl, rfl⟩
  | cons operation rest ih =>
      obtain ⟨used, usedLater⟩ := List.forall_mem_cons.mp uses
      rw [transcript]
      cases receives : operation.receives with
      | false =>
          obtain ⟨payload, outgoing⟩ := operation.exists_outgoing?_of_uses used receives
          have performed : operation.perform suite (outward.meld inward) = _ :=
            Operation.perform_meld_of_outgoing? agrees outgoing
          have kept := (Operation.agrees_perform_of_outgoing? suite outward outgoing).trans agrees
          have receipts : receiptsOf (operation :: rest) = receiptsOf rest := by simp [receiptsOf, receives]
          rw [performed, receipts]
          refine (ih kept usedLater).imp (.send receives performed rfl) fun ⟨⟨entry, present, alarming⟩, alone⟩ => ?_
          exact ⟨⟨entry, List.mem_cons_of_mem _ present, alarming⟩, alone⟩
      | true =>
          have performed : operation.perform suite (outward.meld inward) = _ :=
            Operation.perform_meld_of_receives receives
          have receipts : receiptsOf (operation :: rest) = operation :: receiptsOf rest := by
            simp [receiptsOf, receives]
          rw [performed, receipts, transcript]
          by_cases alarming : IsAlarming (operation, (operation.perform suite inward).1)
          · exact .inr ⟨⟨_, List.mem_cons_self, alarming⟩, ⟨_, List.mem_cons_self, alarming⟩⟩
          · have kept := Operation.agrees_perform_of_receives receives fun failure thrown alarm =>
              alarming ⟨receives, failure, thrown, alarm⟩
            refine (ih (agrees.trans kept) usedLater).imp (.receipt receives performed rfl) ?_
            rintro ⟨⟨entry, present, alarming⟩, ⟨other, among, alarmingToo⟩⟩
            exact ⟨⟨entry, List.mem_cons_of_mem _ present, alarming⟩,
              ⟨other, List.mem_cons_of_mem _ among, alarmingToo⟩⟩

variable {channel : Channel} {operations other : List Operation}

theorem sideBySide_of_calm (uses : ∀ operation ∈ operations, operation.uses = true)
    (calm : ∀ entry ∈ channel.transcript suite (receiptsOf operations), ¬ IsAlarming entry) :
    SideBySide suite channel channel operations := by
  refine (sideBySide_or_alarming suite (.refl channel) uses).resolve_right ?_
  rintro ⟨_, entry, present, alarming⟩
  exact calm entry present alarming

/-- The receipts of a run meet a corrupt frame exactly if they do so without the sends. -/
theorem calm_iff (uses : ∀ operation ∈ operations, operation.uses = true) :
    (∀ entry ∈ channel.transcript suite operations, ¬ IsAlarming entry) ↔
      ∀ entry ∈ channel.transcript suite (receiptsOf operations), ¬ IsAlarming entry := by
  have cases := sideBySide_or_alarming suite (.refl channel) uses
  rw [meld_self] at cases
  constructor
  · intro calm
    rcases cases with beside | ⟨⟨entry, present, alarming⟩, _⟩
    · rw [← beside.receipts, meld_self]
      exact fun entry present => calm entry (List.mem_filter.mp present).1
    · exact absurd alarming (calm entry present)
  · rintro calm entry present alarming
    have beside := sideBySide_of_calm uses calm
    refine calm entry ?_ alarming
    rw [← beside.receipts, meld_self]
    exact List.mem_filter.mpr ⟨present, alarming.1⟩

/-- In a run of sends and receipts of which none throws a frame error, or in its place what its stream throws on
being closed, the sends answer and write what they do without the receipts, and the receipts answer, take off the
stream and count what they do without the sends. Every other order of the same sends and the same receipts has the same
answers and leaves the same channel. -/
theorem directions_are_independent (suite : Suite) (channel : Channel)
    (uses : ∀ operation ∈ operations, operation.uses = true)
    (calm : ∀ entry ∈ channel.transcript suite operations, ¬ IsAlarming entry) :
    (channel.transcript suite operations).filter (fun entry => !entry.1.receives) =
      channel.transcript suite (sendsOf operations) ∧
    (channel.after suite operations).stream.accepted =
      (channel.after suite (sendsOf operations)).stream.accepted ∧
    (channel.after suite operations).sender = (channel.after suite (sendsOf operations)).sender ∧
    (channel.transcript suite operations).filter (fun entry => entry.1.receives) =
      channel.transcript suite (receiptsOf operations) ∧
    (channel.after suite operations).stream.incoming =
      (channel.after suite (receiptsOf operations)).stream.incoming ∧
    (channel.after suite operations).receiver = (channel.after suite (receiptsOf operations)).receiver ∧
    ∀ other, (∀ operation ∈ other, operation.uses = true) → sendsOf other = sendsOf operations →
      receiptsOf other = receiptsOf operations →
        (channel.transcript suite other).filter (fun entry => !entry.1.receives) =
          (channel.transcript suite operations).filter (fun entry => !entry.1.receives) ∧
        (channel.transcript suite other).filter (fun entry => entry.1.receives) =
          (channel.transcript suite operations).filter (fun entry => entry.1.receives) ∧
        channel.after suite other = channel.after suite operations := by
  have quiet := (calm_iff uses).mp calm
  obtain ⟨sends, receipts, left⟩ := sideBySide_of_calm uses quiet
  rw [meld_self] at sends receipts left
  refine ⟨sends, ?_, ?_, receipts, ?_, ?_, fun other usesToo sameSends sameReceipts => ?_⟩
  · rw [left]
    rfl
  · rw [left]
    rfl
  · rw [left]
    rfl
  · rw [left]
    rfl
  · obtain ⟨sendsToo, receiptsToo, leftToo⟩ := sideBySide_of_calm usesToo (sameReceipts ▸ quiet)
    rw [meld_self, sameSends, sameReceipts] at *
    exact ⟨sendsToo.trans sends.symm, receiptsToo.trans receipts.symm, leftToo.trans left.symm⟩

/-- A channel at which the frame of one payload has arrived, and whose stream takes little more than a frame. -/
def narrow (key : Gcm.Key) : Channel :=
  { fresh key with
    stream := { address := "peer", incoming := wire Suite.standard key 1 [[7]], room := some 30 } }

/-- Two sends, of which the second is cut off, and two receipts, of which the second finds nothing. -/
def crossing : List Operation := [.sendFrame [1], .receiveFrame, .sendFrame [2], .receive]

theorem transcript_narrow (key : Gcm.Key) :
    (narrow key).transcript Suite.standard (receiptsOf crossing) =
      [(.receiveFrame, .payload (.ok [7])),
        (.receive, .message (.error (.connection (.ended .endOfFile))))] := by
  have receipts : receiptsOf crossing = [.receiveFrame, .receive] := rfl
  have arrived : (narrow key).stream.incoming =
      frame (sealedBody Suite.standard (narrow key).receiver.key ((narrow key).receiver.counter.toNat + 1) [7]) ++ [] :=
    rfl
  have first : (narrow key).receiveFrame Suite.standard = _ :=
    receiveFrame_of_sealed Suite.standard_lawful rfl rfl (by decide) (show (1 : UInt64) ≠ Cipher.lastCounter by decide)
      arrived
  have taken : Operation.receiveFrame.perform Suite.standard (narrow key) =
      (.payload (.ok [7]), { (narrow key).withUnread [] with receiver := (narrow key).receiver.advanced }) :=
    Operation.perform_of_receives rfl first
  have ended : Operation.receive.perform Suite.standard
      { (narrow key).withUnread [] with receiver := (narrow key).receiver.advanced } = _ :=
    Operation.perform_of_nil rfl rfl rfl
  rw [receipts, transcript, transcript, transcript, taken, ended]
  rfl

theorem directions_are_independent_crossing :
    (∀ entry ∈ (narrow (Block.little 32 1)).transcript Suite.standard crossing, ¬ IsAlarming entry) ∧
      ((narrow (Block.little 32 1)).transcript Suite.standard crossing).filter (fun entry => entry.1.receives) =
        [(.receiveFrame, .payload (.ok [7])),
          (.receive, .message (.error (.connection (.ended .endOfFile))))] ∧
      (narrow (Block.little 32 1)).after Suite.standard [.receiveFrame, .receive, .sendFrame [1], .sendFrame [2]] =
        (narrow (Block.little 32 1)).after Suite.standard crossing := by
  have uses : ∀ operation ∈ crossing, operation.uses = true := by decide
  have calm : ∀ entry ∈ (narrow (Block.little 32 1)).transcript Suite.standard crossing, ¬ IsAlarming entry := by
    rw [calm_iff uses, transcript_narrow]
    rintro entry present ⟨_, failure, thrown, alarm⟩
    simp only [List.mem_cons, List.not_mem_nil, or_false] at present
    rcases present with rfl | rfl
    · cases thrown
    · cases thrown
      exact alarm
  obtain ⟨_, _, _, receipts, _, _, alike⟩ :=
    directions_are_independent Suite.standard (narrow (Block.little 32 1)) uses calm
  have usesToo : ∀ operation ∈ ([.receiveFrame, .receive, .sendFrame [1], .sendFrame [2]] : List Operation),
      operation.uses = true := by decide
  exact ⟨calm, receipts.trans (transcript_narrow _), (alike _ usesToo rfl rfl).2.2⟩

/-- A receipt that meets a corrupt frame on a stream that fails to close throws no frame error, and yet the sends
after it are refused. -/
theorem couples_directions_unclosable :
    ∃ channel : Channel,
      (∀ entry ∈ channel.transcript Suite.standard [.receiveFrame, .sendFrame [7]], entry.1.receives = true →
        ∀ error, entry.2.failure? ≠ some (.frame error)) ∧
      (channel.transcript Suite.standard [.receiveFrame, .sendFrame [7]]).filter (fun entry => !entry.1.receives) ≠
        channel.transcript Suite.standard (sendsOf [.receiveFrame, .sendFrame [7]]) := by
  let channel : Channel :=
    { fresh (Block.little 32 1) with stream := { address := "peer", incoming := [0, 0, 0], failingCloses := 1 } }
  have mixed : channel.transcript Suite.standard [.receiveFrame, .sendFrame [7]] =
      [(.receiveFrame, .payload (.error .streamClose)),
        (.sendFrame [7], .done (.error (.frame (.unusable "peer"))))] := rfl
  have sent : channel.sendFrame Suite.standard [7] = _ :=
    sendFrame_of_isLossless rfl ⟨rfl, rfl⟩ (by decide) (by decide)
  have alone : channel.transcript Suite.standard (sendsOf [.receiveFrame, .sendFrame [7]]) =
      [(.sendFrame [7], .done (.ok ()))] := by
    rw [show sendsOf [.receiveFrame, .sendFrame [7]] = [.sendFrame [7]] from rfl, transcript, transcript,
      Operation.perform, sent]
    rfl
  refine ⟨channel, ?_, ?_⟩
  · rw [mixed]
    intro entry present receives error thrown
    simp only [List.mem_cons, List.not_mem_nil, or_false] at present
    rcases present with rfl | rfl
    · cases thrown
    · cases receives
  · rw [mixed, alone]
    intro same
    cases same

end Channel

end Courier
