import Courier.Proofs.Channel.Operation
import Courier.Proofs.Channel.Receiving

/-!
# The nonces of a channel

A nonce is used once, whatever becomes of the frame: the counter moves with
every sealing, and only with a sealing. What the stream has accepted are
the frames in the order of their counters, of which only the last can be cut
off, because a stream that took less than it was given takes nothing more.
-/

namespace Courier.Channel

/-- All sealings of a run. -/
def sealings (suite : Suite) : Channel → List Operation → List Sealing
  | _, [] => []
  | channel, operation :: rest =>
      (operation.sealing? suite channel).toList ++ sealings suite (operation.perform suite channel).2 rest

/-- What was taken of the first of the frames that were not taken whole: less than all of it. -/
def IsCutOff (suite : Suite) : List Sealing → Octets → Prop
  | [], tail => tail = []
  | sealing :: _, tail => ∃ missing, missing ≠ [] ∧ sealing.framed suite = tail ++ missing

/-! ## Operations that write nothing -/

/-- Between these two nothing was sealed and nothing written. -/
structure Silent (before after : Channel) : Prop where
  sender : after.sender = before.sender
  accepted : after.stream.accepted = before.stream.accepted
  spent : before.stream.IsSpent → after.stream.IsSpent
  kept : before.stream.Keeps after.stream

namespace Silent

theorem refl (channel : Channel) : Silent channel channel := ⟨rfl, rfl, fun spent => spent, .refl _⟩

theorem trans {first second third : Channel} (begun : Silent first second) (ended : Silent second third) :
    Silent first third :=
  ⟨ended.sender.trans begun.sender, ended.accepted.trans begun.accepted,
    fun spent => ended.spent (begun.spent spent), begun.kept.trans ended.kept⟩

theorem close (channel : Channel) : Silent channel channel.close.2 := by
  have spent := fun spent : channel.stream.IsSpent => spent.close
  have accepted := channel.stream.accepted_close
  have kept := Stream.Keeps.close channel.stream
  rw [Channel.close]
  split <;> rename_i closed <;> rw [closed] at spent accepted kept <;> exact ⟨rfl, accepted, spent, kept⟩

/-- So is every part of a receipt. -/
theorem receiving : Receiving Silent where
  refl := refl
  trans := trans
  read := fun channel count => ⟨rfl, channel.stream.accepted_read count, fun spent => spent.read count, .read _ count⟩
  opened := fun _ _ => ⟨rfl, rfl, fun spent => spent, .refl _⟩
  fail := by
    intro Result channel error
    have poisoned : Silent channel { channel with poisoned := true } := ⟨rfl, rfl, fun spent => spent, .refl _⟩
    rw [snd_fail]
    exact poisoned.trans (close _)

end Silent

/-! ## One operation -/

/-- What an operation does to the sealing cipher and to what was written: nothing, or the whole frame of one
payload under the next counter, or a part of it that is the last to be taken. -/
inductive Advance (suite : Suite) (channel : Channel) : Option Sealing → Channel → Prop where
  | silent (next : Channel) (silent : Silent channel next) : Advance suite channel none next
  | whole (payload : Octets) (next : Channel) (more : channel.sender.counter ≠ Cipher.lastCounter)
      (unspent : ¬ channel.stream.IsSpent) (sender : next.sender = channel.sender.advanced)
      (accepted : next.stream.accepted = channel.stream.accepted ++
        Sealing.framed suite ⟨channel.sender.advanced, payload, true⟩) :
      Advance suite channel (some ⟨channel.sender.advanced, payload, true⟩) next
  | cut (payload tail missing : Octets) (next : Channel)
      (more : channel.sender.counter ≠ Cipher.lastCounter) (sender : next.sender = channel.sender.advanced)
      (split : Sealing.framed suite ⟨channel.sender.advanced, payload, false⟩ = tail ++ missing)
      (short : missing ≠ []) (accepted : next.stream.accepted = channel.stream.accepted ++ tail)
      (spent : next.stream.IsSpent) (nothing : channel.stream.IsSpent → tail = []) :
      Advance suite channel (some ⟨channel.sender.advanced, payload, false⟩) next

theorem framed_advanced (suite : Suite) (cipher : Cipher) (payload : Octets) (whole : Bool) :
    Sealing.framed suite ⟨cipher.advanced, payload, whole⟩ =
      frame (sealedBody suite cipher.key (cipher.counter.toNat + 1) payload) := by
  rw [Sealing.framed, Cipher.nonce_advanced, Cipher.key_advanced, sealedBody]

theorem frame_ne_nil (body : Octets) : frame body ≠ [] := by
  have length := length_frame body
  intro empty
  rw [empty, List.length_nil, lengthSize] at length
  omega

/-- A frame is taken whole, or a part of it and then nothing more. -/
theorem advance_of_framed {suite : Suite} {channel prepared : Channel} {payload framed : Octets}
    (more : channel.sender.counter ≠ Cipher.lastCounter) (sender : prepared.sender = channel.sender.advanced)
    (stream : prepared.stream = channel.stream)
    (made : ∀ whole, Sealing.framed suite ⟨channel.sender.advanced, payload, whole⟩ = framed) :
    Advance suite channel (some ⟨channel.sender.advanced, payload, (prepared.transmit framed).1.isOk⟩)
      (prepared.transmit framed).2 := by
  have something : framed ≠ [] := by
    rw [← made true]
    exact frame_ne_nil _
  rcases Nat.lt_or_eq_of_le (prepared.stream.capacity_le framed.length) with short | whole
  · rw [transmit_of_short short]
    refine .cut payload (framed.take (prepared.stream.capacity framed.length))
      (framed.drop (prepared.stream.capacity framed.length)) _ more sender ?_ ?_ ?_
      (Stream.isSpent_of_short short) ?_
    · rw [made, List.take_append_drop]
    · exact fun beyond => Nat.not_le_of_lt short (List.drop_eq_nil_iff.mp beyond)
    · rw [← stream]
      rfl
    · intro spent
      rw [stream, Stream.capacity_of_isSpent spent, List.take_zero]
  · rw [transmit_of_whole whole]
    refine .whole payload _ more ?_ sender ?_
    · intro spent
      rw [stream, Stream.capacity_of_isSpent spent] at whole
      exact something (List.length_eq_zero_iff.mp whole.symm)
    · rw [made, ← stream]
      simp only [Stream.write, whole, List.take_length]

/-- Every operation is silent that does not seal, and a sealing is written as far as the stream takes it. -/
theorem advance (suite : Suite) (channel : Channel) (operation : Operation) :
    Advance suite channel (operation.sealing? suite channel) (operation.perform suite channel).2 := by
  cases outgoing : operation.outgoing? with
  | none =>
      have none : operation.sealing? suite channel = none := by rw [Operation.sealing?, outgoing]
      rw [none]
      cases operation with
      | send message | sendFrame payload => cases outgoing
      | receive => exact .silent _ (Silent.receiving.receive suite channel)
      | receiveFrame => exact .silent _ (Silent.receiving.receiveFrame suite channel)
      | close => exact .silent _ (.close channel)
      | feed bytes => exact .silent _ ⟨rfl, rfl, fun spent => spent, .feed _ bytes⟩
  | some payload =>
      have sealing := preparation suite channel payload
      rw [Operation.perform_of_outgoing? suite channel outgoing, Operation.sealing?, outgoing, sendFrame]
      simp only [Prod.map_snd, id]
      generalize channel.prepare suite payload = prepared at sealing
      cases sealing with
      | poisoned | oversize | exhausted => exact .silent _ (.refl channel)
      | framed usable fits more =>
          exact advance_of_framed more rfl rfl (framed_advanced suite channel.sender payload)

namespace Operation

variable {suite : Suite} {channel : Channel} {operation : Operation} {payload : Octets}

/-- What is refused before it is sealed leaves the channel as it was. -/
theorem perform_of_refused (outgoing : operation.outgoing? = some payload) {failure : Failure}
    (refused : channel.prepare suite payload = (.error failure, channel)) :
    operation.perform suite channel = (.done (.error failure), channel) := by
  rw [perform_of_outgoing? suite channel outgoing, Channel.sendFrame, refused]
  rfl

/-- What is sealed is what was to be sent. -/
theorem outgoing?_of_sealing? {sealing : Sealing} (made : operation.sealing? suite channel = some sealing) :
    operation.outgoing? = some sealing.payload := by
  rw [sealing?] at made
  split at made
  · cases made
  · rename_i payload outgoing
    split at made
    · cases made
    · cases made
      exact outgoing

/-- A nonce is used exactly if nothing speaks against the send beforehand. -/
theorem isSome_sealing?_iff (outgoing : operation.outgoing? = some payload) :
    (operation.sealing? suite channel).isSome ↔
      channel.poisoned = false ∧ Fits payload ∧ channel.sender.counter ≠ Cipher.lastCounter := by
  have sealing := preparation suite channel payload
  rw [sealing?, outgoing]
  simp only
  generalize channel.prepare suite payload = prepared at sealing
  cases sealing with
  | poisoned poisoned => simp [poisoned]
  | oversize usable oversize => simp [oversize]
  | exhausted usable fits exhausted => simp [exhausted]
  | framed usable fits more => simp [usable, fits, more]

end Operation

/-! ## Whole runs -/

/-- Every sealing moves the counter by one, and nothing else does. -/
theorem counter_after (suite : Suite) (channel : Channel) (operations : List Operation) :
    (channel.after suite operations).sender.key = channel.sender.key ∧
      (channel.after suite operations).sender.counter.toNat =
        channel.sender.counter.toNat + (channel.sealings suite operations).length := by
  induction operations generalizing channel with
  | nil => exact ⟨rfl, rfl⟩
  | cons operation rest ih =>
      obtain ⟨key, counter⟩ := ih (operation.perform suite channel).2
      have step := advance suite channel operation
      rw [after, sealings, key, counter, List.length_append]
      generalize (operation.perform suite channel).2 = next at step
      generalize operation.sealing? suite channel = sealing at step
      cases step with
      | silent next silent =>
          rw [silent.sender]
          exact ⟨rfl, by simp⟩
      | whole payload next more unspent sender accepted | cut payload tail missing next more sender =>
          rw [sender, Cipher.key_advanced, Cipher.toNat_advanced more]
          refine ⟨rfl, ?_⟩
          rw [Option.toList_some, List.length_singleton, Nat.add_assoc]

theorem cipher_of_getElem?_sealings (suite : Suite) (channel : Channel) (operations : List Operation)
    (i : Nat) (sealing : Sealing) (found : (channel.sealings suite operations)[i]? = some sealing) :
    sealing.cipher.key = channel.sender.key ∧
      sealing.cipher.counter.toNat = channel.sender.counter.toNat + i + 1 := by
  induction operations generalizing channel i with
  | nil => cases found
  | cons operation rest ih =>
      have later := ih (operation.perform suite channel).2
      have step := advance suite channel operation
      rw [sealings] at found
      generalize (operation.perform suite channel).2 = next at step found later
      generalize operation.sealing? suite channel = made at step found
      cases step with
      | silent next silent =>
          rw [← silent.sender]
          exact later i found
      | whole payload next more unspent sender accepted | cut payload tail missing next more sender =>
          cases i with
          | zero =>
              cases found
              exact ⟨rfl, Cipher.toNat_advanced more⟩
          | succ i =>
              obtain ⟨key, counter⟩ := later i found
              rw [sender, Cipher.key_advanced] at key
              rw [sender, Cipher.toNat_advanced more] at counter
              exact ⟨key, by rw [counter, Nat.add_assoc _ 1 i, Nat.add_comm 1 i]⟩

/-- Once a write was short, no frame is taken any more. -/
theorem sealings_of_isSpent (suite : Suite) {channel : Channel} (spent : channel.stream.IsSpent)
    (operations : List Operation) :
    (∀ sealing ∈ channel.sealings suite operations, sealing.whole = false) ∧
      (channel.after suite operations).stream.accepted = channel.stream.accepted := by
  induction operations generalizing channel with
  | nil => exact ⟨List.forall_mem_nil _, rfl⟩
  | cons operation rest ih =>
      have step := advance suite channel operation
      rw [sealings, after]
      generalize (operation.perform suite channel).2 = next at step
      generalize operation.sealing? suite channel = made at step
      cases step with
      | silent next silent =>
          obtain ⟨none, same⟩ := ih (silent.spent spent)
          exact ⟨none, same.trans silent.accepted⟩
      | whole payload next more unspent => exact absurd spent unspent
      | cut payload tail missing next more sender split short accepted stillSpent nothing =>
          obtain ⟨none, same⟩ := ih stillSpent
          rw [nothing spent, List.append_nil] at accepted
          exact ⟨List.forall_mem_cons.mpr ⟨rfl, none⟩, same.trans accepted⟩

/-- What a run writes are whole frames and at most one that is cut off. -/
theorem accepted_after (suite : Suite) (channel : Channel) (operations : List Operation) :
    ∃ whole cut tail, channel.sealings suite operations = whole ++ cut ∧
      (∀ sealing ∈ whole, sealing.whole = true) ∧ (∀ sealing ∈ cut, sealing.whole = false) ∧
      (channel.after suite operations).stream.accepted =
        channel.stream.accepted ++ (whole.map (Sealing.framed suite)).flatten ++ tail ∧
      IsCutOff suite cut tail := by
  induction operations generalizing channel with
  | nil =>
      refine ⟨[], [], [], rfl, List.forall_mem_nil _, List.forall_mem_nil _, ?_, rfl⟩
      rw [after, List.map_nil, List.flatten_nil, List.append_nil, List.append_nil]
  | cons operation rest ih =>
      have step := advance suite channel operation
      rw [sealings, after]
      generalize (operation.perform suite channel).2 = next at step
      generalize operation.sealing? suite channel = made at step
      cases step with
      | silent next silent =>
          rw [← silent.accepted]
          exact ih next
      | whole payload next more unspent sender written =>
          obtain ⟨whole, cut, tail, divided, taken, lost, accepted, short⟩ := ih next
          refine ⟨⟨channel.sender.advanced, payload, true⟩ :: whole, cut, tail, ?_, ?_, lost, ?_, short⟩
          · rw [divided]
            rfl
          · exact List.forall_mem_cons.mpr ⟨rfl, taken⟩
          · rw [accepted, written, List.map_cons, List.flatten_cons, ← List.append_assoc]
      | cut payload tail missing next more sender split short written spent nothing =>
          obtain ⟨lost, same⟩ := sealings_of_isSpent suite spent rest
          refine ⟨[], ⟨channel.sender.advanced, payload, false⟩ :: next.sealings suite rest, tail, rfl,
            List.forall_mem_nil _, ?_, ?_, missing, short, split⟩
          · exact List.forall_mem_cons.mpr ⟨rfl, lost⟩
          · rw [same, written, List.map_nil, List.flatten_nil, List.append_nil]

/-- Whatever is done with a channel in whatever order, and however much its stream takes: the payloads are
sealed under consecutive counters and distinct nonces, whether their frames are taken or not; a send
that is refused changes nothing, and at the last counter every send is; and what the stream takes are
the frames in this order, of which only the last can be cut off. -/
theorem seals_in_nonce_order (suite : Suite) (channel : Channel) (operations : List Operation) :
    (∀ (i : Nat) (sealing : Sealing), (channel.sealings suite operations)[i]? = some sealing →
      sealing.cipher.key = channel.sender.key ∧
        sealing.cipher.counter.toNat = channel.sender.counter.toNat + i + 1) ∧
    ((channel.sealings suite operations).map fun sealing => sealing.cipher.nonce).Nodup ∧
    ((channel.sealings suite operations).Pairwise fun earlier later =>
      earlier.cipher.counter < later.cipher.counter) ∧
    (channel.after suite operations).sender.counter.toNat =
      channel.sender.counter.toNat + (channel.sealings suite operations).length ∧
    (∀ before operation later payload, operations = before ++ operation :: later →
      operation.outgoing? = some payload →
        ((channel.after suite before).poisoned = true →
          operation.perform suite (channel.after suite before) =
            (.done (.error (.frame (.unusable (channel.after suite before).address))),
              channel.after suite before)) ∧
        ((channel.after suite before).poisoned = false → ¬ Fits payload →
          operation.perform suite (channel.after suite before) =
            (.done (.error (.wire (.oversize payload.length))), channel.after suite before)) ∧
        ((channel.after suite before).poisoned = false → Fits payload →
          (channel.after suite before).sender.counter = Cipher.lastCounter →
          operation.perform suite (channel.after suite before) =
            (.done (.error (.crypto .nonceExhausted)), channel.after suite before)) ∧
        ((operation.sealing? suite (channel.after suite before)).isSome ↔
          (channel.after suite before).poisoned = false ∧ Fits payload ∧
            (channel.after suite before).sender.counter ≠ Cipher.lastCounter)) ∧
    ∃ whole cut tail, channel.sealings suite operations = whole ++ cut ∧
      (∀ sealing ∈ whole, sealing.whole = true) ∧ (∀ sealing ∈ cut, sealing.whole = false) ∧
      (channel.after suite operations).stream.accepted =
        channel.stream.accepted ++ (whole.map (Sealing.framed suite)).flatten ++ tail ∧
      IsCutOff suite cut tail := by
  have ciphers := cipher_of_getElem?_sealings suite channel operations
  have increasing : (channel.sealings suite operations).Pairwise fun earlier later =>
      earlier.cipher.counter < later.cipher.counter := by
    refine List.pairwise_iff_getElem.mpr fun i j first second before => ?_
    obtain ⟨_, earlier⟩ := ciphers i _ (List.getElem?_eq_getElem first)
    obtain ⟨_, later⟩ := ciphers j _ (List.getElem?_eq_getElem second)
    rw [UInt64.lt_iff_toNat_lt, earlier, later]
    omega
  refine ⟨ciphers, ?_, increasing, (counter_after suite channel operations).2, ?_,
    accepted_after suite channel operations⟩
  · refine List.pairwise_map.mpr (increasing.imp ?_)
    intro earlier later less same
    have equal := Cipher.nonceOf_injective same
    rw [equal] at less
    exact absurd less (UInt64.lt_irrefl _)
  · intro before operation later payload _ outgoing
    exact ⟨fun poisoned => Operation.perform_of_refused outgoing (prepare_of_poisoned poisoned payload),
      fun usable oversize => Operation.perform_of_refused outgoing (prepare_of_oversize usable oversize),
      fun usable fits exhausted =>
        Operation.perform_of_refused outgoing (prepare_of_exhausted usable fits exhausted),
      Operation.isSome_sealing?_iff outgoing⟩

end Courier.Channel
