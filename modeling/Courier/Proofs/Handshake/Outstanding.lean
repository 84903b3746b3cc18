import Courier.Handshake
import Courier.Proofs.Machine
import Courier.Proofs.Stream

/-!
# What a party of a handshake writes

Whatever the stream does, and whatever has been done to it since the last step, a
party writes no more than its public key and its salt, in this order: each step
writes a front of what is outstanding, and what is outstanding after it lies
behind that front.
-/

namespace Courier.Handshake

/-- What is still to be written at this place, if the random values last. -/
def Stage.outstanding (suite : Suite) (entropy : Entropy) : Stage → Octets
  | greeting =>
      ((entropy.privateKeys.head?.map fun own => (suite.publicKey own).val).getD []) ++
        (entropy.salts.head?.map Subtype.val).getD []
  | awaitingKey _ | salting _ _ => (entropy.salts.head?.map Subtype.val).getD []
  | awaitingSalt _ _ _ | agreeing _ _ _ _ | finished _ => []

namespace Party

variable {suite : Suite}

/-- What a party has still to write. -/
def outstanding (suite : Suite) (party : Party) : Octets := party.stage.outstanding suite party.entropy

/-- What a step does to the stream: it writes a front of what is outstanding. -/
structure Advance (suite : Suite) (before after : Party) : Prop where
  kept : before.stream.Keeps after.stream
  written : ∃ written, after.stream.accepted = before.stream.accepted ++ written ∧
    written ++ after.outstanding suite <+: before.outstanding suite

namespace Advance

variable {party : Party}

/-- A step that writes nothing, after which no more is outstanding than before. -/
theorem of_silent {after : Party} (kept : party.stream.Keeps after.stream)
    (accepted : after.stream.accepted = party.stream.accepted)
    (less : after.outstanding suite <+: party.outstanding suite) : Advance suite party after where
  kept := kept
  written := ⟨[], by rw [accepted, List.append_nil], less⟩

/-- A step that writes the next block whole. -/
theorem of_whole {after : Party} {block : Octets} {count : Nat}
    (written : party.stream.write block = (count, none, after.stream))
    (due : party.outstanding suite = block ++ after.outstanding suite) : Advance suite party after where
  kept := by
    have kept := Stream.Keeps.write party.stream block
    rwa [written] at kept
  written := by
    refine ⟨block, Stream.accepted_of_write written, ?_⟩
    exact due ▸ List.prefix_refl _

/-- A step that fails over the next block. -/
theorem of_short {after : Party} {block rest : Octets} {count : Nat} {fault : StreamFault}
    (written : party.stream.write block = (count, some fault, after.stream))
    (due : party.outstanding suite = block ++ rest) (nothing : after.outstanding suite = []) :
    Advance suite party after where
  kept := by
    have kept := Stream.Keeps.write party.stream block
    rwa [written] at kept
  written := by
    refine ⟨block.take count, ?_, ?_⟩
    · have accepted : party.stream.accepted ++ block.take (party.stream.write block).1 =
          after.stream.accepted := congrArg (fun result => result.2.2.accepted) written
      rw [← accepted, written]
    · rw [nothing, due, List.append_nil]
      exact (List.take_prefix count block).trans (List.prefix_append block rest)

end Advance

theorem advance_sendKey {party : Party} (place : party.stage = .greeting) :
    Advance suite party (party.sendKey suite) := by
  unfold sendKey Entropy.drawKey
  cases drawn : party.entropy.privateKeys.head? with
  | none => exact .of_silent (.refl _) rfl List.nil_prefix
  | some own =>
      have due : party.outstanding suite =
          (suite.publicKey own).val ++ (party.entropy.salts.head?.map Subtype.val).getD [] := by
        simp [outstanding, place, Stage.outstanding, drawn]
      simp only
      split
      · rename_i written
        exact .of_short written due rfl
      · rename_i written
        exact .of_whole written due

theorem advance_sendSalt {party : Party} {own : PrivateKey} {peer : PublicKey}
    (place : party.stage = .salting own peer) : Advance suite party (party.sendSalt own peer) := by
  unfold sendSalt Entropy.drawSalt
  cases drawn : party.entropy.salts.head? with
  | none => exact .of_silent (.refl _) rfl List.nil_prefix
  | some salt =>
      have due : party.outstanding suite = salt.val ++ [] := by
        simp [outstanding, place, Stage.outstanding, drawn]
      simp only
      split
      · rename_i written
        exact .of_short written due rfl
      · rename_i written
        exact .of_whole written due

/-- Reading writes nothing, and goes on only where no more is outstanding than before. -/
theorem advance_receiveBlock {party : Party} {next : Block 32 → Stage}
    (less : ∀ block, (next block).outstanding suite party.entropy = party.outstanding suite) :
    Advance suite party (party.receiveBlock next) := by
  have kept := Stream.Keeps.read party.stream 32
  have accepted := party.stream.accepted_read 32
  unfold receiveBlock
  split <;> rename_i read <;> rw [read] at kept accepted
  · exact .of_silent kept accepted List.nil_prefix
  · refine .of_silent kept accepted ?_
    rename_i block stream
    exact (less block) ▸ List.prefix_refl _

theorem advance_step (suite : Suite) (party : Party) : Advance suite party (party.step suite) := by
  unfold step
  split <;> rename_i place
  · exact advance_sendKey place
  · refine advance_receiveBlock fun block => ?_
    rw [outstanding, place]
    rfl
  · exact advance_sendSalt place
  · refine advance_receiveBlock fun block => ?_
    rw [outstanding, place]
    rfl
  · exact .of_silent (.refl _) rfl List.nil_prefix
  · exact .of_silent (.refl _) rfl (List.prefix_refl _)

end Party

/-- A whole handshake keeps a stream that can be closed. -/
theorem keeps_run (suite : Suite) (party : Party) :
    party.stream.Keeps ((machine suite).run party).2.stream := by
  induction party using (machine suite).run_induction with
  | ended party result found =>
      rw [Machine.run_of_result found]
      exact .refl _
  | step party unfinished ih =>
      rw [Machine.run_of_step unfinished]
      exact (Party.advance_step suite party).kept.trans ih

end Courier.Handshake
