import Courier.Handshake.Meeting
import Courier.Proofs.Stream

/-!
# One party of a handshake, step by step

A party takes five steps: it writes its key, reads the other's, writes its
salt, reads the other's and agrees on keys. What it is at any time depends only
on how many steps it and its peer have taken, and its next step needs nothing
of the peer but the bytes that it reads.
-/

namespace Courier.Handshake

namespace Person

variable (suite : Suite) (own other : Person)

/-- What a party writes with its step after so many others. -/
def news : Nat → Octets
  | 0 => (suite.publicKey own.key).val
  | 1 => []
  | 2 => own.salt.val
  | _ + 3 => []

/-- What a party has written after so many steps. -/
def written : Nat → Octets
  | 0 => []
  | 1 | 2 => (suite.publicKey own.key).val
  | _ + 3 => (suite.publicKey own.key).val ++ own.salt.val

/-- How many bytes a party has read after so many steps. -/
def consumed : Nat → Nat
  | 0 | 1 => 0
  | 2 | 3 => 32
  | _ + 4 => 64

/-- What the handshake comes to for a party. -/
def outcome : Except HandshakeError ChannelKeys :=
  agreement suite own.key (suite.publicKey other.key) own.salt other.salt

/-- Whether a party has failed after so many steps. -/
def failed : Nat → Bool
  | _ + 5 => !(own.outcome suite other).isOk
  | _ => false

def stage : Nat → Stage
  | 0 => .greeting
  | 1 => .awaitingKey own.key
  | 2 => .salting own.key (suite.publicKey other.key)
  | 3 => .awaitingSalt own.key (suite.publicKey other.key) own.salt
  | 4 => .agreeing own.key (suite.publicKey other.key) own.salt other.salt
  | _ + 5 => .finished (own.outcome suite other)

def entropy : Nat → Entropy
  | 0 => { privateKeys := [own.key], salts := [own.salt] }
  | 1 | 2 => { salts := [own.salt] }
  | _ + 3 => {}

/-- The stream of a party after so many steps of both, with what it has accepted and not yet carried over. -/
def stream (steps otherSteps : Nat) (accepted : Octets) : Stream where
  address := own.address
  incoming := (other.written suite otherSteps).drop (consumed steps)
  ended := other.failed suite own otherSteps
  accepted := accepted
  room := if other.failed suite own otherSteps then some 0 else none
  closed := own.failed suite other steps

/-- A party after so many steps of both. -/
def party (steps otherSteps : Nat) (accepted : Octets) : Party :=
  ⟨own.stage suite other steps, own.entropy steps, own.stream suite other steps otherSteps accepted⟩

/-- Whether the next step need not wait: the bytes that it reads have been written, and what it writes
is taken. -/
structure Provided (steps otherSteps : Nat) : Prop where
  unfinished : steps < 5
  key : steps = 1 → 1 ≤ otherSteps
  salt : steps = 3 → 3 ≤ otherSteps
  taken : 5 ≤ otherSteps → 3 ≤ steps

variable {suite own other}

/-! ## What is written and read -/

theorem written_succ (steps : Nat) :
    own.written suite (steps + 1) = own.written suite steps ++ own.news suite steps := by
  match steps with
  | 0 | 2 => rfl
  | 1 | _ + 3 => exact (List.append_nil _).symm

theorem length_written (steps : Nat) :
    (own.written suite steps).length = if steps = 0 then 0 else if steps < 3 then 32 else 64 := by
  have key := (suite.publicKey own.key).property
  match steps with
  | 0 => rfl
  | 1 | 2 => exact key
  | _ + 3 =>
      rw [written, List.length_append, key, own.salt.property, if_neg (by omega), if_neg (by omega)]

theorem written_front {steps : Nat} (begun : 1 ≤ steps) :
    own.written suite steps = (suite.publicKey own.key).val ++ (own.written suite steps).drop 32 := by
  have length := (suite.publicKey own.key).property
  match steps with
  | 1 | 2 => rw [written, List.drop_of_length_le (Nat.le_of_eq length), List.append_nil]
  | _ + 3 => rw [written, List.drop_left' length]

theorem written_back {steps : Nat} (salted : 3 ≤ steps) :
    (own.written suite steps).drop 32 = own.salt.val ++ (own.written suite steps).drop 64 := by
  have length := (suite.publicKey own.key).property
  match steps, salted with
  | rest + 3, _ =>
      have whole : ((suite.publicKey own.key).val ++ own.salt.val).length = 64 := by
        rw [List.length_append, length, own.salt.property]
      rw [written, List.drop_left' length, List.drop_of_length_le (Nat.le_of_eq whole), List.append_nil]

/-! ## Single steps -/

variable {steps otherSteps : Nat} (accepted : Octets)

theorem failed_of_lt (unfinished : steps < 5) : own.failed suite other steps = false := by
  match steps with
  | 0 | 1 | 2 | 3 | 4 => rfl
  | _ + 5 => exact absurd unfinished (by omega)

theorem isLossless_stream (suite : Suite) (own other : Person) (accepted : Octets)
    (unfinished : steps < 5) (otherUnfinished : otherSteps < 5) :
    (own.stream suite other steps otherSteps accepted).IsLossless where
  opened := failed_of_lt unfinished
  unlimited := by rw [stream, failed_of_lt otherUnfinished, if_neg Bool.false_ne_true]

theorem step_greeting (otherUnfinished : otherSteps < 5) :
    (own.party suite other 0 otherSteps accepted).step suite =
      own.party suite other 1 otherSteps (accepted ++ (suite.publicKey own.key).val) := by
  have lossless := isLossless_stream suite own other accepted (Nat.zero_lt_succ 4) otherUnfinished
  simp only [party, stage, Party.step, Party.sendKey, entropy, Entropy.drawKey, List.head?_cons]
  rw [Stream.write_of_isLossless lossless]
  rfl

theorem step_awaitingKey (arrived : 1 ≤ otherSteps) :
    (own.party suite other 1 otherSteps accepted).step suite = own.party suite other 2 otherSteps accepted := by
  have front : (own.stream suite other 1 otherSteps accepted).incoming = _ := written_front arrived
  simp only [party, stage, Party.step, Party.receiveBlock]
  rw [Stream.read_append rfl (suite.publicKey other.key) front]
  rfl

theorem step_salting (otherUnfinished : otherSteps < 5) :
    (own.party suite other 2 otherSteps accepted).step suite =
      own.party suite other 3 otherSteps (accepted ++ own.salt.val) := by
  have lossless := isLossless_stream suite own other accepted (show 2 < 5 by decide) otherUnfinished
  simp only [party, stage, Party.step, Party.sendSalt, entropy, Entropy.drawSalt, List.head?_cons]
  rw [Stream.write_of_isLossless lossless]
  rfl

theorem step_awaitingSalt (arrived : 3 ≤ otherSteps) :
    (own.party suite other 3 otherSteps accepted).step suite = own.party suite other 4 otherSteps accepted := by
  have front : (own.stream suite other 3 otherSteps accepted).incoming = _ := written_back arrived
  simp only [party, stage, Party.step, Party.receiveBlock]
  rw [Stream.read_append rfl other.salt front]
  rfl

/-- Agreeing on keys leaves the stream alone. -/
theorem stream_of_ok {keys : ChannelKeys} (come : own.outcome suite other = .ok keys) :
    own.stream suite other 5 otherSteps accepted = own.stream suite other 4 otherSteps accepted := by
  simp [stream, consumed, failed, come, Except.isOk, Except.toBool]

/-- A party that cannot agree closes its stream. -/
theorem close_stream {error : HandshakeError} (come : own.outcome suite other = .error error) :
    (own.stream suite other 4 otherSteps accepted).close =
      (true, own.stream suite other 5 otherSteps accepted) := by
  simp [stream, consumed, failed, come, Except.isOk, Except.toBool, Stream.close]

theorem step_agreeing :
    (own.party suite other 4 otherSteps accepted).step suite =
      { own.party suite other 5 otherSteps accepted with
        stream := own.stream suite other 4 otherSteps accepted } := rfl

theorem proceed_agreeing :
    (own.party suite other 4 otherSteps accepted).proceed suite =
      own.party suite other 5 otherSteps accepted := by
  rw [Party.proceed, step_agreeing]
  cases come : own.outcome suite other with
  | ok keys => simp [party, stage, Stage.result?, come, stream_of_ok accepted come]
  | error error => simp [party, stage, Stage.result?, come, close_stream accepted come]

theorem Provided.proceed (provided : Provided steps otherSteps) :
    (own.party suite other steps otherSteps accepted).proceed suite =
      own.party suite other (steps + 1) otherSteps (accepted ++ own.news suite steps) := by
  obtain ⟨unfinished, key, salt, taken⟩ := provided
  match steps with
  | 0 =>
      rw [Party.proceed, step_greeting _ (by omega)]
      rfl
  | 1 =>
      rw [Party.proceed, step_awaitingKey _ (key rfl), news, List.append_nil]
      rfl
  | 2 =>
      rw [Party.proceed, step_salting _ (by omega)]
      rfl
  | 3 =>
      rw [Party.proceed, step_awaitingSalt _ (salt rfl), news, List.append_nil]
      rfl
  | 4 => rw [proceed_agreeing, news, List.append_nil]

theorem result?_stage_eq_none_iff : (own.stage suite other steps).result? = none ↔ steps < 5 := by
  match steps with
  | 0 | 1 | 2 | 3 | 4 =>
      refine ⟨fun _ => ?_, fun _ => rfl⟩
      decide
  | rest + 5 =>
      constructor
      · intro wrong
        cases wrong
      · intro wrong
        omega

/-- A party is ready exactly if its next step need not wait. -/
theorem ready_party (unfinished : steps < 5) (taken : 5 ≤ otherSteps → 3 ≤ steps) :
    (own.party suite other steps otherSteps accepted).ready = true ↔
      (steps = 1 → 1 ≤ otherSteps) ∧ (steps = 3 → 3 ≤ otherSteps) := by
  match steps with
  | 0 | 2 | 4 => exact ⟨fun _ => ⟨fun wrong => by omega, fun wrong => by omega⟩, fun _ => rfl⟩
  | 1 =>
      have running : other.failed suite own otherSteps = false := failed_of_lt (by omega)
      have reading : (own.party suite other 1 otherSteps accepted).ready =
          (other.failed suite own otherSteps || decide (32 ≤ (other.written suite otherSteps).length)) := rfl
      rw [reading, running, Bool.false_or, decide_eq_true_iff, length_written]
      split
      · omega
      · split <;> omega
  | 3 =>
      have reading : (own.party suite other 3 otherSteps accepted).ready =
          (other.failed suite own otherSteps ||
            decide (32 ≤ ((other.written suite otherSteps).drop 32).length)) := rfl
      rw [reading, Bool.or_eq_true, decide_eq_true_iff, List.length_drop, length_written]
      constructor
      · rintro (closed | enough)
        · have late : ¬ otherSteps < 5 := fun early => by rw [failed_of_lt early] at closed; cases closed
          omega
        · split at enough
          · omega
          · split at enough <;> omega
      · rintro ⟨_, salted⟩
        refine Or.inr (Nat.le_of_eq ?_)
        have arrived := salted rfl
        rw [if_neg (by omega), if_neg (by omega)]

/-! ## What reaches the other party -/

/-- No party has read more than the other has written. -/
theorem consumed_le (key : 2 ≤ otherSteps → 1 ≤ steps) (salt : 4 ≤ otherSteps → 3 ≤ steps) :
    consumed otherSteps ≤ (own.written suite steps).length := by
  rw [length_written]
  match otherSteps with
  | 0 | 1 => exact Nat.zero_le _
  | 2 | 3 =>
      have begun := key (by omega)
      rw [consumed, if_neg (by omega)]
      split <;> omega
  | _ + 4 =>
      have salted := salt (by omega)
      refine Nat.le_of_eq ?_
      rw [consumed, if_neg (by omega), if_neg (by omega)]

/-- What a step wrote is unread at the other end, which also learns whether this one has closed. -/
theorem carry_stream (other : Person) (unfinished : steps < 5)
    (behind : consumed otherSteps ≤ (own.written suite steps).length) :
    Network.carry (own.stream suite other (steps + 1) otherSteps (own.news suite steps))
        (other.stream suite own otherSteps steps []) =
      other.stream suite own otherSteps (steps + 1) [] := by
  have unread : (own.written suite steps ++ own.news suite steps).drop (consumed otherSteps) =
      (own.written suite steps).drop (consumed otherSteps) ++ own.news suite steps :=
    List.drop_append_of_le_length behind
  cases closed : own.failed suite other (steps + 1) <;>
    simp [Network.carry, stream, Stream.feed, Stream.hangUp, closed, failed_of_lt unfinished, written_succ,
      unread]

/-! ## Without a pause -/

/-- Where all bytes of the other party have arrived, the handshake goes on to its end. -/
theorem run_party (suite : Suite) (own other : Person) :
    (machine suite).run (own.party suite other 0 4 []) =
      (own.outcome suite other, (own.party suite other 4 4 (own.written suite 4)).step suite) := by
  have four : 4 < 5 := by decide
  have next {party : Party} (unfinished : party.stage.result? = none) :
      (machine suite).run party = (machine suite).run (party.step suite) := Machine.run_of_step unfinished
  rw [next rfl, step_greeting _ four, next rfl, step_awaitingKey _ (by decide), next rfl, step_salting _ four,
    next rfl, step_awaitingSalt _ (by decide), next rfl]
  exact Machine.run_of_result rfl

/-- What becomes of a stream on which all bytes of the other party have arrived: a channel with the keys,
or an error and a closed stream. -/
theorem establish_stream (suite : Suite) (own other : Person) :
    (Channel.establish suite (own.entropy 0)
      { address := own.address, incoming := other.written suite 4, ended := false }).1 =
      match own.outcome suite other with
      | .ok keys =>
          (.ok (Channel.ofKeys (own.stream suite other 5 4 (own.written suite 4)) keys),
            own.stream suite other 5 4 (own.written suite 4))
      | .error error => (.error (.handshake error), own.stream suite other 5 4 (own.written suite 4)) := by
  have ran : Handshake.perform suite (own.entropy 0)
      { address := own.address, incoming := other.written suite 4, ended := false } =
      (own.outcome suite other, (own.party suite other 4 4 (own.written suite 4)).step suite) :=
    run_party suite own other
  rw [Channel.establish, ran, step_agreeing]
  cases come : own.outcome suite other with
  | ok keys => simp [stream_of_ok _ come]
  | error error => simp [close_stream _ come]

end Person

end Courier.Handshake
