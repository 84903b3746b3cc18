import Courier.Proofs.Handshake.Position
import Mathlib.Logic.Function.Basic

/-!
# Agreement of two parties

Every run of two parties is finite, never leaves both waiting, and ends in one
state, which depends on the keys and salts alone.
-/

namespace Courier.Handshake

namespace Meeting

open Person

/-! ## The reachable states -/

/-- The two parties after so many steps of each. -/
def scene (suite : Suite) (persons : Side → Person) (steps : Side → Nat) : Meeting := fun side =>
  { party := (persons side).party suite (persons side.other) (steps side) (steps side.other) []
    written := (persons side).written suite (steps side) }

/-- Neither party is further than what the other has written lets it be. -/
structure InStep (steps : Side → Nat) : Prop where
  bounded : ∀ side, steps side ≤ 5
  key : ∀ side, 2 ≤ steps side → 1 ≤ steps side.other
  salt : ∀ side, 4 ≤ steps side → 3 ≤ steps side.other

variable {suite : Suite} {persons : Side → Person} {steps : Side → Nat} {side : Side}

theorem start_eq (suite : Suite) (persons : Side → Person) :
    start persons = scene suite persons fun _ => 0 := rfl

theorem inStep_zero : InStep fun _ => 0 where
  bounded _ := Nat.zero_le 5
  key _ wrong := by omega
  salt _ wrong := by omega

theorem InStep.taken (inStep : InStep steps) (side : Side) (finished : 5 ≤ steps side.other) :
    3 ≤ steps side := by
  have salted := inStep.salt side.other (Nat.le_of_succ_le finished)
  rwa [Side.other_other] at salted

theorem able_scene_iff (inStep : InStep steps) :
    (scene suite persons steps).Able side ↔ Provided (steps side) (steps side.other) := by
  refine (and_congr_left fun _ => result?_stage_eq_none_iff).trans ?_
  constructor
  · rintro ⟨unfinished, ready⟩
    obtain ⟨key, salt⟩ := (ready_party [] unfinished (inStep.taken side)).mp ready
    exact ⟨unfinished, key, salt, inStep.taken side⟩
  · intro provided
    exact ⟨provided.unfinished,
      (ready_party [] provided.unfinished provided.taken).mpr ⟨provided.key, provided.salt⟩⟩

/-- While one party waits the other is able to go on. -/
theorem able_other_of_blocked (inStep : InStep steps) (blocked : (scene suite persons steps).Blocked side) :
    (scene suite persons steps).Able side.other := by
  obtain ⟨unfinished, waiting⟩ := blocked
  replace unfinished := result?_stage_eq_none_iff.mp unfinished
  have unready :
      ¬ ((steps side = 1 → 1 ≤ steps side.other) ∧ (steps side = 3 → 3 ≤ steps side.other)) := by
    intro ready
    exact Bool.false_ne_true (waiting.symm.trans ((ready_party [] unfinished (inStep.taken side)).mpr ready))
  have behind : (steps side = 1 ∧ steps side.other = 0) ∨ (steps side = 3 ∧ steps side.other < 3) := by
    omega
  rw [able_scene_iff inStep, Side.other_other]
  constructor <;> omega

theorem exists_not_blocked (inStep : InStep steps) : ∃ side, ¬ (scene suite persons steps).Blocked side := by
  by_cases waiting : (scene suite persons steps).Blocked .left
  · obtain ⟨_, ready⟩ := able_other_of_blocked inStep waiting
    exact ⟨.right, fun ⟨_, unready⟩ => Bool.false_ne_true (unready.symm.trans ready)⟩
  · exact ⟨.left, waiting⟩

/-! ## Steps and runs -/

/-- Each party stays in step with the other when one of them takes a step that it need not wait for. -/
theorem InStep.advance (inStep : InStep steps) (provided : Provided (steps side) (steps side.other)) :
    InStep (Function.update steps side (steps side + 1)) := by
  obtain ⟨unfinished, key, salt, taken⟩ := provided
  have here : Function.update steps side (steps side + 1) side = steps side + 1 := Function.update_self ..
  have there : Function.update steps side (steps side + 1) side.other = steps side.other :=
    Function.update_of_ne side.other_ne ..
  have keyBefore := inStep.key side
  have saltBefore := inStep.salt side
  constructor
  · intro each
    rcases side.eq_or_eq_other each with same | same
    · rw [same, here]
      exact unfinished
    · rw [same, there]
      exact inStep.bounded side.other
  · intro each
    rcases side.eq_or_eq_other each with same | same
    · rw [same, here, there]
      omega
    · rw [same, Side.other_other, here, there]
      omega
  · intro each
    rcases side.eq_or_eq_other each with same | same
    · rw [same, here, there]
      omega
    · have saltOther := inStep.salt side.other
      rw [Side.other_other] at saltOther
      rw [same, Side.other_other, here, there]
      omega

/-- A step of one party leads to the state that is expected after one more of its steps. -/
theorem advance_scene (inStep : InStep steps) (provided : Provided (steps side) (steps side.other)) :
    (scene suite persons steps).advance suite side =
      scene suite persons (Function.update steps side (steps side + 1)) := by
  have stepped : (scene suite persons steps side).party.proceed suite = _ := provided.proceed []
  have behind : consumed (steps side.other) ≤ ((persons side).written suite (steps side)).length := by
    have key := inStep.key side.other
    have salt := inStep.salt side.other
    rw [Side.other_other] at key salt
    exact consumed_le key salt
  have carried := carry_stream (persons side.other) provided.unfinished behind
  funext each
  rw [advance, stepped]
  rcases side.eq_or_eq_other each with same | same
  · rw [same, if_pos rfl, scene, scene]
    simp only [Function.update_self, Function.update_of_ne side.other_ne, written_succ]
    rfl
  · rw [same, if_neg side.other_ne, scene, scene]
    simp only [Side.other_other, Function.update_self, Function.update_of_ne side.other_ne]
    exact congrArg (fun stream => (⟨⟨_, _, stream⟩, _⟩ : Participant)) carried

theorem steps_update (steps : Side → Nat) (side : Side) :
    Function.update steps side (steps side + 1) .left + Function.update steps side (steps side + 1) .right =
      steps .left + steps .right + 1 := by
  cases side with
  | left => exact Nat.add_right_comm _ 1 _
  | right => exact (Nat.add_assoc _ _ 1).symm

/-- In a run the parties stay in step, and every step counts. -/
theorem Interleaving.scene (inStep : InStep steps) {schedule : List Side} {meeting : Meeting}
    (interleaved : Interleaving suite (scene suite persons steps) schedule meeting) :
    ∃ taken, InStep taken ∧ meeting = Meeting.scene suite persons taken ∧
      taken .left + taken .right = steps .left + steps .right + schedule.length := by
  generalize begun : Meeting.scene suite persons steps = first at interleaved
  induction interleaved generalizing steps with
  | nil meeting => exact ⟨steps, inStep, begun.symm, rfl⟩
  | @cons meeting last side schedule able rest ih =>
      subst begun
      have provided := (able_scene_iff inStep).mp able
      obtain ⟨taken, lastInStep, reached, count⟩ :=
        ih (inStep.advance provided) (advance_scene inStep provided).symm
      refine ⟨taken, lastInStep, reached, ?_⟩
      rw [count, steps_update, List.length_cons, Nat.add_assoc, Nat.add_comm 1]

/-- When neither party is able to go on, both have taken all their steps. -/
theorem InStep.eq_five (inStep : InStep steps) (stuck : ∀ side, ¬ (scene suite persons steps).Able side) :
    steps = fun _ => 5 := by
  have finished (side : Side) : ¬ steps side < 5 := by
    intro unfinished
    have going : (scene suite persons steps side).party.stage.result? = none :=
      result?_stage_eq_none_iff.mpr unfinished
    cases ready : (scene suite persons steps side).party.ready with
    | true => exact stuck side ⟨going, ready⟩
    | false => exact stuck side.other (able_other_of_blocked inStep ⟨going, ready⟩)
  funext side
  exact Nat.le_antisymm (inStep.bounded side) (Nat.le_of_not_lt (finished side))

/-- Every run can be carried on until both parties have taken all their steps. -/
theorem exists_completion (suite : Suite) (persons : Side → Person) {rest : Nat} (inStep : InStep steps)
    (count : steps .left + steps .right + rest = 10) :
    ∃ schedule, Interleaving suite (scene suite persons steps) schedule (scene suite persons fun _ => 5) := by
  induction rest generalizing steps with
  | zero =>
      have left := inStep.bounded .left
      have right := inStep.bounded .right
      have finished : steps = fun _ => 5 := by
        funext side
        cases side <;> omega
      rw [finished]
      exact ⟨[], .nil _⟩
  | succ rest ih =>
      by_cases stuck : ∀ side, ¬ (scene suite persons steps).Able side
      · rw [inStep.eq_five stuck]
        exact ⟨[], .nil _⟩
      · obtain ⟨side, able⟩ := not_forall_not.mp stuck
        have provided := (able_scene_iff inStep).mp able
        obtain ⟨schedule, completed⟩ := ih (inStep.advance provided) (by
          rw [steps_update]
          omega)
        rw [← advance_scene inStep provided] at completed
        exact ⟨side :: schedule, .cons able completed⟩

/-! ## What a run comes to -/

/-- Establishing a channel without a pause, where everything has arrived that the other party wrote. -/
def establish (suite : Suite) (persons : Side → Person) (meeting : Meeting) (side : Side) :
    Outcome Stream Channel :=
  (Channel.establish suite { privateKeys := [(persons side).key], salts := [(persons side).salt] }
    { address := (persons side).address, incoming := (meeting side.other).written, ended := false }).1

theorem outcome_of_ne {own other : Person} {secret : KeyDerivation.Secret} (different : own.salt ≠ other.salt)
    (agreed : suite.agree own.key (suite.publicKey other.key) = some secret) :
    own.outcome suite other =
      .ok ⟨suite.channelKey own.salt secret, suite.channelKey other.salt secret⟩ := by
  rw [outcome, agreement, if_neg different, agreed]

theorem outcome_of_eq {own other : Person} (same : own.salt = other.salt) :
    own.outcome suite other = .error .reflectedSalt := by
  rw [outcome, agreement, if_pos same]

/-- After all their steps both have written a key and a salt, and read as much. -/
theorem exchanged_scene (suite : Suite) (persons : Side → Person) (side : Side) :
    ((scene suite persons fun _ => 5) side).written =
        (suite.publicKey (persons side).key).val ++ (persons side).salt.val ∧
      ((scene suite persons fun _ => 5) side).written.length = 64 ∧
      ((scene suite persons fun _ => 5) side).party.stream.incoming = [] := by
  have length (each : Side) : ((persons each).written suite 5).length = 64 := length_written 5
  exact ⟨rfl, length side, List.drop_of_length_le (Nat.le_of_eq (length side.other))⟩

theorem establish_of_ok {keys : ChannelKeys}
    (come : (persons side).outcome suite (persons side.other) = .ok keys) :
    ((scene suite persons fun _ => 5) side).party.stage.result? = some (.ok keys) ∧
      ((scene suite persons fun _ => 5) side).party.stream.closed = false ∧
      (establish suite persons (scene suite persons fun _ => 5) side).1 =
        .ok (Channel.ofKeys (establish suite persons (scene suite persons fun _ => 5) side).2 keys) := by
  have established := establish_stream suite (persons side) (persons side.other)
  rw [come] at established
  have here : establish suite persons (scene suite persons fun _ => 5) side = _ := established
  refine ⟨congrArg some come, ?_, ?_⟩
  · change (!((persons side).outcome suite (persons side.other)).isOk) = false
    rw [come]
    rfl
  · rw [here]

theorem establish_of_error {error : HandshakeError}
    (come : (persons side).outcome suite (persons side.other) = .error error) :
    ((scene suite persons fun _ => 5) side).party.stage.result? = some (.error error) ∧
      ((scene suite persons fun _ => 5) side).party.stream.closed = true ∧
      (establish suite persons (scene suite persons fun _ => 5) side).1 = .error (.handshake error) := by
  have established := establish_stream suite (persons side) (persons side.other)
  rw [come] at established
  have here : establish suite persons (scene suite persons fun _ => 5) side = _ := established
  refine ⟨congrArg some come, ?_, ?_⟩
  · change (!((persons side).outcome suite (persons side.other)).isOk) = true
    rw [come]
    rfl
  · rw [here]

/-- Two parties with different keys and salts. -/
def strangers : Side → Person
  | .left => ⟨Block.little 32 1, Block.little 32 3, "right"⟩
  | .right => ⟨Block.little 32 2, Block.little 32 4, "left"⟩

theorem agree_strangers : ∃ secret, ∀ side,
    Suite.standard.agree (strangers side).key (Suite.standard.publicKey (strangers side.other).key) =
      some secret := by
  have some : (Suite.standard.agree (strangers .left).key
      (Suite.standard.publicKey (strangers .right).key)).isSome := by decide +kernel
  have same : Suite.standard.agree (strangers .right).key (Suite.standard.publicKey (strangers .left).key) =
      Suite.standard.agree (strangers .left).key (Suite.standard.publicKey (strangers .right).key) := by
    decide +kernel
  obtain ⟨secret, left⟩ := Option.isSome_iff_exists.mp some
  refine ⟨secret, fun side => ?_⟩
  cases side with
  | left => exact left
  | right => exact same.trans left

/-- Two parties take their steps in any order. Never do both wait, and after at most ten steps neither
has a next one; the state is then the same for every order. If the two agreements come to the same
secret, both parties have written their keys and salts and read the other's. They then succeed with
each other's keys if their salts differ and otherwise both fail, as they would without a pause. -/
theorem parties_agree (suite : Suite) (persons : Side → Person) {schedule : List Side} {meeting : Meeting}
    (interleaved : Interleaving suite (start persons) schedule meeting) :
    (∃ side, ¬ meeting.Blocked side) ∧ schedule.length ≤ 10 ∧
    ((∀ side, ¬ meeting.Able side) →
      (∀ otherSchedule last, Interleaving suite (start persons) otherSchedule last →
        (∀ side, ¬ last.Able side) → last = meeting) ∧
      ∀ secret,
        (∀ side, suite.agree (persons side).key (suite.publicKey (persons side.other).key) = some secret) →
        (∀ side,
          (meeting side).written = (suite.publicKey (persons side).key).val ++ (persons side).salt.val ∧
          (meeting side).written.length = 64 ∧ (meeting side).party.stream.incoming = []) ∧
        ((persons .left).salt ≠ (persons .right).salt → ∃ keys : Side → ChannelKeys, ∀ side,
          (meeting side).party.stage.result? = some (.ok (keys side)) ∧
          (meeting side).party.stream.closed = false ∧
          (keys side).sealing = (keys side.other).opening ∧
          (establish suite persons meeting side).1 =
            .ok (Channel.ofKeys (establish suite persons meeting side).2 (keys side))) ∧
        ((persons .left).salt = (persons .right).salt → ∀ side,
          (meeting side).party.stage.result? = some (.error .reflectedSalt) ∧
          (meeting side).party.stream.closed = true ∧
          (establish suite persons meeting side).1 = .error (.handshake .reflectedSalt))) := by
  have reached {schedule : List Side} {last : Meeting}
      (interleaved : Interleaving suite (start persons) schedule last) := by
    rw [start_eq suite] at interleaved
    exact interleaved.scene inStep_zero
  obtain ⟨steps, inStep, same, count⟩ := reached interleaved
  refine ⟨?_, ?_, ?_⟩
  · rw [same]
    exact exists_not_blocked inStep
  · have left := inStep.bounded .left
    have right := inStep.bounded .right
    omega
  · intro stuck
    subst same
    have finished := inStep.eq_five stuck
    subst finished
    refine ⟨?_, ?_⟩
    · intro otherSchedule last otherInterleaved lastStuck
      obtain ⟨taken, lastInStep, lastSame, _⟩ := reached otherInterleaved
      subst lastSame
      rw [lastInStep.eq_five lastStuck]
    · intro secret agreed
      refine ⟨exchanged_scene suite persons, ?_, ?_⟩
      · intro different
        have apart (side : Side) : (persons side).salt ≠ (persons side.other).salt := by
          cases side with
          | left => exact different
          | right => exact different.symm
        refine ⟨fun side => ⟨suite.channelKey (persons side).salt secret,
          suite.channelKey (persons side.other).salt secret⟩, fun side => ?_⟩
        obtain ⟨result, opened, established⟩ := establish_of_ok (outcome_of_ne (apart side) (agreed side))
        exact ⟨result, opened, by simp only [Side.other_other], established⟩
      · intro reflected side
        have equal : (persons side).salt = (persons side.other).salt := by
          cases side with
          | left => exact reflected
          | right => exact reflected.symm
        exact establish_of_error (outcome_of_eq equal)

/-- Strangers come to matching keys. -/
theorem parties_agree_strangers :
    ∃ schedule meeting secret, Interleaving Suite.standard (start strangers) schedule meeting ∧
      (∀ side, ¬ meeting.Able side) ∧
      (∀ side, Suite.standard.agree (strangers side).key
        (Suite.standard.publicKey (strangers side.other).key) = some secret) ∧
      ∃ keys : Side → ChannelKeys, ∀ side,
        (meeting side).party.stage.result? = some (.ok (keys side)) ∧
        (keys side).sealing = (keys side.other).opening := by
  obtain ⟨secret, agreed⟩ := agree_strangers
  obtain ⟨schedule, interleaved⟩ :=
    exists_completion Suite.standard strangers inStep_zero (show 0 + 0 + 10 = 10 from rfl)
  have stuck (side : Side) : ¬ (scene Suite.standard strangers fun _ => 5).Able side :=
    fun able => Nat.lt_irrefl 5 (result?_stage_eq_none_iff.mp able.1)
  obtain ⟨_, _, ends⟩ := parties_agree Suite.standard strangers interleaved
  obtain ⟨_, succeeds, _⟩ := (ends stuck).2 secret agreed
  obtain ⟨keys, matching⟩ := succeeds (by decide)
  exact ⟨schedule, _, secret, interleaved, stuck, agreed, keys,
    fun side => ⟨(matching side).1, (matching side).2.2.1⟩⟩

end Meeting

end Courier.Handshake
