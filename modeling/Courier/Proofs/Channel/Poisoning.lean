import Courier.Proofs.Channel.Authenticity
import Courier.Proofs.Channel.NonceSequence

/-!
# What poisons a channel

A receive finds nothing, a frame that opens, or a corruption, and only a corruption
poisons the channel. From then on the channel is a record of what arrives:
no operation changes anything else in it, and every one that uses it is
refused with a frame error.
-/

namespace Courier

namespace Channel

/-! ## Causes -/

/-- What is wrong with the bytes that a receive finds, for the cipher that is to open them. -/
inductive Corruption (suite : Suite) (cipher : Cipher) (bytes : Octets) : FrameError → Prop where
  | truncatedLength (something : bytes ≠ []) (few : bytes.length < lengthSize) :
      Corruption suite cipher bytes .truncatedLength
  | invalidLength (field : Block lengthSize) (rest : Octets) (front : bytes = field.val ++ rest)
      (refused : ¬ IsPermitted (Octets.ofBig field.val)) :
      Corruption suite cipher bytes (.invalidLength (Octets.ofBig field.val))
  | truncatedBody (field : Block lengthSize) (rest : Octets) (front : bytes = field.val ++ rest)
      (permitted : IsPermitted (Octets.ofBig field.val)) (cut : rest.length < Octets.ofBig field.val) :
      Corruption suite cipher bytes (.truncatedBody rest.length (Octets.ofBig field.val))
  | exhausted (body rest : Octets) (found : firstFrame? bytes = some (body, rest))
      (last : cipher.counter = Cipher.lastCounter) :
      Corruption suite cipher bytes (.crypto .nonceExhausted)
  | mismatch (body rest : Octets) (found : firstFrame? bytes = some (body, rest))
      (more : cipher.counter ≠ Cipher.lastCounter)
      (refused : suite.decrypt cipher.key (Cipher.nonceAt (cipher.counter.toNat + 1)) body = none) :
      Corruption suite cipher bytes (.crypto .tagMismatch)

/-- Bytes that begin with a frame which the cipher opens. -/
structure Delivery (suite : Suite) (cipher : Cipher) (bytes body rest payload : Octets) : Prop where
  found : firstFrame? bytes = some (body, rest)
  more : cipher.counter ≠ Cipher.lastCounter
  opens : suite.decrypt cipher.key (Cipher.nonceAt (cipher.counter.toNat + 1)) body = some payload

theorem ne_nil_of_append {bytes rest : Octets} (field : Block lengthSize) (front : bytes = field.val ++ rest) :
    bytes ≠ [] := by
  intro nothing
  have length := congrArg List.length (nothing.symm.trans front)
  rw [List.length_append, field.property, List.length_nil, lengthSize] at length
  omega

theorem ne_nil_of_firstFrame? {bytes body rest : Octets} (found : firstFrame? bytes = some (body, rest)) :
    bytes ≠ [] := by
  rintro rfl
  cases found

theorem Corruption.ne_nil {suite : Suite} {cipher : Cipher} {bytes : Octets} {error : FrameError}
    (corruption : Corruption suite cipher bytes error) : bytes ≠ [] := by
  cases corruption with
  | truncatedLength something few => exact something
  | invalidLength field rest front refused => exact ne_nil_of_append field front
  | truncatedBody field rest front permitted cut => exact ne_nil_of_append field front
  | exhausted body rest found last => exact ne_nil_of_firstFrame? found
  | mismatch body rest found more refused => exact ne_nil_of_firstFrame? found

/-- There is nothing, a corruption or a frame that opens. -/
theorem nil_or_corruption_or_delivery (suite : Suite) (cipher : Cipher) (bytes : Octets) :
    bytes = [] ∨ (∃ error, Corruption suite cipher bytes error) ∨
      ∃ body rest payload, Delivery suite cipher bytes body rest payload := by
  by_cases nothing : bytes = []
  · exact .inl nothing
  · refine .inr ?_
    rcases Octets.short_or_block lengthSize bytes with few | ⟨field, behind, front⟩
    · exact .inl ⟨_, .truncatedLength nothing few⟩
    · by_cases permitted : IsPermitted (Octets.ofBig field.val)
      · rcases Nat.lt_or_ge behind.length (Octets.ofBig field.val) with cut | whole
        · exact .inl ⟨_, .truncatedBody field behind front permitted cut⟩
        · have found := firstFrame?_append field behind permitted whole
          rw [← front] at found
          by_cases last : cipher.counter = Cipher.lastCounter
          · exact .inl ⟨_, .exhausted _ _ found last⟩
          · cases opens : suite.decrypt cipher.key (Cipher.nonceAt (cipher.counter.toNat + 1))
                (behind.take (Octets.ofBig field.val)) with
            | none => exact .inl ⟨_, .mismatch _ _ found last opens⟩
            | some payload => exact .inr ⟨_, _, payload, found, last, opens⟩
      · exact .inl ⟨_, .invalidLength field behind front permitted⟩

/-! ## Receiving a frame -/

section Receiving

variable {suite : Suite} {channel : Channel}

theorem receiveFrame_of_nil (usable : channel.poisoned = false) (nothing : channel.stream.offered = []) :
    channel.receiveFrame suite = (.error (.connection (.ended .endOfFile)), channel) := by
  cases opened : channel.stream.closed with
  | false =>
      rw [Stream.offered_of_opened opened] at nothing
      rw [receiveFrame_eq, takeSealed_of_nil usable opened nothing]
      rfl
  | true =>
      have nothingRead := Stream.read_of_closed opened (show 0 < lengthSize by decide)
      rw [receiveFrame_eq, takeSealed, takeLength_of_usable usable nothingRead]
      rfl

theorem receiveFrame_of_delivery {body rest payload : Octets} (usable : channel.poisoned = false)
    (delivery : Delivery suite channel.receiver channel.stream.offered body rest payload) :
    channel.receiveFrame suite =
      (.ok payload, { channel.withUnread rest with receiver := channel.receiver.advanced }) := by
  obtain ⟨found, more, opens⟩ := delivery
  obtain ⟨opened, incoming⟩ := Stream.of_offered_ne_nil (ne_nil_of_firstFrame? found)
  obtain ⟨_, long, _⟩ := eq_frame_of_firstFrame? found
  rw [incoming] at found
  rw [receiveFrame_eq, takeSealed_of_firstFrame? usable opened found, Outcome.andThen_ok]
  exact openBody_of_decrypt long more opens

/-- A corruption is told, poisons the channel and closes the stream. -/
theorem receiveFrame_of_corruption {error : FrameError} (usable : channel.poisoned = false)
    (closable : channel.stream.failingCloses = 0)
    (corruption : Corruption suite channel.receiver channel.stream.offered error) :
    ∃ left : Channel, channel.receiveFrame suite = (.error (.frame error), left.ruined) := by
  obtain ⟨opened, incoming⟩ := Stream.of_offered_ne_nil corruption.ne_nil
  rw [incoming] at corruption
  rw [receiveFrame_eq]
  cases corruption with
  | truncatedLength something few =>
      rw [takeSealed, takeLength_of_lt usable opened closable something few]
      exact ⟨_, rfl⟩
  | invalidLength field rest front refused =>
      rw [takeSealed, takeLength_of_not_permitted usable opened closable field front refused]
      exact ⟨_, rfl⟩
  | truncatedBody field rest front permitted cut =>
      have body := takeBody_of_lt (channel.withUnread rest) opened closable cut
      rw [takeSealed, takeLength_append usable opened field front permitted, Outcome.andThen_ok, body]
      exact ⟨_, rfl⟩
  | exhausted body rest found last =>
      rw [takeSealed_of_firstFrame? usable opened found, Outcome.andThen_ok,
        openBody_of_exhausted (channel.withUnread rest) closable last]
      exact ⟨_, rfl⟩
  | mismatch body rest found more refused =>
      obtain ⟨_, long, _⟩ := eq_frame_of_firstFrame? found
      rw [takeSealed_of_firstFrame? usable opened found, Outcome.andThen_ok,
        openBody_of_mismatch (channel.withUnread rest) closable long more refused]
      exact ⟨_, rfl⟩

end Receiving

/-! ## Single operations -/

/-- An operation that poisons a usable channel: a receive that meets a corruption. -/
def Poisons (suite : Suite) (channel : Channel) (operation : Operation) : Prop :=
  operation.receives = true ∧ ∃ error, Corruption suite channel.receiver channel.stream.offered error

namespace Operation

variable {suite : Suite} {channel : Channel} {operation : Operation}

/-- The answer of an operation that fails. -/
def failing (failure : Failure) : Operation → Answer
  | receive => .message (.error failure)
  | receiveFrame => .payload (.error failure)
  | send _ | sendFrame _ | close | feed _ => .done (.error failure)

/-- Whether an operation sends or receives. -/
def uses (operation : Operation) : Bool := operation.outgoing?.isSome || operation.receives

/-- Both ways of receiving fail as the frame does. -/
theorem perform_of_receives_error {after : Channel} {failure : Failure} (receives : operation.receives = true)
    (failed : channel.receiveFrame suite = (.error failure, after)) :
    operation.perform suite channel = (operation.failing failure, after) := by
  cases operation with
  | receive =>
      rw [perform, Channel.receive, failed]
      rfl
  | receiveFrame =>
      rw [perform, failed]
      rfl
  | send message | sendFrame payload | close | feed bytes => cases receives

theorem perform_of_nil (usable : channel.poisoned = false) (receives : operation.receives = true)
    (nothing : channel.stream.offered = []) :
    operation.perform suite channel = (operation.failing (.connection (.ended .endOfFile)), channel) :=
  perform_of_receives_error receives (receiveFrame_of_nil usable nothing)

theorem perform_of_delivery {body rest payload : Octets} (usable : channel.poisoned = false)
    (receives : operation.receives = true)
    (delivery : Delivery suite channel.receiver channel.stream.offered body rest payload) :
    operation.perform suite channel =
      (operation.reading payload,
        { channel.withUnread rest with receiver := channel.receiver.advanced }) :=
  perform_of_receives receives (receiveFrame_of_delivery usable delivery)

theorem perform_of_corruption {error : FrameError} (usable : channel.poisoned = false)
    (closable : channel.stream.failingCloses = 0) (receives : operation.receives = true)
    (corruption : Corruption suite channel.receiver channel.stream.offered error) :
    ∃ left : Channel, operation.perform suite channel = (operation.failing (.frame error), left.ruined) := by
  obtain ⟨left, failed⟩ := receiveFrame_of_corruption usable closable corruption
  exact ⟨left, perform_of_receives_error receives failed⟩

/-- A poisoned channel refuses every use, whatever is to be sent, and is left as it is. -/
theorem perform_of_poisoned (suite : Suite) (poisoned : channel.poisoned = true)
    (uses : operation.uses = true) :
    operation.perform suite channel = (operation.failing (.frame (.unusable channel.address)), channel) := by
  cases receives : operation.receives with
  | true => exact perform_of_receives_error receives (receiveFrame_of_poisoned suite poisoned)
  | false =>
      rw [Operation.uses, receives, Bool.or_false, Option.isSome_iff_exists] at uses
      obtain ⟨payload, outgoing⟩ := uses
      rw [perform_of_refused outgoing (prepare_of_poisoned poisoned payload)]
      cases operation with
      | send message | sendFrame payload => rfl
      | receive | receiveFrame | close | feed bytes => cases outgoing

/-- What does not receive neither poisons a channel nor cures it. -/
theorem poisoned_perform_of_not_receives (suite : Suite) (channel : Channel)
    (silent : operation.receives = false) :
    (operation.perform suite channel).2.poisoned = channel.poisoned := by
  have sent (payload : Octets) : (channel.sendFrame suite payload).2.poisoned = channel.poisoned := by
    rcases snd_sendFrame suite channel payload with same | ⟨framed, written⟩
    · rw [same]
    · rw [written]
  cases operation with
  | send message => exact sent message.encode
  | sendFrame payload => exact sent payload
  | receive | receiveFrame => cases silent
  | close =>
      rw [perform, Channel.close]
      split <;> rfl
  | feed bytes => rfl

/-- No operation makes a stream fail to close, and none opens it again. -/
theorem keeps_perform (suite : Suite) (channel : Channel) (operation : Operation) :
    channel.stream.Keeps (operation.perform suite channel).2.stream := by
  cases operation with
  | send message => exact keeps_sendFrame suite channel message.encode
  | sendFrame payload => exact keeps_sendFrame suite channel payload
  | receive => exact (Silent.receiving.receive suite channel).kept
  | receiveFrame => exact (Silent.receiving.receiveFrame suite channel).kept
  | close => exact (Silent.close channel).kept
  | feed bytes => exact .feed _ bytes

end Operation

/-! ## Runs -/

section Runs

variable {suite : Suite} {channel : Channel}

theorem after_append (suite : Suite) (channel : Channel) (first second : List Operation) :
    channel.after suite (first ++ second) = (channel.after suite first).after suite second := by
  induction first generalizing channel with
  | nil => rfl
  | cons operation rest ih => exact ih _

/-- The bytes that arrive in a run. -/
def arrivals : List Operation → Octets
  | [] => []
  | .feed bytes :: rest => bytes ++ arrivals rest
  | _ :: rest => arrivals rest

/-- A channel whose stream closes at the first attempt, and is closed once the channel is poisoned. -/
structure Orderly (channel : Channel) : Prop where
  closable : channel.stream.failingCloses = 0
  closed : channel.poisoned = true → channel.stream.closed = true

/-- Only a corruption poisons, and it does. -/
theorem poisoned_perform_iff (usable : channel.poisoned = false) (closable : channel.stream.failingCloses = 0)
    (operation : Operation) :
    (operation.perform suite channel).2.poisoned = true ↔ Poisons suite channel operation := by
  constructor
  · intro poisoned
    cases receives : operation.receives with
    | false =>
        rw [Operation.poisoned_perform_of_not_receives suite channel receives, usable] at poisoned
        cases poisoned
    | true =>
        rcases nil_or_corruption_or_delivery suite channel.receiver channel.stream.offered with
          nothing | ⟨error, corruption⟩ | ⟨body, rest, payload, delivery⟩
        · rw [Operation.perform_of_nil usable receives nothing, usable] at poisoned
          cases poisoned
        · exact ⟨receives, error, corruption⟩
        · rw [Operation.perform_of_delivery usable receives delivery] at poisoned
          exact absurd poisoned (Bool.eq_false_iff.mp usable)
  · rintro ⟨receives, error, corruption⟩
    obtain ⟨left, performed⟩ := Operation.perform_of_corruption usable closable receives corruption
    rw [performed]
    rfl

namespace Orderly

theorem of_usable (usable : channel.poisoned = false) (closable : channel.stream.failingCloses = 0) :
    Orderly channel where
  closable := closable
  closed := fun poisoned => absurd poisoned (Bool.eq_false_iff.mp usable)

theorem perform (orderly : Orderly channel) (suite : Suite) (operation : Operation) :
    Orderly (operation.perform suite channel).2 := by
  have kept := Operation.keeps_perform suite channel operation
  refine ⟨kept.closable orderly.closable, fun poisoned => ?_⟩
  cases usable : channel.poisoned with
  | true => exact kept.closed (orderly.closed usable)
  | false =>
      obtain ⟨receives, error, corruption⟩ := (poisoned_perform_iff usable orderly.closable operation).mp poisoned
      obtain ⟨left, performed⟩ :=
        Operation.perform_of_corruption usable orderly.closable receives corruption
      rw [performed]
      rfl

theorem after (orderly : Orderly channel) (suite : Suite) (operations : List Operation) :
    Orderly (channel.after suite operations) := by
  induction operations generalizing channel with
  | nil => exact orderly
  | cons operation rest ih => exact ih (orderly.perform suite operation)

theorem fed (orderly : Orderly channel) (bytes : Octets) : Orderly (channel.fed bytes) :=
  ⟨orderly.closable, orderly.closed⟩

end Orderly

/-- On a poisoned channel only the arrival of bytes changes anything. -/
theorem perform_of_latched (orderly : Orderly channel) (poisoned : channel.poisoned = true)
    (operation : Operation) :
    (operation.perform suite channel).2 = channel.fed (arrivals [operation]) := by
  have closed := Stream.close_of_closed orderly.closable (orderly.closed poisoned)
  have refused (uses : operation.uses = true) := Operation.perform_of_poisoned suite poisoned uses
  cases operation with
  | send message | sendFrame payload | receive | receiveFrame =>
      rw [refused rfl]
      exact (fed_nil channel).symm
  | close =>
      rw [Operation.perform, Channel.close, closed]
      exact (fed_nil channel).symm
  | feed bytes =>
      rw [arrivals, arrivals, List.append_nil]
      rfl

theorem arrivals_cons (operation : Operation) (rest : List Operation) :
    arrivals (operation :: rest) = arrivals [operation] ++ arrivals rest := by
  cases operation with
  | feed bytes => rw [arrivals, arrivals, arrivals, List.append_nil]
  | send message | sendFrame payload | receive | receiveFrame | close => rfl

/-- A run on a poisoned channel does nothing but keep what arrives. -/
theorem after_of_latched (orderly : Orderly channel) (poisoned : channel.poisoned = true)
    (operations : List Operation) : channel.after suite operations = channel.fed (arrivals operations) := by
  induction operations generalizing channel with
  | nil => exact (fed_nil channel).symm
  | cons operation rest ih =>
      rw [after, perform_of_latched orderly poisoned operation, ih (orderly.fed _) poisoned, fed_fed,
        arrivals_cons operation rest]

/-- A run leaves a channel poisoned exactly if one of its operations poisoned it. -/
theorem poisoned_after_iff (usable : channel.poisoned = false) (closable : channel.stream.failingCloses = 0)
    (operations : List Operation) :
    (channel.after suite operations).poisoned = true ↔
      ∃ before operation later, operations = before ++ operation :: later ∧
        (channel.after suite before).poisoned = false ∧ Poisons suite (channel.after suite before) operation := by
  constructor
  · intro poisoned
    induction operations generalizing channel with
    | nil => exact absurd poisoned (Bool.eq_false_iff.mp usable)
    | cons operation rest ih =>
        have orderly := (Orderly.of_usable usable closable).perform suite operation
        cases next : (operation.perform suite channel).2.poisoned with
        | true =>
            exact ⟨[], operation, rest, rfl, usable, (poisoned_perform_iff usable closable operation).mp next⟩
        | false =>
            obtain ⟨before, found, later, rfl, sound, poisons⟩ := ih next orderly.closable poisoned
            exact ⟨operation :: before, found, later, rfl, sound, poisons⟩
  · rintro ⟨before, operation, later, rfl, sound, poisons⟩
    have here := (Orderly.of_usable usable closable).after suite before
    have poisoned := (poisoned_perform_iff sound here.closable operation).mpr poisons
    rw [after_append, after, after_of_latched (here.perform suite operation) poisoned]
    exact poisoned

end Runs

/-! ## The latch -/

/-- What an operation does on a channel that is usable. -/
structure Conduct (suite : Suite) (channel : Channel) (operation : Operation) : Prop where
  poisons : (operation.perform suite channel).2.poisoned = true ↔ Poisons suite channel operation
  finds : channel.stream.offered = [] ∨
    (∃ error, Corruption suite channel.receiver channel.stream.offered error) ∨
    ∃ body rest payload, Delivery suite channel.receiver channel.stream.offered body rest payload
  ended : operation.receives = true → channel.stream.offered = [] →
    operation.perform suite channel = (operation.failing (.connection (.ended .endOfFile)), channel)
  corrupted : operation.receives = true →
    ∀ error, Corruption suite channel.receiver channel.stream.offered error →
      (operation.perform suite channel).1 = operation.failing (.frame error) ∧
      (operation.perform suite channel).2.stream.closed = true
  delivered : operation.receives = true →
    ∀ body rest payload, Delivery suite channel.receiver channel.stream.offered body rest payload →
      operation.perform suite channel =
        (operation.reading payload,
          { channel.withUnread rest with receiver := channel.receiver.advanced })

theorem conduct (suite : Suite) {channel : Channel} (usable : channel.poisoned = false)
    (closable : channel.stream.failingCloses = 0) (operation : Operation) :
    Conduct suite channel operation where
  poisons := poisoned_perform_iff usable closable operation
  finds := nil_or_corruption_or_delivery suite channel.receiver channel.stream.offered
  ended := fun receives nothing => Operation.perform_of_nil usable receives nothing
  corrupted := by
    intro receives error corruption
    obtain ⟨left, performed⟩ := Operation.perform_of_corruption usable closable receives corruption
    rw [performed]
    exact ⟨rfl, rfl⟩
  delivered := fun receives _ _ _ delivery => Operation.perform_of_delivery usable receives delivery

/-- Whatever is done with a channel, it is poisoned exactly by a receive that meets a corruption, which is
told with a frame error and closes the stream; a receive that meets nothing tells the end of the connection,
one that meets a frame gives its payload or what is wrong with it as a message, and neither these nor
any send poison. Once it is poisoned, every use is refused with a frame error and leaves the channel as
it is, and a run of whatever length changes nothing but by the bytes that arrive. -/
theorem poisons_exactly_on_corruption (suite : Suite) {channel : Channel} (usable : channel.poisoned = false)
    (closable : channel.stream.failingCloses = 0) (operations : List Operation) :
    ((channel.after suite operations).poisoned = true ↔
      ∃ before operation later, operations = before ++ operation :: later ∧
        (channel.after suite before).poisoned = false ∧ Poisons suite (channel.after suite before) operation) ∧
    ((channel.after suite operations).poisoned = false →
      ∀ operation, Conduct suite (channel.after suite operations) operation) ∧
    ((channel.after suite operations).poisoned = true →
      (channel.after suite operations).stream.closed = true ∧
      (∀ operation : Operation, operation.uses = true →
        operation.perform suite (channel.after suite operations) =
          (operation.failing (.frame (.unusable (channel.after suite operations).address)),
            channel.after suite operations)) ∧
      ∀ more, (channel.after suite operations).after suite more =
        (channel.after suite operations).fed (arrivals more)) := by
  have orderly : Orderly (channel.after suite operations) := (Orderly.of_usable usable closable).after suite operations
  refine ⟨poisoned_after_iff usable closable operations, ?_, ?_⟩
  · intro sound operation
    exact conduct suite sound orderly.closable operation
  · intro poisoned
    refine ⟨orderly.closed poisoned, ?_, ?_⟩
    · intro operation uses
      exact Operation.perform_of_poisoned suite poisoned uses
    · intro more
      exact after_of_latched orderly poisoned more

/-- Three bytes where a length field should be poison the channel, and every payload, even one that is too
long for a frame, is then refused with a frame error. -/
theorem poisons_exactly_on_corruption_truncated :
    ((fresh (Block.little 32 1)).after Suite.standard [.feed [0, 0, 1], .receive]).poisoned = true ∧
    ∀ payload : Octets,
      ((Operation.sendFrame payload).perform Suite.standard
        ((fresh (Block.little 32 1)).after Suite.standard [.feed [0, 0, 1], .receive])).1 =
      .done (.error (.frame (.unusable "peer"))) := by
  have usable : (fresh (Block.little 32 1)).poisoned = false := rfl
  obtain ⟨poisoned, _, latched⟩ :=
    poisons_exactly_on_corruption Suite.standard usable rfl [.feed [0, 0, 1], .receive]
  have ruined := poisoned.mpr ⟨[.feed [0, 0, 1]], .receive, [], rfl, rfl, rfl, _,
    .truncatedLength (by decide) (by decide)⟩
  obtain ⟨_, refused, _⟩ := latched ruined
  exact ⟨ruined, fun payload => congrArg Prod.fst (refused (.sendFrame payload) rfl)⟩

end Channel

end Courier
