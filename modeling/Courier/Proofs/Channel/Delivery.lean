import Courier.Channel.Duplex
import Courier.Proofs.Channel.Operation
import Mathlib.Data.List.Forall2
import Mathlib.Logic.Function.Basic

/-!
# Delivery between two channels

Two channels under each other's keys, joined by streams that lose nothing: what
either side sends reaches the other in order, once and unchanged. The
invariant is that the unread bytes of a side are exactly the frames of the
payloads that were sent to it and not yet received, sealed under the nonces
that its receiving cipher comes to next.
-/

namespace Courier

namespace Duplex

open Channel

theorem join_on (duplex : Duplex) (side : Side) :
    join side (duplex.on side) (duplex.on side.other) = duplex := by
  cases side <;> rfl

theorem perform_eq {suite : Suite} {duplex : Duplex} {side : Side} {operation : Operation}
    {answer : Answer} {near : Channel}
    (performed : operation.perform suite (duplex.on side) = (answer, near)) :
    duplex.perform suite side operation = (answer, settle side near (duplex.on side.other)) := by
  rw [perform, performed]

theorem run_cons (suite : Suite) (duplex : Duplex) (side : Side) (operation : Operation)
    (rest : List (Side × Operation)) :
    duplex.run suite ((side, operation) :: rest) =
      (⟨side, operation, (duplex.perform suite side operation).1⟩ ::
          ((duplex.perform suite side operation).2.run suite rest).1,
        ((duplex.perform suite side operation).2.run suite rest).2) := rfl

/-- Whether a side may do something: send while its counter is not used up, and receive while a whole
frame is unread. -/
def Allows (duplex : Duplex) (side : Side) : Operation → Prop
  | .send _ => (duplex.on side).sender.counter ≠ Cipher.lastCounter
  | .sendFrame payload => Fits payload → (duplex.on side).sender.counter ≠ Cipher.lastCounter
  | .receive | .receiveFrame => (firstFrame? (duplex.on side).stream.incoming).isSome
  | .close | .feed _ => False

/-- Whether each operation is allowed when it is its turn. -/
def AllowsAll (suite : Suite) : Duplex → List (Side × Operation) → Prop
  | _, [] => True
  | duplex, (side, operation) :: rest =>
      duplex.Allows side operation ∧ AllowsAll suite (duplex.perform suite side operation).2 rest

/-- The payloads that a side sent without failure. -/
def sent (side : Side) (entries : List Entry) : List Octets :=
  entries.filterMap fun entry =>
    match entry.answer with
    | .done (.ok ()) => if entry.side = side then entry.operation.outgoing? else none
    | _ => none

/-- The operations of a side that asked for a frame. -/
def receipts (side : Side) (entries : List Entry) : List Entry :=
  entries.filter fun entry => entry.side = side && entry.operation.receives

/-- Two unused ends of a connection: each side opens under the key that the other seals under, with
equal counters, and nothing is lost, unread or still to be carried over. -/
structure Joined (duplex : Duplex) : Prop where
  ciphers : ∀ side, (duplex.on side.other).receiver = (duplex.on side).sender
  usable : ∀ side, (duplex.on side).poisoned = false
  lossless : ∀ side, (duplex.on side).stream.IsLossless
  unread : ∀ side, (duplex.on side).stream.incoming = []
  carried : ∀ side, (duplex.on side).stream.accepted = []

/-! ## The invariant -/

/-- A channel on which everything that is sent arrives. -/
structure IsLive (channel : Channel) : Prop where
  usable : channel.poisoned = false
  lossless : channel.stream.IsLossless
  carried : channel.stream.accepted = []

/-- The bytes under way in one direction are the frames of the pending payloads. -/
structure Carries (suite : Suite) (near far : Channel) (pending : List Octets) : Prop where
  key : near.sender.key = far.receiver.key
  counter : near.sender.counter.toNat = far.receiver.counter.toNat + pending.length
  unread : far.stream.incoming = wire suite far.receiver.key far.receiver.counter.toNat pending
  fits : ∀ payload ∈ pending, Fits payload

/-- Both directions, with the payloads that each side has sent and the other not yet received. -/
structure InFlight (suite : Suite) (duplex : Duplex) (pending : Side → List Octets) : Prop where
  live : ∀ side, IsLive (duplex.on side)
  carries : ∀ side, Carries suite (duplex.on side) (duplex.on side.other) (pending side)

theorem Joined.inFlight {duplex : Duplex} (joined : duplex.Joined) (suite : Suite) :
    InFlight suite duplex fun _ => [] where
  live side := ⟨joined.usable side, joined.lossless side, joined.carried side⟩
  carries side :=
    { key := by rw [joined.ciphers side]
      counter := by rw [joined.ciphers side]; rfl
      unread := joined.unread side.other
      fits := fun _ absent => absurd absent List.not_mem_nil }

namespace Carries

variable {suite : Suite} {near far after : Channel} {pending : List Octets} {payload : Octets}

/-- What concerns neither the sealing nor the opening cipher nor the unread bytes changes nothing. -/
theorem congr {nearAfter farAfter : Channel} (carries : Carries suite near far pending)
    (sender : nearAfter.sender = near.sender) (receiver : farAfter.receiver = far.receiver)
    (unread : farAfter.stream.incoming = far.stream.incoming) :
    Carries suite nearAfter farAfter pending where
  key := by rw [sender, receiver, carries.key]
  counter := by rw [sender, receiver, carries.counter]
  unread := by rw [unread, receiver, carries.unread]
  fits := carries.fits

/-- One more frame behind those that are under way. -/
theorem push {nearAfter farAfter : Channel} (carries : Carries suite near far pending)
    (fits : Fits payload) (more : near.sender.counter ≠ Cipher.lastCounter)
    (sender : nearAfter.sender = near.sender.advanced) (receiver : farAfter.receiver = far.receiver)
    (unread : farAfter.stream.incoming = far.stream.incoming ++
      frame (sealedBody suite near.sender.key (near.sender.counter.toNat + 1) payload)) :
    Carries suite nearAfter farAfter (pending ++ [payload]) where
  key := by rw [sender, receiver, Cipher.key_advanced, carries.key]
  counter := by
    rw [sender, receiver, Cipher.toNat_advanced more, carries.counter, List.length_append,
      List.length_singleton, Nat.add_assoc]
  unread := by
    rw [unread, receiver, carries.unread, carries.key, carries.counter, wire_append, wire_cons, wire_nil,
      List.append_nil]
  fits := by
    intro sent present
    rcases List.mem_append.mp present with before | last
    · exact carries.fits sent before
    · rw [List.mem_singleton.mp last]
      exact fits

/-- The receiving cipher is behind the sealing one while something is under way. -/
theorem more_of_cons (carries : Carries suite near far (payload :: pending)) :
    far.receiver.counter ≠ Cipher.lastCounter := by
  have counter := carries.counter
  have bound := near.sender.counter.toNat_lt
  have last : Cipher.lastCounter.toNat = 2 ^ 64 - 1 := rfl
  rw [List.length_cons] at counter
  rw [Cipher.ne_lastCounter_iff]
  omega

/-- The frame at the front has been opened. -/
theorem pop {nearAfter farAfter : Channel} (carries : Carries suite near far (payload :: pending))
    (sender : nearAfter.sender = near.sender) (receiver : farAfter.receiver = far.receiver.advanced)
    (unread : farAfter.stream.incoming =
      wire suite far.receiver.key (far.receiver.counter.toNat + 1) pending) :
    Carries suite nearAfter farAfter pending where
  key := by rw [sender, receiver, Cipher.key_advanced, carries.key]
  counter := by
    have counter := carries.counter
    rw [List.length_cons] at counter
    rw [sender, receiver, Cipher.toNat_advanced carries.more_of_cons]
    omega
  unread := by rw [unread, receiver, Cipher.key_advanced, Cipher.toNat_advanced carries.more_of_cons]
  fits := fun sent present => carries.fits sent (List.mem_cons_of_mem _ present)

end Carries

/-- An operation that is allowed sends or receives. -/
theorem Allows.cases {duplex : Duplex} {side : Side} {operation : Operation}
    (allowed : duplex.Allows side operation) :
    (∃ payload, operation.outgoing? = some payload ∧
      (Fits payload → (duplex.on side).sender.counter ≠ Cipher.lastCounter)) ∨
    (operation.receives = true ∧ (firstFrame? (duplex.on side).stream.incoming).isSome) := by
  cases operation with
  | send message => exact .inl ⟨_, rfl, fun _ => allowed⟩
  | sendFrame payload => exact .inl ⟨payload, rfl, allowed⟩
  | receive | receiveFrame => exact .inr ⟨rfl, allowed⟩
  | close | feed bytes => exact allowed.elim

namespace InFlight

variable {suite : Suite} {duplex : Duplex} {pending : Side → List Octets} {side : Side}
  {operation : Operation} {payload : Octets}

theorem of_settle {near far : Channel} (usable : near.poisoned = false)
    (lossless : near.stream.IsLossless) (farLive : IsLive far)
    (outward : Carries suite near (fed far near.stream.accepted) (pending side))
    (inward : Carries suite far near (pending side.other)) :
    InFlight suite (settle side near far) pending where
  live other := by
    rcases side.eq_or_eq_other other with rfl | rfl
    · rw [settle, on_join]
      exact ⟨usable, ⟨lossless.opened, lossless.unlimited⟩, rfl⟩
    · rw [settle, on_other_join]
      exact ⟨farLive.usable, ⟨farLive.lossless.opened, farLive.lossless.unlimited⟩, farLive.carried⟩
  carries other := by
    rcases side.eq_or_eq_other other with rfl | rfl
    · rw [settle, on_join, on_other_join]
      exact outward.congr rfl rfl rfl
    · rw [Side.other_other, settle, on_join, on_other_join]
      exact inward.congr rfl rfl rfl

/-- What one side sends is under way to the other behind what it sent before. -/
theorem perform_fits (flight : InFlight suite duplex pending) (outgoing : operation.outgoing? = some payload)
    (fits : Fits payload) (more : (duplex.on side).sender.counter ≠ Cipher.lastCounter) :
    ∃ next, duplex.perform suite side operation = (.done (.ok ()), next) ∧
      InFlight suite next (Function.update pending side (pending side ++ [payload])) := by
  have live := flight.live side
  have inward := flight.carries side.other
  rw [Side.other_other] at inward
  have performed := Operation.perform_of_outgoing? suite (duplex.on side) outgoing
  rw [sendFrame_of_isLossless live.usable live.lossless fits more] at performed
  refine ⟨_, perform_eq performed, of_settle live.usable ⟨live.lossless.opened, live.lossless.unlimited⟩
    (flight.live side.other) ?_ ?_⟩
  · rw [Function.update_self]
    refine (flight.carries side).push fits more rfl rfl ?_
    rw [id_eq, live.carried]
    rfl
  · rw [Function.update_of_ne side.other_ne]
    exact inward.congr rfl rfl rfl

/-- A payload that does not fit is refused and changes nothing. -/
theorem perform_oversize (flight : InFlight suite duplex pending)
    (outgoing : operation.outgoing? = some payload) (oversize : ¬ Fits payload) :
    duplex.perform suite side operation =
      (.done (.error (.wire (.oversize payload.length))), duplex) := by
  have live := flight.live side
  have nearSame : drained (duplex.on side) = duplex.on side := by
    rw [drained, Stream.takeAccepted, ← live.carried]
  have farSame : fed (duplex.on side.other) [] = duplex.on side.other := by
    rw [fed, Stream.feed, List.append_nil]
  rw [perform, Operation.perform_of_outgoing? _ _ outgoing, sendFrame, prepare_of_oversize live.usable oversize]
  simp only [Outcome.andThen_error, Prod.map_apply, id_eq, settle]
  rw [nearSame, live.carried, farSame, join_on]

/-- The next frame that a side asks for is the first that is under way to it. -/
theorem perform_receives (lawful : suite.Lawful) (flight : InFlight suite duplex pending)
    (receives : operation.receives = true) {rest : List Octets}
    (front : pending side.other = payload :: rest) :
    ∃ next, duplex.perform suite side operation = (operation.reading payload, next) ∧
      InFlight suite next (Function.update pending side.other rest) := by
  have live := flight.live side
  have inward := flight.carries side.other
  rw [Side.other_other, front] at inward
  have fits := inward.fits payload List.mem_cons_self
  have unread := inward.unread
  rw [wire_cons] at unread
  have received := receiveFrame_of_sealed lawful live.usable live.lossless.opened fits
    inward.more_of_cons unread
  refine ⟨_, perform_eq (Operation.perform_of_receives receives received),
    of_settle live.usable ⟨live.lossless.opened, live.lossless.unlimited⟩ (flight.live side.other) ?_ ?_⟩
  · rw [Function.update_of_ne side.other_ne.symm]
    refine (flight.carries side).congr rfl rfl ?_
    change _ ++ (duplex.on side).stream.accepted = _
    rw [live.carried, List.append_nil]
  · rw [Function.update_self]
    exact inward.pop rfl rfl rfl

/-- A whole frame is unread exactly while something is under way. -/
theorem isSome_firstFrame?_iff (lawful : suite.Lawful) (flight : InFlight suite duplex pending) :
    (firstFrame? (duplex.on side).stream.incoming).isSome ↔ pending side.other ≠ [] := by
  have inward := flight.carries side.other
  rw [Side.other_other] at inward
  have unread := inward.unread
  cases front : pending side.other with
  | nil =>
      rw [front, wire_nil] at unread
      rw [unread]
      simp [firstFrame?, lengthSize]
  | cons payload rest =>
      have fits := inward.fits payload (by rw [front]; exact List.mem_cons_self)
      have length := length_sealedBody lawful (duplex.on side).receiver.key
        ((duplex.on side).receiver.counter.toNat + 1) payload
      rw [front, wire_cons] at unread
      rw [unread, firstFrame?_frame (by rw [length]; exact Nat.le_add_left _ _) (by rw [length]; exact fits)]
      simp

/-- What an operation comes to that is allowed: one more payload under way, a refusal that changes nothing,
or one payload less under way. -/
inductive Progress (suite : Suite) (duplex : Duplex) (pending : Side → List Octets) (side : Side)
    (operation : Operation) : Answer × Duplex → Prop where
  | sent (payload : Octets) (next : Duplex) (outgoing : operation.outgoing? = some payload)
      (flight : InFlight suite next (Function.update pending side (pending side ++ [payload]))) :
      Progress suite duplex pending side operation (.done (.ok ()), next)
  | refused (payload : Octets) (failure : Failure) (outgoing : operation.outgoing? = some payload) :
      Progress suite duplex pending side operation (.done (.error failure), duplex)
  | received (payload : Octets) (rest : List Octets) (next : Duplex) (receives : operation.receives = true)
      (front : pending side.other = payload :: rest)
      (flight : InFlight suite next (Function.update pending side.other rest)) :
      Progress suite duplex pending side operation (operation.reading payload, next)

theorem progress (lawful : suite.Lawful) (flight : InFlight suite duplex pending)
    (allowed : duplex.Allows side operation) :
    Progress suite duplex pending side operation (duplex.perform suite side operation) := by
  rcases allowed.cases with ⟨payload, outgoing, more⟩ | ⟨receives, whole⟩
  · by_cases fits : Fits payload
    · obtain ⟨next, performed, nextFlight⟩ := flight.perform_fits outgoing fits (more fits)
      rw [performed]
      exact .sent payload next outgoing nextFlight
    · rw [flight.perform_oversize outgoing fits]
      exact .refused payload _ outgoing
  · have present := (flight.isSome_firstFrame?_iff lawful).mp whole
    obtain ⟨payload, rest, front⟩ := List.exists_cons_of_ne_nil present
    obtain ⟨next, performed, nextFlight⟩ := flight.perform_receives lawful receives front
    rw [performed]
    exact .received payload rest next receives front nextFlight

end InFlight

/-! ## Whole runs -/

section Records

variable {operation : Operation} {payload : Octets} (side acting : Side) (entries : List Entry)

theorem sent_done (outgoing : operation.outgoing? = some payload) :
    sent side (⟨acting, operation, .done (.ok ())⟩ :: entries) =
      if acting = side then payload :: sent side entries else sent side entries := by
  by_cases same : acting = side <;> simp [sent, same, outgoing]

theorem sent_refused (failure : Failure) :
    sent side (⟨acting, operation, .done (.error failure)⟩ :: entries) = sent side entries := by
  simp [sent]

theorem sent_reading :
    sent side (⟨acting, operation, operation.reading payload⟩ :: entries) = sent side entries := by
  cases operation <;> simp [sent, Operation.reading]

theorem receipts_of_outgoing? (outgoing : operation.outgoing? = some payload) (answer : Answer) :
    receipts side (⟨acting, operation, answer⟩ :: entries) = receipts side entries := by
  cases operation with
  | send message | sendFrame sent => simp [receipts, Operation.receives]
  | receive | receiveFrame | close | feed bytes => cases outgoing

theorem receipts_of_receives (receives : operation.receives = true) (answer : Answer) :
    receipts side (⟨acting, operation, answer⟩ :: entries) =
      if acting = side then ⟨acting, operation, answer⟩ :: receipts side entries
      else receipts side entries := by
  by_cases same : acting = side <;> simp [receipts, receives, same]

end Records

/-- What was asked for so far is the beginning of what was under way and sent since, and the rest of it is
still under way. -/
theorem InFlight.run {suite : Suite} (lawful : suite.Lawful) {duplex : Duplex}
    {pending : Side → List Octets} (flight : InFlight suite duplex pending)
    {actions : List (Side × Operation)} (allowed : duplex.AllowsAll suite actions) :
    ∃ remaining, InFlight suite (duplex.run suite actions).2 remaining ∧
      ∀ side, ∃ taken, pending side ++ sent side (duplex.run suite actions).1 = taken ++ remaining side ∧
        List.Forall₂ (fun entry payload => entry.answer = entry.operation.reading payload)
          (receipts side.other (duplex.run suite actions).1) taken := by
  induction actions generalizing duplex pending with
  | nil => exact ⟨pending, flight, fun side => ⟨[], by simp [sent, Duplex.run], .nil⟩⟩
  | cons action rest ih =>
      obtain ⟨acting, operation⟩ := action
      obtain ⟨first, later⟩ := allowed
      have progress := flight.progress lawful first
      rw [run_cons]
      generalize duplex.perform suite acting operation = outcome at progress later
      cases progress with
      | sent payload next outgoing nextFlight =>
          obtain ⟨remaining, lastFlight, inOrder⟩ := ih nextFlight later
          refine ⟨remaining, lastFlight, fun side => ?_⟩
          obtain ⟨taken, whole, readings⟩ := inOrder side
          refine ⟨taken, ?_, ?_⟩
          · rw [← whole, sent_done _ _ _ outgoing]
            by_cases same : acting = side
            · rw [if_pos same, same, Function.update_self, List.append_assoc, List.singleton_append]
            · rw [if_neg same, Function.update_of_ne (Ne.symm same)]
          · rw [receipts_of_outgoing? _ _ _ outgoing]
            exact readings
      | refused payload failure outgoing =>
          obtain ⟨remaining, lastFlight, inOrder⟩ := ih flight later
          refine ⟨remaining, lastFlight, fun side => ?_⟩
          obtain ⟨taken, whole, readings⟩ := inOrder side
          refine ⟨taken, ?_, ?_⟩
          · rw [sent_refused, whole]
          · rw [receipts_of_outgoing? _ _ _ outgoing]
            exact readings
      | received payload ahead next receives front nextFlight =>
          obtain ⟨remaining, lastFlight, inOrder⟩ := ih nextFlight later
          refine ⟨remaining, lastFlight, fun side => ?_⟩
          obtain ⟨taken, whole, readings⟩ := inOrder side
          rw [sent_reading, receipts_of_receives _ _ _ receives]
          by_cases same : acting = side.other
          · have back : acting.other = side := by rw [same, Side.other_other]
            rw [back] at front whole
            rw [Function.update_self] at whole
            rw [if_pos same, front]
            refine ⟨payload :: taken, ?_, .cons rfl readings⟩
            rw [List.cons_append, whole, List.cons_append]
          · have apart : side ≠ acting.other := fun equal => same (by rw [equal, Side.other_other])
            rw [Function.update_of_ne apart] at whole
            rw [if_neg same]
            exact ⟨taken, whole, readings⟩

theorem AllowsAll.of_append {suite : Suite} {duplex : Duplex} {first second : List (Side × Operation)}
    (allowed : duplex.AllowsAll suite (first ++ second)) :
    duplex.AllowsAll suite first ∧ (duplex.run suite first).2.AllowsAll suite second := by
  induction first generalizing duplex with
  | nil => exact ⟨trivial, allowed⟩
  | cons action rest ih =>
      obtain ⟨now, later⟩ := allowed
      obtain ⟨begun, ended⟩ := ih later
      exact ⟨⟨now, begun⟩, ended⟩

/-! ## An unused pair -/

/-- The two channels on new streams that seal and open under each other's keys. -/
def unused (first second : Gcm.Key) : Duplex where
  left := ofKeys { address := "right" } ⟨first, second⟩
  right := ofKeys { address := "left" } ⟨second, first⟩

theorem joined_unused (first second : Gcm.Key) : (unused first second).Joined where
  ciphers side := by cases side <;> rfl
  usable side := by cases side <;> rfl
  lossless side := by cases side <;> exact ⟨rfl, rfl⟩
  unread side := by cases side <;> rfl
  carried side := by cases side <;> rfl

/-- Three bytes that are no message, and a farewell behind them. -/
def garbledFarewell : List (Side × Operation) :=
  [(.left, .sendFrame [1, 2, 3]), (.left, .send .disconnect), (.right, .receive), (.right, .receive)]

theorem allowsAll_garbledFarewell (first second : Gcm.Key) :
    (unused first second).AllowsAll Suite.standard garbledFarewell := by
  have lawful := Suite.standard_lawful
  have start := (joined_unused first second).inFlight Suite.standard
  have garbled : (Operation.sendFrame [1, 2, 3]).outgoing? = some [1, 2, 3] := rfl
  have farewell : (Operation.send .disconnect).outgoing? = some Message.disconnect.encode := rfl
  have fresh : ((unused first second).on .left).sender.counter ≠ Cipher.lastCounter := by
    change (1 : UInt64) ≠ Cipher.lastCounter
    decide
  obtain ⟨one, sentOne, oneFlight⟩ := start.perform_fits garbled (by decide) fresh
  have used : (one.on .left).sender.counter ≠ Cipher.lastCounter := by
    have equal : one = ((unused first second).perform Suite.standard .left (.sendFrame [1, 2, 3])).2 := by
      rw [sentOne]
    rw [equal]
    change (2 : UInt64) ≠ Cipher.lastCounter
    decide
  obtain ⟨two, sentTwo, twoFlight⟩ := oneFlight.perform_fits farewell (encode_fits _) used
  have read : ∃ three, two.perform Suite.standard .right .receive = _ ∧
      InFlight Suite.standard three (Function.update _ _ [Message.disconnect.encode]) :=
    twoFlight.perform_receives lawful rfl rfl
  obtain ⟨three, readOne, threeFlight⟩ := read
  simp only [garbledFarewell, AllowsAll, sentOne, sentTwo, readOne]
  refine ⟨fun _ => fresh, used, ?_, ?_, trivial⟩
  · exact (twoFlight.isSome_firstFrame?_iff lawful).mpr (List.cons_ne_nil _ _)
  · exact (threeFlight.isSome_firstFrame?_iff lawful).mpr (List.cons_ne_nil _ _)

/-! ## In order, once and unchanged -/

/-- A frame that is asked for while a whole one is unread is the one that the other side sent at this
place in the order, and is read as that payload reads. A payload is refused exactly if it does not fit,
and then nothing changes. What is unread are the frames of the payloads not yet asked for. -/
theorem delivers_in_order {suite : Suite} (lawful : suite.Lawful) {duplex : Duplex}
    (joined : duplex.Joined) {actions : List (Side × Operation)}
    (allowed : duplex.AllowsAll suite actions) :
    (∀ side (k : Nat) (entry : Entry), (receipts side (duplex.run suite actions).1)[k]? = some entry →
      ∃ payload, (sent side.other (duplex.run suite actions).1)[k]? = some payload ∧
        entry.answer = entry.operation.reading payload) ∧
    (∀ before side operation after payload, actions = before ++ (side, operation) :: after →
      operation.outgoing? = some payload →
        (Fits payload →
          ((duplex.run suite before).2.perform suite side operation).1 = .done (.ok ())) ∧
        (¬ Fits payload →
          (duplex.run suite before).2.perform suite side operation =
            (.done (.error (.wire (.oversize payload.length))), (duplex.run suite before).2))) ∧
    ∀ side, ((duplex.run suite actions).2.on side).stream.incoming =
      wire suite ((duplex.run suite actions).2.on side).receiver.key
        ((duplex.run suite actions).2.on side).receiver.counter.toNat
        ((sent side.other (duplex.run suite actions).1).drop
          (receipts side (duplex.run suite actions).1).length) := by
  have start := joined.inFlight suite
  obtain ⟨remaining, flight, inOrder⟩ := start.run lawful allowed
  refine ⟨?_, ?_, ?_⟩
  · intro side k entry asked
    obtain ⟨taken, whole, readings⟩ := inOrder side.other
    rw [List.nil_append] at whole
    rw [Side.other_other] at readings
    obtain ⟨reached, found⟩ := List.getElem?_eq_some_iff.mp asked
    have within : k < taken.length := readings.length_eq ▸ reached
    refine ⟨taken[k], ?_, ?_⟩
    · rw [whole, List.getElem?_append_left within, List.getElem?_eq_getElem within]
    · have read := readings.get reached within
      rw [List.get_eq_getElem, List.get_eq_getElem, found] at read
      exact read
  · intro before side operation after payload split outgoing
    subst split
    obtain ⟨begun, now, _⟩ := allowed.of_append
    obtain ⟨pending, current, _⟩ := start.run lawful begun
    constructor
    · intro fits
      rcases now.cases with ⟨other, same, more⟩ | ⟨receives, _⟩
      · rw [outgoing] at same
        cases same
        obtain ⟨next, performed, _⟩ := current.perform_fits outgoing fits (more fits)
        rw [performed]
      · cases operation <;> simp_all [Operation.outgoing?, Operation.receives]
    · intro oversize
      exact current.perform_oversize outgoing oversize
  · intro side
    obtain ⟨taken, whole, readings⟩ := inOrder side.other
    rw [List.nil_append] at whole
    rw [Side.other_other] at readings
    have unread := (flight.carries side.other).unread
    rw [Side.other_other] at unread
    rw [unread, whole, readings.length_eq, List.drop_left]

/-- The farewell is read although the bytes before it could not be. -/
theorem delivers_in_order_garbledFarewell :
    (unused (Block.little 32 1) (Block.little 32 2)).Joined ∧
      (unused (Block.little 32 1) (Block.little 32 2)).AllowsAll Suite.standard garbledFarewell ∧
      ∀ (k : Nat) (entry : Entry),
        (receipts .right ((unused (Block.little 32 1) (Block.little 32 2)).run Suite.standard
          garbledFarewell).1)[k]? = some entry →
        ∃ payload, (sent .left ((unused (Block.little 32 1) (Block.little 32 2)).run Suite.standard
          garbledFarewell).1)[k]? = some payload ∧ entry.answer = entry.operation.reading payload :=
  ⟨joined_unused _ _, allowsAll_garbledFarewell _ _,
    (delivers_in_order Suite.standard_lawful (joined_unused _ _) (allowsAll_garbledFarewell _ _)).1 .right⟩

end Duplex

end Courier
