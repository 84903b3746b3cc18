import Courier.Proofs.Handshake.Agreement
import Courier.Proofs.Session.Operation

/-!
# The life of a session

Whatever is done with a session in whatever order, its state only moves forward,
it owns a channel exactly once a handshake has completed, and it says farewell
at most once, when it is first closed and its peer has not left before. What is
known of a session at any time is an account of what was done with it and of its
events; every operation keeps the account.
-/

namespace Courier

namespace Session

variable {suite : Suite} {session : Session}

/-! ## The account -/

/-- What is known of a session by what was done with it and by its events. -/
structure Account (before : List Operation) (log : List Event) (session : Session) : Prop where
  closable : session.transport.IsClosable
  secured : session.state = .established ∨ session.state = .disconnecting →
    session.transport.channel?.isSome
  unsecured : session.state = .connecting → session.transport.channel?.isSome = false
  hungUp : session.state = .closed → session.transport.IsHungUp
  closes : session.state = .closed ↔ .close ∈ before
  finishes : session.finished = true ↔ .markFinished ∈ before
  completed : session.transport.channel?.isSome ↔ .established ∈ log
  parted : session.peerDisconnected = true ↔ .heard .disconnect ∈ log
  left : session.peerDisconnected = true → session.state = .disconnecting ∨ session.state = .closed
  counted : session.transport.counter = 1 + (sealings log).length
  unspoken : session.state ≠ .closed → log.countP Event.isFarewell = 0
  farewells : log.countP Event.isFarewell ≤ 1
  order : log.Pairwise fun earlier later => earlier = .heard .disconnect → later.isFarewell = false

namespace Account

variable {before : List Operation} {log news : List Event} {next : Session} {operation : Operation}

/-- A new session, of which nothing has happened. -/
theorem new (address : String) (entropy : Entropy) {given : Option Stream}
    (closable : ∀ stream, given = some stream → stream.failingCloses = 0) :
    Account [] [] (open? address entropy given) where
  closable := by
    intro stream found
    cases given with
    | none => cases found
    | some given =>
        cases found
        exact closable stream rfl
  secured := by simp [open?]
  unsecured := by cases given <;> simp [open?, Transport.channel?]
  hungUp := by simp [open?]
  closes := by simp [open?]
  finishes := by simp [open?]
  completed := by cases given <;> simp [open?, Transport.channel?]
  parted := by simp [open?]
  left := by simp [open?]
  counted := by cases given <;> rfl
  unspoken := fun _ => rfl
  farewells := Nat.zero_le 1
  order := .nil

theorem served (account : Account before log session) (served : Served session news next)
    (going : operation ≠ .close) (unmarked : operation ≠ .markFinished) :
    Account (before ++ [operation]) (log ++ news) next := by
  have stays : next.state = .closed ↔ session.state = .closed := by
    rcases served.state with same | ⟨established, left⟩
    · rw [same]
    · simp [established, left]
  have silent : news.countP Event.isFarewell = 0 := by
    rw [List.countP_eq_zero]
    intro event present
    simp [(served.replied event present).2]
  constructor
  · exact served.transport.isClosable account.closable
  · intro inside
    rw [served.transport.secured]
    refine account.secured ?_
    rcases served.state with same | ⟨established, left⟩
    · rwa [← same]
    · exact .inl established
  · intro connecting
    rw [served.transport.secured]
    refine account.unsecured ?_
    rcases served.state with same | ⟨established, left⟩
    · rwa [← same]
    · rw [left] at connecting
      cases connecting
  · intro closed
    exact served.transport.isHungUp (account.hungUp (stays.mp closed))
  · rw [stays, account.closes]
    simp [going.symm]
  · rw [served.finished, account.finishes]
    simp [unmarked.symm]
  · have absent : Event.established ∉ news := fun present => (served.replied _ present).1 rfl
    rw [served.transport.secured, account.completed]
    simp [absent]
  · rw [served.peer, account.parted, List.mem_append]
  · intro parted
    rcases served.peer.mp parted with already | heard
    · rcases served.state with same | ⟨established, left⟩
      · rw [same]
        exact account.left already
      · exact .inl left
    · exact .inl (served.left heard)
  · rw [served.transport.counter, account.counted, sealings_append, List.length_append, Nat.add_assoc]
  · intro stillOpen
    rw [List.countP_append, silent]
    exact account.unspoken fun closed => stillOpen (stays.mpr closed)
  · rw [List.countP_append, silent]
    exact account.farewells
  · refine List.pairwise_append.mpr ⟨account.order, ?_, ?_⟩
    · exact List.pairwise_of_forall_mem_list fun earlier _ later present _ => (served.replied later present).2
    · intro earlier _ later present _
      exact (served.replied later present).2

/-- A session whose handshake has completed. -/
theorem established (account : Account before log session) {stream given : Stream} {entropy : Entropy}
    {keys : ChannelKeys} (owned : session.transport = .raw given) (connecting : session.state = .connecting)
    (kept : given.Keeps stream) :
    Account (before ++ [.establish]) (log ++ [.established])
      { session with
        entropy
        state := .established
        transport := .secured (Channel.ofKeys stream keys) } := by
  have opened : session.state ≠ .closed := by simp [connecting]
  have present : session.peerDisconnected = false := by
    cases flag : session.peerDisconnected with
    | false => rfl
    | true => simpa [connecting] using account.left flag
  constructor
  · rintro next found
    cases found
    exact kept.closable (account.closable given (by rw [owned]; rfl))
  · exact fun _ => rfl
  · exact fun connecting => nomatch connecting
  · exact fun closed => nomatch closed
  · simp [← account.closes, opened]
  · simp [account.finishes]
  · simp [Transport.channel?]
  · simp [account.parted]
  · simp [present]
  · have counted := account.counted
    rw [owned] at counted
    rw [sealings_append]
    exact counted.trans (by simp [sealings, Event.sealing?])
  · intro _
    rw [List.countP_append, account.unspoken opened]
    rfl
  · rw [List.countP_append, account.unspoken opened]
    exact Nat.zero_le 1
  · refine List.pairwise_append.mpr ⟨account.order, List.pairwise_singleton _ _, ?_⟩
    rintro earlier _ later found _
    rw [List.mem_singleton.mp found]
    rfl

/-- A session that was closed: it says farewell if it is the first to leave. -/
theorem closed (account : Account before log session) {transport : Transport}
    (used : session.transport.Used (session.farewell? suite).toList.length transport)
    (shut : transport.IsHungUp) :
    Account (before ++ [.close]) (log ++ (session.farewell? suite).toList.map .sealed)
      { session with state := .closed, transport } := by
  have first : session.state = .closed → session.farewell? suite = none := by
    intro closed
    simp [farewell?, announces, closed]
  have apart : Event.heard .disconnect ∈ log → session.farewell? suite = none := by
    intro heard
    have flag := account.parted.mpr heard
    rcases account.left flag with leaving | closed
    · simp [farewell?, announces, leaving, flag]
    · exact first closed
  have counted : sealings ((session.farewell? suite).toList.map .sealed) = (session.farewell? suite).toList := by
    cases session.farewell? suite <;> rfl
  constructor
  · exact used.isClosable account.closable
  · exact fun inside => by simp at inside
  · intro connecting
    cases connecting
  · exact fun _ => shut
  · simp
  · simp [account.finishes]
  · rw [used.secured, account.completed]
    simp
  · simp [account.parted]
  · exact fun _ => .inr rfl
  · rw [used.counter, account.counted, sealings_append, List.length_append, counted, Nat.add_assoc]
  · exact fun stillOpen => absurd rfl stillOpen
  · rw [List.countP_append]
    by_cases already : session.state = .closed
    · rw [first already]
      exact account.farewells
    · rw [account.unspoken already, Nat.zero_add]
      cases session.farewell? suite with
      | none => exact Nat.zero_le 1
      | some sealing => exact List.countP_le_length
  · refine List.pairwise_append.mpr ⟨account.order, ?_, ?_⟩
    · cases session.farewell? suite with
      | none => exact .nil
      | some sealing => exact List.pairwise_singleton _ _
    · rintro earlier here later present rfl
      rw [apart here] at present
      cases present

theorem marked (account : Account before log session) :
    Account (before ++ [.markFinished]) (log ++ []) { session with finished := true } := by
  rw [List.append_nil]
  exact
    { account with
      closes := by simp [account.closes]
      finishes := by simp }

/-- Every operation keeps the account. -/
theorem apply (suite : Suite) (account : Account before log session) (operation : Operation) :
    Account (before ++ [operation]) (log ++ operation.events suite session)
      (operation.apply suite session) := by
  cases operation with
  | establish =>
      have done := establishing suite session
      rw [Operation.events, Operation.apply, Work.events_of_shakes suite .keepOpen ⟨.checking, session⟩ .checking]
      generalize session.establish suite = outcome at done
      cases done with
      | completed stream next entropy keys owned connecting kept =>
          exact account.established owned connecting kept
      | failed stream next entropy error owned connecting kept =>
          exact account.served (.quiet (owned ▸ .of_keeps kept)) (by simp) (by simp)
      | refused error never => exact account.served (.refl session) (by simp) (by simp)
  | serve policy =>
      exact account.served (Work.served_conclude suite policy ⟨.starting, session⟩ trivial) (by simp) (by simp)
  | handle policy message => exact account.served (.handle policy session message) (by simp) (by simp)
  | close =>
      obtain ⟨transport, closed, used, shut⟩ := exists_close suite account.closable
      rw [Operation.apply, closed]
      exact account.closed used shut
  | markFinished => exact account.marked
  | arrive bytes => exact account.served (.quiet (.feed session.transport bytes)) (by simp) (by simp)

/-- Every run keeps the account. -/
theorem run (suite : Suite) (account : Account before log session) (operations : List Operation) :
    Account (before ++ operations) (log ++ session.events suite operations) (session.after suite operations) := by
  induction operations generalizing before log session with
  | nil => simpa [after, events] using account
  | cons operation rest ih =>
      have later := ih (account.apply suite operation)
      rw [List.append_assoc, List.append_assoc, List.singleton_append] at later
      exact later

end Account

/-! ## What an operation does -/

variable {before : List Operation} {log : List Event}

/-- The state moves forward or not at all. -/
theorem moves (suite : Suite) (account : Account before log session) (operation : Operation) :
    (operation.apply suite session).state = session.state ∨
      session.state.canBecome (operation.apply suite session).state = true := by
  have serving {news : List Event} {next : Session} (served : Served session news next) :
      next.state = session.state ∨ session.state.canBecome next.state = true := by
    rcases served.state with same | ⟨established, left⟩
    · exact .inl same
    · rw [established, left]
      exact .inr rfl
  cases operation with
  | establish =>
      have done := establishing suite session
      rw [Operation.apply]
      generalize session.establish suite = outcome at done
      cases done with
      | completed stream next entropy keys owned connecting kept =>
          rw [connecting]
          exact .inr rfl
      | failed | refused => exact .inl rfl
  | serve policy => exact serving (Work.served_conclude suite policy ⟨.starting, session⟩ trivial)
  | handle policy message => exact serving (.handle policy session message)
  | close =>
      obtain ⟨transport, closed, _⟩ := exists_close suite account.closable
      rw [Operation.apply, closed]
      cases session.state with
      | closed => exact .inl rfl
      | connecting | established | disconnecting => exact .inr rfl
  | markFinished | arrive bytes => exact .inl rfl

/-- Once a session is closed, nothing that is done with it does anything to its stream. -/
theorem apply_of_closed (suite : Suite) (account : Account before log session)
    (closed : session.state = .closed) {operation : Operation} (own : ∀ bytes, operation ≠ .arrive bytes) :
    (operation.apply suite session).transport = session.transport ∧ operation.events suite session = [] := by
  have left : session.state ≠ .established := by simp [closed]
  cases operation with
  | establish =>
      have refused : session.awaitsHandshake = false := by
        rw [← Bool.not_eq_true, awaitsHandshake_iff]
        simp [closed]
      rw [Operation.apply, Operation.events, establish_of_not_awaitsHandshake refused,
        Work.events_of_shakes suite .keepOpen ⟨.checking, session⟩ .checking]
      exact ⟨rfl, rfl⟩
  | serve policy =>
      obtain ⟨same, nothing⟩ := serve_of_ne suite policy left
      rw [Operation.apply, same]
      exact ⟨rfl, nothing⟩
  | handle policy message =>
      have refused : session.handle policy message = (.error _, session) := if_pos left
      rw [Operation.apply, Operation.events, hearing?, refused]
      exact ⟨rfl, rfl⟩
  | close =>
      have unannounced : announces session.state session.peerDisconnected = false := by simp [announces, closed]
      have same := hangUp_of_isHungUp { session with state := .closed } account.closable (account.hungUp closed)
      rw [Operation.apply, Operation.events, close_of_unannounced suite unannounced, same, farewell?, unannounced]
      exact ⟨rfl, rfl⟩
  | markFinished => exact ⟨rfl, rfl⟩
  | arrive bytes => exact absurd rfl (own bytes)

/-! ## Whole lives -/

/-- Whatever was done with a session that began on a stream that can be closed, and whatever is done next:
the state stays or moves forward; there is a channel exactly if a handshake has completed, and there is
one while the session is established or disconnecting; the events are complete, since the counter tells
how many payloads were sealed; a farewell is sealed at most once, and exactly by a first close that finds
a channel that can seal and a session that the peer has not left; none is sealed after the peer has left;
closing succeeds, and from the first close on the session is closed, its stream is closed, and nothing
else is done with the stream; and only the first to ask is told to remove the session. -/
theorem keeps_life_cycle (suite : Suite) (address : String) (entropy : Entropy) {given : Option Stream}
    (closable : ∀ stream, given = some stream → stream.failingCloses = 0)
    {before : List Operation} {now : Session} {log : List Event}
    (reached : (open? address entropy given).after suite before = now)
    (logged : (open? address entropy given).events suite before = log) (operation : Operation) :
    ((operation.apply suite now).state = now.state ∨
      now.state.canBecome (operation.apply suite now).state = true) ∧
    ((∃ channel, now.transport = .secured channel) ↔ .established ∈ log) ∧
    (now.state = .established ∨ now.state = .disconnecting → ∃ channel, now.transport = .secured channel) ∧
    now.transport.counter = 1 + (sealings log).length ∧
    log.countP Event.isFarewell ≤ 1 ∧
    ((operation.events suite now).any Event.isFarewell = true ↔
      operation = .close ∧ .close ∉ before ∧
        (now.state = .established ∨ now.state = .disconnecting ∧ .heard .disconnect ∉ log) ∧
        ∃ channel, now.transport = .secured channel ∧ channel.poisoned = false ∧
          channel.sender.counter ≠ Cipher.lastCounter) ∧
    (log.Pairwise fun earlier later => earlier = .heard .disconnect → later.isFarewell = false) ∧
    (now.close suite).1 = .ok () ∧
    (.close ∈ before →
      now.state = .closed ∧ now.transport.IsHungUp ∧
        ((∀ bytes, operation ≠ .arrive bytes) →
          (operation.apply suite now).transport = now.transport ∧ operation.events suite now = [])) ∧
    (now.markFinished.1 = true ↔ .markFinished ∉ before) := by
  have account : Account before log now := by
    have account := (Account.new address entropy closable).run suite before
    rwa [reached, logged] at account
  have secured : (∃ channel, now.transport = .secured channel) ↔ now.transport.channel?.isSome := by
    cases now.transport <;> simp [Transport.channel?]
  refine ⟨moves suite account operation, ?_, ?_, account.counted, account.farewells, ?_, account.order, ?_, ?_, ?_⟩
  · rw [secured]
    exact account.completed
  · rw [secured]
    exact account.secured
  · have opened : now.state = .established ∨ now.state = .disconnecting ∧ now.peerDisconnected = false →
        .close ∉ before := by
      rw [← account.closes]
      rintro (established | ⟨leaving, _⟩) closed
      · cases established.symm.trans closed
      · cases leaving.symm.trans closed
    rw [any_isFarewell_iff, isSome_farewell?_iff, ← account.parted, Bool.not_eq_true]
    constructor
    · rintro ⟨closes, state, channel⟩
      exact ⟨closes, opened state, state, channel⟩
    · rintro ⟨closes, _, state, channel⟩
      exact ⟨closes, state, channel⟩
  · obtain ⟨transport, closed, _⟩ := exists_close suite account.closable
    rw [closed]
  · intro already
    have closed := account.closes.mpr already
    exact ⟨closed, account.hungUp closed, apply_of_closed suite account closed⟩
  · rw [← account.finishes]
    cases flag : now.finished <;> simp [markFinished, flag]

section Strangers

open Handshake Meeting

/-- The stream of one stranger on which the other's key and salt have arrived. -/
def greeted : Stream where
  address := "right"
  incoming := (strangers .right).written Suite.standard 4
  ended := false

theorem exists_establish_greeted :
    ∃ stream keys, (open? "right" ((strangers .left).entropy 0) (some greeted)).establish Suite.standard =
      (.ok (), { open? "right" ((strangers .left).entropy 4) none with
        state := .established
        transport := .secured (Channel.ofKeys stream keys) }) := by
  obtain ⟨secret, agreed⟩ := agree_strangers
  have came : (strangers .left).outcome Suite.standard (strangers .right) = .ok _ :=
    outcome_of_ne (by decide) (agreed .left)
  have ran : Handshake.perform Suite.standard ((strangers .left).entropy 0) greeted = _ :=
    Person.run_party Suite.standard (strangers .left) (strangers .right)
  have owned : (open? "right" ((strangers .left).entropy 0) (some greeted)).transport = .raw greeted := rfl
  have established : (open? "right" ((strangers .left).entropy 0) (some greeted)).establish Suite.standard = _ :=
    establish_of_connecting owned rfl
  have drawn : (open? "right" ((strangers .left).entropy 0) (some greeted)).entropy =
      (strangers .left).entropy 0 := rfl
  rw [came] at ran
  rw [drawn, ran] at established
  exact ⟨_, _, established⟩

/-- Closing a session right after its handshake says farewell. -/
theorem keeps_life_cycle_greeted :
    (Operation.close.events Suite.standard
      ((open? "right" ((strangers .left).entropy 0) (some greeted)).after Suite.standard
        [.establish])).any Event.isFarewell = true := by
  have closable : ∀ stream, some greeted = some stream → stream.failingCloses = 0 := by
    rintro stream found
    cases found
    rfl
  obtain ⟨stream, keys, established⟩ := exists_establish_greeted
  have reached : (open? "right" ((strangers .left).entropy 0) (some greeted)).after Suite.standard
      [.establish] = _ := congrArg Prod.snd established
  obtain ⟨_, _, _, _, _, farewell, _⟩ :=
    keeps_life_cycle Suite.standard "right" ((strangers .left).entropy 0) closable reached rfl .close
  have fresh : (1 : UInt64) ≠ Cipher.lastCounter := by decide
  rw [reached]
  exact farewell.mpr ⟨rfl, by simp, .inl rfl, _, rfl, rfl, fresh⟩

end Strangers

end Session

end Courier
