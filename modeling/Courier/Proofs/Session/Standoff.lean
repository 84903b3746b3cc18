import Courier.Proofs.Session.Locks

/-!
# Closing a session whose peer does not read

On a stream that takes nothing a write returns only once the stream is closed, and
the closer closes it last, after it has announced itself. So a closer that
announces itself waits for its own close, either inside its write or for a lock
that is held inside the other's. One relation says what every reachable state of
the two threads has in common; each step keeps it, and the runs by induction.
-/

namespace Courier

/-! ## What serving leaves alone -/

namespace Work

variable {suite : Suite} {policy : Policy} {work : Work} {channel : Channel}

theorem received_onChannel {next : Channel → Work} (owned : work.session.transport = .secured channel)
    (goesOn : ∃ after, (next channel).session.transport = .secured after ∧ channel.Received after) :
    ∃ after, (work.onChannel next).session.transport = .secured after ∧ channel.Received after := by
  simp only [onChannel, owned]
  exact goesOn

theorem received_resume {Result : Type} (work : Work) {outcome : Outcome Channel Result}
    (next : Result → Activity) (received : channel.Received outcome.2) :
    ∃ after, (work.resume outcome next).session.transport = .secured after ∧ channel.Received after := by
  obtain ⟨result, after⟩ := outcome
  cases result <;> exact ⟨after, rfl, received⟩

/-- No step of serving but a reply seals anything, and none closes a stream whose channel is not poisoned. -/
theorem received_step (suite : Suite) (policy : Policy) (owned : work.session.transport = .secured channel)
    (silent : ∀ reply, work.activity ≠ .replying reply) :
    ∃ after, (work.step suite policy).session.transport = .secured after ∧ channel.Received after := by
  have same : ∃ after, work.session.transport = .secured after ∧ channel.Received after :=
    ⟨channel, owned, .refl channel⟩
  obtain ⟨activity, session⟩ := work
  change session.transport = .secured channel at owned
  cases activity with
  | checking | polling =>
      unfold step
      simp only
      split <;> exact same
  | shaking stage =>
      simp only [step, shake]
      split
      · exact same
      · exact same
      · rename_i raw
        rw [owned] at raw
        cases raw
      · exact same
  | installing keys =>
      simp only [step, install, owned]
      exact same
  | starting => exact received_onChannel owned same
  | awaitingLength =>
      refine received_onChannel owned ?_
      unfold readLength
      split
      · exact same
      · exact ⟨_, rfl, .read channel _⟩
  | measuring reading =>
      have judged := Channel.Received.receiving.judgeLength channel reading
      exact received_onChannel owned (received_resume _ _ judged)
  | awaitingBody length => exact received_onChannel owned ⟨_, rfl, .read channel length⟩
  | opening length reading =>
      have opened := Channel.Received.receiving.openFrame suite channel length reading
      exact received_onChannel owned (received_resume _ _ opened)
  | hearing message =>
      have kept : (session.handle policy message).2.transport = session.transport := by
        have handled := Session.handling policy session message
        generalize session.handle policy message = outcome at handled
        cases handled <;> rfl
      refine ⟨channel, ?_, .refl channel⟩
      rw [← owned, ← kept]
      change ((⟨.hearing message, session⟩ : Work).hear policy message).session.transport = _
      unfold hear
      split <;> rename_i heard <;> rw [heard]
  | replying reply => exact absurd rfl (silent reply)
  | ended result => exact same

end Work

namespace Session

namespace Standoff

variable {suite : Suite} {policy : Policy} {standoff next : Standoff} {channel after : Channel} {thread : Thread}

/-! ## What every state has in common -/

/-- As long as nobody has closed the stream: a nonce is left to the next who seals, unless somebody is inside
a write already, and nobody has come out of one. -/
structure Pent (standoff : Standoff) (channel : Channel) : Prop where
  opened : channel.stream.closed = false
  sealable : channel.sender.counter ≠ Cipher.lastCounter ∨
    ∃ thread framed, standoff.sending thread = some (.writing framed)
  unsent : ∀ thread result, standoff.sending thread ≠ some (.sent result)

/-- On a stream that takes nothing: who seals or writes owns the lock, the session's lock is free until the
closer takes it, and nobody has got further than into a write unless the stream was closed. -/
structure Standing (standoff : Standoff) (channel : Channel) : Prop where
  owned : standoff.session.transport = .secured channel
  stalled : channel.stream.stalled = true
  guarded : ∀ thread sending, standoff.sending thread = some sending → sending.holds = true →
    standoff.sendOwner = some thread
  entering : standoff.shutting = .entering → standoff.sessionOwner = none
  pent : channel.poisoned = false → (∀ result, standoff.shutting ≠ .ended result) → Pent standoff channel

theorem update_ne_sent {sending : Thread → Option Sending} {place : Sending}
    (unsent : ∀ thread result, sending thread ≠ some (.sent result)) (thread : Thread)
    (going : ∀ result, place ≠ .sent result) (other : Thread) (result : Except Failure Unit) :
    Function.update sending thread (some place) other ≠ some (.sent result) := by
  by_cases same : other = thread
  · subst same
    rw [Function.update_self]
    exact fun sent => going result (Option.some.inj sent)
  · rw [Function.update_of_ne same]
    exact unsent other result

theorem Pent.not_writable (pent : Pent standoff channel) (stalled : channel.stream.stalled = true) :
    channel.stream.writable = false := by
  rw [Stream.writable, pent.opened, stalled]
  rfl

namespace Standing

/-- The lock has one owner. -/
theorem eq_of_holds (standing : Standing standoff channel) {first second : Thread} {former latter : Sending}
    (firstSends : standoff.sending first = some former) (firstHolds : former.holds = true)
    (secondSends : standoff.sending second = some latter) (secondHolds : latter.holds = true) :
    first = second := by
  have owner := standing.guarded first former firstSends firstHolds
  rw [standing.guarded second latter secondSends secondHolds] at owner
  cases owner
  rfl

/-- Nobody comes out of a write, or is refused, before the stream is closed. -/
theorem of_going (standing : Standing standoff channel) {sending : Sending} {result : Except Failure Unit}
    (sends : standoff.sending thread = some sending)
    (progress : Sending.Progress thread channel standoff.sendOwner sending (.sent result, after, none))
    (usable : channel.poisoned = false) (going : ∀ result, standoff.shutting ≠ .ended result) : False := by
  have pent := standing.pent usable going
  cases progress with
  | refused message failure why =>
      rcases why with poisoned | last
      · exact Bool.eq_false_iff.mp usable poisoned
      · rcases pent.sealable with more | ⟨other, framed, writes⟩
        · exact more last
        · have same := standing.eq_of_holds sends rfl writes rfl
          subst same
          rw [sends] at writes
          cases writes
  | written framed result writable =>
      rw [pent.not_writable standing.stalled] at writable
      cases writable

theorem pent_of_announcing (standing : Standing standoff channel) (usable : channel.poisoned = false)
    (announcing : standoff.shutting = .announcing) : Pent standoff channel := by
  refine standing.pent usable ?_
  intro result
  rw [announcing]
  exact Shutting.noConfusion

/-- A step of sending: the lock is taken or given back. -/
theorem send (standing : Standing standoff channel) {sending sent : Sending} {owner : Option Thread}
    (sends : standoff.sending thread = some sending)
    (progress : Sending.Progress thread channel standoff.sendOwner sending (sent, after, owner)) :
    Standing { standoff with
      session := standoff.session.withChannel after
      sending := Function.update standoff.sending thread (some sent)
      sendOwner := owner } after where
  owned := rfl
  stalled := by cases progress <;> exact standing.stalled
  guarded := by
    intro other latter sendsOther holds
    simp only at sendsOther ⊢
    by_cases same : other = thread
    · subst same
      rw [Function.update_self] at sendsOther
      cases sendsOther
      cases progress with
      | taken message free => rfl
      | sealed message framed => exact standing.guarded other _ sends rfl
      | refused message failure why | written framed result writable => cases holds
    · rw [Function.update_of_ne same] at sendsOther
      have owner := standing.guarded other latter sendsOther holds
      cases progress with
      | taken message free =>
          rw [free] at owner
          cases owner
      | sealed message framed => exact owner
      | refused message failure why | written framed result writable =>
          exact absurd (standing.eq_of_holds sendsOther holds sends rfl) same
  entering := standing.entering
  pent := by
    intro usable going
    cases progress with
    | taken message free =>
        obtain ⟨opened, sealable, unsent⟩ := standing.pent usable going
        refine ⟨opened, sealable.imp_right ?_, update_ne_sent unsent thread nofun⟩
        rintro ⟨other, framed, writes⟩
        have different : other ≠ thread := by
          rintro rfl
          rw [sends] at writes
          cases writes
        exact ⟨other, framed, (Function.update_of_ne different ..).trans writes⟩
    | sealed message framed =>
        obtain ⟨opened, _, unsent⟩ := standing.pent usable going
        exact ⟨opened, .inr ⟨thread, framed, Function.update_self ..⟩, update_ne_sent unsent thread nofun⟩
    | refused message failure why =>
        exact (standing.of_going sends (.refused message failure why) usable going).elim
    | written framed result writable =>
        exact (standing.of_going sends (.written framed result writable) usable going).elim

/-- A step that neither takes the lock nor gives it back. -/
theorem of_quiet (standing : Standing standoff channel) (received : channel.Received after)
    (owned : next.session.transport = .secured after) (owner : next.sendOwner = standoff.sendOwner)
    (entering : next.shutting = .entering → next.sessionOwner = none)
    (going : ∀ result, standoff.shutting = .ended result → next.shutting = .ended result)
    (places : ∀ thread, next.sending thread = standoff.sending thread ∨
      (∀ framed, standoff.sending thread ≠ some (.writing framed)) ∧
        (next.sending thread = none ∨ ∃ message, next.sending thread = some (.waiting message))) :
    Standing next after where
  owned := owned
  stalled := received.stalled.trans standing.stalled
  guarded := by
    intro thread sending sends holds
    rw [owner]
    rcases places thread with same | ⟨_, none | ⟨message, waits⟩⟩
    · exact standing.guarded thread sending (same.symm.trans sends) holds
    · rw [none] at sends
      cases sends
    · rw [waits] at sends
      cases sends
      cases holds
  entering := entering
  pent := by
    intro usable unended
    obtain ⟨opened, sealable, unsent⟩ :=
      standing.pent (received.usable usable) fun result ended => unended result (going result ended)
    refine ⟨(received.closed usable).trans opened, ?_, ?_⟩
    · rw [received.sender]
      refine sealable.imp_right ?_
      rintro ⟨thread, framed, writes⟩
      rcases places thread with same | ⟨not, _⟩
      · exact ⟨thread, framed, same.trans writes⟩
      · exact absurd writes (not framed)
    · intro thread result
      rcases places thread with same | ⟨_, none | ⟨message, waits⟩⟩
      · rw [same]
        exact unsent thread result
      · rw [none]
        nofun
      · rw [waits]
        nofun

/-- A step of a thread that sends, where it goes on with nothing but another place. -/
theorem sends (standing : Standing standoff channel) {message : Message}
    {follow : Except Failure Unit → Standoff} (stepped : standoff.send? suite thread message follow = some next)
    (session : ∀ result, (follow result).session = standoff.session)
    (owner : ∀ result, (follow result).sendOwner = standoff.sendOwner)
    (entering : ∀ result, (follow result).shutting = .entering → (follow result).sessionOwner = none)
    (going : ∀ result ended, standoff.shutting = .ended ended → (follow result).shutting = .ended ended) :
    ∃ after, Standing next after ∧ after.poisoned = channel.poisoned ∧
      (next.shutting = standoff.shutting ∨
        ∃ result, standoff.sending thread = some (.sent result) ∧ next.shutting = (follow result).shutting) := by
  cases sends_of_send? standing.owned stepped with
  | begun nothing =>
      refine ⟨channel, standing.of_quiet (.refl channel) standing.owned rfl standing.entering
        (fun _ ended => ended) fun other => ?_, rfl, .inl rfl⟩
      by_cases same : other = thread
      · subst same
        refine .inr ⟨?_, .inr ⟨message, Function.update_self ..⟩⟩
        rw [nothing]
        nofun
      · exact .inl (Function.update_of_ne same ..)
  | progressed sending sent after owner sends progress =>
      refine ⟨after, standing.send sends progress, ?_, .inl rfl⟩
      cases progress <;> rfl
  | done result sent =>
      refine ⟨channel, standing.of_quiet (.refl channel) ?_ (owner result) (entering result) (going result)
        fun other => ?_, rfl, .inr ⟨result, sent, rfl⟩⟩
      · exact (congrArg Session.transport (session result)).trans standing.owned
      · by_cases same : other = thread
        · subst same
          refine .inr ⟨?_, .inl (Function.update_self ..)⟩
          rw [sent]
          nofun
        · exact .inl (Function.update_of_ne same ..)

theorem worked (standing : Standing standoff channel) (suite : Suite) (policy : Policy)
    (silent : ∀ reply, standoff.serving ≠ .replying reply) :
    ∃ after, Standing (standoff.worked suite policy) after ∧ channel.Received after := by
  have owned : (⟨standoff.serving, standoff.session⟩ : Work).session.transport = .secured channel :=
    standing.owned
  obtain ⟨after, owned, received⟩ := Work.received_step suite policy owned silent
  exact ⟨after, standing.of_quiet received owned rfl standing.entering (fun _ ended => ended) fun _ => .inl rfl,
    received⟩

/-- A step of serving. -/
theorem serve (standing : Standing standoff channel) (stepped : standoff.serve? suite policy = some next) :
    ∃ after, Standing next after ∧ (after.poisoned = false → channel.poisoned = false) ∧
      next.shutting = standoff.shutting := by
  cases place : standoff.serving with
  | ended result =>
      rw [serve?, place] at stepped
      cases stepped
  | replying reply =>
      rw [serve?, place] at stepped
      obtain ⟨after, stands, poisoned, shutting⟩ := standing.sends stepped
        (fun result => by cases result <;> rfl) (fun result => by cases result <;> rfl)
        (fun result => by cases result <;> exact standing.entering)
        (fun result _ ended => by cases result <;> exact ended)
      refine ⟨after, stands, fun usable => poisoned.symm.trans usable, ?_⟩
      rcases shutting with same | ⟨result, _, same⟩
      · exact same
      · rw [same]
        cases result <;> rfl
  | checking | shaking stage | installing keys | starting | polling | awaitingLength | measuring reading
  | awaitingBody length | opening length reading | hearing message =>
      rw [serve?, place] at stepped
      simp only [Option.ite_none_right_eq_some, Option.some.injEq] at stepped
      obtain ⟨_, rfl⟩ := stepped
      have silent (reply : Message) : standoff.serving ≠ .replying reply := by
        rw [place]
        exact Activity.noConfusion
      obtain ⟨after, stands, received⟩ := standing.worked suite policy silent
      exact ⟨after, stands, received.usable, rfl⟩

/-- A step of closing; one that has begun to announce itself does not go on before the stream is closed. -/
theorem shut (standing : Standing standoff channel) (stepped : standoff.shut? suite = some next) :
    ∃ after, Standing next after ∧ (after.poisoned = false → channel.poisoned = false) ∧
      (channel.poisoned = false → standoff.shutting = .announcing → next.shutting = .announcing) := by
  have quiet (next : Standoff) (session : next.session.transport = standoff.session.transport)
      (sending : next.sending = standoff.sending) (owner : next.sendOwner = standoff.sendOwner)
      (entered : next.shutting ≠ .entering) (going : ∀ result, standoff.shutting ≠ .ended result)
      (silent : standoff.shutting ≠ .announcing) :
      ∃ after, Standing next after ∧ (after.poisoned = false → channel.poisoned = false) ∧
        (channel.poisoned = false → standoff.shutting = .announcing → next.shutting = .announcing) := by
    refine ⟨channel, ?_, fun usable => usable, fun _ announcing => absurd announcing silent⟩
    refine standing.of_quiet (.refl channel) (session.trans standing.owned) owner ?_ ?_ ?_
    · exact fun entering => absurd entering entered
    · exact fun result ended => absurd ended (going result)
    · exact fun thread => .inl (by rw [sending])
  cases place : standoff.shutting with
  | entering =>
      rw [shut?, place] at stepped
      simp only [Option.ite_none_right_eq_some, Option.some.injEq] at stepped
      obtain ⟨_, rfl⟩ := stepped
      rw [place] at quiet
      exact quiet _ rfl rfl rfl Shutting.noConfusion (fun _ => Shutting.noConfusion) Shutting.noConfusion
  | reading | moving found =>
      rw [shut?, place] at stepped
      cases stepped
      rw [place] at quiet
      exact quiet _ rfl rfl rfl Shutting.noConfusion (fun _ => Shutting.noConfusion) Shutting.noConfusion
  | deciding found =>
      rw [shut?, place] at stepped
      simp only at stepped
      rw [place] at quiet
      split at stepped <;> cases stepped <;>
        exact quiet _ rfl rfl rfl Shutting.noConfusion (fun _ => Shutting.noConfusion) Shutting.noConfusion
  | announcing =>
      rw [shut?, place] at stepped
      obtain ⟨after, stands, poisoned, shutting⟩ := standing.sends stepped (fun _ => rfl) (fun _ => rfl)
        (fun _ => Shutting.noConfusion) (fun _ _ ended => by rw [place] at ended; cases ended)
      refine ⟨after, stands, fun usable => poisoned.symm.trans usable, ?_⟩
      intro usable _
      rcases shutting with same | ⟨result, sent, _⟩
      · exact same.trans place
      · exact absurd sent ((standing.pent_of_announcing usable place).unsent .closer result)
  | hangingUp =>
      rw [shut?, place] at stepped
      cases stepped
      have owned : standoff.session.hangUp.2.transport = .secured channel.close.2 := by
        rw [hangUp, standing.owned]
      have closed : channel.close.2.poisoned = channel.poisoned ∧
          channel.close.2.stream.stalled = channel.stream.stalled := by
        rw [Channel.close, Stream.close]
        cases channel.stream.failingCloses <;> exact ⟨rfl, rfl⟩
      refine ⟨_, ⟨owned, closed.2.trans standing.stalled, standing.guarded, Shutting.noConfusion, ?_⟩,
        fun usable => closed.1.symm.trans usable, fun _ => Shutting.noConfusion⟩
      intro _ going
      exact absurd rfl (going _)
  | ended result =>
      rw [shut?, place] at stepped
      cases stepped

theorem feed (standing : Standing standoff channel) (bytes : Octets) :
    Standing { standoff with session := standoff.session.feed bytes } (channel.fed bytes) := by
  have received : channel.Received (channel.fed bytes) := ⟨rfl, rfl, rfl, fun usable => usable, fun _ => rfl⟩
  have owned : (standoff.session.feed bytes).transport = .secured (channel.fed bytes) := by
    rw [Session.feed, standing.owned]
    rfl
  exact standing.of_quiet received owned rfl standing.entering (fun _ ended => ended) fun _ => .inl rfl

/-- Whatever happens next, a closer that announces itself is still at it unless a corrupt frame was met. -/
theorem move (standing : Standing standoff channel) (suite : Suite) (policy : Policy) (move : Move) :
    ∃ after, Standing (standoff.move suite policy move) after ∧
      (after.poisoned = false → channel.poisoned = false) ∧
      (channel.poisoned = false → standoff.shutting = .announcing →
        (standoff.move suite policy move).shutting = .announcing) := by
  cases move with
  | arrive bytes => exact ⟨_, standing.feed bytes, fun usable => usable, fun _ announcing => announcing⟩
  | step thread =>
      rw [Standoff.move]
      cases stepped : standoff.step? suite policy thread with
      | none => exact ⟨channel, standing, fun usable => usable, fun _ announcing => announcing⟩
      | some next =>
          cases thread with
          | closer => exact standing.shut stepped
          | handler =>
              obtain ⟨after, stands, kept, same⟩ := standing.serve stepped
              exact ⟨after, stands, kept, fun _ announcing => same.trans announcing⟩

theorem run (standing : Standing standoff channel) (suite : Suite) (policy : Policy) (moves : List Move) :
    ∃ after, Standing (standoff.run suite policy moves) after ∧
      (after.poisoned = false → channel.poisoned = false) ∧
      (after.poisoned = false → standoff.shutting = .announcing →
        (standoff.run suite policy moves).shutting = .announcing) := by
  induction moves generalizing standoff channel with
  | nil => exact ⟨channel, standing, fun usable => usable, fun _ announcing => announcing⟩
  | cons move rest ih =>
      obtain ⟨middle, stands, kept, announces⟩ := standing.move suite policy move
      obtain ⟨after, standsAfter, keptAfter, announcesAfter⟩ := ih stands
      refine ⟨after, standsAfter, fun usable => kept (keptAfter usable), ?_⟩
      intro usable announcing
      exact announcesAfter usable (announces (kept (keptAfter usable)) announcing)

theorem isPoisoned_eq (standing : Standing standoff channel) : standoff.isPoisoned = channel.poisoned := by
  rw [isPoisoned, standing.owned]

/-- The closer waits at no place but where it announces itself. -/
theorem isSome_shut? (standing : Standing standoff channel) (suite : Suite)
    (silent : standoff.shutting ≠ .announcing) (going : ∀ result, standoff.shutting ≠ .ended result) :
    (standoff.shut? suite).isSome = true := by
  unfold shut?
  cases place : standoff.shutting with
  | entering =>
      simp only
      rw [if_pos (standing.entering place)]
      rfl
  | reading | moving found | hangingUp => rfl
  | deciding found =>
      simp only
      split <;> rfl
  | announcing => exact absurd place silent
  | ended result => exact absurd place (going result)

theorem of_session {session : Session} (owned : session.transport = .secured channel)
    (opened : channel.stream.closed = false) (stalled : channel.stream.stalled = true)
    (more : channel.sender.counter ≠ Cipher.lastCounter) : Standing { session } channel where
  owned := owned
  stalled := stalled
  guarded := nofun
  entering := fun _ => rfl
  pent := fun _ _ => ⟨opened, .inl more, nofun⟩

end Standing

/-! ## The deadlock -/

/-- One thread is inside the write of a reply, and the closer waits for the lock that this thread owns. -/
structure Deadlock (standoff : Standoff) (channel : Channel) : Prop where
  standing : Standing standoff channel
  usable : channel.poisoned = false
  replying : ∃ reply, standoff.serving = .replying reply
  writing : ∃ framed, standoff.sending .handler = some (.writing framed)
  announcing : standoff.shutting = .announcing
  waiting : ∃ message, standoff.sending .closer = some (.waiting message)

namespace Deadlock

theorem step?_eq_none (deadlock : Deadlock standoff channel) (suite : Suite) (policy : Policy)
    (thread : Thread) : standoff.step? suite policy thread = none := by
  obtain ⟨standing, usable, ⟨reply, replying⟩, ⟨framed, writing⟩, announcing, message, waiting⟩ := deadlock
  have pent := standing.pent_of_announcing usable announcing
  have owner := standing.guarded .handler _ writing rfl
  cases thread with
  | handler =>
      rw [step?, serve?, replying]
      simp only
      rw [send?, writing, standing.owned]
      simp [Sending.step?, pent.not_writable standing.stalled]
  | closer =>
      rw [step?, shut?, announcing]
      simp only
      rw [send?, waiting, standing.owned, owner]
      simp [Sending.step?]

theorem isHungUp_eq_false (deadlock : Deadlock standoff channel) : standoff.session.isHungUp = false := by
  have pent := deadlock.standing.pent_of_announcing deadlock.usable deadlock.announcing
  rw [isHungUp, deadlock.standing.owned]
  exact pent.opened

/-- Bytes that arrive change nothing about it. -/
theorem move (deadlock : Deadlock standoff channel) (suite : Suite) (policy : Policy) (move : Move) :
    ∃ after, Deadlock (standoff.move suite policy move) after := by
  cases move with
  | step thread =>
      rw [Standoff.move, deadlock.step?_eq_none]
      exact ⟨channel, deadlock⟩
  | arrive bytes =>
      exact ⟨_, deadlock.standing.feed bytes, deadlock.usable, deadlock.replying, deadlock.writing,
        deadlock.announcing, deadlock.waiting⟩

theorem run (deadlock : Deadlock standoff channel) (suite : Suite) (policy : Policy) (moves : List Move) :
    ∃ after, Deadlock (standoff.run suite policy moves) after := by
  induction moves generalizing standoff channel with
  | nil => exact ⟨channel, deadlock⟩
  | cons move rest ih =>
      obtain ⟨after, still⟩ := deadlock.move suite policy move
      exact ih still

end Deadlock

/-! ## The way into it -/

/-- One thread serves until it is inside the write of the reply to a greeting, and then the other closes. -/
def closedWhileReplying : List Move :=
  List.replicate 7 (.step .handler) ++ (List.replicate 3 (.step .handler) ++ List.replicate 5 (.step .closer))

/-- An established session that was greeted, on a stream that takes nothing, gets there. -/
theorem exists_deadlock (suite : Suite) (policy : Policy) {session : Session} {channel after : Channel}
    (owned : session.transport = .secured channel) (established : session.state = .established)
    (opened : channel.stream.closed = false) (stalled : channel.stream.stalled = true)
    (ended : channel.stream.ended = true)
    (received : channel.receive suite = (.ok (.greeting protocolVersion), after))
    (usable : after.poisoned = false) (more : channel.sender.counter ≠ Cipher.lastCounter) :
    ∃ last, Deadlock (({ session } : Standoff).run suite policy closedWhileReplying) last := by
  have kept := Channel.Received.receiving.receive suite channel
  rw [received] at kept
  have left : after.sender.counter ≠ Cipher.lastCounter := by
    rw [kept.sender]
    exact more
  obtain ⟨framed, prepared⟩ : ∃ framed, after.prepare suite (Message.response .ok).encode =
      (.ok framed, { after with sender := after.sender.advanced }) :=
    ⟨_, Channel.prepare_of_fits usable (Channel.encode_fits (.response .ok)) left⟩
  have ran :=
    calc ({ session } : Standoff).run suite policy closedWhileReplying
        = (({ session } : Standoff).served channel .starting).run suite policy closedWhileReplying := by
          rw [served, withChannel_of_owned owned]
      _ = (({ session } : Standoff).writing { after with sender := after.sender.advanced } (.response .ok)
            framed).run suite policy (List.replicate 5 (.step .closer)) := by
          rw [closedWhileReplying, run_append, run_greeted suite policy established rfl ended received, run_append,
            run_reply suite policy rfl rfl prepared]
      _ = _ := run_announce suite policy rfl established rfl rfl rfl
  obtain ⟨here, standing, _⟩ :=
    (Standing.of_session owned opened stalled more).run suite policy closedWhileReplying
  rw [ran] at standing ⊢
  cases standing.owned
  exact ⟨_, standing, usable, ⟨_, rfl⟩, ⟨_, rfl⟩, rfl, _, rfl⟩

/-- A session with a new channel on which these messages of the peer's are unread, and whose peer reads nothing. -/
def unheeded (messages : List Message) : Session :=
  (visitedBy messages).withChannel
    { Channel.visitedBy messages with stream := { (Channel.visitedBy messages).stream with stalled := true } }

/-! ## What becomes of a closer -/

/-- A session is closed on a stream whose writes wait until it is closed. The closer waits at no place but
where it announces itself; there it stays, and the stream is open, unless the other thread meets a corrupt
frame; and when the other thread is inside the write of a reply by then, nothing will move either of them
again, whatever arrives. -/
theorem waits_for_own_close (suite : Suite) (policy : Policy) {session : Session} {channel : Channel}
    {standoff : Standoff} (owned : session.transport = .secured channel)
    (opened : channel.stream.closed = false) (stalled : channel.stream.stalled = true)
    (more : channel.sender.counter ≠ Cipher.lastCounter) {moves : List Move}
    (reached : ({ session } : Standoff).run suite policy moves = standoff) :
    (standoff.shutting ≠ .announcing → (∀ result, standoff.shutting ≠ .ended result) →
      (standoff.step? suite policy .closer).isSome = true) ∧
    (standoff.shutting = .announcing → ∀ later, (standoff.run suite policy later).isPoisoned = false →
      (standoff.run suite policy later).shutting = .announcing ∧
        (standoff.run suite policy later).session.isHungUp = false) ∧
    (standoff.shutting = .announcing → standoff.isPoisoned = false →
      ∀ reply framed sending, standoff.serving = .replying reply →
        standoff.sending .handler = some (.writing framed) → standoff.sending .closer = some sending →
        ∀ later thread, (standoff.run suite policy later).step? suite policy thread = none) := by
  obtain ⟨here, standing, _⟩ := (Standing.of_session owned opened stalled more).run suite policy moves
  rw [reached] at standing
  refine ⟨standing.isSome_shut? suite, ?_, ?_⟩
  · intro announcing later usable
    obtain ⟨after, stands, _, still⟩ := standing.run suite policy later
    rw [stands.isPoisoned_eq] at usable
    have place := still usable announcing
    have pent := stands.pent_of_announcing usable place
    refine ⟨place, ?_⟩
    rw [isHungUp, stands.owned]
    exact pent.opened
  · intro announcing usable reply framed sending replying writing sends later thread
    rw [standing.isPoisoned_eq] at usable
    have pent := standing.pent_of_announcing usable announcing
    have waiting : ∃ message, sending = .waiting message := by
      cases sending with
      | waiting message => exact ⟨message, rfl⟩
      | sealing message => cases standing.eq_of_holds writing rfl sends rfl
      | writing other => cases standing.eq_of_holds writing rfl sends rfl
      | sent result => exact absurd sends (pent.unsent .closer result)
    obtain ⟨message, rfl⟩ := waiting
    have deadlock : Deadlock standoff here :=
      ⟨standing, usable, ⟨reply, replying⟩, ⟨framed, writing⟩, announcing, message, sends⟩
    obtain ⟨_, still⟩ := deadlock.run suite policy later
    exact still.step?_eq_none suite policy thread

/-- With the other thread not even begun, the closer never gets out of its announcement. -/
theorem waits_for_own_close_alone :
    (({ session := unheeded [] } : Standoff).run Suite.standard .keepOpen
        (List.replicate 5 (.step .closer))).shutting = .announcing ∧
      ∀ later, ((({ session := unheeded [] } : Standoff).run Suite.standard .keepOpen
          (List.replicate 5 (.step .closer))).run Suite.standard .keepOpen later).isPoisoned = false →
        ((({ session := unheeded [] } : Standoff).run Suite.standard .keepOpen
          (List.replicate 5 (.step .closer))).run Suite.standard .keepOpen later).session.isHungUp = false := by
  have owned : (unheeded []).transport = .secured
      { Channel.visitedBy [] with stream := { (Channel.visitedBy []).stream with stalled := true } } := rfl
  have reached : ({ session := unheeded [] } : Standoff).run Suite.standard .keepOpen
      (List.replicate 5 (.step .closer)) = _ := rfl
  obtain ⟨_, stays, _⟩ := waits_for_own_close Suite.standard .keepOpen owned rfl rfl (by decide) reached
  refine ⟨rfl, ?_⟩
  intro later usable
  exact (stays rfl later usable).2

/-- A greeted session that was closed while the reply was being written to a peer that does not read. -/
def caughtReplying : Standoff :=
  ({ session := unheeded [.greeting 1] } : Standoff).run Suite.standard .keepOpen closedWhileReplying

/-- Neither of its threads has ended or will ever move again, whatever arrives, and the stream stays open. -/
theorem deadlocks_unheeded :
    caughtReplying.shutting = .announcing ∧ (∃ reply, caughtReplying.serving = .replying reply) ∧
      ∀ later,
        (∀ thread, (caughtReplying.run Suite.standard .keepOpen later).step? Suite.standard .keepOpen thread = none) ∧
        (caughtReplying.run Suite.standard .keepOpen later).session.isHungUp = false := by
  have ready := Channel.isReadyFor_visitedBy .keepOpen [.greeting 1] (by decide) (by decide)
  have stalled : Channel.IsReadyFor Suite.standard .keepOpen [.greeting 1]
      { Channel.visitedBy [.greeting 1] with
        stream := { (Channel.visitedBy [.greeting 1]).stream with stalled := true } } :=
    ⟨ready.usable, ready.opened, ready.valid, ready.unread, ready.receivable, ready.sealable, ready.taken⟩
  obtain ⟨here, deadlock⟩ : ∃ here, Deadlock caughtReplying here :=
    exists_deadlock Suite.standard .keepOpen rfl rfl rfl rfl rfl (stalled.receive Suite.standard_lawful) rfl
      (by decide)
  refine ⟨deadlock.announcing, deadlock.replying, ?_⟩
  intro later
  obtain ⟨last, still⟩ := deadlock.run Suite.standard .keepOpen later
  constructor
  · exact still.step?_eq_none Suite.standard .keepOpen
  · exact still.isHungUp_eq_false

end Standoff

end Session

end Courier
