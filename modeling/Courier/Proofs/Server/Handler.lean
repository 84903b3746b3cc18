import Courier.Proofs.Session.Operation
import Courier.Server

/-!
# The stages of a handler

The steps of establishing and of serving leave the address of a session, its
mark and its stream, whatever they wrap the stream in. Then come closing, marking
and removing, one step each. So a session whose stream can be closed is closed from
the step on that closes it, and it is not marked before the step that marks it,
whoever else closes it and whatever its peer does meanwhile.
-/

namespace Courier

namespace Session

variable {suite : Suite} {session : Session}

/-! ## What stays -/

/-- The same session for a registry, on the same stream: closed if it was, and closable if it was. -/
structure Retains (before after : Session) : Prop where
  address : after.address = before.address
  finished : after.finished = before.finished
  stream : ∀ stream, before.transport.stream? = some stream →
    ∃ next, after.transport.stream? = some next ∧ stream.Keeps next

namespace Retains

theorem of_stream? {after : Session} (address : after.address = session.address)
    (finished : after.finished = session.finished)
    (same : after.transport.stream? = session.transport.stream?) : session.Retains after :=
  ⟨address, finished, fun stream owned => ⟨stream, same.trans owned, .refl stream⟩⟩

theorem refl (session : Session) : session.Retains session := of_stream? rfl rfl rfl

theorem trans {first second third : Session} (former : first.Retains second) (latter : second.Retains third) :
    first.Retains third where
  address := latter.address.trans former.address
  finished := latter.finished.trans former.finished
  stream := by
    intro stream owned
    obtain ⟨middle, between, earlier⟩ := former.stream stream owned
    obtain ⟨last, after, later⟩ := latter.stream middle between
    exact ⟨last, after, earlier.trans later⟩

/-- Whatever is done with the stream alone, as long as it keeps what a stream keeps. -/
theorem of_keeps {transport : Transport} {entropy : Entropy}
    (kept : ∀ stream, session.transport.stream? = some stream →
      ∃ next, transport.stream? = some next ∧ stream.Keeps next) :
    session.Retains { session with entropy, transport } := ⟨rfl, rfl, kept⟩

theorem withChannel {channel next : Channel} (owned : session.transport = .secured channel)
    (kept : channel.stream.Keeps next.stream) : session.Retains (session.withChannel next) := by
  refine ⟨rfl, rfl, fun stream found => ?_⟩
  rw [owned] at found
  cases found
  exact ⟨next.stream, rfl, kept⟩

theorem handle (policy : Policy) (session : Session) (message : Message) :
    session.Retains (session.handle policy message).2 := by
  have handled := handling policy session message
  generalize session.handle policy message = outcome at handled
  cases handled <;> exact of_stream? rfl rfl rfl

theorem mapStream (session : Session) {change : Stream → Stream}
    (kept : ∀ stream : Stream, stream.Keeps (change stream)) :
    session.Retains { session with transport := session.transport.mapStream change } := by
  refine ⟨rfl, rfl, fun stream owned => ?_⟩
  cases place : session.transport with
  | absent =>
      rw [place] at owned
      cases owned
  | raw given | secured channel =>
      rw [place] at owned
      cases owned
      exact ⟨_, rfl, kept _⟩

theorem sendDisconnect (suite : Suite) (session : Session) : session.Retains (session.sendDisconnect suite) := by
  cases owned : session.transport with
  | absent | raw stream =>
      rw [Session.sendDisconnect, owned]
      exact .refl session
  | secured channel =>
      obtain ⟨stream, same, kept⟩ := (Transport.Used.of_send suite channel .disconnect).kept _ rfl
      cases same
      rw [Session.sendDisconnect, owned]
      exact withChannel owned kept

theorem hangUp (session : Session) : session.Retains session.hangUp.2 := by
  cases owned : session.transport with
  | absent =>
      rw [Session.hangUp, owned]
      exact .refl session
  | raw stream =>
      have kept := Stream.Keeps.close stream
      rw [Session.hangUp, owned]
      simp only
      split <;> rename_i closed <;> rw [closed] at kept <;>
        exact of_keeps fun given found => ⟨_, rfl, (by rw [owned] at found; cases found; exact kept)⟩
  | secured channel =>
      rw [Session.hangUp, owned]
      exact withChannel owned (Channel.Silent.close channel).kept

theorem close (suite : Suite) (session : Session) : session.Retains (session.close suite).2 := by
  have marked : session.Retains { session with state := session.state.advance .closed } := of_stream? rfl rfl rfl
  unfold Session.close
  simp only
  split
  · exact (marked.trans (sendDisconnect suite _)).trans (hangUp _)
  · exact marked.trans (hangUp _)

end Retains

end Session

/-! ## Steps of work -/

namespace Work

variable {suite : Suite} {policy : Policy} {work : Work}

open Session (Retains)

theorem retains_onChannel {next : Channel → Work}
    (goesOn : ∀ channel, work.session.transport = .secured channel →
      work.session.Retains (next channel).session) : work.session.Retains (work.onChannel next).session := by
  unfold onChannel
  split
  · rename_i channel owned
    exact goesOn channel owned
  · exact .refl _

theorem retains_resume {Result : Type} {channel : Channel} {outcome : Outcome Channel Result}
    {next : Result → Activity} (owned : work.session.transport = .secured channel)
    (kept : channel.stream.Keeps outcome.2.stream) :
    work.session.Retains (work.resume outcome next).session := by
  obtain ⟨result, after⟩ := outcome
  cases result <;> exact .withChannel owned kept

theorem retains_shake (suite : Suite) (work : Work) (stage : Handshake.Stage) :
    work.session.Retains (work.shake suite stage).session := by
  unfold shake
  split
  · exact .refl _
  · exact .refl _
  · rename_i stream unfinished owned
    have kept := (Handshake.Party.advance_step suite ⟨stage, work.session.entropy, stream⟩).kept
    refine .of_keeps fun given found => ?_
    rw [owned] at found
    cases found
    exact ⟨_, rfl, kept⟩
  · exact .refl _

theorem retains_install (work : Work) (keys : ChannelKeys) :
    work.session.Retains (work.install keys).session := by
  unfold install
  split
  · rename_i stream owned
    split
    · refine .of_stream? rfl rfl ?_
      rw [owned]
      rfl
    · exact .refl _
  · exact .refl _

/-- No step of establishing or serving changes the address, the mark or whether the stream is closed. -/
theorem retains_step (suite : Suite) (policy : Policy) (work : Work) :
    work.session.Retains (work.step suite policy).session := by
  obtain ⟨activity, session⟩ := work
  cases activity with
  | checking | polling =>
      unfold step
      simp only
      split <;> exact .refl _
  | shaking stage => exact retains_shake suite _ stage
  | installing keys => exact retains_install _ keys
  | starting => exact retains_onChannel fun channel owned => .refl _
  | awaitingLength =>
      refine retains_onChannel fun channel owned => ?_
      unfold readLength
      split
      · exact .refl _
      · exact .withChannel owned (.read channel.stream _)
  | measuring reading =>
      exact retains_onChannel fun channel owned =>
        retains_resume owned (Channel.Silent.receiving.judgeLength channel reading).kept
  | awaitingBody length => exact retains_onChannel fun channel owned => .withChannel owned (.read channel.stream _)
  | opening length reading =>
      exact retains_onChannel fun channel owned =>
        retains_resume owned (Channel.Silent.receiving.openFrame suite channel length reading).kept
  | hearing message =>
      have retains := Retains.handle policy session message
      change session.Retains ((⟨.hearing message, session⟩ : Work).hear policy message).session
      unfold hear
      split <;> rename_i heard <;> rw [heard] at retains <;> exact retains
  | replying reply =>
      exact retains_onChannel fun channel owned =>
        retains_resume owned (Channel.keeps_sendFrame suite channel reply.encode)
  | ended result => exact .refl _

/-- Neither does a whole run of them. -/
theorem retains_conclude (suite : Suite) (policy : Policy) (work : Work) :
    work.session.Retains (work.conclude suite policy).2 := by
  induction work using (Work.machine suite policy).run_induction with
  | ended work result found =>
      have ended : work.activity.result? = some result := found
      obtain ⟨activity, session⟩ := work
      cases activity <;> cases ended
      rw [conclude, Session.perform_ended]
      exact .refl session
  | step work unfinished ih =>
      have going : work.activity.result? = none := unfinished
      rw [conclude, Session.perform_of_step going]
      exact (retains_step suite policy work).trans ih

end Work

/-! ## Closed sessions -/

namespace Session

variable {suite : Suite} {session next : Session}

/-- Whether the session is closed together with its stream. -/
def IsClosed (session : Session) : Prop := session.state = .closed ∧ session.isHungUp = true

/-- Whether the session has a stream, and one that can be closed. -/
def IsClosable (session : Session) : Prop :=
  ∃ stream, session.transport.stream? = some stream ∧ stream.failingCloses = 0

theorem isHungUp_iff :
    session.isHungUp = true ↔ ∃ stream, session.transport.stream? = some stream ∧ stream.closed = true := by
  cases owned : session.transport.stream? <;> simp [isHungUp, owned]

theorem IsClosable.retained (closable : session.IsClosable) (retained : session.Retains next) :
    next.IsClosable := by
  obtain ⟨stream, owned, closable⟩ := closable
  obtain ⟨after, found, kept⟩ := retained.stream stream owned
  exact ⟨after, found, kept.closable closable⟩

theorem Retains.isHungUp (retained : session.Retains next) (hungUp : session.isHungUp = true) :
    next.isHungUp = true := by
  obtain ⟨stream, owned, closed⟩ := isHungUp_iff.mp hungUp
  obtain ⟨after, found, kept⟩ := retained.stream stream owned
  exact isHungUp_iff.mpr ⟨after, found, kept.closed closed⟩

theorem IsClosed.retained (closed : session.IsClosed) (retained : session.Retains next)
    (same : next.state = session.state) : next.IsClosed :=
  ⟨same.trans closed.1, retained.isHungUp closed.2⟩

theorem IsClosable.transport (closable : session.IsClosable) : session.transport.IsClosable := by
  obtain ⟨stream, owned, closes⟩ := closable
  rintro other found
  cases owned.symm.trans found
  exact closes

theorem close_eq_ok (suite : Suite) (closable : session.IsClosable) : (session.close suite).1 = .ok () := by
  obtain ⟨transport, closed, _⟩ := exists_close suite closable.transport
  rw [closed]

theorem isClosed_close (suite : Suite) (closable : session.IsClosable) : (session.close suite).2.IsClosed := by
  obtain ⟨transport, closed, _, shut⟩ := exists_close suite closable.transport
  obtain ⟨stream, owned, _⟩ := closable
  obtain ⟨after, found, _⟩ := (Retains.close suite session).stream stream owned
  rw [closed] at found ⊢
  exact ⟨rfl, isHungUp_iff.mpr ⟨after, found, shut after found⟩⟩

end Session

/-! ## Steps of a handler -/

namespace Phase

/-- Whether the handler has yet to close its session. -/
def isOpen : Phase → Bool
  | establishing _ | serving _ | closing | fallen => true
  | marking | removing | retired => false

/-- Whether the handler has yet to mark its session. -/
def isUnmarked : Phase → Bool
  | establishing _ | serving _ | closing | marking | fallen => true
  | removing | retired => false

end Phase

namespace Handler

variable {suite : Suite} {policy : Policy} {handler : Handler}

/-- The address under which the session is registered, until its handler has taken it off the registry. -/
def resident? (handler : Handler) : Option String :=
  if handler.isRetired then none else some handler.session.address

/-- What a handler does in one step. -/
inductive Passage (suite : Suite) (handler : Handler) : Handler → Prop where
  | works {session : Session} {phase : Phase} (place : handler.phase.isOpen = true)
      (retained : handler.session.Retains session) (goesOn : phase.isOpen = true)
      (lasts : (⟨session, phase⟩ : Handler).isFallen = false) : Passage suite handler ⟨session, phase⟩
  | closes (place : handler.phase = .closing) (done : (handler.session.close suite).1 = .ok ()) :
      Passage suite handler ⟨(handler.session.close suite).2, .marking⟩
  | falls {error : Failure} (place : handler.phase = .closing)
      (thrown : (handler.session.close suite).1 = .error error) :
      Passage suite handler ⟨(handler.session.close suite).2, .fallen⟩
  | marks (place : handler.phase = .marking) (first : handler.session.finished = false) :
      Passage suite handler ⟨{ handler.session with finished := true }, .removing⟩
  | yields (place : handler.phase = .marking) (late : handler.session.finished = true) :
      Passage suite handler ⟨{ handler.session with finished := true }, .retired⟩
  | removes (place : handler.phase = .removing) : Passage suite handler ⟨handler.session, .retired⟩
  | rests (place : handler.phase = .retired ∨ handler.phase = .fallen) : Passage suite handler handler

theorem passage (suite : Suite) (policy : Policy) (handler : Handler) :
    Passage suite handler (handler.step suite policy) := by
  obtain ⟨session, phase⟩ := handler
  cases phase with
  | establishing activity =>
      change Passage suite _ (establish suite policy ⟨session, .establishing activity⟩ activity)
      unfold establish
      split
      · exact .works rfl (.refl session) rfl rfl
      · exact .works rfl (.refl session) rfl rfl
      · exact .works rfl (Work.retains_step suite policy ⟨activity, session⟩) rfl rfl
  | serving activity =>
      change Passage suite _ (serve suite policy ⟨session, .serving activity⟩ activity)
      unfold serve
      split
      · exact .works rfl (.refl session) rfl rfl
      · exact .works rfl (Work.retains_step suite policy ⟨activity, session⟩) rfl rfl
  | closing =>
      rcases closed : session.close suite with ⟨error | _, after⟩
      · have falls : Passage suite ⟨session, .closing⟩ ⟨(session.close suite).2, .fallen⟩ :=
          .falls rfl (congrArg Prod.fst closed)
        simpa only [step, closed] using falls
      · have closes : Passage suite ⟨session, .closing⟩ ⟨(session.close suite).2, .marking⟩ :=
          .closes rfl (congrArg Prod.fst closed)
        simpa only [step, closed] using closes
  | marking =>
      cases marked : session.finished with
      | false =>
          simp only [step, Session.markFinished, marked, Bool.not_false]
          exact .marks rfl marked
      | true =>
          simp only [step, Session.markFinished, marked, Bool.not_true]
          exact .yields rfl marked
  | removing => exact .removes rfl
  | retired => exact .rests (.inl rfl)
  | fallen => exact .rests (.inr rfl)

/-- Closing throws nothing where the stream can be closed. -/
theorem step_closing_of_isClosable {session : Session} (closable : session.IsClosable) :
    (⟨session, .closing⟩ : Handler).step suite policy = ⟨(session.close suite).2, .marking⟩ := by
  obtain ⟨transport, closed, _⟩ := Session.exists_close suite closable.transport
  simp only [step, closed]

/-- What holds of a session at every stage of its handler, as long as its stream can be closed. -/
structure IsSound (handler : Handler) : Prop where
  closable : handler.session.IsClosable
  lasts : handler.isFallen = false
  unmarked : handler.phase.isUnmarked = true → handler.session.finished = false
  closed : handler.phase.isOpen = false → handler.session.IsClosed

namespace IsSound

theorem isClosed_of_isRetired (sound : handler.IsSound) (retired : handler.isRetired = true) :
    handler.session.IsClosed := by
  refine sound.closed ?_
  obtain ⟨session, phase⟩ := handler
  cases phase <;> first | rfl | cases retired

/-- Somebody else does something with the session that leaves its state, or closes it. -/
theorem retained {session : Session} (sound : handler.IsSound) (retained : handler.session.Retains session)
    (state : session.state = handler.session.state ∨ session.IsClosed) :
    IsSound { handler with session } where
  closable := sound.closable.retained retained
  lasts := sound.lasts
  unmarked place := retained.finished.trans (sound.unmarked place)
  closed place := by
    rcases state with same | closed
    · exact (sound.closed place).retained retained same
    · exact closed

theorem closeAt (suite : Suite) (sound : handler.IsSound) :
    IsSound { handler with session := (handler.session.close suite).2 } :=
  sound.retained (.close suite _) (.inr (Session.isClosed_close suite sound.closable))

theorem step (suite : Suite) (policy : Policy) (sound : handler.IsSound) :
    (handler.step suite policy).IsSound := by
  have passes := passage suite policy handler
  generalize handler.step suite policy = next at passes
  have early {phase : Phase} (place : phase.isOpen = true) : phase.isUnmarked = true := by
    cases phase <;> first | rfl | cases place
  cases passes with
  | works place retained goesOn lasts =>
      refine ⟨sound.closable.retained retained, lasts, fun _ => ?_, fun late => ?_⟩
      · exact retained.finished.trans (sound.unmarked (early place))
      · rw [goesOn] at late
        cases late
  | closes place done =>
      have retained := Session.Retains.close suite handler.session
      refine ⟨sound.closable.retained retained, rfl, fun _ => ?_, fun _ => ?_⟩
      · exact retained.finished.trans (sound.unmarked (by rw [place]; rfl))
      · exact Session.isClosed_close suite sound.closable
  | falls place thrown => cases (Session.close_eq_ok suite sound.closable).symm.trans thrown
  | marks place | yields place => exact ⟨sound.closable, rfl, nofun, fun _ => sound.closed (by rw [place]; rfl)⟩
  | removes place => exact ⟨sound.closable, rfl, nofun, fun _ => sound.closed (by rw [place]; rfl)⟩
  | rests place => exact sound

/-- A session stays where it is registered until the step that removes it. -/
theorem resident?_step (suite : Suite) (policy : Policy) (sound : handler.IsSound) :
    (handler.step suite policy).resident? = if handler.isRemoving then none else handler.resident? := by
  have passes := passage suite policy handler
  generalize handler.step suite policy = next at passes
  cases passes with
  | works place retained goesOn =>
      have still (session : Session) {phase : Phase} (early : phase.isOpen = true) :
          (⟨session, phase⟩ : Handler).resident? = some session.address ∧
            (⟨session, phase⟩ : Handler).isRemoving = false := by
        cases phase <;> first | exact ⟨rfl, rfl⟩ | cases early
      obtain ⟨session, phase⟩ := handler
      obtain ⟨before, notYet⟩ := still session place
      rw [(still _ goesOn).1, before, notYet, retained.address]
      rfl
  | closes place | falls place =>
      have same := (Session.Retains.close suite handler.session).address
      simp [resident?, isRemoving, isRetired, place, same]
  | marks place => simp [resident?, isRemoving, isRetired, place]
  | yields place late =>
      -- nobody but the handler marks its session, so it is never late
      rw [sound.unmarked (by rw [place]; rfl)] at late
      cases late
  | removes place => simp [resident?, isRemoving, isRetired, place]
  | rests place => rcases place with place | place <;> simp [resident?, isRemoving, isRetired, place]

end IsSound

end Handler

end Courier
