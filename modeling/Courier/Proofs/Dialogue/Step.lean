import Courier.Dialogue
import Courier.Proofs.Session.Performance
import Courier.Proofs.Stream

/-!
# Steps of a dialogue

Every step is listed here once: a step of a call, a step of the handler, and what
the connection brings from one end to the other. The last changes nothing but the
two streams, and of these only what is under way, what is unread and what is known
of the other end.
-/

namespace Courier

/-! ## What is brought over -/

namespace Stream

/-- What the connection brings: some bytes from the front of what is under way, or, after all of them, that
the end is closed. -/
inductive Passed (source target : Stream) : Stream → Stream → Prop where
  | bytes (front rest : Octets) (something : front ≠ []) (underWay : source.accepted = front ++ rest) :
      Passed source target { source with accepted := rest } (target.feed front)
  | closing (closed : source.closed = true) (nothing : source.accepted = []) (untold : target.ended = false) :
      Passed source target source target.hangUp

theorem passed {source target sourceAfter targetAfter : Stream} {passing : Passing}
    (possible : source.pass? target passing = some (sourceAfter, targetAfter)) :
    Passed source target sourceAfter targetAfter := by
  cases passing with
  | bytes count =>
      obtain ⟨⟨positive, within⟩, same⟩ := Option.ite_none_right_eq_some.mp possible
      cases same
      refine .bytes _ _ ?_ (List.take_append_drop count source.accepted).symm
      intro empty
      rcases List.take_eq_nil_iff.mp empty with zero | nothing
      · exact Nat.ne_of_gt positive zero
      · rw [nothing] at within
        exact Nat.not_le_of_lt positive within
  | closing =>
      obtain ⟨⟨closed, nothing, untold⟩, same⟩ := Option.ite_none_right_eq_some.mp possible
      cases same
      exact .closing closed nothing untold

/-- Everything that is under way can be brought over at once. -/
theorem pass?_ne_none {source : Stream} (something : source.accepted ≠ []) (target : Stream) :
    source.pass? target (.bytes source.accepted.length) ≠ none := by
  have positive : 0 < source.accepted.length := List.length_pos_iff.mpr something
  rw [pass?, if_pos ⟨positive, Nat.le_refl _⟩]
  exact Option.some_ne_none _

namespace Passed

variable {source target sourceAfter targetAfter : Stream}

/-- What a stream is apart from what the connection changes. -/
structure Alike (before after : Stream) : Prop where
  closed : after.closed = before.closed
  failingCloses : after.failingCloses = before.failingCloses
  stalled : after.stalled = before.stalled

theorem source_alike (passed : Passed source target sourceAfter targetAfter) : Alike source sourceAfter := by
  cases passed <;> exact ⟨rfl, rfl, rfl⟩

theorem target_alike (passed : Passed source target sourceAfter targetAfter) : Alike target targetAfter := by
  cases passed <;> exact ⟨rfl, rfl, rfl⟩

end Passed

/-- What the connection brings over, one way or the other. -/
inductive Brought (near far nearAfter farAfter : Stream) : Prop where
  | forth (passed : near.Passed far nearAfter farAfter)
  | back (passed : far.Passed near farAfter nearAfter)

namespace Brought

variable {near far nearAfter farAfter : Stream}

theorem near_alike (brought : Brought near far nearAfter farAfter) : Passed.Alike near nearAfter := by
  cases brought with
  | forth passed => exact passed.source_alike
  | back passed => exact passed.target_alike

theorem far_alike (brought : Brought near far nearAfter farAfter) : Passed.Alike far farAfter := by
  cases brought with
  | forth passed => exact passed.target_alike
  | back passed => exact passed.source_alike

end Brought

end Stream

/-! ## Handlers -/

namespace Handler

/-- The handler when its session has this stream. -/
def withStream (handler : Handler) (stream : Stream) : Handler :=
  { handler with
    session := { handler.session with transport := handler.session.transport.mapStream fun _ => stream } }

theorem stream?_withStream {handler : Handler} {far : Stream}
    (owned : handler.session.transport.stream? = some far) (after : Stream) :
    (handler.withStream after).session.transport.stream? = some after := by
  cases place : handler.session.transport with
  | absent =>
      rw [place] at owned
      cases owned
  | raw | secured =>
      simp only [withStream, place]
      rfl

end Handler

namespace Dialogue

variable {suite : Suite} {dialogue next : Dialogue} {handler : Handler} {action : Action}

/-- The handler of the session that the client is connected to. -/
def handler? (dialogue : Dialogue) : Option Handler := dialogue.server.handlers[dialogue.place]?

theorem far?_eq (found : dialogue.handler? = some handler) :
    dialogue.far? = handler.session.transport.stream? := by
  have found : dialogue.server.handlers[dialogue.place]? = some handler := found
  rw [far?, Server.stream?, found]
  rfl

theorem exists_of_far? {far : Stream} (reached : dialogue.far? = some far) :
    ∃ handler, dialogue.handler? = some handler ∧ handler.session.transport.stream? = some far :=
  Option.bind_eq_some_iff.mp reached

theorem handler?_withStreams (found : dialogue.handler? = some handler) (near far : Stream) :
    (dialogue.withStreams near far).handler? = some (handler.withStream far) := by
  have found : dialogue.server.handlers[dialogue.place]? = some handler := found
  simp only [handler?, withStreams, Server.mapStream, List.getElem?_modify_eq, found]
  rfl

theorem handler?_advance (found : dialogue.handler? = some handler) :
    handler? { dialogue with server := dialogue.server.advance suite dialogue.place } =
      some (handler.step suite dialogue.server.policy) := by
  have found : dialogue.server.handlers[dialogue.place]? = some handler := found
  have within := (List.getElem?_eq_some_iff.mp found).1
  simp only [handler?, Server.advance, found, List.getElem?_set_self within]

/-! ## Steps -/

/-- What each action does, and when it is possible. -/
inductive Move (suite : Suite) (dialogue : Dialogue) : Action → Dialogue → Prop where
  | calls (ready : dialogue.caller.ready = true) :
      Move suite dialogue .call { dialogue with caller := dialogue.caller.step suite }
  | handles (handler : Handler) (found : dialogue.handler? = some handler) (ready : handler.ready = true) :
      Move suite dialogue .handle { dialogue with server := dialogue.server.advance suite dialogue.place }
  | passesForth {passing : Stream.Passing} (handler : Handler) (far nearAfter farAfter : Stream)
      (found : dialogue.handler? = some handler) (owned : handler.session.transport.stream? = some far)
      (passed : dialogue.near.Passed far nearAfter farAfter) :
      Move suite dialogue (.forth passing) (dialogue.withStreams nearAfter farAfter)
  | passesBack {passing : Stream.Passing} (handler : Handler) (far nearAfter farAfter : Stream)
      (found : dialogue.handler? = some handler) (owned : handler.session.transport.stream? = some far)
      (passed : far.Passed dialogue.near farAfter nearAfter) :
      Move suite dialogue (.back passing) (dialogue.withStreams nearAfter farAfter)

theorem move (stepped : dialogue.step? suite action = some next) : Move suite dialogue action next := by
  cases action with
  | call =>
      obtain ⟨ready, same⟩ := Option.ite_none_right_eq_some.mp stepped
      cases same
      exact .calls ready
  | handle =>
      obtain ⟨able, same⟩ := Option.ite_none_right_eq_some.mp stepped
      cases same
      cases found : dialogue.handler? with
      | none =>
          have missing : dialogue.server.handlers[dialogue.place]? = none := found
          simp [Server.canAdvance, missing] at able
      | some handler =>
          have there : dialogue.server.handlers[dialogue.place]? = some handler := found
          exact .handles handler found (by simpa [Server.canAdvance, there] using able)
  | forth passing =>
      obtain ⟨⟨near, far⟩, passed, same⟩ := Option.map_eq_some_iff.mp stepped
      cases same
      obtain ⟨before, reached, possible⟩ := Option.bind_eq_some_iff.mp passed
      obtain ⟨handler, found, owned⟩ := exists_of_far? reached
      exact .passesForth handler before near far found owned (Stream.passed possible)
  | back passing =>
      obtain ⟨⟨far, near⟩, passed, same⟩ := Option.map_eq_some_iff.mp stepped
      cases same
      obtain ⟨before, reached, possible⟩ := Option.bind_eq_some_iff.mp passed
      obtain ⟨handler, found, owned⟩ := exists_of_far? reached
      exact .passesBack handler before near far found owned (Stream.passed possible)

end Dialogue

end Courier
