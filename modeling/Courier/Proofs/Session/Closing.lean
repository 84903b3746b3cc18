import Courier.Proofs.Session.Operation
import Mathlib.Logic.Function.Iterate

/-!
# Closing on a stream that may refuse

A stream may refuse the first attempts to close it. Closing a session then fails, but
only after the session has moved to `closed` and has told its peer, if that was due. So
closing it again tells the peer nothing more, and closes the stream as soon as that lets
itself be closed.
-/

namespace Courier

/-! ## Streams -/

namespace Stream

/-- The stream after so many attempts to close it. -/
def closedBy (count : Nat) (stream : Stream) : Stream :=
  { stream with
    closed := stream.closed || decide (stream.failingCloses < count)
    failingCloses := stream.failingCloses - count }

theorem close_eq (stream : Stream) : stream.close = (decide (stream.failingCloses = 0), stream.closedBy 1) := by
  unfold close closedBy
  cases failing : stream.failingCloses with
  | zero => simp
  | succ remaining => simp

theorem closedBy_closedBy (first second : Nat) (stream : Stream) :
    (stream.closedBy first).closedBy second = stream.closedBy (first + second) := by
  have sooner : (decide (stream.failingCloses < first) || decide (stream.failingCloses - first < second)) =
      decide (stream.failingCloses < first + second) := by
    rw [← Bool.decide_or, decide_eq_decide]
    omega
  have closed := (Bool.or_assoc stream.closed _ _).trans (congrArg (stream.closed || ·) sooner)
  exact congrArg₂ (fun closed failingCloses => { stream with closed, failingCloses }) closed (Nat.sub_sub _ _ _)

end Stream

/-! ## What a session owns -/

namespace Transport

theorem mapStream_mapStream (first second : Stream → Stream) (transport : Transport) :
    (transport.mapStream first).mapStream second = transport.mapStream fun stream => second (first stream) := by
  cases transport <;> rfl

theorem stream?_mapStream (change : Stream → Stream) (transport : Transport) :
    (transport.mapStream change).stream? = transport.stream?.map change := by
  cases transport <;> rfl

theorem isSome_channel?_mapStream (change : Stream → Stream) (transport : Transport) :
    (transport.mapStream change).channel?.isSome = transport.channel?.isSome := by
  cases transport <;> rfl

theorem isSome_channel?_iff {transport : Transport} :
    transport.channel?.isSome ↔ ∃ channel, transport = .secured channel := by
  cases transport <;> simp [channel?]

/-- Whether there is a stream that refuses the next attempt to close it. -/
def refuses (transport : Transport) : Bool :=
  (transport.stream?.map fun stream => decide (stream.failingCloses ≠ 0)).getD false

end Transport

namespace Session

variable {suite : Suite} {session : Session}

/-- What the session owns once it has told its peer that it leaves, if it is to tell it. -/
def told (suite : Suite) (session : Session) : Transport :=
  if announces session.state session.peerDisconnected then (session.sendDisconnect suite).transport
  else session.transport

theorem told_of_announces {channel : Channel} (announced : announces session.state session.peerDisconnected = true)
    (owned : session.transport = .secured channel) :
    session.told suite = .secured (channel.send suite .disconnect).2 := by
  rw [told, if_pos announced, sendDisconnect, owned]

theorem told_of_not_announces (unannounced : ¬ announces session.state session.peerDisconnected = true) :
    session.told suite = session.transport := if_neg unannounced

/-- Telling the peer does not touch what closing depends on. -/
theorem stream?_told (suite : Suite) (session : Session) :
    (session.told suite).stream?.map (fun stream => (stream.closed, stream.failingCloses)) =
      session.transport.stream?.map fun stream => (stream.closed, stream.failingCloses) := by
  by_cases announced : announces session.state session.peerDisconnected = true
  · cases owned : session.transport with
    | absent | raw stream => simp only [told, if_pos announced, sendDisconnect, owned]
    | secured channel =>
        rw [told_of_announces announced owned, Channel.send]
        rcases Channel.snd_sendFrame suite channel Message.disconnect.encode with same | ⟨framed, written⟩
        · rw [same]
        · rw [written]
          rfl
  · rw [told_of_not_announces announced]

theorem refuses_told (suite : Suite) (session : Session) :
    (session.told suite).refuses = session.transport.refuses := by
  have same := congrArg (Option.map fun outlook : Bool × Nat => decide (outlook.2 ≠ 0)) (session.stream?_told suite)
  rw [Option.map_map, Option.map_map] at same
  exact congrArg (Option.getD · false) same

/-- So many attempts close the stream if it does not refuse as many, whether or not the peer is told first. -/
theorem exists_closedBy (suite : Suite) {stream : Stream} (owned : session.transport.stream? = some stream)
    (count : Nat) :
    ∃ left, ((session.told suite).mapStream (Stream.closedBy count)).stream? = some left ∧
      (left.closed = true ↔ stream.closed = true ∨ stream.failingCloses < count) := by
  have outlook := session.stream?_told suite
  rw [owned, Option.map_some, Option.map_eq_some_iff] at outlook
  obtain ⟨next, found, same⟩ := outlook
  obtain ⟨closed, failing⟩ := Prod.mk.inj same
  refine ⟨next.closedBy count, by rw [Transport.stream?_mapStream, found, Option.map_some], ?_⟩
  simp only [Stream.closedBy, closed, failing, Bool.or_eq_true, decide_eq_true_eq]

/-! ## Closing once -/

theorem hangUp_eq (session : Session) :
    session.hangUp =
      (if session.transport.refuses then .error .streamClose else .ok (),
        { session with transport := session.transport.mapStream (Stream.closedBy 1) }) := by
  obtain ⟨address, entropy, transport, state, finished, peerDisconnected⟩ := session
  cases transport with
  | absent => rfl
  | raw stream =>
      by_cases closes : stream.failingCloses = 0 <;>
        simp [hangUp, Stream.close_eq, closes, Transport.refuses, Transport.stream?, Transport.mapStream]
  | secured channel =>
      by_cases closes : channel.stream.failingCloses = 0 <;>
        simp [hangUp, Channel.close, Stream.close_eq, closes, Transport.refuses, Transport.stream?,
          Transport.mapStream]

/-- Closing moves the session to `closed`, tells the peer if that is due, and makes one attempt to close the
stream; it fails exactly if that does. -/
theorem close_eq (suite : Suite) (session : Session) :
    session.close suite =
      (if session.transport.refuses then .error .streamClose else .ok (),
        { session with state := .closed, transport := (session.told suite).mapStream (Stream.closedBy 1) }) := by
  have told : (if announces session.state session.peerDisconnected then
      { session with state := Lifecycle.closed }.sendDisconnect suite else { session with state := .closed }) =
        { session with state := .closed, transport := session.told suite } := by
    rw [Session.told]
    cases announces session.state session.peerDisconnected with
    | false => rfl
    | true =>
        cases owned : session.transport with
        | absent | raw stream => simp [sendDisconnect, owned]
        | secured channel => simp [sendDisconnect, owned]
  rw [close, ← refuses_told suite]
  simp only [Lifecycle.advance_closed, told, hangUp_eq]

/-! ## Closing again -/

theorem told_of_closed (closed : session.state = .closed) : session.told suite = session.transport :=
  told_of_not_announces (by simp [announces, closed])

/-- However often a session is closed, its peer is told once and its stream is closed at each attempt. -/
theorem iterate_close (suite : Suite) (session : Session) (count : Nat) :
    (fun session : Session => (session.close suite).2)^[count + 1] session =
      { session with
        state := .closed
        transport := (session.told suite).mapStream (Stream.closedBy (count + 1)) } := by
  induction count with
  | zero => rw [Function.iterate_one, close_eq]
  | succ count ih =>
      have again (transport : Transport) :
          ({ session with state := .closed, transport } : Session).told suite = transport := told_of_closed rfl
      rw [Function.iterate_succ_apply', ih, close_eq, again, Transport.mapStream_mapStream]
      simp only [Stream.closedBy_closedBy]

/-! ## Sessions that can tell -/

/-- Whether the session has a channel if its state says that a handshake has completed. -/
def IsSecured (session : Session) : Prop :=
  session.state = .established ∨ session.state = .disconnecting → session.transport.channel?.isSome

theorem isSecured_open? (address : String) (entropy : Entropy) (given : Option Stream) :
    (open? address entropy given).IsSecured := by
  rintro (established | leaving)
  · cases established
  · cases leaving

theorem IsSecured.mapStream (secured : session.IsSecured) (change : Stream → Stream) :
    IsSecured { session with transport := session.transport.mapStream change } := by
  intro inside
  rw [Transport.isSome_channel?_mapStream]
  exact secured inside

theorem IsSecured.served {news : List Event} {next : Session} (secured : session.IsSecured)
    (served : Served session news next) : next.IsSecured := by
  intro inside
  rw [served.transport.secured]
  rcases served.state with same | ⟨established, left⟩
  · rw [same] at inside
    exact secured inside
  · exact secured (.inl established)

/-- What a session on a channel does with it leaves it a channel. -/
theorem isSecured_withChannel (session : Session) (channel : Channel) : (session.withChannel channel).IsSecured :=
  fun _ => rfl

theorem IsSecured.shaken {work next : Work} (secured : work.session.IsSecured)
    (shaken : Work.Shaken suite work next) : next.session.IsSecured := by
  cases shaken with
  | failed | begun | agreed | ended => exact secured
  | stepped party place part unfinished =>
      intro inside
      have channel := secured inside
      rw [part] at channel
      cases channel
  | established stream keys place possible => exact fun _ => rfl

/-- A handler keeps the session able to tell in every step, wherever it has got to. -/
theorem IsSecured.step (suite : Suite) (policy : Policy) (activity : Activity) (secured : session.IsSecured) :
    IsSecured ((⟨activity, session⟩ : Work).step suite policy).session := by
  have serving (serves : activity.Serves) :=
    secured.served (Work.served_step suite policy ⟨activity, session⟩ serves).1
  have establishing (shakes : (⟨activity, session⟩ : Work).activity.Shakes) :=
    IsSecured.shaken secured (Work.shaken suite policy shakes)
  cases activity with
  | checking => exact establishing .checking
  | shaking stage => exact establishing (.shaking stage)
  | installing keys => exact establishing (.installing keys)
  | replying reply =>
      cases owned : session.transport with
      | absent | raw stream =>
          simp only [Work.step, Work.onChannel, owned]
          exact secured
      | secured channel =>
          simp only [Work.step, Work.onChannel, owned, Work.resume]
          split <;> exact isSecured_withChannel session _
  | _ => exact serving trivial

/-- Only a handshake that completes makes a session established, and it makes a channel. -/
theorem IsSecured.apply (suite : Suite) (secured : session.IsSecured) (operation : Operation) :
    (operation.apply suite session).IsSecured := by
  cases operation with
  | establish =>
      have done := establishing suite session
      rw [Operation.apply]
      generalize session.establish suite = outcome at done
      cases done with
      | completed => exact fun _ => rfl
      | failed stream next entropy error owned connecting kept =>
          intro inside
          simp [connecting] at inside
      | refused => exact secured
  | serve policy => exact secured.served (Work.served_conclude suite policy ⟨.starting, session⟩ trivial)
  | handle policy message => exact secured.served (.handle policy session message)
  | close =>
      rw [Operation.apply, close_eq]
      intro inside
      simp at inside
  | markFinished => exact secured
  | arrive bytes => exact secured.mapStream _

end Session

end Courier
