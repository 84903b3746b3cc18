import Courier.Session.Parting
import Mathlib.Logic.Function.Basic

/-!
# A session that is served and closed at once

One thread serves a session while another closes it. The closer holds the session's
lock from its first read to its end, and what either sends it seals and writes
under the channel's lock. A step that would have to wait, for a lock, for bytes or for
a write to return, is no step.
-/

namespace Courier.Session

/-! ## Sending under a lock -/

/-- How far a thread has come with sending a message: it takes the channel's lock, seals the message, writes
the frame and gives the lock back. -/
inductive Sending where
  | waiting (message : Message)
  | sealing (message : Message)
  | writing (framed : Octets)
  | sent (result : Except Failure Unit)

namespace Sending

/-- Whether the lock is held. -/
def holds : Sending → Bool
  | sealing _ | writing _ => true
  | waiting _ | sent _ => false

/-- The next step of a thread that sends, which leaves its place, the channel and the owner of the lock;
none if the lock is taken or the write does not return. -/
def step? (suite : Suite) (thread : Thread) (channel : Channel) (owner : Option Thread) :
    Sending → Option (Sending × Channel × Option Thread)
  | waiting message => if owner = none then some (sealing message, channel, some thread) else none
  | sealing message =>
      match channel.prepare suite message.encode with
      | (.error failure, channel) => some (sent (.error failure), channel, none)
      | (.ok framed, channel) => some (writing framed, channel, owner)
  | writing framed =>
      if channel.stream.writable then
        some (sent (channel.transmit framed).1, (channel.transmit framed).2, none)
      else none
  | sent _ => none

end Sending

/-! ## The two threads -/

/-- How far the session is closed; `found` is the state that was read first. -/
inductive Shutting where
  | entering
  | reading
  | moving (found : Lifecycle)
  | deciding (found : Lifecycle)
  | announcing
  | hangingUp
  | ended (result : Except Failure Unit)

/-- A session that one thread serves while another closes it, what the threads are sending, and who owns the
session's lock and the channel's for sending. -/
structure Standoff where
  session : Session
  serving : Activity := .starting
  shutting : Shutting := .entering
  sending : Thread → Option Sending := fun _ => none
  sessionOwner : Option Thread := none
  sendOwner : Option Thread := none

namespace Standoff

/-- The next step of a thread that sends a message and then goes on with the result. -/
def send? (suite : Suite) (standoff : Standoff) (thread : Thread) (message : Message)
    (next : Except Failure Unit → Standoff) : Option Standoff :=
  match standoff.sending thread, standoff.session.transport with
  | none, _ => some { standoff with sending := Function.update standoff.sending thread (some (.waiting message)) }
  | some (.sent result), _ =>
      some { next result with sending := Function.update standoff.sending thread none }
  | some sending, .secured channel =>
      (sending.step? suite thread channel standoff.sendOwner).map fun (sending, channel, sendOwner) =>
        { standoff with
          session := standoff.session.withChannel channel
          sending := Function.update standoff.sending thread (some sending)
          sendOwner }
  | some _, _ => none

/-- Whether the next step of the work returns at once; its first looks at the session under its lock. -/
def mayWork (standoff : Standoff) : Bool :=
  match standoff.serving with
  | .starting => standoff.sessionOwner.isNone
  | activity => (⟨activity, standoff.session⟩ : Work).ready

/-- The session and the work on it after one step of the work. -/
def worked (suite : Suite) (policy : Policy) (standoff : Standoff) : Standoff :=
  let work := (⟨standoff.serving, standoff.session⟩ : Work).step suite policy
  { standoff with session := work.session, serving := work.activity }

/-- The next step of serving. -/
def serve? (suite : Suite) (policy : Policy) (standoff : Standoff) : Option Standoff :=
  match standoff.serving with
  | .ended _ => none
  | .replying reply =>
      standoff.send? suite .handler reply fun
        | .ok () => { standoff with serving := .polling }
        | .error failure => { standoff with serving := .ended (.error failure) }
  | _ => if standoff.mayWork then some (standoff.worked suite policy) else none

/-- The next step of closing. The session's lock is held from the first to the last. -/
def shut? (suite : Suite) (standoff : Standoff) : Option Standoff :=
  match standoff.shutting with
  | .entering =>
      if standoff.sessionOwner = none then
        some { standoff with shutting := .reading, sessionOwner := some .closer }
      else none
  | .reading => some { standoff with shutting := .moving standoff.session.state }
  | .moving found =>
      some
        { standoff with
          session := { standoff.session with state := standoff.session.state.advance .closed }
          shutting := .deciding found }
  | .deciding found =>
      match standoff.session.transport, announces found standoff.session.peerDisconnected with
      | .secured _, true => some { standoff with shutting := .announcing }
      | _, _ => some { standoff with shutting := .hangingUp }
  | .announcing => standoff.send? suite .closer .disconnect fun _ => { standoff with shutting := .hangingUp }
  | .hangingUp =>
      some
        { standoff with
          session := standoff.session.hangUp.2
          shutting := .ended standoff.session.hangUp.1
          sessionOwner := none }
  | .ended _ => none

/-- The next step of a thread, unless it has to wait or has ended. -/
def step? (suite : Suite) (policy : Policy) (standoff : Standoff) : Thread → Option Standoff
  | .handler => standoff.serve? suite policy
  | .closer => standoff.shut? suite

/-- What happens next: a thread takes a step, or bytes arrive. -/
inductive Move where
  | step (thread : Thread)
  | arrive (bytes : Octets)

/-- A thread that has to wait does nothing. -/
def move (suite : Suite) (policy : Policy) (standoff : Standoff) : Move → Standoff
  | .step thread => (standoff.step? suite policy thread).getD standoff
  | .arrive bytes => { standoff with session := standoff.session.feed bytes }

def run (suite : Suite) (policy : Policy) : Standoff → List Move → Standoff
  | standoff, [] => standoff
  | standoff, move :: rest => run suite policy (standoff.move suite policy move) rest

/-- Whether a corrupt frame was met. -/
def isPoisoned (standoff : Standoff) : Bool :=
  match standoff.session.transport with
  | .secured channel => channel.poisoned
  | _ => false

end Standoff

end Courier.Session
