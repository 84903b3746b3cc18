import Courier.Session.Operation

/-!
# A session that both sides leave

While one thread handles the peer's disconnect, another may close the session, and
the steps of the two fall in any order. Between its first read of the state and
its end the closer holds the session's lock, which the other thread does not take.
-/

namespace Courier.Session

inductive Thread where
  | handler
  | closer
  deriving DecidableEq

/-- How far the peer's disconnect is handled. -/
inductive Hearing where
  | checking
  | marking
  | leaving
  | ended (result : Except Failure (Option Message))

/-- How far the session is closed; `found` is the state that was read first. -/
inductive Closing where
  | reading
  | moving (found : Lifecycle)
  | deciding (found : Lifecycle)
  | announcing
  | hangingUp
  | ended (result : Except Failure Unit)

/-- The number of steps that are left at most. -/
def Closing.remaining : Closing → Nat
  | reading => 5
  | moving _ => 4
  | deciding _ => 3
  | announcing => 2
  | hangingUp => 1
  | ended _ => 0

/-- A session that one thread leaves for its peer while another closes it, and what the second sealed. -/
structure Parting where
  session : Session
  hearing : Hearing := .checking
  closing : Closing := .reading
  farewell : Option Channel.Sealing := none

namespace Parting

/-- The next step of handling the peer's disconnect. -/
def hear (parting : Parting) : Parting :=
  match parting.hearing with
  | .checking =>
      if parting.session.state = .established then { parting with hearing := .marking }
      else
        { parting with
          hearing := .ended (.error (.protocol (.received .disconnect parting.session.state))) }
  | .marking => { parting with session := { parting.session with peerDisconnected := true }, hearing := .leaving }
  | .leaving =>
      { parting with
        session := { parting.session with state := parting.session.state.advance .disconnecting }
        hearing := .ended (.ok none) }
  | .ended _ => parting

/-- The next step of closing. -/
def close (suite : Suite) (parting : Parting) : Parting :=
  match parting.closing with
  | .reading => { parting with closing := .moving parting.session.state }
  | .moving found =>
      { parting with
        session := { parting.session with state := parting.session.state.advance .closed }
        closing := .deciding found }
  | .deciding found =>
      { parting with
        closing := if announces found parting.session.peerDisconnected then .announcing else .hangingUp }
  | .announcing =>
      { parting with
        session := parting.session.sendDisconnect suite
        closing := .hangingUp
        farewell := parting.session.transport.sealing? suite .disconnect }
  | .hangingUp => { parting with session := parting.session.hangUp.2, closing := .ended parting.session.hangUp.1 }
  | .ended _ => parting

/-- The threads take their steps in this order; a thread that has ended does nothing more. -/
def run (suite : Suite) : Parting → List Thread → Parting
  | parting, [] => parting
  | parting, .handler :: rest => run suite parting.hear rest
  | parting, .closer :: rest => run suite (parting.close suite) rest

end Parting

end Courier.Session
