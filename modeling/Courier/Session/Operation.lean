import Courier.Channel.Operation
import Courier.Session.Activity

/-!
# Operations on a session

Everything that may be done with a session, as data, so that statements can
range over all lives.
-/

namespace Courier

/-- The sealing of a message, if there is a channel that seals it. -/
def Transport.sealing? (suite : Suite) (transport : Transport) (message : Message) : Option Channel.Sealing :=
  match transport with
  | .secured channel => (Channel.Operation.send message).sealing? suite channel
  | _ => none

namespace Session

/-- What is done with a session, or happens to it. Its destruction is one more `close`. -/
inductive Operation where
  | establish
  | serve (policy : Policy)
  | handle (policy : Policy) (message : Message)
  | close
  | markFinished
  | arrive (bytes : Octets)
  deriving DecidableEq

/-- The session after an operation. -/
def Operation.apply (suite : Suite) (session : Session) : Operation → Session
  | .establish => (session.establish suite).2
  | .serve policy => (session.serve suite policy).2
  | .handle policy message => (session.handle policy message).2
  | .close => (session.close suite).2
  | .markFinished => session.markFinished.2
  | .arrive bytes => session.feed bytes

/-- The session after a run of operations. -/
def after (suite : Suite) : Session → List Operation → Session
  | session, [] => session
  | session, operation :: rest => after suite (operation.apply suite session) rest

end Session

end Courier
