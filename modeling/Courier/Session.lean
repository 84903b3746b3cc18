import Courier.Channel

/-!
# Sessions

The server's side of one connection. A session owns its stream until the
handshake has made a channel of it, answers the client's messages while it is
established, and is closed from either side. Closing tells the peer, as far as
that is possible, unless the peer was the one to leave.
-/

namespace Courier

/-- What a server does after it has answered a greeting of a version it does not support. -/
inductive Policy where
  | keepOpen
  | close
  deriving DecidableEq, Repr

/-- What a session owns: nothing, a stream that awaits its handshake, or a channel. -/
inductive Transport where
  | absent
  | raw (stream : Stream)
  | secured (channel : Channel)
  deriving DecidableEq

namespace Transport

def stream? : Transport → Option Stream
  | absent => none
  | raw stream => some stream
  | secured channel => some channel.stream

/-- Changes the stream, wherever it is owned. -/
def mapStream (change : Stream → Stream) : Transport → Transport
  | absent => absent
  | raw stream => raw (change stream)
  | secured channel => secured { channel with stream := change channel.stream }

end Transport

structure Session where
  address : String
  /-- The random values that the handshake will draw. -/
  entropy : Entropy
  transport : Transport
  state : Lifecycle := .connecting
  /-- Whether somebody has taken on the removal of this session from the registry. -/
  finished : Bool := false
  peerDisconnected : Bool := false
  deriving DecidableEq

namespace Session

/-- A session on a newly accepted stream, if there is one. -/
def open? (address : String) (entropy : Entropy) (stream : Option Stream) : Session :=
  { address, entropy, transport := (stream.map .raw).getD .absent }

/-- The session when it owns this channel. -/
def withChannel (session : Session) (channel : Channel) : Session :=
  { session with transport := .secured channel }

/-- The number of bytes that have arrived and are unread. -/
def unread (session : Session) : Nat :=
  ((session.transport.stream?).map fun stream => stream.incoming.length).getD 0

/-- Whether the session has a stream and it is closed. -/
def isHungUp (session : Session) : Bool :=
  ((session.transport.stream?).map Stream.closed).getD false

/-- More bytes of the peer's arrive. -/
def feed (session : Session) (bytes : Octets) : Session :=
  { session with transport := session.transport.mapStream fun stream => stream.feed bytes }

/-- Takes the bytes that the session wrote, as the peer does. -/
def takeAccepted (session : Session) : Octets × Session :=
  (((session.transport.stream?).map Stream.accepted).getD [],
    { session with transport := session.transport.mapStream fun stream => stream.takeAccepted.2 })

/-- Whether the session waits for its handshake. -/
def awaitsHandshake (session : Session) : Bool :=
  match session.transport with
  | .raw _ => session.state == .connecting
  | _ => false

/-- True once, for the caller that has to remove the session from the registry. -/
def markFinished (session : Session) : Bool × Session :=
  (!session.finished, { session with finished := true })

/-! ## Messages -/

/-- The answer to a greeting. -/
def answer (version : UInt32) : Message :=
  .response (if version = protocolVersion then .ok else .unsupported)

/-- Applies a message of the client's to the session and gives the reply, if there is one. -/
def handle (session : Session) (policy : Policy) (message : Message) : Outcome Session (Option Message) :=
  if session.state ≠ .established then
    (.error (.protocol (.received message.kind session.state)), session)
  else
    match message with
    | .greeting version =>
        let leaving := version ≠ protocolVersion ∧ policy = .close
        (.ok (some (answer version)),
          if leaving then { session with state := session.state.advance .disconnecting } else session)
    | .disconnect =>
        (.ok none,
          { session with peerDisconnected := true, state := session.state.advance .disconnecting })
    | .response _ => (.error (.protocol (.unwelcome message.kind)), session)

/-! ## Closing -/

/-- Whether a close that finds this state is the server's own and is announced to the peer. -/
def announces (state : Lifecycle) (peerDisconnected : Bool) : Bool :=
  state == .established || (state == .disconnecting && !peerDisconnected)

/-- Sends a disconnect, if there is a channel; a failure is no concern of the caller's. -/
def sendDisconnect (suite : Suite) (session : Session) : Session :=
  match session.transport with
  | .secured channel => { session with transport := .secured (channel.send suite .disconnect).2 }
  | _ => session

/-- Closes the stream, whoever owns it. -/
def hangUp (session : Session) : Outcome Session Unit :=
  match session.transport with
  | .absent => (.ok (), session)
  | .raw stream =>
      match stream.close with
      | (true, stream) => (.ok (), { session with transport := .raw stream })
      | (false, stream) => (.error .streamClose, { session with transport := .raw stream })
  | .secured channel =>
      match channel.close with
      | (result, channel) => (result, { session with transport := .secured channel })

/-- Closes the session: the state first, then the announcement, then the stream. -/
def close (suite : Suite) (session : Session) : Outcome Session Unit :=
  let announced := announces session.state session.peerDisconnected
  let marked := { session with state := session.state.advance .closed }
  (if announced then marked.sendDisconnect suite else marked).hangUp

end Session

end Courier
