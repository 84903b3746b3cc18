import Courier.Channel

/-!
# Operations on a channel

Everything that may be done with a channel, as data, so that statements can
range over all runs: messages and payloads sent and received, closing, and the
arrival of more bytes. A sealing is what becomes of a payload that is sent.
-/

namespace Courier.Channel

/-- The channel when these bytes have arrived. -/
def fed (channel : Channel) (bytes : Octets) : Channel :=
  { channel with stream := channel.stream.feed bytes }

/-- What is done with a channel, or happens to it. -/
inductive Operation where
  | send (message : Message)
  | sendFrame (payload : Octets)
  | receive
  | receiveFrame
  | close
  | feed (bytes : Octets)
  deriving DecidableEq

/-- What an operation gives back. -/
inductive Answer where
  | done (result : Except Failure Unit)
  | payload (result : Except Failure Octets)
  | message (result : Except Failure Message)

namespace Operation

/-- The payload that an operation is to send. -/
def outgoing? : Operation → Option Octets
  | send message => some message.encode
  | sendFrame payload => some payload
  | _ => none

/-- Whether an operation asks for the next frame. -/
def receives : Operation → Bool
  | receive | receiveFrame => true
  | _ => false

def perform (suite : Suite) (channel : Channel) : Operation → Answer × Channel
  | send message => Prod.map .done id (channel.send suite message)
  | sendFrame payload => Prod.map .done id (channel.sendFrame suite payload)
  | receive => Prod.map .message id (channel.receive suite)
  | receiveFrame => Prod.map .payload id (channel.receiveFrame suite)
  | close => Prod.map .done id channel.close
  | feed bytes => (.done (.ok ()), channel.fed bytes)

end Operation

/-- The channel after a run of operations. -/
def after (suite : Suite) : Channel → List Operation → Channel
  | channel, [] => channel
  | channel, operation :: rest => after suite (operation.perform suite channel).2 rest

/-! ## Sealings -/

/-- A payload that was sealed, the cipher with the nonce that it was sealed under, and whether its frame was
taken whole. -/
structure Sealing where
  cipher : Cipher
  payload : Octets
  whole : Bool

/-- The frame that a sealing made. -/
def Sealing.framed (suite : Suite) (sealing : Sealing) : Octets :=
  frame (suite.encrypt sealing.cipher.key sealing.cipher.nonce sealing.payload)

/-- The sealing that an operation makes, unless it is refused before or sends nothing. -/
def Operation.sealing? (suite : Suite) (channel : Channel) (operation : Operation) : Option Sealing :=
  match operation.outgoing? with
  | none => none
  | some payload =>
      match channel.prepare suite payload with
      | (.error _, _) => none
      | (.ok framed, prepared) => some ⟨prepared.sender, payload, (prepared.transmit framed).1.isOk⟩

end Courier.Channel
