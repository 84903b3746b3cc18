import Courier.Cipher
import Courier.Handshake
import Courier.Message.Wire

/-!
# Secure channels

A channel carries payloads in frames over a stream that it owns: the length of
the sealed payload as a 32-bit number, highest byte first, and the sealed
payload. Each direction has its own cipher. A frame that cannot be what the
peer sent ends the channel: it is poisoned, the stream is closed, and every later
use is refused.
-/

namespace Courier

/-- What an operation leaves: its result or the cause of its failure, and the state afterwards. -/
abbrev Outcome (State Result : Type) := Except Failure Result × State

/-- Goes on with the result of an operation, unless it failed. -/
def Outcome.andThen {State Result Next : Type} (first : Outcome State Result)
    (next : Result → State → Outcome State Next) : Outcome State Next :=
  match first with
  | (.error failure, state) => (.error failure, state)
  | (.ok result, state) => next result state

structure Channel where
  stream : Stream
  sender : Cipher
  receiver : Cipher
  poisoned : Bool := false
  deriving DecidableEq

namespace Channel

def lengthSize : Nat := 4

/-- The greatest length of a sealed payload. -/
def maximumFrame : Nat := 1024 * 1024

def ofKeys (stream : Stream) (keys : ChannelKeys) : Channel :=
  { stream, sender := Cipher.ofKey keys.sealing, receiver := Cipher.ofKey keys.opening }

def address (channel : Channel) : String := channel.stream.address

/-- The frame around a sealed payload. -/
def frame (body : Octets) : Octets := Octets.big lengthSize body.length ++ body

def close (channel : Channel) : Outcome Channel Unit :=
  match channel.stream.close with
  | (true, stream) => (.ok (), { channel with stream })
  | (false, stream) => (.error .streamClose, { channel with stream })

/-- Poisons the channel and closes its stream. -/
def fail {Result : Type} (channel : Channel) (error : FrameError) : Outcome Channel Result :=
  { channel with poisoned := true }.close.andThen fun _ channel => (.error (.frame error), channel)

/-- Seals a payload under the next nonce and puts it into a frame. -/
def prepare (suite : Suite) (channel : Channel) (payload : Octets) : Outcome Channel Octets :=
  if channel.poisoned then (.error (.frame (.unusable channel.address)), channel)
  else if maximumFrame < payload.length + Gcm.tagSize then
    (.error (.wire (.oversize payload.length)), channel)
  else
    match channel.sender.sealBuffer suite payload with
    | ⟨some error, _, sender⟩ => (.error (.crypto error), { channel with sender })
    | ⟨none, body, sender⟩ => (.ok (frame body), { channel with sender })

/-- Writes a frame in one piece. -/
def transmit (channel : Channel) (framed : Octets) : Outcome Channel Unit :=
  match channel.stream.write framed with
  | (_, some fault, stream) => (.error (.connection (.writeFailed fault)), { channel with stream })
  | (_, none, stream) => (.ok (), { channel with stream })

def sendFrame (suite : Suite) (channel : Channel) (payload : Octets) : Outcome Channel Unit :=
  (channel.prepare suite payload).andThen fun framed channel => channel.transmit framed

/-- Judges the length field of a frame, or how many bytes of it there were. -/
def judgeLength (channel : Channel) : Except Nat (Block lengthSize) → Outcome Channel Nat
  | .error 0 => (.error (.connection (.ended .endOfFile)), channel)
  | .error (_ + 1) => channel.fail .truncatedLength
  | .ok field =>
      let length := Octets.ofBig field.val
      if length < Gcm.tagSize || maximumFrame < length then channel.fail (.invalidLength length)
      else (.ok length, channel)

/-- Reads the length of the next frame. -/
def takeLength (channel : Channel) : Outcome Channel Nat :=
  if channel.poisoned then (.error (.frame (.unusable channel.address)), channel)
  else
    match channel.stream.read lengthSize with
    | (reading, stream) => { channel with stream }.judgeLength reading

/-- Judges the sealed payload of a frame, or how many bytes of it there were. -/
def judgeBody (channel : Channel) (length : Nat) : Except Nat (Block length) → Outcome Channel Octets
  | .error found => channel.fail (.truncatedBody found length)
  | .ok body => (.ok body.val, channel)

/-- Reads the sealed payload of a frame. -/
def takeBody (channel : Channel) (length : Nat) : Outcome Channel Octets :=
  match channel.stream.read length with
  | (reading, stream) => { channel with stream }.judgeBody length reading

/-- Opens a sealed payload under the next nonce. -/
def openBody (suite : Suite) (channel : Channel) (body : Octets) : Outcome Channel Octets :=
  match channel.receiver.openBuffer suite body with
  | ⟨some error, _, receiver⟩ => { channel with receiver }.fail (.crypto error)
  | ⟨none, payload, receiver⟩ => (.ok payload, { channel with receiver })

def receiveFrame (suite : Suite) (channel : Channel) : Outcome Channel Octets :=
  (channel.takeLength.andThen fun length channel => channel.takeBody length).andThen
    fun body channel => channel.openBody suite body

/-- The message in a payload. -/
def interpret (channel : Channel) (payload : Octets) : Outcome Channel Message :=
  match Message.decode payload with
  | .error error => (.error (.wire error), channel)
  | .ok message => (.ok message, channel)

def send (suite : Suite) (channel : Channel) (message : Message) : Outcome Channel Unit :=
  channel.sendFrame suite message.encode

def receive (suite : Suite) (channel : Channel) : Outcome Channel Message :=
  (channel.receiveFrame suite).andThen fun payload channel => channel.interpret payload

/-- The handshake on a stream that the new channel then owns; if it fails, the stream is closed. -/
def establish (suite : Suite) (entropy : Entropy) (stream : Stream) :
    Outcome Stream Channel × Entropy :=
  match Handshake.perform suite entropy stream with
  | (.ok keys, party) => ((.ok (ofKeys party.stream keys), party.stream), party.entropy)
  | (.error error, party) =>
      match party.stream.close with
      | (true, stream) => ((.error (.handshake error), stream), party.entropy)
      | (false, stream) => ((.error .streamClose, stream), party.entropy)

/-! ## What is unread

Only reading takes bytes off the stream. -/

theorem incoming_fail {Result : Type} (channel : Channel) (error : FrameError) :
    (channel.fail error : Outcome Channel Result).2.stream.incoming = channel.stream.incoming := by
  have kept := channel.stream.incoming_close
  unfold fail close Outcome.andThen
  simp only
  split <;> rename_i result <;> split at result <;> cases result <;> simp_all

theorem incoming_judgeLength (channel : Channel) (reading : Except Nat (Block lengthSize)) :
    (channel.judgeLength reading).2.stream.incoming = channel.stream.incoming := by
  unfold judgeLength
  split
  · rfl
  · exact channel.incoming_fail _
  · simp only
    split
    · exact channel.incoming_fail _
    · rfl

theorem incoming_judgeBody (channel : Channel) (length : Nat) (reading : Except Nat (Block length)) :
    (channel.judgeBody length reading).2.stream.incoming = channel.stream.incoming := by
  cases reading with
  | error found => exact channel.incoming_fail _
  | ok body => rfl

theorem incoming_openBody (suite : Suite) (channel : Channel) (body : Octets) :
    (channel.openBody suite body).2.stream.incoming = channel.stream.incoming := by
  unfold openBody
  split
  · exact incoming_fail _ _
  · rfl

theorem incoming_interpret (channel : Channel) (payload : Octets) :
    (channel.interpret payload).2.stream.incoming = channel.stream.incoming := by
  unfold interpret
  split <;> rfl

theorem incoming_transmit (channel : Channel) (framed : Octets) :
    (channel.transmit framed).2.stream.incoming = channel.stream.incoming := by
  have kept := channel.stream.incoming_write framed
  unfold transmit
  split <;> rename_i written <;> simp_all

theorem incoming_prepare (suite : Suite) (channel : Channel) (payload : Octets) :
    (channel.prepare suite payload).2.stream.incoming = channel.stream.incoming := by
  unfold prepare
  split
  · rfl
  · split
    · rfl
    · split <;> rfl

theorem incoming_sendFrame (suite : Suite) (channel : Channel) (payload : Octets) :
    (channel.sendFrame suite payload).2.stream.incoming = channel.stream.incoming := by
  have kept := channel.incoming_prepare suite payload
  unfold sendFrame Outcome.andThen
  split
  · simp_all
  · rename_i prepared
    rw [prepared] at kept
    exact (incoming_transmit _ _).trans kept

end Channel

end Courier
