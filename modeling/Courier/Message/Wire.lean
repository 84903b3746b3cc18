import Courier.Failure
import Courier.Octets

/-!
# Messages on the wire

A message is its tag and what it carries, each a 32-bit number with the lowest
byte first. Reading takes the numbers off the front one after the other and
refuses what is left over.
-/

namespace Courier.Message

/-- The bytes of a message. -/
def encode : Message → Octets
  | greeting version => Octets.little 4 Kind.greeting.code ++ Octets.little 4 version.toNat
  | response status => Octets.little 4 Kind.response.code ++ Octets.little 4 status.code.toNat
  | disconnect => Octets.little 4 Kind.disconnect.code

/-- Takes a 32-bit number from what is left of a payload; `offset` tells how much was taken before. -/
def takeNumber (offset : Nat) (rest : Octets) : Except WireError (Nat × Octets) :=
  if rest.length < 4 then .error (.truncated offset)
  else .ok (Octets.ofLittle (rest.take 4), rest.drop 4)

/-- Accepts a message if nothing of the payload is left. -/
def finish (message : Message) (rest : Octets) : Except WireError Message :=
  if rest.isEmpty then .ok message else .error (.trailing rest.length message.kind)

/-- The message whose bytes these are. -/
def decode (payload : Octets) : Except WireError Message := do
  let (tag, rest) ← takeNumber 0 payload
  match Kind.ofCode? tag with
  | none => .error (.unknownTag tag)
  | some .greeting =>
      let (version, rest) ← takeNumber 4 rest
      finish (greeting (UInt32.ofNat version)) rest
  | some .response =>
      let (code, rest) ← takeNumber 4 rest
      let status : Status := ⟨UInt32.ofNat code⟩
      if status.isKnown then finish (response status) rest else .error (.unknownStatus code)
  | some .disconnect => finish disconnect rest

end Courier.Message
