/-!
# Messages

The three messages of a session: a client's greeting with the protocol
version it speaks, the answer to it, and the notice that one side is leaving.
Kinds and statuses are numbers on the wire; a number without a meaning is
still printed, as `UNKNOWN`.
-/

namespace Courier

/-- The protocol version that a server accepts. -/
def protocolVersion : UInt32 := 1

/-- The answer to a greeting, as the number that stands for it. -/
structure Status where
  code : UInt32
  deriving DecidableEq, Repr

namespace Status

def ok : Status := ⟨0⟩

def unsupported : Status := ⟨1⟩

/-- The statuses that have a meaning; no other is read from the wire. -/
def isKnown (status : Status) : Bool := status == ok || status == unsupported

def name (status : Status) : String :=
  if status = ok then "PROTOCOL_OK"
  else if status = unsupported then "UNSUPPORTED_PROTOCOL"
  else "UNKNOWN"

end Status

inductive Message where
  | greeting (version : UInt32)
  | response (status : Status)
  | disconnect
  deriving DecidableEq, Repr

namespace Message

/-- What a message is, without what it carries. -/
inductive Kind where
  | greeting
  | response
  | disconnect
  deriving DecidableEq, Repr

namespace Kind

/-- The tag of this kind of message on the wire. -/
def code : Kind → Nat
  | greeting => 0
  | response => 1
  | disconnect => 2

def ofCode? : Nat → Option Kind
  | 0 => some greeting
  | 1 => some response
  | 2 => some disconnect
  | _ => none

def name : Kind → String
  | greeting => "GREETING"
  | response => "GREETING_RESPONSE"
  | disconnect => "DISCONNECT"

/-- The name of the kind with this tag, if there is one. -/
def nameOfCode (code : Nat) : String := ((ofCode? code).map name).getD "UNKNOWN"

theorem ofCode?_eq_some_iff {code : Nat} {kind : Kind} : ofCode? code = some kind ↔ kind.code = code := by
  constructor
  · intro found
    unfold ofCode? at found
    split at found <;> simp_all [Kind.code] <;> subst kind <;> rfl
  · rintro rfl
    cases kind <;> rfl

end Kind

def kind : Message → Kind
  | greeting _ => .greeting
  | response _ => .response
  | disconnect => .disconnect

/-- A message as it is shown to people. -/
def text : Message → String
  | greeting version => Kind.greeting.name ++ "\x7bprotocol_version=" ++ toString version.toNat ++ "\x7d"
  | response status => Kind.response.name ++ "\x7b" ++ status.name ++ "\x7d"
  | disconnect => Kind.disconnect.name

/-- A message that the wire can carry: a response has a status with a meaning. -/
def isValid : Message → Bool
  | response status => status.isKnown
  | _ => true

end Message

end Courier
