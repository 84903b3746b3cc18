import Courier.Message.Wire
import Courier.Proofs.Octets

/-!
# Messages and their bytes

A number of 32 bits comes back from its four bytes whatever follows them, and so
does every message that the wire can carry; what follows it is left to be judged.
-/

namespace Courier.Message

theorem takeNumber_append (offset : Nat) {value : Nat} (bound : value < 256 ^ 4) (rest : Octets) :
    takeNumber offset (Octets.little 4 value ++ rest) = .ok (value, rest) := by
  have length : (Octets.little 4 value).length = 4 := Octets.length_little 4 value
  have enough : ¬ (Octets.little 4 value ++ rest).length < 4 := by
    rw [List.length_append, length]
    omega
  rw [takeNumber, if_neg enough, List.take_left' length, List.drop_left' length, Octets.ofLittle_little,
    Nat.mod_eq_of_lt bound]

theorem code_lt (kind : Kind) : kind.code < 256 ^ 4 := by
  cases kind <;> decide

/-- What is read after the tag. -/
def decodeRest (rest : Octets) : Kind → Except WireError Message
  | .greeting => do
      let (version, rest) ← takeNumber 4 rest
      finish (greeting (UInt32.ofNat version)) rest
  | .response => do
      let (code, rest) ← takeNumber 4 rest
      let status : Status := ⟨UInt32.ofNat code⟩
      if status.isKnown then finish (response status) rest else .error (.unknownStatus code)
  | .disconnect => finish disconnect rest

/-- Reading depends on the tag and on what follows it. -/
theorem decode_append {tag : Nat} (bound : tag < 256 ^ 4) (rest : Octets) :
    decode (Octets.little 4 tag ++ rest) =
      ((Kind.ofCode? tag).map (decodeRest rest)).getD (.error (.unknownTag tag)) := by
  rw [decode, takeNumber_append 0 bound]
  simp only [bind, Except.bind]
  cases Kind.ofCode? tag with
  | none => rfl
  | some kind => cases kind <;> rfl

theorem decode_of_kind (kind : Kind) (rest : Octets) :
    decode (Octets.little 4 kind.code ++ rest) = decodeRest rest kind := by
  rw [decode_append (code_lt kind), Kind.ofCode?_eq_some_iff.mpr rfl]
  rfl

theorem decodeRest_greeting (version : UInt32) (rest : Octets) :
    decodeRest (Octets.little 4 version.toNat ++ rest) .greeting = finish (greeting version) rest := by
  rw [decodeRest, takeNumber_append 4 version.toNat_lt]
  change finish (greeting (UInt32.ofNat version.toNat)) rest = _
  rw [UInt32.ofNat_toNat]

theorem decodeRest_response (status : Status) (rest : Octets) :
    decodeRest (Octets.little 4 status.code.toNat ++ rest) .response =
      if status.isKnown then finish (response status) rest
      else .error (.unknownStatus status.code.toNat) := by
  rw [decodeRest, takeNumber_append 4 status.code.toNat_lt]
  change (if Status.isKnown ⟨UInt32.ofNat status.code.toNat⟩ then
    finish (response ⟨UInt32.ofNat status.code.toNat⟩) rest else _) = _
  rw [UInt32.ofNat_toNat]

/-- Reading gives back what was written, if the wire can carry it and nothing follows. -/
theorem decode_encode_append {message : Message} (valid : message.isValid = true) (rest : Octets) :
    decode (message.encode ++ rest) = finish message rest := by
  cases message with
  | greeting version => rw [encode, List.append_assoc, decode_of_kind, decodeRest_greeting]
  | response status =>
      have known : status.isKnown = true := valid
      rw [encode, List.append_assoc, decode_of_kind, decodeRest_response, if_pos known]
  | disconnect => rw [encode, decode_of_kind, decodeRest]

theorem decode_encode {message : Message} (valid : message.isValid = true) :
    decode message.encode = .ok message := by
  have read := decode_encode_append valid []
  rwa [List.append_nil] at read

end Courier.Message
