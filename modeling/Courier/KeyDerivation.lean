import Courier.Cipher.Gcm
import Courier.Digest.Sha256
import Courier.Failure

/-!
# Key derivation

HKDF over SHA-256: the salt and the input are condensed to one key, which is
then stretched to the length asked for. A channel key is derived from one
party's salt and the shared secret under a fixed label; with a salt and a
secret of 32 bytes the derivation is never refused.
-/

namespace Courier.KeyDerivation

abbrev Salt := Block 32

abbrev Secret := Block 32

/-- The blocks of output from number `index` on, each derived from the one before. -/
def stretch (key info : Octets) : Nat → Nat → Octets → Octets
  | 0, _, _ => []
  | count + 1, index, previous =>
      let block := Sha256.authenticate key (previous ++ info ++ [UInt8.ofNat index])
      block ++ stretch key info count (index + 1) block

/-- The first `length` bytes derived from a salt, an input and a label. -/
def expand (salt input info : Octets) (length : Nat) : Octets :=
  (stretch (Sha256.authenticate salt input) info ((length + 31) / 32) 1 []).take length

/-- The greatest length that can be derived: 255 blocks. -/
def maximumLength : Nat := 255 * 32

/-- The greatest length of a label. -/
def longestLabel : Nat := 32 * 1024

/-- `expand`, refused for an empty salt or input, for a label that is too long and for a length that is
zero or too great. -/
def derive (salt input info : Octets) (length : Nat) : Except CryptoError Octets :=
  if salt.isEmpty || input.isEmpty || longestLabel < info.length || length == 0 || maximumLength < length
  then .error .derivation
  else .ok (expand salt input info length)

@[simp] theorem length_stretch (key info : Octets) (count index : Nat) (previous : Octets) :
    (stretch key info count index previous).length = 32 * count := by
  induction count generalizing index previous with
  | zero => rfl
  | succ count ih =>
      simp only [stretch, List.length_append, Sha256.length_authenticate, ih]
      omega

@[simp] theorem length_expand (salt input info : Octets) (length : Nat) :
    (expand salt input info length).length = length := by
  simp only [expand, List.length_take, length_stretch]
  omega

/-- The label under which channel keys are derived. -/
def channelLabel : Octets := "pneumatic-key".toUTF8.toList

/-- The key of one direction, from the salt of the party that seals with it and the shared secret. -/
def channelKey (salt : Salt) (secret : Secret) : Gcm.Key :=
  ⟨expand salt.val secret.val channelLabel 32, by simp⟩

/-- The channel key for a secret of any length. -/
def channelKey? (salt : Salt) (secret : Octets) : Except CryptoError Gcm.Key :=
  if secret.isEmpty then .error .derivation else .ok ⟨expand salt.val secret channelLabel 32, by simp⟩

end Courier.KeyDerivation
