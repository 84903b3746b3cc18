import Courier.Suite

/-!
# Ciphers with a nonce sequence

A cipher is a key and a counter. Every use takes the next nonce of the
sequence, whether it succeeds or not, so no nonce serves twice; at the last
counter the cipher refuses every use. A use works on a buffer in place, and a
buffer that could not be opened is emptied.
-/

namespace Courier

structure Cipher where
  key : Gcm.Key
  counter : UInt64
  deriving DecidableEq

namespace Cipher

/-- A cipher under a fresh key. -/
def ofKey (key : Gcm.Key) : Cipher := ⟨key, 1⟩

/-- The nonce of a counter: its eight bytes, lowest first, and four zeros. -/
def nonceOf (counter : UInt64) : Gcm.Nonce :=
  ⟨Octets.little 8 counter.toNat ++ List.replicate 4 0, by simp⟩

/-- The last counter, at which the sequence is used up. -/
def lastCounter : UInt64 := 0xffffffffffffffff

/-- Moves to the next nonce, if there is one. -/
def next? (cipher : Cipher) : Option Cipher :=
  if cipher.counter = lastCounter then none else some { cipher with counter := cipher.counter + 1 }

/-- The nonce that the cipher has come to. -/
def nonce (cipher : Cipher) : Gcm.Nonce := nonceOf cipher.counter

/-- What a use leaves: the cause if it was refused, the buffer and the cipher afterwards. -/
structure Use where
  refusal : Option CryptoError
  buffer : Octets
  cipher : Cipher

/-- Seals a buffer under the next nonce. -/
def sealBuffer (suite : Suite) (cipher : Cipher) (buffer : Octets) : Use :=
  match cipher.next? with
  | none => ⟨some .nonceExhausted, buffer, cipher⟩
  | some cipher => ⟨none, suite.encrypt cipher.key cipher.nonce buffer, cipher⟩

/-- Opens a sealed buffer under the next nonce. -/
def openBuffer (suite : Suite) (cipher : Cipher) (buffer : Octets) : Use :=
  match cipher.next? with
  | none => ⟨some .nonceExhausted, buffer, cipher⟩
  | some cipher =>
      if buffer.length < Gcm.tagSize then ⟨some .sealedTooShort, [], cipher⟩
      else
        match suite.decrypt cipher.key cipher.nonce buffer with
        | none => ⟨some .tagMismatch, [], cipher⟩
        | some text => ⟨none, text, cipher⟩

theorem next?_eq_none_iff (cipher : Cipher) : cipher.next? = none ↔ cipher.counter = lastCounter := by
  simp [next?]

theorem toNat_counter_of_next? {cipher next : Cipher} (moved : cipher.next? = some next) :
    next.counter.toNat = cipher.counter.toNat + 1 := by
  unfold next? at moved
  split at moved
  · cases moved
  · rename_i more
    cases moved
    have bound := cipher.counter.toNat_lt
    have below : cipher.counter.toNat ≠ 2 ^ 64 - 1 := fun equal =>
      more (UInt64.toNat_inj.mp (by simpa [lastCounter] using equal))
    rw [UInt64.toNat_add]
    simp only [UInt64.toNat_one]
    omega

end Cipher

end Courier
