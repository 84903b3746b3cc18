import Courier.KeyExchange

/-!
# Cipher suites

Channels and sessions use cryptography through a `Suite`, so that what is said
of them rests only on the laws that they need. The program uses one suite,
`Suite.standard`: AES-256-GCM, X25519 and HKDF over SHA-256. It is lawful.
-/

namespace Courier

/-- The operations that a secure channel is built from. -/
structure Suite where
  encrypt : Gcm.Key → Gcm.Nonce → Octets → Octets
  decrypt : Gcm.Key → Gcm.Nonce → Octets → Option Octets
  publicKey : PrivateKey → PublicKey
  agree : PrivateKey → PublicKey → Option KeyDerivation.Secret
  channelKey : KeyDerivation.Salt → KeyDerivation.Secret → Gcm.Key

namespace Suite

def standard : Suite where
  encrypt := Gcm.encrypt
  decrypt := Gcm.decrypt
  publicKey := Curve25519.publicKey
  agree := KeyExchange.agree
  channelKey := KeyDerivation.channelKey

/-- Decryption inverts encryption under the same key and nonce, and a sealed text is its text and a tag. -/
structure Lawful (suite : Suite) : Prop where
  decrypt_encrypt : ∀ key nonce text, suite.decrypt key nonce (suite.encrypt key nonce text) = some text
  length_encrypt : ∀ key nonce text, (suite.encrypt key nonce text).length = text.length + Gcm.tagSize

theorem standard_lawful : standard.Lawful where
  decrypt_encrypt := Gcm.decrypt_encrypt
  length_encrypt := Gcm.length_encrypt

end Suite

end Courier
