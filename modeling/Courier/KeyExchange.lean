import Courier.Failure
import Courier.KeyDerivation
import Courier.KeyExchange.Curve25519

/-!
# Key exchange

A key pair lives for one exchange: the first agreement uses the private key up,
whatever comes of it. A shared secret of zeros only is refused.
-/

namespace Courier

abbrev PrivateKey := Block 32

abbrev PublicKey := Block 32

namespace KeyExchange

/-- The shared secret, unless it is all zero. -/
def agree (key : PrivateKey) (peer : PublicKey) : Option KeyDerivation.Secret :=
  let secret := Curve25519.shared key peer
  if secret.val.all (· == 0) then none else some secret

/-- A public key, and its private key as long as no agreement has used it. -/
structure KeyPair where
  publicKey : PublicKey
  privateKey : Option PrivateKey

def KeyPair.ofPrivateKey (key : PrivateKey) : KeyPair := ⟨Curve25519.publicKey key, some key⟩

/-- The secret shared with a peer; the private key is gone afterwards. -/
def KeyPair.agree (pair : KeyPair) (peer : PublicKey) :
    Except CryptoError KeyDerivation.Secret × KeyPair :=
  match pair.privateKey with
  | none => (.error .keyConsumed, pair)
  | some key =>
      match KeyExchange.agree key peer with
      | none => (.error .agreement, { pair with privateKey := none })
      | some secret => (.ok secret, { pair with privateKey := none })

end KeyExchange

end Courier
