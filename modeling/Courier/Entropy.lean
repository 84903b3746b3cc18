import Courier.KeyExchange

/-!
# Random values

Keys and salts are drawn from a supply that is handed in, one after the other;
drawing from an empty supply fails.
-/

namespace Courier

structure Entropy where
  privateKeys : List PrivateKey := []
  salts : List KeyDerivation.Salt := []
  deriving DecidableEq

namespace Entropy

def drawKey (entropy : Entropy) : Option PrivateKey × Entropy :=
  (entropy.privateKeys.head?, { entropy with privateKeys := entropy.privateKeys.tail })

def drawSalt (entropy : Entropy) : Option KeyDerivation.Salt × Entropy :=
  (entropy.salts.head?, { entropy with salts := entropy.salts.tail })

/-- A key pair made from the next private key. -/
def generateKeyPair (entropy : Entropy) : Except CryptoError KeyExchange.KeyPair × Entropy :=
  match entropy.drawKey with
  | (some key, entropy) => (.ok (.ofPrivateKey key), entropy)
  | (none, entropy) => (.error .keyGeneration, entropy)

/-- The next salt. -/
def generateSalt (entropy : Entropy) : Except CryptoError KeyDerivation.Salt × Entropy :=
  match entropy.drawSalt with
  | (some salt, entropy) => (.ok salt, entropy)
  | (none, entropy) => (.error .saltGeneration, entropy)

/-- A supply of one key and one salt that depends on a seed and a number only. -/
def derived (seed : Octets) (index : Nat) : Entropy :=
  let draw (label : UInt8) : Block 32 :=
    ⟨Sha256.digest (seed ++ label :: Octets.big 8 index), Sha256.length_digest _⟩
  { privateKeys := [draw 0], salts := [draw 1] }

end Entropy

end Courier
