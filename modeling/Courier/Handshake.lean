import Courier.Entropy
import Courier.Machine
import Courier.Stream
import Courier.Suite

/-!
# The handshake

Each party writes its public key, reads the other's, writes a salt and reads
the other's. Nobody waits for a turn, since every write comes before the read
that answers it. Each party seals with the key that its own salt gives and opens
with the key that the peer's salt gives; a peer that sends the salt back is
refused, since both directions would then share one key.
-/

namespace Courier

/-- The keys of the two directions, as one party sees them. -/
structure ChannelKeys where
  sealing : Gcm.Key
  opening : Gcm.Key
  deriving DecidableEq

namespace Handshake

/-- How far a party has come. -/
inductive Stage where
  | greeting
  | awaitingKey (own : PrivateKey)
  | salting (own : PrivateKey) (peer : PublicKey)
  | awaitingSalt (own : PrivateKey) (peer : PublicKey) (salt : KeyDerivation.Salt)
  | agreeing (own : PrivateKey) (peer : PublicKey) (salt peerSalt : KeyDerivation.Salt)
  | finished (result : Except HandshakeError ChannelKeys)

/-- The number of steps that are left. -/
def Stage.remaining : Stage → Nat
  | greeting => 5
  | awaitingKey _ => 4
  | salting _ _ => 3
  | awaitingSalt _ _ _ => 2
  | agreeing _ _ _ _ => 1
  | finished _ => 0

def Stage.result? : Stage → Option (Except HandshakeError ChannelKeys)
  | finished result => some result
  | _ => none

/-- How many bytes the next step reads, if it reads. -/
def Stage.wants : Stage → Option Nat
  | awaitingKey _ => some 32
  | awaitingSalt _ _ _ => some 32
  | _ => none

/-- The keys that come of two salts and the public key of the peer. -/
def agreement (suite : Suite) (own : PrivateKey) (peer : PublicKey)
    (salt peerSalt : KeyDerivation.Salt) : Except HandshakeError ChannelKeys :=
  if salt = peerSalt then .error .reflectedSalt
  else
    match suite.agree own peer with
    | none => .error (.crypto .agreement)
    | some secret => .ok ⟨suite.channelKey salt secret, suite.channelKey peerSalt secret⟩

/-- One party: its place in the handshake, its random values and its end of the connection. -/
structure Party where
  stage : Stage
  entropy : Entropy
  stream : Stream

namespace Party

def fail (party : Party) (error : HandshakeError) : Party :=
  { party with stage := .finished (.error error) }

/-- Draws a private key and writes the public key. -/
def sendKey (suite : Suite) (party : Party) : Party :=
  match party.entropy.drawKey with
  | (none, entropy) => { party with entropy }.fail (.crypto .keyGeneration)
  | (some own, entropy) =>
      match party.stream.write (suite.publicKey own).val with
      | (_, some fault, stream) => { party with entropy, stream }.fail (.stream fault)
      | (_, none, stream) => ⟨.awaitingKey own, entropy, stream⟩

/-- Draws a salt and writes it. -/
def sendSalt (party : Party) (own : PrivateKey) (peer : PublicKey) : Party :=
  match party.entropy.drawSalt with
  | (none, entropy) => { party with entropy }.fail (.crypto .saltGeneration)
  | (some salt, entropy) =>
      match party.stream.write salt.val with
      | (_, some fault, stream) => { party with entropy, stream }.fail (.stream fault)
      | (_, none, stream) => ⟨.awaitingSalt own peer salt, entropy, stream⟩

/-- Reads a block of the peer's and goes on with it. -/
def receiveBlock (party : Party) (next : Block 32 → Stage) : Party :=
  match party.stream.read 32 with
  | (.error _, stream) => { party with stream }.fail (.stream .endOfFile)
  | (.ok block, stream) => { party with stage := next block, stream }

/-- The next step of a party; one that has finished stays as it is. -/
def step (suite : Suite) (party : Party) : Party :=
  match party.stage with
  | .greeting => party.sendKey suite
  | .awaitingKey own => party.receiveBlock (.salting own)
  | .salting own peer => party.sendSalt own peer
  | .awaitingSalt own peer salt => party.receiveBlock (.agreeing own peer salt)
  | .agreeing own peer salt peerSalt =>
      { party with stage := .finished (agreement suite own peer salt peerSalt) }
  | .finished _ => party

theorem remaining_step (suite : Suite) (party : Party) (unfinished : party.stage.result? = none) :
    (party.step suite).stage.remaining < party.stage.remaining := by
  unfold step
  split <;> rename_i place <;> rw [place] at unfinished ⊢
  · unfold sendKey
    split
    · simp [Stage.remaining, fail]
    · split <;> simp [Stage.remaining, fail]
  · unfold receiveBlock
    split <;> simp [Stage.remaining, fail]
  · unfold sendSalt
    split
    · simp [Stage.remaining, fail]
    · split <;> simp [Stage.remaining, fail]
  · unfold receiveBlock
    split <;> simp [Stage.remaining, fail]
  · simp [Stage.remaining]
  · cases unfinished

/-- No step makes more bytes unread. -/
theorem length_incoming_step_le (suite : Suite) (party : Party) :
    (party.step suite).stream.incoming.length ≤ party.stream.incoming.length := by
  have written (data : Octets) := party.stream.incoming_write data
  have read := party.stream.length_incoming_read_le 32
  unfold step
  split
  · unfold sendKey
    split
    · exact Nat.le_refl _
    · rename_i own entropy drawn
      have same := written (suite.publicKey own).val
      split <;> rename_i result <;> rw [result] at same <;>
        exact Nat.le_of_eq (congrArg List.length same)
  · unfold receiveBlock
    split <;> rename_i result <;> rw [result] at read <;> exact read
  · unfold sendSalt
    split
    · exact Nat.le_refl _
    · rename_i salt entropy drawn
      have same := written salt.val
      split <;> rename_i result <;> rw [result] at same <;>
        exact Nat.le_of_eq (congrArg List.length same)
  · unfold receiveBlock
    split <;> rename_i result <;> rw [result] at read <;> exact read
  · exact Nat.le_refl _
  · exact Nat.le_refl _

/-- Whether the next step of a party returns at once. -/
def ready (party : Party) : Bool :=
  match party.stage.wants with
  | some count => party.stream.readable count
  | none => true

end Party

/-- The handshake of one party, step by step. -/
def machine (suite : Suite) : Machine Party (Except HandshakeError ChannelKeys) where
  result? party := party.stage.result?
  step := Party.step suite
  weight party := party.stage.remaining
  weight_step := Party.remaining_step suite

/-- The handshake on a stream, from its first step to its end. -/
def perform (suite : Suite) (entropy : Entropy) (stream : Stream) :
    Except HandshakeError ChannelKeys × Party :=
  (machine suite).run ⟨.greeting, entropy, stream⟩

end Handshake

end Courier
