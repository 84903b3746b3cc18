import Courier.Octets

/-!
# The digest SHA-256

A message is closed by one set bit, zeros and its length in bits, and taken in
blocks of sixty-four bytes. Each block is stretched to sixty-four words and
drives as many rounds on eight words of state.
-/

namespace Courier.Sha256

/-- The state between two blocks, and the digest after the last. -/
structure State where
  a : UInt32
  b : UInt32
  c : UInt32
  d : UInt32
  e : UInt32
  f : UInt32
  g : UInt32
  h : UInt32
  deriving DecidableEq

namespace State

def start : State :=
  ⟨0x6a09e667, 0xbb67ae85, 0x3c6ef372, 0xa54ff53a, 0x510e527f, 0x9b05688c, 0x1f83d9ab, 0x5be0cd19⟩

def add (first second : State) : State :=
  ⟨first.a + second.a, first.b + second.b, first.c + second.c, first.d + second.d,
    first.e + second.e, first.f + second.f, first.g + second.g, first.h + second.h⟩

def toOctets (state : State) : Octets :=
  [state.a, state.b, state.c, state.d, state.e, state.f, state.g, state.h].flatMap
    fun word => Octets.big 4 word.toNat

end State

/-- The constants of the rounds: the first 32 bits of the fractional parts of the
cube roots of the first sixty-four primes. -/
def constants : List UInt32 :=
  [0x428a2f98, 0x71374491, 0xb5c0fbcf, 0xe9b5dba5, 0x3956c25b, 0x59f111f1, 0x923f82a4, 0xab1c5ed5,
    0xd807aa98, 0x12835b01, 0x243185be, 0x550c7dc3, 0x72be5d74, 0x80deb1fe, 0x9bdc06a7, 0xc19bf174,
    0xe49b69c1, 0xefbe4786, 0x0fc19dc6, 0x240ca1cc, 0x2de92c6f, 0x4a7484aa, 0x5cb0a9dc, 0x76f988da,
    0x983e5152, 0xa831c66d, 0xb00327c8, 0xbf597fc7, 0xc6e00bf3, 0xd5a79147, 0x06ca6351, 0x14292967,
    0x27b70a85, 0x2e1b2138, 0x4d2c6dfc, 0x53380d13, 0x650a7354, 0x766a0abb, 0x81c2c92e, 0x92722c85,
    0xa2bfe8a1, 0xa81a664b, 0xc24b8b70, 0xc76c51a3, 0xd192e819, 0xd6990624, 0xf40e3585, 0x106aa070,
    0x19a4c116, 0x1e376c08, 0x2748774c, 0x34b0bcb5, 0x391c0cb3, 0x4ed8aa4a, 0x5b9cca4f, 0x682e6ff3,
    0x748f82ee, 0x78a5636f, 0x84c87814, 0x8cc70208, 0x90befffa, 0xa4506ceb, 0xbef9a3f7, 0xc67178f2]

def turnRight (word count : UInt32) : UInt32 := (word >>> count) ||| (word <<< (32 - count))

/-- The next word of the schedule, from the words before it. -/
def nextWord (words : Array UInt32) : UInt32 :=
  let back (distance : Nat) := words.getD (words.size - distance) 0
  let near := back 2
  let far := back 15
  back 16 + (turnRight far 7 ^^^ turnRight far 18 ^^^ (far >>> 3)) + back 7 +
    (turnRight near 17 ^^^ turnRight near 19 ^^^ (near >>> 10))

/-- The sixty-four words of a block. -/
def schedule (block : Octets) : Array UInt32 :=
  let input := (List.range 16).map fun index =>
    UInt32.ofNat (Octets.ofBig ((block.drop (4 * index)).take 4))
  (List.range 48).foldl (fun words _ => words.push (nextWord words)) input.toArray

def State.round (state : State) (constant word : UInt32) : State :=
  let mixed := turnRight state.e 6 ^^^ turnRight state.e 11 ^^^ turnRight state.e 25
  let choice := (state.e &&& state.f) ^^^ (~~~state.e &&& state.g)
  let first := state.h + mixed + choice + constant + word
  let spread := turnRight state.a 2 ^^^ turnRight state.a 13 ^^^ turnRight state.a 22
  let majority := (state.a &&& state.b) ^^^ (state.a &&& state.c) ^^^ (state.b &&& state.c)
  ⟨first + (spread + majority), state.a, state.b, state.c, state.d + first, state.e, state.f, state.g⟩

/-- The state after a block of sixty-four bytes. -/
def compress (state : State) (block : Octets) : State :=
  let rounds := constants.zip (schedule block).toList
  state.add (rounds.foldl (fun state round => state.round round.1 round.2) state)

/-- The state after all whole blocks of a text; what is left over is ignored. -/
def absorb (state : State) (text : Octets) : State :=
  if text.length < 64 then state else absorb (compress state (text.take 64)) (text.drop 64)
termination_by text.length
decreasing_by simp only [List.length_drop]; omega

/-- The message followed by a set bit, zeros up to a block less eight bytes, and its length in bits. -/
def padded (message : Octets) : Octets :=
  message ++ 0x80 :: List.replicate ((119 - message.length % 64) % 64) 0 ++
    Octets.big 8 (8 * message.length)

def digest (message : Octets) : Octets := (absorb State.start (padded message)).toOctets

@[simp] theorem length_digest (message : Octets) : (digest message).length = 32 := by
  simp [digest, State.toOctets]

/-- The message authentication code HMAC over this digest. -/
def authenticate (key message : Octets) : Octets :=
  let short := if key.length ≤ 64 then key else digest key
  let block := short ++ List.replicate (64 - short.length) 0
  digest (block.map (· ^^^ 0x5c) ++ digest (block.map (· ^^^ 0x36) ++ message))

@[simp] theorem length_authenticate (key message : Octets) : (authenticate key message).length = 32 := by
  simp [authenticate]

end Courier.Sha256
