import Courier.Octets

/-!
# The block cipher AES-256

A block is four columns of four bytes, each held as one word with its first
byte highest. The substitution table is computed from its definition, the
inverse in the field of 256 elements followed by an affine map. A middle round
looks every byte up in one table that joins the substitution with the mixing of
a column; the last round substitutes only.
-/

namespace Courier.Aes

/-- The product with the generator of the field of 256 elements. -/
def double (element : UInt8) : UInt8 :=
  (element <<< 1) ^^^ (if element &&& 0x80 == 0 then 0 else 0x1b)

/-- The product in the field of 256 elements, by the lowest `bits` bits of the second factor. -/
def multiply : Nat → UInt8 → UInt8 → UInt8
  | 0, _, _ => 0
  | bits + 1, first, second =>
      (if second &&& 1 == 0 then 0 else first) ^^^ multiply bits (double first) (second >>> 1)

def product (first second : UInt8) : UInt8 := multiply 8 first second

/-- The inverse of an element, which is its 254th power; zero is kept. -/
def inverse (element : UInt8) : UInt8 :=
  let square := product element element
  (List.range 6).foldl (fun power _ => let next := product power power; product next square) square

/-- The byte that takes the place of another in a round. -/
def substituted (byte : UInt8) : UInt8 :=
  let base := inverse byte
  let turned (count : UInt8) : UInt8 := (base <<< count) ||| (base >>> (8 - count))
  base ^^^ turned 1 ^^^ turned 2 ^^^ turned 3 ^^^ turned 4 ^^^ 0x63

def substitution : Vector UInt8 256 := Vector.ofFn fun index => substituted (UInt8.ofNat index.val)

def substitute (byte : UInt8) : UInt8 := substitution.get ⟨byte.toNat, byte.toNat_lt⟩

/-- The word with these four bytes, the first highest. -/
def word (first second third fourth : UInt8) : UInt32 :=
  (first.toUInt32 <<< 24) ||| (second.toUInt32 <<< 16) ||| (third.toUInt32 <<< 8) ||| fourth.toUInt32

/-- The byte of a word at this place, counted from the highest. -/
def byteAt (place : UInt32) (column : UInt32) : UInt8 := (column >>> (24 - 8 * place)).toUInt8

def turnRight (column count : UInt32) : UInt32 := (column >>> count) ||| (column <<< (32 - count))

/-- What a byte at the head of a column adds to the mixed column. -/
def mixing : Vector UInt32 256 := Vector.ofFn fun index =>
  let byte := substituted (UInt8.ofNat index.val)
  word (double byte) byte byte (double byte ^^^ byte)

def mix (byte : UInt8) : UInt32 := mixing.get ⟨byte.toNat, byte.toNat_lt⟩

/-- Four columns: a block of text or one round's key. -/
structure Columns where
  first : UInt32
  second : UInt32
  third : UInt32
  fourth : UInt32
  deriving DecidableEq

namespace Columns

def xor (left right : Columns) : Columns :=
  ⟨left.first ^^^ right.first, left.second ^^^ right.second,
    left.third ^^^ right.third, left.fourth ^^^ right.fourth⟩

def toOctets (columns : Columns) : Octets :=
  Octets.big 4 columns.first.toNat ++ Octets.big 4 columns.second.toNat ++
    (Octets.big 4 columns.third.toNat ++ Octets.big 4 columns.fourth.toNat)

@[simp] theorem length_toOctets (columns : Columns) : columns.toOctets.length = 16 := by
  simp [toOctets]

/-- The block of these bytes; only the first sixteen count. -/
def ofOctets (octets : Octets) : Columns :=
  let column (start : Nat) := UInt32.ofNat (Octets.ofBig ((octets.drop start).take 4))
  ⟨column 0, column 4, column 8, column 12⟩

/-- Applies one function to the bytes that a round brings together in each column. -/
def gather (combine : UInt8 → UInt8 → UInt8 → UInt8 → UInt32) (columns : Columns) : Columns :=
  let column (first second third fourth : UInt32) :=
    combine (byteAt 0 first) (byteAt 1 second) (byteAt 2 third) (byteAt 3 fourth)
  ⟨column columns.first columns.second columns.third columns.fourth,
    column columns.second columns.third columns.fourth columns.first,
    column columns.third columns.fourth columns.first columns.second,
    column columns.fourth columns.first columns.second columns.third⟩

def middleRound (columns key : Columns) : Columns :=
  (columns.gather fun first second third fourth =>
    mix first ^^^ turnRight (mix second) 8 ^^^ turnRight (mix third) 16 ^^^
      turnRight (mix fourth) 24).xor key

def lastRound (columns key : Columns) : Columns :=
  (columns.gather fun first second third fourth =>
    word (substitute first) (substitute second) (substitute third) (substitute fourth)).xor key

end Columns

/-- The keys of the rounds, the first of which only whitens. -/
structure Schedule where
  whitening : Columns
  middle : List Columns
  last : Columns

def substituteWord (column : UInt32) : UInt32 :=
  word (substitute (byteAt 0 column)) (substitute (byteAt 1 column))
    (substitute (byteAt 2 column)) (substitute (byteAt 3 column))

/-- The word of the expanded key at `index`, from those before it. -/
def nextWord (words : Array UInt32) (index : Nat) : UInt32 :=
  let previous := words.getD (index - 1) 0
  let changed :=
    if index % 8 = 0 then
      substituteWord (turnRight previous 24) ^^^ ((1 : UInt32) <<< UInt32.ofNat (23 + index / 8))
    else if index % 8 = 4 then substituteWord previous
    else previous
  words.getD (index - 8) 0 ^^^ changed

/-- The sixty words of the expanded key. -/
def expandedKey (key : Block 32) : Array UInt32 :=
  let start := (List.range 8).map fun index =>
    UInt32.ofNat (Octets.ofBig ((key.val.drop (4 * index)).take 4))
  (List.range 52).foldl (fun words index => words.push (nextWord words (index + 8))) start.toArray

def Schedule.ofKey (key : Block 32) : Schedule :=
  let words := expandedKey key
  let columns (round : Nat) : Columns :=
    ⟨words.getD (4 * round) 0, words.getD (4 * round + 1) 0,
      words.getD (4 * round + 2) 0, words.getD (4 * round + 3) 0⟩
  ⟨columns 0, (List.range 13).map (fun round => columns (round + 1)), columns 14⟩

/-- The block cipher: whitening, thirteen middle rounds and the last one. -/
def encrypt (schedule : Schedule) (block : Columns) : Columns :=
  (schedule.middle.foldl Columns.middleRound (block.xor schedule.whitening)).lastRound schedule.last

end Courier.Aes
