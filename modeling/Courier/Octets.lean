/-!
# Byte strings

Everything that crosses the wire is a byte string. Numbers are written as a
fixed count of base-256 digits, lowest first (`little`) or highest first
(`big`); reading is the sum of the digits with their weights. A `Block n` is
a byte string whose length is part of its type: keys, salts and nonces.
-/

namespace Courier

abbrev Octets := List UInt8

/-- A byte string of a fixed length. -/
abbrev Block (size : Nat) := { octets : Octets // octets.length = size }

namespace Octets

/-- The lowest `count` base-256 digits of a number, lowest first. -/
def little : Nat → Nat → Octets
  | 0, _ => []
  | count + 1, value => UInt8.ofNat value :: little count (value / 256)

/-- The number whose base-256 digits these are, lowest first. -/
def ofLittle : Octets → Nat
  | [] => 0
  | digit :: rest => digit.toNat + 256 * ofLittle rest

/-- The lowest `count` base-256 digits of a number, highest first. -/
def big (count value : Nat) : Octets := (little count value).reverse

/-- The number whose base-256 digits these are, highest first. -/
def ofBig (octets : Octets) : Nat := ofLittle octets.reverse

@[simp] theorem length_little (count value : Nat) : (little count value).length = count := by
  induction count generalizing value with
  | zero => rfl
  | succ count ih => simp [little, ih]

@[simp] theorem length_big (count value : Nat) : (big count value).length = count := by
  simp [big]

/-- Byte by byte exclusive or, as long as the shorter operand. -/
def xor (first second : Octets) : Octets := List.zipWith (· ^^^ ·) first second

end Octets

/-- The block of a given length that begins with these bytes and is filled up with zeros. -/
def Block.ofOctets (size : Nat) (octets : Octets) : Block size :=
  ⟨(octets ++ List.replicate (size - octets.length) 0).take size, by
    simp only [List.length_take, List.length_append, List.length_replicate]
    omega⟩

/-- A number as a block, lowest digit first; digits that do not fit are dropped. -/
def Block.little (size value : Nat) : Block size := ⟨Octets.little size value, Octets.length_little size value⟩

/-- The byte string as a block, if it has the block's length. -/
def Block.ofOctets? (size : Nat) (octets : Octets) : Option (Block size) :=
  if fits : octets.length = size then some ⟨octets, fits⟩ else none

end Courier
