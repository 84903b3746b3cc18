import Courier.Octets

/-!
# The function X25519

Multiplication of a point by a scalar on Curve25519, on the first coordinate
only, by the Montgomery ladder over the field of 2^255 - 19 elements.
-/

namespace Courier.Curve25519

def prime : Nat := (1 <<< 255) - 19

def add (first second : Nat) : Nat := (first + second) % prime

def subtract (first second : Nat) : Nat := (first + prime - second) % prime

def multiply (first second : Nat) : Nat := first * second % prime

/-- The power of an element, by the lowest `bits` bits of the exponent. -/
def power : Nat → Nat → Nat → Nat
  | 0, _, _ => 1
  | bits + 1, base, exponent =>
      let rest := power bits (multiply base base) (exponent / 2)
      if exponent % 2 = 0 then rest else multiply base rest

/-- The inverse of an element other than zero; zero is kept. -/
def inverse (element : Nat) : Nat := power 255 element (prime - 2)

/-- A point by its first coordinate, as a fraction. -/
structure Point where
  numerator : Nat
  denominator : Nat

/-- Doubles the first point and adds the second to it, where the two differ by the point at `base`. -/
def Point.doubleAndAdd (base : Nat) (first second : Point) : Point × Point :=
  let sum := add first.numerator first.denominator
  let difference := subtract first.numerator first.denominator
  let sumSquare := multiply sum sum
  let differenceSquare := multiply difference difference
  let gap := subtract sumSquare differenceSquare
  let left := multiply (subtract second.numerator second.denominator) sum
  let right := multiply (add second.numerator second.denominator) difference
  let total := add left right
  let remainder := subtract left right
  (⟨multiply sumSquare differenceSquare, multiply gap (add sumSquare (multiply 121665 gap))⟩,
    ⟨multiply total total, multiply base (multiply remainder remainder)⟩)

/-- The ladder over the lowest `bits` bits of the scalar, from the highest of them down. -/
def ladder (base scalar : Nat) : Nat → Point → Point → Point
  | 0, first, _ => first
  | bits + 1, first, second =>
      if scalar.testBit bits then
        let (doubled, sum) := Point.doubleAndAdd base second first
        ladder base scalar bits sum doubled
      else
        let (doubled, sum) := Point.doubleAndAdd base first second
        ladder base scalar bits doubled sum

/-- The scalar of a private key: the lowest three bits cleared, bit 254 set, bit 255 cleared. -/
def scalar (key : Block 32) : Nat :=
  Octets.ofLittle key.val % (1 <<< 254) / 8 * 8 + (1 <<< 254)

/-- The first coordinate of a point, zero for the point at infinity. -/
def Point.coordinate (point : Point) : Nat := multiply point.numerator (inverse point.denominator)

/-- The first coordinate of the point that a private key and the point at `base` give. -/
def multiplyPoint (key : Block 32) (base : Nat) : Block 32 :=
  Block.little 32 (ladder base (scalar key) 255 ⟨1, 0⟩ ⟨base, 1⟩).coordinate

/-- The public key of a private key. -/
def publicKey (key : Block 32) : Block 32 := multiplyPoint key 9

/-- What a private key and the other party's public key give, the highest bit of which is ignored. -/
def shared (key peer : Block 32) : Block 32 :=
  multiplyPoint key (Octets.ofLittle peer.val % (1 <<< 255) % prime)

end Courier.Curve25519
