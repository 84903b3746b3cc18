import Mathlib.Algebra.Group.Nat.Defs
import Courier.Octets

/-!
# Numbers as digits

Writing a number with a fixed count of base-256 digits keeps it up to a multiple
of that power of 256, and every byte string is the digits of the number that it
is read as.
-/

namespace Courier.Octets

theorem ofLittle_little (count value : Nat) :
    ofLittle (little count value) = value % 256 ^ count := by
  induction count generalizing value with
  | zero => simp [little, ofLittle, Nat.mod_one]
  | succ count ih =>
      have digit : (UInt8.ofNat value).toNat = value % 256 := by simp
      rw [little, ofLittle, ih, digit, Nat.pow_succ, Nat.mul_comm (256 ^ count) 256, Nat.mod_mul]

theorem ofLittle_lt (octets : Octets) : ofLittle octets < 256 ^ octets.length := by
  induction octets with
  | nil => simp [ofLittle]
  | cons digit rest ih =>
      have bound := digit.toNat_lt
      simp only [ofLittle, List.length_cons, Nat.pow_succ]
      omega

theorem little_ofLittle (octets : Octets) : little octets.length (ofLittle octets) = octets := by
  induction octets with
  | nil => rfl
  | cons digit rest ih =>
      have bound := digit.toNat_lt
      have quotient : (digit.toNat + 256 * ofLittle rest) / 256 = ofLittle rest := by omega
      simp only [List.length_cons, little, ofLittle, quotient, ih, List.cons.injEq, and_true]
      apply UInt8.toNat_inj.mp
      simp only [UInt8.toNat_ofNat']
      omega

theorem ofBig_big (count value : Nat) :
    ofBig (big count value) = value % 256 ^ count := by
  rw [ofBig, big, List.reverse_reverse, ofLittle_little]

theorem big_ofBig (octets : Octets) :
    big octets.length (ofBig octets) = octets := by
  have digits := little_ofLittle octets.reverse
  rw [List.length_reverse] at digits
  rw [big, ofBig, digits, List.reverse_reverse]

/-- A byte string begins with a block, or is too short for one. -/
theorem short_or_block (count : Nat) (octets : Octets) :
    octets.length < count ∨ ∃ (block : Block count) (rest : Octets), octets = block.val ++ rest := by
  rcases Nat.lt_or_ge octets.length count with few | enough
  · exact .inl few
  · exact .inr ⟨⟨octets.take count, List.length_take_of_le enough⟩, octets.drop count,
      (List.take_append_drop count octets).symm⟩

end Courier.Octets
