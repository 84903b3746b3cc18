import Courier.Proofs.Keyed
import Courier.Registry

/-!
# What a registry holds

Registering adds one entry and is refused where the address has one; removing takes
out the entry of the address and no other.
-/

namespace Courier

namespace Registry

variable {registry : Registry} {address : String} {place : Nat}

theorem insert_of_has (taken : registry.has address = true) :
    registry.insert address place = (false, registry) := if_pos taken

theorem insert_of_not_has (free : registry.has address = false) :
    registry.insert address place = (true, ⟨registry.entries.insert address place⟩) := by
  rw [insert, free]
  rfl

/-- Removing leaves the entries of all other addresses, whether there was one to remove or not. -/
theorem entries_remove (registry : Registry) (address : String) :
    (registry.remove address).2.entries = registry.entries.erase address := by
  unfold remove
  split
  · rfl
  · rename_i absent
    have missing := Keyed.contains_eq_false_iff.mp (Bool.not_eq_true _ ▸ absent)
    refine (List.filter_eq_self.mpr fun entry present => ?_).symm
    rw [bne_iff_ne]
    rintro rfl
    exact missing entry.2 present

end Registry

end Courier
