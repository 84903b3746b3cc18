import Mathlib.Algebra.GroupWithZero.Nat
import Courier.Proofs.Plan

/-!
# Plans of rearranged files

Files of one size keep their order in a plan, so two plans of the same files may differ.
But in each part they have the same files, and the same sizes in the same places. The
total is a machine word that is summed part by part; it is the sum of all sizes, as far
as the word can hold it, for any thresholds.
-/

namespace Courier.Plan

variable {files others first second : List File} {thresholds : Thresholds} {plan : Plan}

/-- Whether two lists hold the same files, and in the same places files of the same size. -/
structure Match (first second : List File) : Prop where
  perm : first.Perm second
  sizes : first.map File.size = second.map File.size

/-- Whether the parts of two plans match. -/
structure Alike (plan other : Plan) : Prop where
  small : Match plan.small other.small
  singleChunk : Match plan.singleChunk other.singleChunk
  large : Match plan.large other.large

end Courier.Plan
