import Courier.FileSystem

/-!
# Transfer plans

A plan divides files by size: small ones are bundled, large ones are split, and
the rest are sent one by one. Each part is in ascending order of size, and files
of one size keep their order.
-/

namespace Courier

structure Thresholds where
  /-- Files below this size are bundled. -/
  small : UInt64 := 1000000
  /-- Files of this size or more are split. -/
  large : UInt64 := 512000000
  /-- The size aimed at for a bundle. -/
  bundle : UInt64 := 64000000
  deriving DecidableEq, Repr

inductive PlanningError where
  | thresholds (small large : UInt64)
  deriving DecidableEq, Repr

def PlanningError.message : PlanningError → String
  | thresholds small large =>
      "Planning failed: small file threshold " ++ toString small.toNat ++
        " exceeds large file threshold " ++ toString large.toNat

structure Plan where
  small : List File
  singleChunk : List File
  large : List File
  thresholds : Thresholds
  deriving DecidableEq, Repr

namespace Plan

/-- Files in ascending order of size; those of one size keep their order. -/
def sortBySize (files : List File) : List File :=
  files.mergeSort fun first second => first.size ≤ second.size

/-- The place of the first file of a size or more among files in ascending order of size. Every look at the file
in the middle leaves one half to search. -/
def placeOf (size : UInt64) (files : List File) : Nat :=
  match _found : files.drop (files.length / 2) with
  | [] => 0
  | middle :: upper =>
      if middle.size < size then files.length / 2 + 1 + placeOf size upper
      else placeOf size (files.take (files.length / 2))
termination_by files.length
decreasing_by
  all_goals
    have length := congrArg List.length _found
    rw [List.length_drop, List.length_cons] at length
  · omega
  · rw [List.length_take]
    omega

/-- Divides files by two thresholds, the lower of which must not exceed the upper one. The second is searched
for among the files that are not small. -/
def create (files : List File) (thresholds : Thresholds) : Except PlanningError Plan :=
  if thresholds.large < thresholds.small then .error (.thresholds thresholds.small thresholds.large)
  else
    let sorted := sortBySize files
    let firstSingle := placeOf thresholds.small sorted
    let rest := sorted.drop firstSingle
    let firstLarge := placeOf thresholds.large rest
    .ok
      { small := sorted.take firstSingle
        singleChunk := rest.take firstLarge
        large := rest.drop firstLarge
        thresholds }

def fileCount (plan : Plan) : Nat := plan.small.length + plan.singleChunk.length + plan.large.length

/-- The sum of all sizes, as a machine word. -/
def totalSize (plan : Plan) : UInt64 :=
  (plan.small ++ plan.singleChunk ++ plan.large).foldl (fun total file => total + file.size) 0

end Plan

end Courier
