import Courier.Proofs.Discovery.Tree
import Mathlib.Data.List.Flatten
import Mathlib.Data.List.Perm.Subperm

/-!
# The levels of a tree

Below the root, a level holds what the directories of the level above list, in the
order of these directories and then of their listings. With some level empty there are
finitely many directories, and told level by level they are the root and what each of
them lists in turn. Their batches can be made in this order as far as the first directory
that makes none.
-/

namespace Courier.Discovery.Source

variable {source : Source} {depth : Nat}

/-- The directories so many levels below others, in the order of the directories above them and then of their
listings. -/
def beneath (source : Source) (directories : List String) : Nat → List String
  | 0 => directories
  | depth + 1 => (source.beneath directories depth).flatMap source.below

/-- The directories of one level; the root is the first. -/
def level (source : Source) (depth : Nat) : List String := source.beneath [""] depth

/-- The directories of the levels above a depth, one level after the other. -/
def levels (source : Source) (depth : Nat) : List String := (List.range depth).flatMap source.level

/-- The batches of directories as far as the first that makes none, and why it makes none. -/
def read (source : Source) : List String → List Batch × Option Fault
  | [] => ([], none)
  | directory :: rest =>
      match source.batch? directory with
      | .error fault => ([], some fault)
      | .ok batch => (batch :: (source.read rest).1, (source.read rest).2)

/-! ## Levels below levels -/

theorem beneath_append (source : Source) (left right : List String) (depth : Nat) :
    source.beneath (left ++ right) depth = source.beneath left depth ++ source.beneath right depth := by
  induction depth with
  | zero => rfl
  | succ depth ih => rw [beneath, ih, List.flatMap_append, beneath, beneath]

theorem beneath_beneath (source : Source) (directories : List String) (depth more : Nat) :
    source.beneath (source.beneath directories depth) more = source.beneath directories (depth + more) := by
  induction more with
  | zero => rfl
  | succ more ih => rw [beneath, ih, Nat.add_succ, beneath]

theorem beneath_nil (source : Source) (depth : Nat) : source.beneath [] depth = [] := by
  induction depth with
  | zero => rfl
  | succ depth ih => rw [beneath, ih, List.flatMap_nil]

/-- Beneath more directories there is no less. -/
theorem beneath_subset {directories others : List String} (within : directories ⊆ others) (depth : Nat) :
    source.beneath directories depth ⊆ source.beneath others depth := by
  induction depth with
  | zero => exact within
  | succ depth ih =>
      intro path present
      obtain ⟨parent, found, listed⟩ := List.mem_flatMap.mp present
      exact List.mem_flatMap.mpr ⟨parent, ih found, listed⟩

/-- What lists itself, in some order, is found at every depth. -/
theorem beneath_of_fixed {directories : List String} (fixed : (directories.flatMap source.below).Perm directories)
    (depth : Nat) : (source.beneath directories depth).Perm directories := by
  induction depth with
  | zero => exact .refl _
  | succ depth ih => exact (ih.flatMap_right source.below).trans fixed

theorem levels_succ (source : Source) (depth : Nat) :
    source.levels (depth + 1) = source.levels depth ++ source.level depth := by
  rw [levels, List.range_succ, List.flatMap_append, List.flatMap_singleton, levels]

/-- A root that lists itself is found at every level. -/
theorem root_mem_level (itself : "" ∈ source.below "") (depth : Nat) : "" ∈ source.level depth := by
  induction depth with
  | zero => exact List.mem_cons_self
  | succ depth ih => exact List.mem_flatMap.mpr ⟨"", ih, itself⟩

/-- Behind the root comes what the directories of the levels list. -/
theorem levels_succ_eq_cons (source : Source) (depth : Nat) :
    source.levels (depth + 1) = "" :: (source.levels depth).flatMap source.below := by
  induction depth with
  | zero => rfl
  | succ depth ih =>
      calc source.levels (depth + 2)
          = source.levels (depth + 1) ++ (source.level depth).flatMap source.below := source.levels_succ _
        _ = "" :: ((source.levels depth).flatMap source.below ++ (source.level depth).flatMap source.below) := by
            rw [ih, List.cons_append]
        _ = "" :: (source.levels (depth + 1)).flatMap source.below := by
            rw [levels_succ, List.flatMap_append]

section Finite

variable (finite : source.level depth = [])

include finite

/-- Below the last level there is nothing more. -/
theorem levels_eq_cons : source.levels depth = "" :: (source.levels depth).flatMap source.below := by
  have next := source.levels_succ_eq_cons depth
  rwa [levels_succ, finite, List.append_nil] at next

theorem beneath_levels (above : Nat) : source.beneath (source.levels above) depth = [] := by
  induction above with
  | zero => exact source.beneath_nil depth
  | succ above ih =>
      have deeper : source.beneath (source.level above) depth = [] := by
        rw [level, beneath_beneath, Nat.add_comm, ← beneath_beneath, ← level, finite, beneath_nil]
      rw [levels_succ, beneath_append, ih, deeper, List.append_nil]

/-- Directories at the end of the levels that list but themselves are none. -/
theorem eq_nil_of_fixed {before rest : List String} (split : before ++ rest = source.levels depth)
    (fixed : rest.flatMap source.below = rest) : rest = [] := by
  have nothing := beneath_levels finite depth
  rw [← split, beneath_append] at nothing
  have kept := beneath_of_fixed (List.Perm.of_eq fixed) depth
  rwa [(List.append_eq_nil_iff.mp nothing).2, List.nil_perm] at kept

/-- What is reached belongs to the levels. -/
theorem mem_levels_of_reaches {path : String} (reached : source.Reaches path) : path ∈ source.levels depth := by
  rw [levels_eq_cons finite]
  induction reached with
  | root => exact List.mem_cons_self
  | descend _ listed ih =>
      rw [← levels_eq_cons finite] at ih
      exact List.mem_cons_of_mem _ (List.mem_flatMap.mpr ⟨_, ih, listed⟩)

end Finite

/-- The levels of a tree hold its directories, each once at most. -/
theorem levels_of_tree (tree : Tree source) (depth : Nat) :
    (source.levels depth).Nodup ∧ ∀ path ∈ source.levels depth, path ∈ tree.directories := by
  induction depth with
  | zero => exact ⟨List.nodup_nil, fun path present => absurd present List.not_mem_nil⟩
  | succ depth ih =>
      obtain ⟨distinct, within⟩ := ih
      rw [levels_succ_eq_cons]
      refine ⟨?_, fun path present => ?_⟩
      · obtain ⟨same, permuted, part⟩ := List.subperm_of_subset distinct within
        have once := tree.directories_listed_once.sublist ((part.flatMap source.below).cons_cons "")
        exact (((permuted.flatMap_right source.below).cons "").nodup_iff).mp once
      · rcases List.mem_cons.mp present with rfl | below
        · exact tree.root_mem
        · obtain ⟨parent, listed, below⟩ := List.mem_flatMap.mp below
          exact tree.mem_of_mem_below (within parent listed) below

/-- Levels that hold no more than so many directories in all come to an empty one. -/
theorem exists_level_eq_nil_of_bounded {bound : Nat} (bounded : ∀ depth, (source.levels depth).length ≤ bound) :
    ∃ depth, source.level depth = [] := by
  by_contra endless
  rw [not_exists] at endless
  have grows (depth : Nat) : depth ≤ (source.levels depth).length := by
    induction depth with
    | zero => exact Nat.zero_le _
    | succ depth ih =>
        have more := List.length_pos_iff.mpr (endless depth)
        rw [levels_succ, List.length_append]
        omega
  exact Nat.not_succ_le_self bound (Nat.le_trans (grows (bound + 1)) (bounded (bound + 1)))

/-- A tree has an empty level. -/
theorem exists_level_eq_nil (tree : Tree source) : ∃ depth, source.level depth = [] := by
  have bounded (depth : Nat) : (source.levels depth).length ≤ tree.directories.length := by
    obtain ⟨distinct, within⟩ := levels_of_tree tree depth
    exact (List.subperm_of_subset distinct within).length_le
  exact exists_level_eq_nil_of_bounded bounded

/-! ## Directories that list each other -/

section Closed

variable {directories : List String} (closed : directories.Perm ("" :: directories.flatMap source.below))

include closed

/-- Directories that are the root and what they list hold the levels. -/
theorem levels_subperm (depth : Nat) : (source.levels depth).Subperm directories := by
  induction depth with
  | zero => exact List.nil_subperm
  | succ depth ih =>
      obtain ⟨part, same, within⟩ := ih
      rw [levels_succ_eq_cons]
      have listed : ("" :: part.flatMap source.below).Subperm ("" :: directories.flatMap source.below) :=
        ((within.flatMap source.below).cons_cons "").subperm
      exact (((same.symm.flatMap_right source.below).cons "").subperm.trans listed).trans closed.symm.subperm

/-- So they come to an empty level. -/
theorem exists_level_eq_nil_of_closed : ∃ depth, source.level depth = [] :=
  exists_level_eq_nil_of_bounded fun depth => (levels_subperm closed depth).length_le

/-- If they are reached as well, they are the directories of the levels. -/
theorem perm_levels_of_closed (reached : ∀ directory ∈ directories, source.Reaches directory)
    (finite : source.level depth = []) : directories.Perm (source.levels depth) := by
  obtain ⟨part, same, within⟩ := levels_subperm closed depth
  obtain ⟨rest, split⟩ := within.exists_perm_append
  have whole : directories.Perm (source.levels depth ++ rest) := split.trans (same.append_right rest)
  -- what is left beside the levels lists but itself, and has nothing beneath it
  have fixed : (rest.flatMap source.below).Perm rest := by
    have listed : (source.levels depth ++ rest.flatMap source.below).Perm (source.levels depth ++ rest) := by
      calc source.levels depth ++ rest.flatMap source.below
          |>.Perm ("" :: (source.levels depth ++ rest).flatMap source.below) := by
            rw [List.flatMap_append, ← List.cons_append, ← levels_eq_cons finite]
        _ |>.Perm ("" :: directories.flatMap source.below) := (whole.symm.flatMap_right source.below).cons ""
        _ |>.Perm directories := closed.symm
        _ |>.Perm (source.levels depth ++ rest) := whole
    exact (List.perm_append_left_iff _).mp listed
  have nothing : source.beneath rest depth = [] := by
    refine List.subset_nil.mp ?_
    rw [← beneath_levels finite depth]
    refine beneath_subset (fun directory left => ?_) depth
    exact mem_levels_of_reaches finite (reached directory (whole.mem_iff.mpr (List.mem_append_right _ left)))
  have none : rest = [] := by
    have kept := beneath_of_fixed fixed depth
    rwa [nothing, List.nil_perm] at kept
  rwa [none, List.append_nil] at whole

end Closed

/-! ## Batches in order -/

/-- Directories that make batches come before the first that makes none. -/
theorem read_append {batches : List Batch} {directories : List String}
    (made : batches.map .ok = directories.map source.batch?) (rest : List String) :
    source.read (directories ++ rest) = (batches ++ (source.read rest).1, (source.read rest).2) := by
  induction directories generalizing batches with
  | nil =>
      cases List.map_eq_nil_iff.mp made
      rfl
  | cons directory others ih =>
      cases batches with
      | nil => cases made
      | cons batch more =>
          rw [List.map_cons, List.map_cons, List.cons.injEq] at made
          rw [List.cons_append, read, ← made.1]
          simp only [ih made.2, List.cons_append]

end Courier.Discovery.Source
