import Courier.FileSystem.Memory
import Mathlib.Data.List.Basic

/-!
# Where a path stands

The last slash of a path tells the directory that it stands in and its name there; without
one it is a name in the root. Joining a directory and a name is the way back from that,
unless the only slash comes first: such a path is located like its name without the slash.
-/

namespace Courier.MemoryTree

variable {path parent name directory other : String}

/-! ## Splitting -/

theorem splitLast_eq_none_iff {path : List Char} : splitLast path = none ↔ '/' ∉ path := by
  induction path with
  | nil => simp [splitLast]
  | cons char rest ih =>
      rw [splitLast]
      cases inner : splitLast rest with
      | some split =>
          have within : '/' ∈ rest := by
            by_contra without
            cases inner.symm.trans (ih.mpr without)
          simp [within]
      | none =>
          by_cases slash : char = '/'
          · simp [slash]
          · simp [slash, Ne.symm slash, ih.mp inner]

theorem splitLast_append {parent name : List Char} (plain : '/' ∉ name) :
    splitLast (parent ++ '/' :: name) = some (parent, name) := by
  induction parent with
  | nil => rw [List.nil_append, splitLast, splitLast_eq_none_iff.mpr plain, if_pos rfl]
  | cons char rest ih => rw [List.cons_append, splitLast, ih]

/-- What stands before and after the last slash, for a path that has one. -/
theorem exists_splitLast {path : List Char} (slash : '/' ∈ path) :
    ∃ parent name, '/' ∉ name ∧ path = parent ++ '/' :: name := by
  induction path with
  | nil => exact absurd slash List.not_mem_nil
  | cons char rest ih =>
      by_cases later : '/' ∈ rest
      · obtain ⟨parent, name, plain, rfl⟩ := ih later
        exact ⟨char :: parent, name, plain, rfl⟩
      · rcases List.mem_cons.mp slash with rfl | within
        · exact ⟨[], rest, later, rfl⟩
        · exact absurd within later

/-! ## Locating -/

/-- The directory that a path stands in, and its name there. -/
def locate (path : String) : String × String :=
  match splitLast path.toList with
  | none => ("", path)
  | some (parent, name) => (String.ofList parent, String.ofList name)

theorem locate_of_plain (plain : '/' ∉ name.toList) : locate name = ("", name) := by
  rw [locate, splitLast_eq_none_iff.mpr plain]

theorem locate_append (parent : String) (plain : '/' ∉ name.toList) :
    locate (parent ++ "/" ++ name) = (parent, name) := by
  have chars : (parent ++ "/" ++ name).toList = parent.toList ++ '/' :: name.toList := by simp
  rw [locate, chars, splitLast_append plain]
  simp

/-- A path either is a name in the root or joins a directory and a name. -/
theorem locate_cases (path : String) :
    '/' ∉ path.toList ∧ locate path = ("", path) ∨
      ∃ parent name, '/' ∉ name.toList ∧ path = parent ++ "/" ++ name ∧ locate path = (parent, name) := by
  by_cases slash : '/' ∈ path.toList
  · obtain ⟨parent, name, plain, split⟩ := exists_splitLast slash
    have plain : '/' ∉ (String.ofList name).toList := by simpa using plain
    have joined : path = String.ofList parent ++ "/" ++ String.ofList name := by
      rw [← String.toList_inj, split]
      simp
    exact .inr ⟨String.ofList parent, String.ofList name, plain, joined, joined ▸ locate_append _ plain⟩
  · exact .inl ⟨slash, locate_of_plain slash⟩

/-- Names have no slashes. -/
theorem slash_not_mem_locate (path : String) : '/' ∉ (locate path).2.toList := by
  rcases locate_cases path with ⟨plain, located⟩ | ⟨parent, name, plain, _, located⟩ <;> rw [located] <;> exact plain

theorem length_append_slash (parent name : String) :
    (parent ++ "/" ++ name).length = parent.length + name.length + 1 := by
  have slash : "/".length = 1 := rfl
  rw [String.length_append, String.length_append, slash, Nat.add_right_comm]

theorem length_locate_lt (nested : (locate path).1 ≠ "") : (locate path).1.length < path.length := by
  rcases locate_cases path with ⟨_, located⟩ | ⟨parent, name, _, joined, located⟩
  · rw [located] at nested
    exact absurd rfl nested
  · rw [located, joined, length_append_slash]
    exact Nat.lt_succ_of_le (Nat.le_add_right _ _)

/-! ## Joining -/

theorem joinPath_root (name : String) : joinPath "" name = name := rfl

theorem joinPath_of_ne (nested : directory ≠ "") (name : String) :
    joinPath directory name = directory ++ "/" ++ name := by
  simp [joinPath, nested]

/-- Locating undoes joining. -/
theorem locate_joinPath (directory : String) (plain : '/' ∉ name.toList) :
    locate (joinPath directory name) = (directory, name) := by
  by_cases root : directory = ""
  · subst root
    exact locate_of_plain plain
  · rw [joinPath_of_ne root]
    exact locate_append directory plain

/-- What is joined is longer than the directory, but for the empty name in the root. -/
theorem length_lt_joinPath (directory name : String) :
    directory.length < (joinPath directory name).length ∨ directory = "" ∧ name = "" := by
  by_cases root : directory = ""
  · subst root
    by_cases empty : name = ""
    · exact .inr ⟨rfl, empty⟩
    · exact .inl (by simpa [joinPath_root, Nat.pos_iff_ne_zero] using empty)
  · rw [joinPath_of_ne root, length_append_slash]
    exact .inl (Nat.lt_succ_of_le (Nat.le_add_right _ _))

/-! ## What stands above a path -/

/-- Whether a directory is what stands before some slash of a path. -/
def IsAbove (directory path : String) : Prop := ∃ rest, path = directory ++ "/" ++ rest

theorem not_isAbove_root (directory : String) : ¬ IsAbove directory "" := by
  rintro ⟨rest, empty⟩
  have length := congrArg String.length empty
  rw [length_append_slash] at length
  cases length

theorem length_lt_of_isAbove (above : IsAbove directory path) : directory.length < path.length := by
  obtain ⟨rest, rfl⟩ := above
  rw [length_append_slash]
  exact Nat.lt_succ_of_le (Nat.le_add_right _ _)

/-- Above a path stands the directory that it is located in, and what stands above that. -/
theorem isAbove_iff (nested : directory ≠ "") :
    IsAbove directory path ↔ directory = (locate path).1 ∨ IsAbove directory (locate path).1 := by
  constructor
  · rintro ⟨rest, rfl⟩
    rcases locate_cases rest with ⟨plain, _⟩ | ⟨parent, name, plain, rfl, _⟩
    · exact .inl (congrArg Prod.fst (locate_append directory plain)).symm
    · have joined : directory ++ "/" ++ (parent ++ "/" ++ name) = directory ++ "/" ++ parent ++ "/" ++ name := by
        simp only [String.append_assoc]
      rw [joined, locate_append _ plain]
      exact .inr ⟨parent, rfl⟩
  · intro above
    rcases locate_cases path with ⟨_, located⟩ | ⟨parent, name, _, rfl, located⟩
    · rw [located] at above
      exact above.elim (fun root => absurd root nested) fun never => absurd never (not_isAbove_root directory)
    · rw [located] at above
      rcases above with rfl | ⟨rest, rfl⟩
      · exact ⟨name, rfl⟩
      · exact ⟨rest ++ "/" ++ name, by simp only [String.append_assoc]⟩

end Courier.MemoryTree
