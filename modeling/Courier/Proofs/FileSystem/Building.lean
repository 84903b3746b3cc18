import Courier.Proofs.FileSystem.Path
import Courier.Proofs.Keyed
import Mathlib.Data.List.Induction

/-!
# What a tree in memory is built of

Adding a path climbs up from it and stops at the first directory that is known. Nothing is
missed that way, since every directory that is known stands as a name in the one above it,
which is known as well. So a tree knows the directories that were added and those above an
added path, and the names in them are those of all these paths, whatever the order.
-/

namespace Courier.MemoryTree

/-- How a tree is built up. -/
inductive Operation where
  | addDirectory (path : String)
  | addFile (file : File)
  | failOn (path : String)
  deriving DecidableEq

def apply (tree : MemoryTree) : Operation → MemoryTree
  | .addDirectory path => tree.addDirectory path
  | .addFile file => tree.addFile file
  | .failOn path => tree.failOn path

def build (root : String) (operations : List Operation) : MemoryTree := operations.foldl apply (empty root)

namespace Operation

/-- The path that an operation adds. The empty one of a directory is the root, which is not added. -/
def added? : Operation → Option String
  | addDirectory path => if path.isEmpty then none else some path
  | addFile file => some file.path
  | failOn _ => none

/-- The file that an operation adds under a path. -/
def fileAt? (path : String) : Operation → Option File
  | addFile file => if file.path = path then some file else none
  | _ => none

end Operation

variable {operations : List Operation} {operation : Operation} {directories : Keyed (Keyed Unit)} {tree : MemoryTree}
  {path directory name : String}

/-! ## What operations add -/

/-- The directories there are after some operations: the root, those that were added, and those above what was
added. -/
inductive IsDirectory (operations : List Operation) : String → Prop where
  | root : IsDirectory operations ""
  | added {path : String} (among : .addDirectory path ∈ operations) : IsDirectory operations path
  | above {directory path : String} {operation : Operation} (among : operation ∈ operations)
      (adds : operation.added? = some path) (above : IsAbove directory path) : IsDirectory operations directory

/-- Whether a file was added under a path. -/
def IsFile (operations : List Operation) (path : String) : Prop :=
  ∃ file, .addFile file ∈ operations ∧ file.path = path

/-- Whether something stands at a path: a file, or a directory other than the root. -/
def IsPresent (operations : List Operation) (path : String) : Prop :=
  IsFile operations path ∨ path ≠ "" ∧ IsDirectory operations path

/-- The file that was added last under a path. -/
def lastFile? (operations : List Operation) (path : String) : Option File :=
  operations.reverse.findSome? (Operation.fileAt? path)

theorem isDirectory_iff : IsDirectory operations directory ↔
    directory = "" ∨ .addDirectory directory ∈ operations ∨
      ∃ operation ∈ operations, ∃ path, operation.added? = some path ∧ IsAbove directory path := by
  constructor
  · intro known
    cases known with
    | root => exact .inl rfl
    | added among => exact .inr (.inl among)
    | above among adds above => exact .inr (.inr ⟨_, among, _, adds, above⟩)
  · rintro (rfl | among | ⟨operation, among, path, adds, above⟩)
    · exact .root
    · exact .added among
    · exact .above among adds above

theorem isDirectory_append_singleton :
    IsDirectory (operations ++ [operation]) directory ↔
      IsDirectory operations directory ∨ operation = .addDirectory directory ∨
        ∃ path, operation.added? = some path ∧ IsAbove directory path := by
  simp only [isDirectory_iff, List.mem_append, List.mem_singleton, or_and_right, exists_or, exists_eq_left,
    or_assoc, or_left_comm, eq_comm (a := operation)]

theorem isFile_append_singleton :
    IsFile (operations ++ [operation]) path ↔
      IsFile operations path ∨ ∃ file, operation = .addFile file ∧ file.path = path := by
  simp only [IsFile, List.mem_append, List.mem_singleton, or_and_right, exists_or, eq_comm (a := operation)]

/-- An operation that adds a path makes it present, and the directories above it. -/
theorem isPresent_of_added {added : String} (adds : operation.added? = some added) :
    IsPresent (operations ++ [operation]) path ↔
      IsPresent operations path ∨ path = added ∨ path ≠ "" ∧ IsAbove path added := by
  rw [IsPresent, IsPresent, isFile_append_singleton, isDirectory_append_singleton]
  simp only [adds, Option.some.injEq, exists_eq_left']
  cases operation with
  | addDirectory other =>
      obtain ⟨nested, rfl⟩ : other ≠ "" ∧ other = added := by simpa [Operation.added?] using adds
      by_cases here : path = other
      · simp [here, nested]
      · simp [here, Ne.symm here, and_or_left, or_assoc]
  | addFile file =>
      cases adds
      by_cases here : path = file.path
      · simp [here]
      · simp [here, Ne.symm here, and_or_left, or_assoc]
  | failOn other => cases adds

/-- An operation that adds nothing makes no directory. -/
theorem isDirectory_of_idle (idle : operation.added? = none) :
    IsDirectory (operations ++ [operation]) directory ↔ IsDirectory operations directory := by
  rw [isDirectory_append_singleton]
  simp only [idle, reduceCtorEq, false_and, exists_false, or_false]
  refine or_iff_left_of_imp ?_
  rintro rfl
  have root : directory = "" := by simpa [Operation.added?] using idle
  exact root ▸ .root

/-- Nor anything else present. -/
theorem isPresent_of_idle (idle : operation.added? = none) :
    IsPresent (operations ++ [operation]) path ↔ IsPresent operations path := by
  rw [IsPresent, IsPresent, isFile_append_singleton, isDirectory_of_idle idle]
  refine or_congr_left (or_iff_left_of_imp ?_)
  rintro ⟨file, rfl, _⟩
  cases idle

theorem lastFile?_append_singleton (operations : List Operation) (operation : Operation) (path : String) :
    lastFile? (operations ++ [operation]) path = (operation.fileAt? path).or (lastFile? operations path) := by
  rw [lastFile?, List.reverse_append, List.reverse_singleton, List.singleton_append, List.findSome?_cons]
  cases operation.fileAt? path <;> rfl

/-! ## Names in directories -/

/-- Whether a directory has a name in it. -/
def Holds (directories : Keyed (Keyed Unit)) (directory name : String) : Prop :=
  ∃ names, directories.find? directory = some names ∧ names.contains name = true

theorem Holds.known (holds : Holds directories directory name) : directories.contains directory = true := by
  obtain ⟨names, found, _⟩ := holds
  exact Keyed.find?_isSome_iff.mp ⟨names, found⟩

/-- Whether the directories and the names in each are in order. -/
structure IsTidy (directories : Keyed (Keyed Unit)) : Prop where
  ordered : directories.IsOrdered
  names : ∀ directory names, directories.find? directory = some names → names.IsOrdered

section AddName

variable {parent : String}

theorem contains_addName :
    (addName directories parent name).contains directory = true ↔
      directory = parent ∨ directories.contains directory = true := Keyed.contains_insert_iff

theorem find?_addName (directories : Keyed (Keyed Unit)) (parent name directory : String) :
    (addName directories parent name).find? directory =
      if parent = directory then some (((directories.find? parent).getD []).insert name ())
      else directories.find? directory := Keyed.find?_insert _ _ _ _

theorem holds_addName {other : String} :
    Holds (addName directories parent name) directory other ↔
      (parent, name) = (directory, other) ∨ Holds directories directory other := by
  rw [Holds, find?_addName, Prod.mk.injEq]
  by_cases here : parent = directory
  · subst here
    simp only [if_true, Option.some.injEq, exists_eq_left', Keyed.contains_insert_iff, true_and, Holds,
      eq_comm (a := name)]
    cases directories.find? parent <;> simp [Keyed.contains, Keyed.find?]
  · simp [here, Holds]

theorem IsTidy.addName (tidy : IsTidy directories) (parent name : String) :
    IsTidy (addName directories parent name) where
  ordered := tidy.ordered.insert parent _
  names directory names found := by
    rw [find?_addName] at found
    split at found
    · cases found
      refine Keyed.IsOrdered.insert ?_ name ()
      cases before : directories.find? parent with
      | none => exact .nil
      | some names => exact tidy.names parent names before
    · exact tidy.names directory names found

end AddName

/-- The directories with one more that has no names, unless it is known. -/
theorem known_insert (directories : Keyed (Keyed Unit)) (path : String) {known : Keyed (Keyed Unit)}
    (made : known = if directories.contains path then directories else directories.insert path []) :
    (∀ directory, known.contains directory = true ↔ directory = path ∨ directories.contains directory = true) ∧
      (∀ directory name, Holds known directory name ↔ Holds directories directory name) ∧
      (IsTidy directories → IsTidy known) := by
  split at made
  · rename_i there
    subst made
    refine ⟨fun directory => (or_iff_right_of_imp ?_).symm, fun _ _ => Iff.rfl, id⟩
    rintro rfl
    exact there
  · rename_i new
    subst made
    refine ⟨fun _ => Keyed.contains_insert_iff, fun directory name => ?_, fun tidy => ⟨tidy.ordered.insert _ _, ?_⟩⟩
    · rw [Holds, Keyed.find?_insert]
      split
      · rename_i here
        subst here
        refine iff_of_false ?_ fun holds => new holds.known
        rintro ⟨names, same, there⟩
        cases same
        cases there
      · rfl
    · intro directory names found
      rw [Keyed.find?_insert] at found
      split at found
      · cases found
        exact .nil
      · exact tidy.names directory names found

/-! ## Climbing -/

/-- Every directory that is known stands as a name in the one above it, except one that has yet to be added there. -/
structure IsLinked (directories : Keyed (Keyed Unit)) (missing : String) : Prop where
  root : directories.contains "" = true
  linked : ∀ directory, directory ≠ "" → directory ≠ missing → directories.contains directory = true →
    Holds directories (locate directory).1 (locate directory).2

/-- What stands above a known directory is known. -/
theorem IsLinked.known_of_isAbove {missing below : String} (linked : IsLinked directories missing)
    (known : directories.contains below = true) (shorter : below.length < missing.length)
    (above : IsAbove directory below) : directories.contains directory = true := by
  by_cases root : directory = ""
  · exact root ▸ linked.root
  · have nested : below ≠ "" := by
      rintro rfl
      exact not_isAbove_root directory above
    have other : below ≠ missing := by
      rintro rfl
      exact Nat.lt_irrefl _ shorter
    have parent := (linked.linked below nested other known).known
    rcases (isAbove_iff root).mp above with rfl | higher
    · exact parent
    · have inner : (locate below).1 ≠ "" := by
        intro empty
        rw [empty] at higher
        exact not_isAbove_root directory higher
      have less := length_locate_lt inner
      exact linked.known_of_isAbove parent (Nat.lt_trans less shorter) higher
termination_by below.length

theorem addUpwards_eq (directories : Keyed (Keyed Unit)) (path : String) :
    addUpwards directories path.toList =
      if directories.contains (locate path).1 || (locate path).1.isEmpty then
        addName directories (locate path).1 (locate path).2
      else addUpwards (addName directories (locate path).1 (locate path).2) (locate path).1.toList := by
  rw [addUpwards]
  split
  · rename_i found
    have located : locate path = ("", path) := by rw [locate, found]
    simp [located]
  · rename_i parent name found
    have located : locate path = (String.ofList parent, String.ofList name) := by rw [locate, found]
    simp [located]

/-- What climbing up from a path leaves: the path and the directories above it are known and stand as names. -/
structure Climbed (directories : Keyed (Keyed Unit)) (path : String) (after : Keyed (Keyed Unit)) : Prop where
  known : ∀ directory, after.contains directory = true ↔
    directories.contains directory = true ∨ IsAbove directory path
  holds : ∀ directory name, Holds after directory name ↔ Holds directories directory name ∨
    ∃ added, (added = path ∨ added ≠ "" ∧ IsAbove added path) ∧ locate added = (directory, name)
  tidy : IsTidy directories → IsTidy after

/-- Where the directory above a path is known, the climb ends with the name in it. -/
theorem climbed_addName (linked : IsLinked directories path)
    (parent : directories.contains (locate path).1 = true) :
    Climbed directories path (addName directories (locate path).1 (locate path).2) := by
  have higher {above : String} (nested : above ≠ "") (stands : IsAbove above path) :
      directories.contains above = true ∧ above.length < path.length := by
    rcases (isAbove_iff nested).mp stands with rfl | higher
    · exact ⟨parent, length_locate_lt nested⟩
    · have inner : (locate path).1 ≠ "" := by
        intro empty
        rw [empty] at higher
        exact not_isAbove_root above higher
      have less := length_locate_lt inner
      exact ⟨linked.known_of_isAbove parent less higher, Nat.lt_trans (length_lt_of_isAbove higher) less⟩
  refine ⟨fun directory => ?_, fun directory name => ?_, fun tidy => tidy.addName _ _⟩
  · rw [contains_addName]
    constructor
    · rintro (rfl | known)
      · exact .inl parent
      · exact .inl known
    · rintro (known | above)
      · exact .inr known
      · by_cases root : directory = ""
        · exact .inr (root ▸ linked.root)
        · exact .inr (higher root above).1
  · rw [holds_addName]
    constructor
    · rintro (here | before)
      · exact .inr ⟨path, .inl rfl, here⟩
      · exact .inl before
    · rintro (before | ⟨added, rfl | ⟨nested, above⟩, located⟩)
      · exact .inr before
      · exact .inl located
      · -- what stands above the path was added before
        obtain ⟨known, shorter⟩ := higher nested above
        have other : added ≠ path := by
          rintro rfl
          exact Nat.lt_irrefl _ shorter
        have holds := linked.linked added nested other known
        rw [located] at holds
        exact .inr holds

/-- With the name in the directory above, the climb goes on from there. -/
theorem IsLinked.addName (linked : IsLinked directories path) :
    IsLinked (addName directories (locate path).1 (locate path).2) (locate path).1 where
  root := contains_addName.mpr (.inr linked.root)
  linked directory nested other known := by
    rw [holds_addName]
    by_cases here : directory = path
    · exact .inl (here ▸ rfl)
    · exact .inr (linked.linked directory nested here ((contains_addName.mp known).resolve_left other))

/-- A climb from the directory above a path completes one from the path. -/
theorem Climbed.step {after : Keyed (Keyed Unit)} (linked : IsLinked directories path)
    (nested : (locate path).1 ≠ "")
    (climbed : Climbed (addName directories (locate path).1 (locate path).2) (locate path).1 after) :
    Climbed directories path after := by
  refine ⟨fun directory => ?_, fun directory name => ?_, fun tidy => climbed.tidy (tidy.addName _ _)⟩
  · rw [climbed.known, contains_addName]
    by_cases root : directory = ""
    · simp [root, linked.root]
    · have higher : IsAbove directory path ↔ _ := isAbove_iff root
      rw [higher, or_assoc]
      exact or_left_comm
  · rw [climbed.holds, holds_addName]
    constructor
    · rintro ((here | before) | ⟨added, rfl | ⟨other, above⟩, located⟩)
      · exact .inr ⟨path, .inl rfl, here⟩
      · exact .inl before
      · exact .inr ⟨_, .inr ⟨nested, (isAbove_iff nested).mpr (.inl rfl)⟩, located⟩
      · exact .inr ⟨added, .inr ⟨other, (isAbove_iff other).mpr (.inr above)⟩, located⟩
    · rintro (before | ⟨added, rfl | ⟨other, above⟩, located⟩)
      · exact .inl (.inr before)
      · exact .inl (.inl located)
      · exact .inr ⟨added, ((isAbove_iff other).mp above).imp_right fun higher => ⟨other, higher⟩, located⟩

theorem climbed_addUpwards {directories : Keyed (Keyed Unit)} {path : String} (linked : IsLinked directories path) :
    Climbed directories path (addUpwards directories path.toList) := by
  rw [addUpwards_eq]
  split
  · rename_i stops
    refine climbed_addName linked ?_
    rcases Bool.or_eq_true_iff.mp stops with known | empty
    · exact known
    · rw [String.isEmpty_iff.mp empty]
      exact linked.root
  · rename_i climbs
    have nested : (locate path).1 ≠ "" := by
      intro empty
      simp [empty] at climbs
    have shorter := length_locate_lt nested
    exact (climbed_addUpwards linked.addName).step linked nested
termination_by path.length

/-! ## What operations leave -/

/-- A tree shows what some operations added, each file as it was added last. -/
structure Shows (operations : List Operation) (tree : MemoryTree) : Prop where
  known : ∀ directory, tree.directories.contains directory = true ↔ IsDirectory operations directory
  holds : ∀ directory name, Holds tree.directories directory name ↔
    ∃ path, IsPresent operations path ∧ locate path = (directory, name)
  tidy : IsTidy tree.directories
  files : ∀ path, tree.files.find? path = lastFile? operations path
  ordered : tree.files.IsOrdered
  failing : ∀ path, path ∈ tree.failing ↔ .failOn path ∈ operations

namespace Shows

theorem isLinked (shows : Shows operations tree) (missing : String) : IsLinked tree.directories missing where
  root := (shows.known "").mpr .root
  linked directory nested _ known :=
    (shows.holds _ _).mpr ⟨directory, .inr ⟨nested, (shows.known directory).mp known⟩, rfl⟩

theorem empty (root : String) : Shows [] (empty root) where
  known directory := by
    have only : IsDirectory [] directory ↔ directory = "" :=
      ⟨fun known => by cases known <;> first | rfl | contradiction, fun root => root ▸ .root⟩
    rw [only]
    refine Keyed.contains_iff.trans ?_
    simp [MemoryTree.empty]
  holds directory name := by
    refine iff_of_false ?_ ?_
    · rintro ⟨names, found, there⟩
      rw [MemoryTree.empty, Keyed.find?_cons] at found
      split at found <;> cases found
      cases there
    · rintro ⟨path, (⟨file, never, _⟩ | ⟨nested, known⟩), _⟩
      · cases never
      · cases known with
        | root => exact nested rfl
        | added never => cases never
        | above never => cases never
  tidy :=
    { ordered := List.pairwise_singleton _ _
      names := fun directory names found => by
        rw [MemoryTree.empty, Keyed.find?_cons] at found
        split at found <;> cases found
        exact .nil }
  files path := rfl
  ordered := .nil
  failing path := by simp [MemoryTree.empty]

/-- An operation that adds nothing leaves what there was. -/
theorem of_idle (shows : Shows operations tree) (idle : operation.added? = none) {after : MemoryTree}
    (directories : after.directories = tree.directories) (files : after.files = tree.files)
    (failing : ∀ path, path ∈ after.failing ↔ path ∈ tree.failing ∨ operation = .failOn path) :
    Shows (operations ++ [operation]) after where
  known directory := by
    rw [directories, shows.known]
    exact (isDirectory_of_idle idle).symm
  holds directory name := by
    rw [directories, shows.holds]
    simp only [isPresent_of_idle idle]
  tidy := directories ▸ shows.tidy
  files path := by
    have nothing : operation.fileAt? path = none := by cases operation <;> first | rfl | cases idle
    rw [files, shows.files, lastFile?_append_singleton, nothing, Option.none_or]
  ordered := files ▸ shows.ordered
  failing path := by rw [failing, shows.failing, List.mem_append, List.mem_singleton, eq_comm (a := operation)]

/-- The names after a climb from what an operation adds are those of what is present then. -/
theorem holds_of_climbed (shows : Shows operations tree) {added : String} (adds : operation.added? = some added)
    {known after : Keyed (Keyed Unit)} (climbed : Climbed known added after)
    (same : ∀ directory name, Holds known directory name ↔ Holds tree.directories directory name)
    (directory name : String) :
    Holds after directory name ↔
      ∃ path, IsPresent (operations ++ [operation]) path ∧ locate path = (directory, name) := by
  rw [climbed.holds, same, shows.holds]
  simp only [isPresent_of_added adds, or_and_right, exists_or]

theorem addDirectory (shows : Shows operations tree) (path : String) :
    Shows (operations ++ [.addDirectory path]) (tree.addDirectory path) := by
  rw [MemoryTree.addDirectory]
  split
  · rename_i root
    have idle : (Operation.addDirectory path).added? = none := if_pos root
    exact shows.of_idle idle rfl rfl fun other => by simp
  · rename_i nested
    have adds : (Operation.addDirectory path).added? = some path := if_neg nested
    generalize made : (if tree.directories.contains path then tree.directories else tree.directories.insert path []) =
      known
    obtain ⟨contains, holds, tidy⟩ := known_insert tree.directories path made.symm
    have before := shows.isLinked path
    have linked : IsLinked known path :=
      ⟨(contains "").mpr (.inr before.root), fun directory nested other there =>
        (holds _ _).mpr (before.linked directory nested other (((contains directory).mp there).resolve_left other))⟩
    have climbed := climbed_addUpwards linked
    refine ⟨fun directory => ?_, shows.holds_of_climbed adds climbed holds, climbed.tidy (tidy shows.tidy),
      fun other => ?_, shows.ordered, fun other => ?_⟩
    · refine (climbed.known directory).trans ?_
      rw [contains, shows.known, isDirectory_append_singleton, adds]
      simp only [Option.some.injEq, exists_eq_left, Operation.addDirectory.injEq, or_assoc, or_left_comm,
        eq_comm (a := path)]
    · rw [lastFile?_append_singleton]
      exact shows.files other
    · simp [shows.failing]

theorem addFile (shows : Shows operations tree) (file : File) :
    Shows (operations ++ [.addFile file]) (tree.addFile file) := by
  have climbed := climbed_addUpwards (shows.isLinked file.path)
  refine ⟨fun directory => ?_, shows.holds_of_climbed rfl climbed fun _ _ => Iff.rfl, climbed.tidy shows.tidy,
    fun path => ?_, shows.ordered.insert _ _, fun path => ?_⟩
  · rw [isDirectory_append_singleton, ← shows.known]
    refine (climbed.known directory).trans ?_
    simp [Operation.added?]
  · rw [lastFile?_append_singleton, ← shows.files]
    refine (Keyed.find?_insert _ _ _ _).trans ?_
    simp only [Operation.fileAt?]
    split <;> rfl
  · simp [MemoryTree.addFile, shows.failing]

theorem failOn (shows : Shows operations tree) (path : String) :
    Shows (operations ++ [.failOn path]) (tree.failOn path) := by
  refine shows.of_idle rfl rfl rfl fun other => ?_
  simp [MemoryTree.failOn, or_comm, eq_comm]

end Shows

theorem shows_build (root : String) (operations : List Operation) : Shows operations (build root operations) := by
  induction operations using List.reverseRecOn with
  | nil => exact .empty root
  | append_singleton before operation ih =>
      rw [build, List.foldl_append]
      cases operation with
      | addDirectory path => exact ih.addDirectory path
      | addFile file => exact ih.addFile file
      | failOn path => exact ih.failOn path

end Courier.MemoryTree
