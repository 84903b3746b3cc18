import Courier.Proofs.FileSystem.Listing

/-!
# Trees of ordinary paths

A path that is not empty and does not begin with a slash is what its directory and its name
join to. A tree built of such paths alone lists every one of them where it belongs: the
directories that can be followed from the root are those that were added with those above
what was added, and the files are those that were added and are no directories. Nothing
else of the order of the operations is left in it.
-/

namespace Courier.MemoryTree

open Discovery

variable {operations others : List Operation} {tree : MemoryTree} {path directory name : String}

/-! ## Ordinary paths -/

/-- A path that is not empty and does not begin with a slash. -/
def IsOrdinary (path : String) : Prop := path ≠ "" ∧ path.toList.head? ≠ some '/'

/-- An operation that adds an ordinary path. -/
def Operation.IsPlain : Operation → Prop
  | addDirectory path => IsOrdinary path
  | addFile file => IsOrdinary file.path
  | failOn _ => False

theorem joinPath_of_isOrdinary (ordinary : IsOrdinary path) (located : locate path = (directory, name)) :
    joinPath directory name = path := by
  rcases locate_cases path with ⟨_, here⟩ | ⟨parent, last, _, rfl, here⟩
  · cases here.symm.trans located
    rfl
  · cases here.symm.trans located
    refine joinPath_of_ne ?_ name
    rintro rfl
    exact ordinary.2 (by simp)

/-- What stands above an ordinary path is ordinary, unless it is the root. -/
theorem isOrdinary_of_isAbove (ordinary : IsOrdinary path) (above : IsAbove directory path)
    (nested : directory ≠ "") : IsOrdinary directory := by
  obtain ⟨rest, rfl⟩ := above
  refine ⟨nested, fun slash => ordinary.2 ?_⟩
  rw [String.append_assoc, String.toList_append, List.head?_append, slash]
  rfl

section Plain

variable (plain : ∀ operation ∈ operations, operation.IsPlain)

include plain

theorem isOrdinary_of_added {operation : Operation} (among : operation ∈ operations)
    (adds : operation.added? = some path) : IsOrdinary path := by
  have ordinary := plain operation among
  cases operation with
  | addDirectory other =>
      obtain ⟨_, rfl⟩ : other ≠ "" ∧ other = path := by simpa [Operation.added?] using adds
      exact ordinary
  | addFile file =>
      cases adds
      exact ordinary
  | failOn other => cases adds

theorem isOrdinary_of_isDirectory (known : IsDirectory operations path) (nested : path ≠ "") : IsOrdinary path := by
  cases known with
  | root => exact absurd rfl nested
  | added among => exact plain _ among
  | above among adds above => exact isOrdinary_of_isAbove (isOrdinary_of_added plain among adds) above nested

theorem isOrdinary_of_isPresent (present : IsPresent operations path) : IsOrdinary path := by
  rcases present with ⟨file, among, rfl⟩ | ⟨nested, known⟩
  · exact plain _ among
  · exact isOrdinary_of_isDirectory plain known nested

theorem isListed_iff : IsListed operations directory ↔ IsDirectory operations directory :=
  and_iff_right fun among => plain _ among

/-! ## What is listed -/

/-- The paths in a directory are those that are present and located there. -/
theorem Shows.mem_pathsIn_iff (shows : Shows operations tree) :
    path ∈ tree.pathsIn directory ↔ IsPresent operations path ∧ (locate path).1 = directory := by
  constructor
  · intro listed
    refine ⟨?_, shows.locate_of_mem_pathsIn listed⟩
    obtain ⟨name, among, rfl⟩ := List.mem_map.mp listed
    obtain ⟨path, present, located⟩ := (shows.holds _ _).mp (mem_namesIn.mp among)
    rwa [joinPath_of_isOrdinary (isOrdinary_of_isPresent plain present) located]
  · rintro ⟨present, rfl⟩
    refine List.mem_map.mpr ⟨(locate path).2, mem_namesIn.mpr ((shows.holds _ _).mpr ⟨path, present, rfl⟩), ?_⟩
    exact joinPath_of_isOrdinary (isOrdinary_of_isPresent plain present) rfl

/-- Every directory can be followed from the root. -/
theorem Shows.reaches_of_isDirectory {directory : String} (shows : Shows operations tree)
    (known : IsDirectory operations directory) : tree.source.Reaches directory := by
  by_cases root : directory = ""
  · exact root ▸ .root
  · have present : IsPresent operations directory := .inr ⟨root, known⟩
    have parent : IsDirectory operations (locate directory).1 :=
      (shows.known _).mp ((shows.holds _ _).mpr ⟨directory, present, rfl⟩).known
    have reached : tree.source.Reaches (locate directory).1 := by
      by_cases nested : (locate directory).1 = ""
      · exact nested ▸ .root
      · have shorter := length_locate_lt nested
        exact shows.reaches_of_isDirectory parent
    exact reached.descend
      (shows.mem_below.mpr ⟨(isListed_iff plain).mpr parent, (shows.mem_pathsIn_iff plain).mpr ⟨present, rfl⟩, known⟩)
termination_by directory.length

/-- The listings form a tree of the directories that were added, and of those above what was added. -/
theorem Shows.exists_tree_of_plain (shows : Shows operations tree) :
    ∃ whole : Tree tree.source, ∀ path, path ∈ whole.directories ↔ IsDirectory operations path := by
  have straight : "" ∉ tree.source.below "" := by
    intro itself
    obtain ⟨path, present, root⟩ := exists_isPresent_root_iff.mpr (shows.mem_below_root_iff.mp itself).2
    have ordinary := isOrdinary_of_isPresent plain present
    rcases locate_eq_root_iff.mp root with rfl | rfl
    · exact ordinary.1 rfl
    · exact ordinary.2 (by simp)
  obtain ⟨whole⟩ := shows.exists_tree straight
  refine ⟨whole, fun path => (whole.mem_directories path).trans ?_⟩
  exact ⟨shows.isDirectory_of_reaches, shows.reaches_of_isDirectory plain⟩

/-- The files in the directories are those that were added and are no directories. -/
theorem Shows.exists_mem_filesIn_iff (shows : Shows operations tree) :
    (∃ directory, IsDirectory operations directory ∧ path ∈ tree.source.filesIn directory) ↔
      IsFile operations path ∧ ¬ IsDirectory operations path := by
  simp only [shows.mem_filesIn, shows.mem_pathsIn_iff plain, isListed_iff plain]
  constructor
  · rintro ⟨directory, _, _, ⟨file | ⟨_, known⟩, _⟩, unknown⟩
    · exact ⟨file, unknown⟩
    · exact absurd known unknown
  · rintro ⟨file, unknown⟩
    have present : IsPresent operations path := .inl file
    have parent : IsDirectory operations (locate path).1 :=
      (shows.known _).mp ((shows.holds _ _).mpr ⟨path, present, rfl⟩).known
    exact ⟨_, parent, parent, ⟨present, rfl⟩, unknown⟩

end Plain

/-! ## Files -/

theorem exists_lastFile?_iff : (∃ file, lastFile? operations path = some file) ↔ IsFile operations path := by
  simp only [← Option.isSome_iff_exists, lastFile?, List.findSome?_isSome_iff, List.mem_reverse, IsFile]
  constructor
  · rintro ⟨operation, among, adds⟩
    cases operation with
    | addFile file =>
        refine ⟨file, among, ?_⟩
        by_contra other
        simp [Operation.fileAt?, other] at adds
    | addDirectory other | failOn other => cases adds
  · rintro ⟨file, among, rfl⟩
    exact ⟨_, among, by simp [Operation.fileAt?]⟩

/-! ## Trees of the same paths -/

theorem root_build (root : String) (operations : List Operation) : (build root operations).root = root := by
  have kept (tree : MemoryTree) (operation : Operation) : (tree.apply operation).root = tree.root := by
    cases operation with
    | addDirectory path =>
        rw [apply, addDirectory]
        split <;> rfl
    | addFile file => rfl
    | failOn path => rfl
  have whole (tree : MemoryTree) : (operations.foldl apply tree).root = tree.root := by
    induction operations generalizing tree with
    | nil => rfl
    | cons operation rest ih => exact (ih _).trans (kept tree operation)
  exact whole (empty root)

/-- Two directories have the same table of names if they hold the same names. -/
theorem names_eq {first second : Keyed (Keyed Unit)} (tidy : IsTidy first) (alsoTidy : IsTidy second)
    (known : first.contains directory = true ↔ second.contains directory = true)
    (holds : ∀ name, Holds first directory name ↔ Holds second directory name) :
    first.find? directory = second.find? directory := by
  cases found : first.find? directory with
  | none =>
      cases also : second.find? directory with
      | none => rfl
      | some names => simp [Keyed.contains, found, also] at known
  | some names =>
      cases also : second.find? directory with
      | none => simp [Keyed.contains, found, also] at known
      | some others =>
          have same (name : String) : names.find? name = others.find? name := by
            have both := holds name
            simp only [Holds, found, also, Option.some.injEq, exists_eq_left', Keyed.contains] at both
            cases here : names.find? name <;> cases there : others.find? name <;> simp [here, there] at both ⊢
          rw [(tidy.names _ _ found).eq (alsoTidy.names _ _ also) same]

/-- Operations that leave the same directories and files, and mark nothing, leave the same tree. -/
theorem build_eq_build (root : String)
    (directories : ∀ path, IsDirectory operations path ↔ IsDirectory others path)
    (files : ∀ path, lastFile? operations path = lastFile? others path)
    (sound : ∀ path, .failOn path ∉ operations) (alsoSound : ∀ path, .failOn path ∉ others) :
    build root operations = build root others := by
  have shows := shows_build root operations
  have alsoShows := shows_build root others
  have sameRoot := (root_build root operations).trans (root_build root others).symm
  have unmarked : (build root operations).failing = [] :=
    List.eq_nil_iff_forall_not_mem.mpr fun path marked => sound path ((shows.failing path).mp marked)
  have alsoUnmarked : (build root others).failing = [] :=
    List.eq_nil_iff_forall_not_mem.mpr fun path marked => alsoSound path ((alsoShows.failing path).mp marked)
  have sameFailing := unmarked.trans alsoUnmarked.symm
  generalize build root operations = tree at *
  generalize build root others = other at *
  have present (path : String) : IsPresent operations path ↔ IsPresent others path := by
    rw [IsPresent, IsPresent, directories, ← exists_lastFile?_iff, ← exists_lastFile?_iff, files]
  have sameFiles : tree.files = other.files :=
    shows.ordered.eq alsoShows.ordered fun path => by rw [shows.files, alsoShows.files, files]
  have sameDirectories : tree.directories = other.directories := by
    refine shows.tidy.ordered.eq alsoShows.tidy.ordered fun directory => ?_
    refine names_eq shows.tidy alsoShows.tidy ?_ fun name => ?_
    · rw [shows.known, alsoShows.known, directories]
    · rw [shows.holds, alsoShows.holds]
      simp only [present]
  obtain ⟨_, _, _, _⟩ := tree
  obtain ⟨_, _, _, _⟩ := other
  cases sameRoot
  cases sameFiles
  cases sameDirectories
  cases sameFailing
  rfl

/-- Over all sequences of operations that add ordinary paths: following the directories from the root comes to an
end without finding any twice; they are the root, those that were added, and those above what was added. The other
entries are the files that were added and are no directories, each once, and reading one gives it as it was added
last. A directory lists names in ascending order of their bytes, none of them twice. Two such sequences that leave
the same directories and the same files leave the same tree. -/
theorem shows_what_was_added (root : String) (operations : List Operation)
    (plain : ∀ operation ∈ operations, operation.IsPlain) :
    (∃ depth, (build root operations).source.level depth = [] ∧
      ((build root operations).source.levels depth).Nodup ∧
      (∀ path, path ∈ (build root operations).source.levels depth ↔ IsDirectory operations path) ∧
      (((build root operations).source.levels depth).flatMap (build root operations).source.filesIn).Nodup ∧
      ∀ path, path ∈ ((build root operations).source.levels depth).flatMap (build root operations).source.filesIn ↔
        IsFile operations path ∧ ¬ IsDirectory operations path) ∧
    (∀ path, IsFile operations path → ∃ file, lastFile? operations path = some file ∧
      (build root operations).metadata path = .ok file) ∧
    (∀ directory, IsDirectory operations directory → ∃ (entries : List Entry) (names : List String),
      (build root operations).list directory = .ok entries ∧
        entries.map Entry.path = names.map (joinPath directory) ∧
        names.Pairwise fun first second => Keyed.bytesOf first < Keyed.bytesOf second) ∧
    ∀ others : List Operation, (∀ operation ∈ others, operation.IsPlain) →
      (∀ path, IsDirectory operations path ↔ IsDirectory others path) →
      (∀ path, lastFile? operations path = lastFile? others path) → build root operations = build root others := by
  have shows := shows_build root operations
  refine ⟨?_, fun path added => ?_, fun directory known => ?_, fun others alsoPlain directories files => ?_⟩
  · obtain ⟨whole, directories⟩ := shows.exists_tree_of_plain plain
    obtain ⟨depth, finite⟩ := Source.exists_level_eq_nil whole
    obtain ⟨distinct, within⟩ := Source.levels_of_tree whole depth
    have all (path : String) : path ∈ (build root operations).source.levels depth ↔ IsDirectory operations path :=
      ⟨fun present => (directories path).mp (within path present), fun known =>
        Source.mem_levels_of_reaches finite (shows.reaches_of_isDirectory plain known)⟩
    refine ⟨depth, finite, distinct, all, ?_, fun path => ?_⟩
    · exact (shows.flatMap_pathsIn_nodup distinct).sublist
        (List.Sublist.flatMap_right _ fun directory _ => (shows.sublist_pathsIn directory).2)
    · simp only [List.mem_flatMap, all]
      exact shows.exists_mem_filesIn_iff plain
  · obtain ⟨file, last⟩ := exists_lastFile?_iff.mpr added
    refine ⟨file, last, ?_⟩
    have sound : path ∉ (build root operations).failing := fun marked => plain _ ((shows.failing path).mp marked)
    rw [metadata, unlessFailing, shows.files, last]
    simp [sound]
  · refine ⟨_, (build root operations).namesIn directory,
      shows.list_eq_ok_iff.mpr ⟨(isListed_iff plain).mpr known, rfl⟩, ?_, ?_⟩
    · simp [entriesIn, pathsIn, Function.comp_def]
    · exact (shows.namesIn_pairwise directory).imp Keyed.bytesOf_lt_of_lt
  · exact build_eq_build root directories files (fun path => plain _) fun path => alsoPlain _

/-- A file that was added twice, and the directory of it in between: all that is left is what was added last. -/
theorem shows_what_was_added_repeated :
    (build "memory:" [.addFile { path := "a/b", size := 1 }, .addDirectory "a",
        .addFile { path := "a/b", size := 2 }]).metadata "a/b" = .ok { path := "a/b", size := 2 } ∧
      build "memory:" [.addFile { path := "a/b", size := 1 }, .addDirectory "a",
        .addFile { path := "a/b", size := 2 }] = build "memory:" [.addFile { path := "a/b", size := 2 }] := by
  have ordinary : IsOrdinary "a" ∧ IsOrdinary "a/b" := ⟨⟨by decide, by decide⟩, by decide, by decide⟩
  obtain ⟨-, reads, -, same⟩ := shows_what_was_added "memory:"
    [.addFile { path := "a/b", size := 1 }, .addDirectory "a", .addFile { path := "a/b", size := 2 }]
    (by simp [Operation.IsPlain, ordinary])
  refine ⟨?_, same _ (by simp [Operation.IsPlain, ordinary]) (fun path => ?_) fun path => ?_⟩
  · obtain ⟨file, last, found⟩ := reads "a/b" ⟨_, List.mem_cons_self, rfl⟩
    cases last
    exact found
  · -- the directory is above the file anyway, and nothing but the root is above it
    have above : IsAbove "a" "a/b" := ⟨"b", by decide⟩
    have added : path = "a" ∨ IsAbove path "a/b" ↔ IsAbove path "a/b" := or_iff_right_of_imp fun here => here ▸ above
    have plain : ¬ IsAbove path "a" := by
      rintro ⟨rest, split⟩
      have slash : '/' ∈ "a".toList := by simp [split]
      exact absurd slash (by decide)
    simp [isDirectory_iff, Operation.added?, plain, added]
  · by_cases here : "a/b" = path <;> simp [lastFile?, Operation.fileAt?, here]

end Courier.MemoryTree
