import Courier.Proofs.Discovery.Gathering
import Courier.Proofs.FileSystem.Building

/-!
# What a tree in memory lists

A path is listed in the directory that it is located in, and in no other, so the listings
form a tree as soon as the root is not listed in itself. They show what was added, except
for what begins with a slash: its first name is listed without the slash. The empty name in
the root is the root itself, and a traversal that comes upon it never ends.
-/

namespace Courier.MemoryTree

open Discovery

variable {operations : List Operation} {tree : MemoryTree} {path directory name : String} {entries : List Entry}

/-! ## Names and paths -/

/-- The names in a directory. -/
def namesIn (tree : MemoryTree) (directory : String) : List String :=
  ((tree.directories.find? directory).getD []).keys

/-- The paths that a directory lists. -/
def pathsIn (tree : MemoryTree) (directory : String) : List String :=
  (tree.namesIn directory).map (joinPath directory)

theorem mem_namesIn : name ∈ tree.namesIn directory ↔ Holds tree.directories directory name := by
  rw [namesIn, Keyed.mem_keys_iff, Holds]
  cases tree.directories.find? directory <;> simp [Keyed.contains, Keyed.find?]

namespace Shows

theorem slash_not_mem (shows : Shows operations tree) (listed : name ∈ tree.namesIn directory) :
    '/' ∉ name.toList := by
  obtain ⟨path, _, located⟩ := (shows.holds _ _).mp (mem_namesIn.mp listed)
  have plain := slash_not_mem_locate path
  rwa [located] at plain

theorem namesIn_pairwise (shows : Shows operations tree) (directory : String) :
    (tree.namesIn directory).Pairwise (· < ·) := by
  rw [namesIn]
  cases found : tree.directories.find? directory with
  | none => exact List.Pairwise.nil
  | some names => exact List.pairwise_map.mpr (shows.tidy.names directory names found)

/-- A path is listed where it is located. -/
theorem locate_of_mem_pathsIn (shows : Shows operations tree) (listed : path ∈ tree.pathsIn directory) :
    (locate path).1 = directory := by
  obtain ⟨name, among, rfl⟩ := List.mem_map.mp listed
  rw [locate_joinPath directory (shows.slash_not_mem among)]

theorem pathsIn_nodup (shows : Shows operations tree) (directory : String) : (tree.pathsIn directory).Nodup := by
  refine List.Nodup.map_on (fun name among other alsoAmong same => ?_)
    ((shows.namesIn_pairwise directory).imp fun below => ne_of_lt below)
  have located := congrArg locate same
  rw [locate_joinPath directory (shows.slash_not_mem among),
    locate_joinPath directory (shows.slash_not_mem alsoAmong)] at located
  exact congrArg Prod.snd located

/-- No path is listed twice, in one directory or in two. -/
theorem flatMap_pathsIn_nodup (shows : Shows operations tree) {directories : List String}
    (distinct : directories.Nodup) : (directories.flatMap tree.pathsIn).Nodup := by
  refine List.nodup_flatMap.mpr ⟨fun directory _ => shows.pathsIn_nodup directory, ?_⟩
  refine distinct.imp fun different path listed again => different ?_
  exact (shows.locate_of_mem_pathsIn listed).symm.trans (shows.locate_of_mem_pathsIn again)

end Shows

/-! ## Listings -/

/-- What discovery works on. -/
def source (tree : MemoryTree) : Source := .ofFileSystem tree.toFileSystem

/-- The entries that a directory has if it does not fail. -/
def entriesIn (tree : MemoryTree) (directory : String) : List Entry :=
  (tree.pathsIn directory).map fun path => ⟨path, tree.directories.contains path⟩

theorem list_eq (tree : MemoryTree) (directory : String) :
    tree.list directory = tree.unlessFailing directory
      (if tree.directories.contains directory then .ok (tree.entriesIn directory)
      else .error (.noDirectory directory)) := by
  rw [list, entriesIn, pathsIn, namesIn, List.map_map, Keyed.contains]
  cases tree.directories.find? directory <;> rfl

/-- Whether a directory is there and not marked to fail. -/
def IsListed (operations : List Operation) (directory : String) : Prop :=
  .failOn directory ∉ operations ∧ IsDirectory operations directory

theorem Shows.list_eq_ok_iff (shows : Shows operations tree) :
    tree.list directory = .ok entries ↔ IsListed operations directory ∧ tree.entriesIn directory = entries := by
  rw [list_eq, unlessFailing, IsListed, ← shows.failing, ← shows.known]
  by_cases failing : directory ∈ tree.failing <;> by_cases known : tree.directories.contains directory = true <;>
    simp [failing, known]

theorem mem_entriesIn {entry : Entry} :
    entry ∈ tree.entriesIn directory ↔
      entry.path ∈ tree.pathsIn directory ∧ entry.isDirectory = tree.directories.contains entry.path := by
  rw [entriesIn, List.mem_map]
  constructor
  · rintro ⟨path, listed, rfl⟩
    exact ⟨listed, rfl⟩
  · rintro ⟨listed, same⟩
    exact ⟨entry.path, listed, by rw [← same]⟩

/-- An entry is longer than its directory, unless it is the root in itself. -/
theorem Shows.length_lt_of_mem_entriesIn (shows : Shows operations tree) {entry : Entry}
    (listed : entry ∈ tree.entriesIn directory) :
    directory.length < entry.path.length ∨ directory = "" ∧ entry = ⟨"", true⟩ := by
  obtain ⟨among, same⟩ := mem_entriesIn.mp listed
  obtain ⟨name, _, joined⟩ := List.mem_map.mp among
  rcases length_lt_joinPath directory name with longer | ⟨rfl, rfl⟩
  · exact .inl (joined ▸ longer)
  · have root : entry.path = "" := joined.symm
    have known : entry.isDirectory = true := by
      rw [same, root]
      exact (shows.known "").mpr .root
    exact .inr ⟨rfl, by rw [← root, ← known]⟩

theorem directoriesAmong_entriesIn (tree : MemoryTree) (directory : String) :
    directoriesAmong (tree.entriesIn directory) = (tree.pathsIn directory).filter (tree.directories.contains ·) := by
  simp [directoriesAmong, entriesIn, List.filter_map, Function.comp_def]

theorem filesAmong_entriesIn (tree : MemoryTree) (directory : String) :
    filesAmong (tree.entriesIn directory) = (tree.pathsIn directory).filter (!tree.directories.contains ·) := by
  simp [filesAmong, entriesIn, List.filter_map, Function.comp_def]

namespace Shows

variable (shows : Shows operations tree)

include shows

theorem source_list (listed : IsListed operations directory) :
    tree.source.list directory = .ok (tree.entriesIn directory) := by
  have found : tree.list directory = .ok (tree.entriesIn directory) := shows.list_eq_ok_iff.mpr ⟨listed, rfl⟩
  exact congrArg (Except.mapError Fault.known) found

theorem source_list_of_not_isListed (lacking : ¬ IsListed operations directory) :
    ∃ fault, tree.source.list directory = .error fault := by
  cases found : tree.list directory with
  | error error => exact ⟨.known error, congrArg (Except.mapError Fault.known) found⟩
  | ok entries => exact absurd (shows.list_eq_ok_iff.mp found).1 lacking

/-- The directories in a directory that can be listed. -/
theorem below_eq (listed : IsListed operations directory) :
    tree.source.below directory = (tree.pathsIn directory).filter (tree.directories.contains ·) := by
  rw [Source.below_of_list (shows.source_list listed), directoriesAmong_entriesIn]

/-- The files in a directory that can be listed. -/
theorem filesIn_eq (listed : IsListed operations directory) :
    tree.source.filesIn directory = (tree.pathsIn directory).filter (!tree.directories.contains ·) := by
  rw [Source.filesIn_of_list (shows.source_list listed), filesAmong_entriesIn]

theorem nothing_of_not_isListed (lacking : ¬ IsListed operations directory) :
    tree.source.below directory = [] ∧ tree.source.filesIn directory = [] := by
  obtain ⟨fault, thrown⟩ := shows.source_list_of_not_isListed lacking
  rw [Source.below, Source.filesIn, thrown]
  exact ⟨rfl, rfl⟩

theorem sublist_pathsIn (directory : String) :
    (tree.source.below directory).Sublist (tree.pathsIn directory) ∧
      (tree.source.filesIn directory).Sublist (tree.pathsIn directory) := by
  by_cases listed : IsListed operations directory
  · rw [shows.below_eq listed, shows.filesIn_eq listed]
    exact ⟨List.filter_sublist, List.filter_sublist⟩
  · obtain ⟨below, files⟩ := shows.nothing_of_not_isListed listed
    rw [below, files]
    exact ⟨List.nil_sublist _, List.nil_sublist _⟩

theorem mem_below : path ∈ tree.source.below directory ↔
    IsListed operations directory ∧ path ∈ tree.pathsIn directory ∧ IsDirectory operations path := by
  by_cases listed : IsListed operations directory
  · rw [shows.below_eq listed, List.mem_filter, shows.known]
    simp [listed]
  · rw [(shows.nothing_of_not_isListed listed).1]
    simp [listed]

theorem mem_filesIn : path ∈ tree.source.filesIn directory ↔
    IsListed operations directory ∧ path ∈ tree.pathsIn directory ∧ ¬ IsDirectory operations path := by
  by_cases listed : IsListed operations directory
  · rw [shows.filesIn_eq listed, List.mem_filter, ← shows.known]
    simp [listed]
  · rw [(shows.nothing_of_not_isListed listed).2]
    simp [listed]

/-! ## Trees -/

theorem isDirectory_of_reaches (reached : tree.source.Reaches directory) : IsDirectory operations directory := by
  cases reached with
  | root => exact .root
  | descend _ listed => exact (shows.mem_below.mp listed).2.2

/-- The listings form a tree, unless the root lists itself. -/
theorem exists_tree (straight : "" ∉ tree.source.below "") : Nonempty (Tree tree.source) := by
  classical
  have distinct : (tree.directories.keys.filter fun directory => decide (tree.source.Reaches directory)).Nodup :=
    shows.tidy.ordered.nodup_keys.filter _
  refine ⟨⟨_, fun path => ?_, distinct, ?_, ?_⟩⟩
  · rw [List.mem_filter, Keyed.mem_keys_iff, shows.known, decide_eq_true_iff]
    exact and_iff_right_of_imp shows.isDirectory_of_reaches
  · refine List.nodup_cons.mpr ⟨fun listed => ?_, ?_⟩
    · -- only the root could list the empty path
      obtain ⟨directory, _, below⟩ := List.mem_flatMap.mp listed
      have root : "" = directory := shows.locate_of_mem_pathsIn (shows.mem_below.mp below).2.1
      exact straight (root ▸ below)
    · exact (shows.flatMap_pathsIn_nodup distinct).sublist
        (List.Sublist.flatMap_right _ fun directory _ => (shows.sublist_pathsIn directory).1)
  · exact (shows.flatMap_pathsIn_nodup distinct).sublist
      (List.Sublist.flatMap_right _ fun directory _ => (shows.sublist_pathsIn directory).2)

end Shows

/-! ## The root in itself -/

/-- What makes the root a name in itself: the empty path of a file, a path that is a mere slash, or one that begins
with two. -/
def Operation.NamesRoot (operation : Operation) : Prop :=
  ∃ path, operation.added? = some path ∧ (path = "" ∨ path = "/" ∨ ∃ rest, path = "/" ++ "/" ++ rest)

theorem locate_eq_root_iff : locate path = ("", "") ↔ path = "" ∨ path = "/" := by
  constructor
  · intro here
    rcases locate_cases path with ⟨_, located⟩ | ⟨parent, name, _, rfl, located⟩
    · exact .inl (congrArg Prod.snd (located.symm.trans here))
    · cases located.symm.trans here
      exact .inr rfl
  · have plain : '/' ∉ "".toList := by decide
    rintro (rfl | rfl)
    · exact locate_of_plain plain
    · exact locate_append "" plain

/-- Something is present under the empty name in the root exactly if an operation names the root. -/
theorem exists_isPresent_root_iff :
    (∃ path, IsPresent operations path ∧ locate path = ("", "")) ↔
      ∃ operation ∈ operations, operation.NamesRoot := by
  simp only [locate_eq_root_iff]
  constructor
  · rintro ⟨path, (⟨file, among, here⟩ | ⟨nested, known⟩), root⟩
    · exact ⟨_, among, path, congrArg some here, root.imp_right .inl⟩
    · rcases root with rfl | rfl
      · exact absurd rfl nested
      · rcases isDirectory_iff.mp known with root | among | ⟨operation, among, path, adds, above⟩
        · exact absurd root nested
        · exact ⟨_, among, "/", rfl, .inr (.inl rfl)⟩
        · exact ⟨operation, among, path, adds, .inr (.inr above)⟩
  · rintro ⟨operation, among, path, adds, rfl | rfl | above⟩
    · cases operation with
      | addDirectory other =>
          simp [Operation.added?] at adds
      | addFile file => exact ⟨"", .inl ⟨file, among, Option.some.inj adds⟩, .inl rfl⟩
      | failOn other => cases adds
    · refine ⟨"/", ?_, .inr rfl⟩
      cases operation with
      | addDirectory other =>
          obtain ⟨_, rfl⟩ : other ≠ "" ∧ other = "/" := by simpa [Operation.added?] using adds
          exact .inr ⟨by decide, .added among⟩
      | addFile file => exact .inl ⟨file, among, Option.some.inj adds⟩
      | failOn other => cases adds
    · exact ⟨"/", .inr ⟨by decide, .above among adds above⟩, .inr rfl⟩

theorem Shows.mem_below_root_iff (shows : Shows operations tree) :
    "" ∈ tree.source.below "" ↔
      .failOn "" ∉ operations ∧ ∃ operation ∈ operations, operation.NamesRoot := by
  have named : "" ∈ tree.pathsIn "" ↔ Holds tree.directories "" "" := by
    simp [pathsIn, joinPath_root, mem_namesIn]
  rw [shows.mem_below, named, shows.holds, exists_isPresent_root_iff, IsListed]
  simp [IsDirectory.root]

/-- Whether the root is among its own entries. -/
def ListsItself (tree : MemoryTree) : Prop := ∃ entries, tree.list "" = .ok entries ∧ ⟨"", true⟩ ∈ entries

theorem Shows.listsItself_iff (shows : Shows operations tree) : tree.ListsItself ↔ "" ∈ tree.source.below "" := by
  have known : tree.directories.contains "" = true := (shows.known "").mpr .root
  simp only [ListsItself, shows.list_eq_ok_iff, shows.mem_below, and_assoc, exists_and_left, exists_eq_left',
    mem_entriesIn, known, IsDirectory.root, and_true]

/-- Over all trees that can be built: an entry has a longer path than its directory, unless it is the root in itself
and some operation names the root. Unless the root is listed so, following the directories comes to an end without
finding any twice, and every traversal ends, on any host and for any number of workers, capacity and schedule. If it
is, following the directories finds it at every depth, and a traversal only ever ends on a failure, unless a thread is
refused to one of its workers. -/
theorem entries_are_longer_unless_root_lists_itself (root : String) (operations : List Operation) :
    (∀ directory entries, (build root operations).list directory = .ok entries → ∀ entry ∈ entries,
      directory.length < entry.path.length ∨
        directory = "" ∧ entry = ⟨"", true⟩ ∧ ∃ operation ∈ operations, operation.NamesRoot) ∧
    ((build root operations).ListsItself ↔
      .failOn "" ∉ operations ∧ ∃ operation ∈ operations, operation.NamesRoot) ∧
    (¬ (build root operations).ListsItself →
      (∃ depth, (build root operations).source.level depth = [] ∧
        ((build root operations).source.levels depth).Nodup) ∧
      ∀ host settings capacity output, BoundedChannel.ofCapacity capacity = .ok output →
        (∃ bound, ∀ schedule call,
          (Call.start host settings output).run? (build root operations).source schedule = some call →
          schedule.length ≤ bound + schedule.count (.pool .closeOutput)) ∧
        ∃ enough, ∀ limit, enough ≤ limit →
          (traverse host (build root operations).source settings output none limit).isSome) ∧
    ((build root operations).ListsItself →
      (∀ depth, "" ∈ (build root operations).source.level depth) ∧
      ∀ host settings gathered, Gathers host settings (build root operations).source gathered →
        (∃ error, gathered = .error error) ∧
          ((∃ path fault, (build root operations).source.Fails path fault) ∨ host.threads < settings.workers)) := by
  have shows := shows_build root operations
  generalize build root operations = tree at shows ⊢
  refine ⟨fun directory entries listed entry present => ?_, ?_, fun straight => ⟨?_, ?_⟩, fun itself => ⟨?_, ?_⟩⟩
  · obtain ⟨sound, rfl⟩ := shows.list_eq_ok_iff.mp listed
    refine (shows.length_lt_of_mem_entriesIn present).imp_right ?_
    rintro ⟨rfl, rfl⟩
    have itself := shows.listsItself_iff.mp ⟨_, listed, present⟩
    exact ⟨rfl, rfl, (shows.mem_below_root_iff.mp itself).2⟩
  · rw [shows.listsItself_iff, shows.mem_below_root_iff]
  · obtain ⟨whole⟩ := shows.exists_tree (shows.listsItself_iff.not.mp straight)
    obtain ⟨depth, finite⟩ := Source.exists_level_eq_nil whole
    exact ⟨depth, finite, (Source.levels_of_tree whole depth).1⟩
  · intro host settings capacity output fresh
    obtain ⟨whole⟩ := shows.exists_tree (shows.listsItself_iff.not.mp straight)
    exact ⟨Call.exists_length_le whole host settings fresh, exists_isSome_traverse whole host settings fresh none⟩
  · exact Source.root_mem_level (shows.listsItself_iff.mp itself)
  · exact fun _ _ _ gathers => gathers.of_root_below (shows.listsItself_iff.mp itself)

/-- One tree with the root in itself and one without. -/
theorem entries_are_longer_unless_root_lists_itself_slash :
    (build "memory:" [.addFile { path := "a/b" }, .addDirectory "/"]).ListsItself ∧
      (∀ depth, "" ∈ (build "memory:" [.addFile { path := "a/b" }, .addDirectory "/"]).source.level depth) ∧
      ¬ (build "memory:" [.addFile { path := "/b" }]).ListsItself ∧
      ∃ depth, (build "memory:" [.addFile { path := "/b" }]).source.level depth = [] := by
  have itself : (build "memory:" [.addFile { path := "a/b" }, .addDirectory "/"]).ListsItself :=
    ⟨[⟨"", true⟩, ⟨"a", true⟩], by decide +kernel, by decide⟩
  have straight : ¬ (build "memory:" [.addFile { path := "/b" }]).ListsItself := by
    have listed : (build "memory:" [.addFile { path := "/b" }]).list "" = .ok [⟨"b", false⟩] := by decide +kernel
    rintro ⟨entries, found, present⟩
    cases listed.symm.trans found
    simp at present
  obtain ⟨depth, finite, _⟩ := ((entries_are_longer_unless_root_lists_itself _ _).2.2.1 straight).1
  exact ⟨itself, ((entries_are_longer_unless_root_lists_itself _ _).2.2.2 itself).1, straight, depth, finite⟩

/-- A file without a path makes the root its own entry, and no traversal ends that gets its threads. -/
theorem lists_root_in_itself_nameless :
    (∃ entries, (build "memory:" [.addFile { path := "" }]).list "" = .ok entries ∧
      ∃ entry ∈ entries, ¬ "".length < entry.path.length) ∧
    ∀ host settings gathered, settings.workers ≤ host.threads →
      ¬ Gathers host settings (build "memory:" [.addFile { path := "" }]).source gathered := by
  have found : (build "memory:" [.addFile { path := "" }]).list "" = .ok [⟨"", true⟩] := by decide +kernel
  refine ⟨⟨_, found, ⟨"", true⟩, List.mem_cons_self, Nat.lt_irrefl 0⟩,
    fun host settings gathered enough gathers => ?_⟩
  generalize build "memory:" [.addFile { path := "" }] = tree at found gathers
  have listed : tree.source.list "" = .ok [⟨"", true⟩] := congrArg (Except.mapError Fault.known) found
  have below : tree.source.below "" = [""] := Source.below_of_list listed
  have only (directory : String) (reached : tree.source.Reaches directory) : directory = "" := by
    induction reached with
    | root => rfl
    | descend _ present ih =>
        rw [ih, below] at present
        exact List.mem_singleton.mp present
  obtain ⟨_, told⟩ := gathers.of_root_below (below ▸ List.mem_cons_self)
  obtain ⟨path, fault, fails⟩ := told.resolve_right (Nat.not_lt_of_le enough)
  cases fails with
  | listing reached thrown =>
      rw [only path reached, listed] at thrown
      cases thrown
  | reading reached thrown =>
      obtain ⟨directory, reached, present⟩ := reached
      rw [only directory reached, Source.filesIn_of_list listed] at present
      cases present

end Courier.MemoryTree
