import Courier.Discovery
import Mathlib.Data.List.Nodup
import Mathlib.Data.List.Perm.Basic

/-!
# Trees of listings

What there is to discover, told without workers: the directories that successful
listings lead to from the root, the files in them, the batch that each directory
makes, and what fails among all these. The listings form a tree if only finitely
many directories are reached and none of their paths is listed twice.
-/

namespace Courier.Discovery

/-- The paths of the directories among entries. -/
def directoriesAmong (entries : List Entry) : List String :=
  (entries.filter fun entry => entry.isDirectory).map Entry.path

/-- The paths of the files among entries. -/
def filesAmong (entries : List Entry) : List String :=
  (entries.filter fun entry => !entry.isDirectory).map Entry.path

@[simp] theorem filesAmong_append (entries rest : List Entry) :
    filesAmong (entries ++ rest) = filesAmong entries ++ filesAmong rest := by
  simp [filesAmong]

@[simp] theorem filesAmong_directory (path : String) (rest : List Entry) :
    filesAmong (⟨path, true⟩ :: rest) = filesAmong rest := rfl

@[simp] theorem filesAmong_file (path : String) (rest : List Entry) :
    filesAmong (⟨path, false⟩ :: rest) = path :: filesAmong rest := rfl

/-! ## Reading one thing after the other -/

section Reading

variable {Item Found Failure : Type} {read : Item → Except Failure Found}

/-- Everything is read exactly if each reading succeeds. -/
theorem mapM_eq_ok_iff {items : List Item} {found : List Found} :
    items.mapM read = .ok found ↔ items.map read = found.map .ok := by
  induction items generalizing found with
  | nil => cases found <;> simp [pure, Except.pure]
  | cons item rest ih =>
      rw [List.mapM_cons, List.map_cons]
      cases first : read item with
      | error failure => cases found <;> simp [bind, Except.bind]
      | ok value =>
          cases others : rest.mapM read with
          | error failure =>
              have never (tail : List Found) : rest.map read ≠ tail.map .ok := fun same => by
                simp [ih.mpr same] at others
              cases found <;> simp [bind, Except.bind, never]
          | ok values =>
              have same := ih.mp others
              cases found with
              | nil => simp [bind, Except.bind, pure, Except.pure]
              | cons head tail =>
                  have injective : Function.Injective (Except.ok : Found → Except Failure Found) :=
                    fun _ _ => Except.ok.inj
                  simp [bind, Except.bind, pure, Except.pure, same, injective.list_map.eq_iff]

/-- One reading more. -/
theorem mapM_append_singleton {items : List Item} {found : List Found} {item : Item} {value : Found}
    (before : items.mapM read = .ok found) (last : read item = .ok value) :
    (items ++ [item]).mapM read = .ok (found ++ [value]) := by
  rw [mapM_eq_ok_iff] at before ⊢
  simp [before, last]

/-- One reading more, which fails. -/
theorem mapM_append_error {items rest : List Item} {found : List Found} {item : Item} {failure : Failure}
    (before : items.mapM read = .ok found) (thrown : read item = .error failure) :
    (items ++ item :: rest).mapM read = .error failure := by
  rw [List.mapM_append, before, List.mapM_cons, thrown]
  rfl

end Reading

/-! ## What listings lead to -/

namespace Source

variable {source : Source} {directory path : String} {entries : List Entry} {fault : Fault}

/-- The paths of the directories in a directory; there are none if it cannot be listed. -/
def below (source : Source) (directory : String) : List String :=
  match source.list directory with
  | .ok entries => directoriesAmong entries
  | .error _ => []

/-- The paths of the files in a directory; there are none if it cannot be listed. -/
def filesIn (source : Source) (directory : String) : List String :=
  match source.list directory with
  | .ok entries => filesAmong entries
  | .error _ => []

theorem below_of_list (listed : source.list directory = .ok entries) :
    source.below directory = directoriesAmong entries := by
  rw [below, listed]

theorem filesIn_of_list (listed : source.list directory = .ok entries) :
    source.filesIn directory = filesAmong entries := by
  rw [filesIn, listed]

/-- The directories that successful listings lead to, from the root on. -/
inductive Reaches (source : Source) : String → Prop where
  | root : Reaches source ""
  | descend {directory path : String} (reached : Reaches source directory)
      (listed : path ∈ source.below directory) : Reaches source path

/-- The files in the directories that are reached. -/
def ReachesFile (source : Source) (path : String) : Prop :=
  ∃ directory, source.Reaches directory ∧ path ∈ source.filesIn directory

/-- What is reached and cannot be listed, or read, with what is thrown. -/
inductive Fails (source : Source) : String → Fault → Prop where
  | listing {directory : String} {fault : Fault} (reached : source.Reaches directory)
      (thrown : source.list directory = .error fault) : Fails source directory fault
  | reading {path : String} {fault : Fault} (reached : source.ReachesFile path)
      (thrown : source.metadata path = .error fault) : Fails source path fault

/-- The metadata of the files in a directory, in the order of its listing, or the first failure on the way. -/
def batch? (source : Source) (directory : String) : Except Fault Batch := do
  let entries ← source.list directory
  (filesAmong entries).mapM source.metadata

theorem batch?_of_list (listed : source.list directory = .ok entries) :
    source.batch? directory = (filesAmong entries).mapM source.metadata := by
  rw [batch?, listed]
  rfl

theorem batch?_of_list_error (thrown : source.list directory = .error fault) :
    source.batch? directory = .error fault := by
  rw [batch?, thrown]
  rfl

/-- A batch holds what is read of the files in the directory. -/
theorem map_ok_of_batch? {batch : Batch} (complete : source.batch? directory = .ok batch) :
    batch.map .ok = (source.filesIn directory).map source.metadata := by
  cases listed : source.list directory with
  | error fault =>
      rw [batch?_of_list_error listed] at complete
      cases complete
  | ok entries =>
      rw [batch?_of_list listed, mapM_eq_ok_iff] at complete
      rw [filesIn_of_list listed, complete]

/-- Where something fails, some directory that is reached makes no batch. -/
theorem Fails.exists_batch? (fails : source.Fails path fault) :
    ∃ directory other, source.Reaches directory ∧ source.batch? directory = .error other := by
  cases fails with
  | listing reached thrown => exact ⟨path, fault, reached, batch?_of_list_error thrown⟩
  | reading reached thrown =>
      obtain ⟨directory, reached, present⟩ := reached
      cases complete : source.batch? directory with
      | error other => exact ⟨directory, other, reached, complete⟩
      | ok batch =>
          have among : source.metadata path ∈ batch.map .ok := by
            rw [map_ok_of_batch? complete]
            exact List.mem_map_of_mem present
          simp [thrown] at among

/-! ## Sources that are alike -/

/-- Whether two sources have the same listings and the same metadata, wherever the listings lead. -/
structure Alike (source other : Source) : Prop where
  list : ∀ directory, source.Reaches directory → other.list directory = source.list directory
  metadata : ∀ path, source.ReachesFile path → other.metadata path = source.metadata path

namespace Alike

variable {other : Source}

protected theorem refl (source : Source) : source.Alike source := ⟨fun _ _ => rfl, fun _ _ => rfl⟩

theorem below_eq (alike : source.Alike other) (reached : source.Reaches directory) :
    other.below directory = source.below directory := by
  rw [below, below, alike.list directory reached]

theorem filesIn_eq (alike : source.Alike other) (reached : source.Reaches directory) :
    other.filesIn directory = source.filesIn directory := by
  rw [filesIn, filesIn, alike.list directory reached]

theorem reaches_iff (alike : source.Alike other) : other.Reaches path ↔ source.Reaches path := by
  constructor
  · intro reached
    induction reached with
    | root => exact .root
    | descend _ listed ih => exact .descend ih (alike.below_eq ih ▸ listed)
  · intro reached
    induction reached with
    | root => exact .root
    | descend reached listed ih => exact .descend ih (alike.below_eq reached ▸ listed)

theorem reachesFile_iff (alike : source.Alike other) : other.ReachesFile path ↔ source.ReachesFile path := by
  constructor
  · rintro ⟨directory, reached, present⟩
    have here := alike.reaches_iff.mp reached
    exact ⟨directory, here, alike.filesIn_eq here ▸ present⟩
  · rintro ⟨directory, reached, present⟩
    exact ⟨directory, alike.reaches_iff.mpr reached, alike.filesIn_eq reached ▸ present⟩

protected theorem symm (alike : source.Alike other) : other.Alike source :=
  ⟨fun directory reached => (alike.list directory (alike.reaches_iff.mp reached)).symm,
    fun path reached => (alike.metadata path (alike.reachesFile_iff.mp reached)).symm⟩

protected theorem trans {last : Source} (alike : source.Alike other) (later : other.Alike last) : source.Alike last :=
  ⟨fun directory reached =>
      (later.list directory (alike.reaches_iff.mpr reached)).trans (alike.list directory reached),
    fun path reached =>
      (later.metadata path (alike.reachesFile_iff.mpr reached)).trans (alike.metadata path reached)⟩

/-- The same things fail in sources that are alike. -/
theorem fails (alike : source.Alike other) (fails : other.Fails path fault) : source.Fails path fault := by
  cases fails with
  | listing reached thrown =>
      have here := alike.reaches_iff.mp reached
      exact .listing here (alike.list path here ▸ thrown)
  | reading reached thrown =>
      have here := alike.reachesFile_iff.mp reached
      exact .reading here (alike.metadata path here ▸ thrown)

end Alike

end Source

/-! ## Trees -/

/-- The directories that are reached, and that they form a finite tree: no directory is listed twice, the root
not at all, and no file is listed twice. -/
structure Tree (source : Source) where
  directories : List String
  mem_directories : ∀ path, path ∈ directories ↔ source.Reaches path
  directories_nodup : directories.Nodup
  directories_listed_once : ("" :: directories.flatMap source.below).Nodup
  files_listed_once : (directories.flatMap source.filesIn).Nodup

namespace Tree

variable {source : Source} {path : String}

/-- The paths of all files that are reached. -/
def files (tree : Tree source) : List String := tree.directories.flatMap source.filesIn

theorem mem_files (tree : Tree source) (path : String) : path ∈ tree.files ↔ source.ReachesFile path := by
  simp [files, Source.ReachesFile, tree.mem_directories]

theorem root_mem (tree : Tree source) : "" ∈ tree.directories := (tree.mem_directories "").mpr .root

/-- What a directory of the tree lists belongs to the tree. -/
theorem mem_of_mem_below (tree : Tree source) {directory : String} (present : directory ∈ tree.directories)
    (listed : path ∈ source.below directory) : path ∈ tree.directories :=
  (tree.mem_directories path).mpr (.descend ((tree.mem_directories directory).mp present) listed)

/-- Directories that hold the root and all that they list are all there are. -/
theorem mem_of_closed (tree : Tree source) {visited : List String} (root : "" ∈ visited)
    (closed : ∀ directory ∈ visited, ∀ path ∈ source.below directory, path ∈ visited) :
    ∀ path ∈ tree.directories, path ∈ visited := by
  intro path present
  have reached := (tree.mem_directories path).mp present
  clear present
  induction reached with
  | root => exact root
  | descend reached listed ih => exact closed _ ih _ listed

end Tree

/-- Two directories below a root, one of them empty, and a file that may be unreadable. -/
def grove (broken : Bool) : Source := .ofFileSystem
  { root := "grove"
    list := fun directory =>
      if directory = "" then .ok [⟨"left", true⟩, ⟨"leaf", false⟩, ⟨"right", true⟩]
      else if directory = "left" then .ok [⟨"left/leaf", false⟩]
      else if directory = "right" then .ok []
      else .error (.noDirectory directory)
    metadata := fun path =>
      if broken && path = "left/leaf" then .error (.injected path) else .ok { path } }

theorem reaches_grove_iff (broken : Bool) (path : String) :
    (grove broken).Reaches path ↔ path ∈ ["", "left", "right"] := by
  have left : "left" ∈ (grove broken).below "" := by decide +revert
  have right : "right" ∈ (grove broken).below "" := by decide +revert
  constructor
  · intro reached
    induction reached with
    | root => simp
    | @descend directory path _ listed ih =>
        have below : directory = "" ∧ (path = "left" ∨ path = "right") := by
          simp only [List.mem_cons, List.not_mem_nil, or_false] at ih
          rcases ih with rfl | rfl | rfl <;> simp [grove, Source.below, Source.ofFileSystem, Except.mapError,
            directoriesAmong] at listed
          exact ⟨rfl, listed⟩
        simp [below.2]
  · intro present
    simp only [List.mem_cons, List.not_mem_nil, or_false] at present
    rcases present with rfl | rfl | rfl
    · exact .root
    · exact .descend .root left
    · exact .descend .root right

/-- The grove is a tree. -/
def groveTree (broken : Bool) : Tree (grove broken) where
  directories := ["", "left", "right"]
  mem_directories path := (reaches_grove_iff broken path).symm
  directories_nodup := by decide
  directories_listed_once := by decide +revert
  files_listed_once := by decide +revert

end Courier.Discovery
