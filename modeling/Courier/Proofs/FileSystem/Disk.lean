import Courier.FileSystem.Disk
import Courier.Proofs.Discovery.Tree
import Mathlib.Data.String.Basic

/-!
# Files on a disk

A text that is written to a file makes no difference to any walk, since it is a file
before and after, and no difference to what is seen of the disk except in the directory
that the file is in. A traversal that does not come upon the file finds the same as
before.
-/

namespace Courier.Disk

variable {disk other : Disk} {location here : Location} {node : Node} {path : String}

/-! ## What is where -/

theorem lookup_filter_ne (nodes : List (Location × Node)) (ne : here ≠ location) :
    (nodes.filter fun entry => entry.1 != location).lookup here = nodes.lookup here := by
  induction nodes with
  | nil => rfl
  | cons entry rest ih =>
      obtain ⟨place, node⟩ := entry
      by_cases same : place = location
      · have skipped : (here == place) = false := beq_false_of_ne (same ▸ ne)
        rw [List.filter_cons_of_neg (by simp [same]), ih, List.lookup_cons, skipped]
      · rw [List.filter_cons_of_pos (by simp [same]), List.lookup_cons, List.lookup_cons, ih]

/-- A walk tells what stands where it comes. -/
theorem node?_of_walk {follow : Bool} {links : Nat} {names : List String}
    (walked : disk.walk follow links here names = .ok (location, node)) : disk.node? location = some node := by
  fun_induction disk.walk follow links here names with
  | case2 links here found present =>
      cases walked
      exact present
  | case7 links here name rest present isOther isDown fits target linked ends =>
      cases walked
      exact linked
  | case3 | case4 | case10 | case11 => exact ‹_ → _› walked
  | case1 | case5 | case6 | case8 | case9 | case12 => cases walked

theorem node?_of_locate {follow : Bool} (located : disk.locate follow path = .ok (location, node)) :
    disk.node? location = some node := by
  unfold locate at located
  dsimp only at located
  split_ifs at located
  exact node?_of_walk located

/-- Only a directory is listed. -/
theorem list_of_not_directory {root : String} (located : disk.locate true (below root path) = .ok (here, node))
    (isOther : node ≠ .directory) : disk.list root path = .error (.unlistable (below root path) .notDirectory) := by
  rw [list, located]
  cases node with
  | directory => exact absurd rfl isOther
  | file | link => rfl

/-- A node is told of in the directory it is in only. -/
theorem inside_filter (disk : Disk) (ne : here ≠ location.dropLast) :
    ({ nodes := disk.nodes.filter fun entry => entry.1 != location } : Disk).inside here = disk.inside here := by
  rw [inside, inside, List.filterMap_filter]
  refine List.filterMap_congr fun entry _ => ?_
  by_cases same : entry.1 = location
  · have outside : entry.1.dropLast ≠ here := same ▸ ne.symm
    simp only [same, bne_self_eq_false, Bool.false_eq_true, if_false]
    rw [← same]
    split
    · exact (if_neg outside).symm
    · rfl
  · simp only [bne_iff_ne.mpr same, if_true]

/-! ## Contents -/

/-- Two disks that differ in nothing but what one file holds. -/
structure DiffersAt (disk : Disk) (location : Location) (other : Disk) : Prop where
  elsewhere : (disk.nodes.filter fun entry => entry.1 != location) =
    other.nodes.filter fun entry => entry.1 != location
  isFile : ∃ text size modified, disk.node? location = some (.file text size modified)
  isOtherFile : ∃ text size modified, other.node? location = some (.file text size modified)

namespace DiffersAt

theorem node?_eq (differs : disk.DiffersAt location other) (ne : here ≠ location) :
    other.node? here = disk.node? here := by
  rw [node?, node?, ← lookup_filter_ne disk.nodes ne, ← lookup_filter_ne other.nodes ne, differs.elsewhere]

/-- There is something of the same kind at every location. -/
theorem node?_cases (differs : disk.DiffersAt location other) (here : Location) :
    other.node? here = disk.node? here ∨
      here = location ∧ (∃ text size modified, disk.node? here = some (.file text size modified)) ∧
        ∃ text size modified, other.node? here = some (.file text size modified) := by
  by_cases same : here = location
  · exact .inr ⟨same, same ▸ differs.isFile, same ▸ differs.isOtherFile⟩
  · exact .inl (differs.node?_eq same)

/-- What is no file is there on both disks. -/
theorem node?_of_not_file (differs : disk.DiffersAt location other) {found : Option Node}
    (present : disk.node? here = found) (noFile : ∀ text size modified, found ≠ some (.file text size modified)) :
    other.node? here = found := by
  rcases differs.node?_cases here with same | ⟨_, ⟨text, size, modified, isFile⟩, _⟩
  · exact same.trans present
  · exact absurd (present.symm.trans isFile) (noFile text size modified)

theorem exists_node? (differs : disk.DiffersAt location other) (present : disk.node? here = some node) :
    ∃ alsoNode, other.node? here = some alsoNode ∧ (alsoNode = node ∨
      (∃ text size modified, node = .file text size modified) ∧
        ∃ text size modified, alsoNode = .file text size modified) := by
  rcases differs.node?_cases here with same | ⟨_, ⟨_, _, _, isFile⟩, _, _, _, isOtherFile⟩
  · exact ⟨node, same.trans present, .inl rfl⟩
  · cases present.symm.trans isFile
    exact ⟨_, isOtherFile, .inr ⟨⟨_, _, _, rfl⟩, _, _, _, rfl⟩⟩

/-- Wherever a walk comes, something of the same kind is there. -/
theorem walk_eq (differs : disk.DiffersAt location other) (follow : Bool) (links : Nat) (here : Location)
    (names : List String) :
    other.walk follow links here names =
      (disk.walk follow links here names).map fun found => (found.1, (other.node? found.1).getD found.2) := by
  fun_induction disk.walk follow links here names with
  | case1 links here names absent =>
      have alsoAbsent := differs.node?_of_not_file absent nofun
      rw [walk.eq_def, alsoAbsent]
      rfl
  | case2 links here node present =>
      obtain ⟨alsoNode, alsoPresent, _⟩ := differs.exists_node? present
      rw [walk.eq_def, alsoPresent]
      simp only [Except.map, alsoPresent, Option.getD_some]
  | case3 links here name rest present isSelf ih =>
      rw [walk.eq_def, differs.node?_of_not_file present nofun]
      simp only [isSelf, if_true, ih]
  | case4 links here name rest present isOther isUp ih =>
      rw [walk.eq_def, differs.node?_of_not_file present nofun]
      simp only [isOther, isUp, if_true, Bool.false_eq_true, if_false, ih]
  | case5 links here name rest present isOther isDown isLong =>
      rw [walk.eq_def, differs.node?_of_not_file present nofun]
      simp only [isOther, isDown, isLong, if_true, Bool.false_eq_true, if_false]
      rfl
  | case6 links here name rest present isOther isDown fits absent =>
      rw [walk.eq_def, differs.node?_of_not_file present nofun]
      simp only [isOther, isDown, fits, Bool.false_eq_true, if_false, differs.node?_of_not_file absent nofun]
      rfl
  | case7 links here name rest present isOther isDown fits target linked ends =>
      have alsoLinked := differs.node?_of_not_file linked nofun
      rw [walk.eq_def, differs.node?_of_not_file present nofun]
      simp only [isOther, isDown, fits, Bool.false_eq_true, if_false, alsoLinked, ends, if_true, Except.map,
        Option.getD_some]
  | case8 here name rest present isOther isDown fits target linked follows =>
      rw [walk.eq_def, differs.node?_of_not_file present nofun]
      simp only [isOther, isDown, fits, Bool.false_eq_true, if_false, differs.node?_of_not_file linked nofun, follows]
      rfl
  | case9 here name rest present isOther isDown fits target linked follows links isAbsolute =>
      rw [walk.eq_def, differs.node?_of_not_file present nofun]
      simp only [isOther, isDown, fits, Bool.false_eq_true, if_false, differs.node?_of_not_file linked nofun, follows,
        isAbsolute, if_true]
      rfl
  | case10 here name rest present isOther isDown fits target linked follows links isRelative ih =>
      rw [walk.eq_def, differs.node?_of_not_file present nofun]
      simp only [isOther, isDown, fits, Bool.false_eq_true, if_false, differs.node?_of_not_file linked nofun, follows,
        isRelative, ih]
  | case11 links here name rest present isOther isDown fits node unlinked found ih =>
      obtain ⟨alsoNode, alsoFound, same | ⟨_, text, size, modified, alsoFile⟩⟩ := differs.exists_node? found
      · rw [walk.eq_def, differs.node?_of_not_file present nofun]
        simp only [isOther, isDown, fits, Bool.false_eq_true, if_false, alsoFound, ih]
        cases alsoNode with
        | link target => exact absurd same.symm (unlinked target)
        | directory | file => rfl
      · rw [walk.eq_def, differs.node?_of_not_file present nofun]
        simp only [isOther, isDown, fits, Bool.false_eq_true, if_false, alsoFound, alsoFile, ih]
  | case12 links here node name rest isOther present =>
      obtain ⟨alsoNode, alsoPresent, same | ⟨_, text, size, modified, alsoFile⟩⟩ := differs.exists_node? present
      · rw [walk.eq_def, alsoPresent]
        cases alsoNode with
        | directory => exact absurd same.symm isOther
        | link | file => rfl
      · rw [walk.eq_def, alsoPresent, alsoFile]
        rfl

theorem locate_eq (differs : disk.DiffersAt location other) (follow : Bool) (path : String) :
    other.locate follow path =
      (disk.locate follow path).map fun found => (found.1, (other.node? found.1).getD found.2) := by
  unfold locate
  dsimp only
  split_ifs
  · rfl
  · rfl
  · rfl
  · exact differs.walk_eq follow mostLinks [] _

/-- Every path leads to the same location, or to none for the same reason; and to a directory on both disks, or
on none. -/
theorem locate_cases (differs : disk.DiffersAt location other) (follow : Bool) (path : String) :
    (∃ fault, disk.locate follow path = .error fault ∧ other.locate follow path = .error fault) ∨
      ∃ there node alsoNode, disk.locate follow path = .ok (there, node) ∧
        other.locate follow path = .ok (there, alsoNode) ∧ (there ≠ location → alsoNode = node) ∧
        (node = .directory ↔ alsoNode = .directory) := by
  cases located : disk.locate follow path with
  | error fault =>
      refine .inl ⟨fault, rfl, ?_⟩
      rw [differs.locate_eq, located]
      rfl
  | ok found =>
      obtain ⟨there, node⟩ := found
      have present := node?_of_locate located
      obtain ⟨alsoNode, alsoPresent, same⟩ := differs.exists_node? present
      refine .inr ⟨there, node, alsoNode, rfl, ?_, fun elsewhere => ?_, ?_⟩
      · rw [differs.locate_eq, located, Except.map, alsoPresent]
        rfl
      · rw [differs.node?_eq elsewhere, present] at alsoPresent
        exact (Option.some.inj alsoPresent).symm
      · rcases same with rfl | ⟨⟨_, _, _, rfl⟩, _, _, _, rfl⟩
        · exact Iff.rfl
        · exact ⟨nofun, nofun⟩

/-! ## Directories and files -/

theorem inside_eq (differs : disk.DiffersAt location other) (ne : here ≠ location.dropLast) :
    other.inside here = disk.inside here := by
  rw [← inside_filter other ne, ← inside_filter disk ne, differs.elsewhere]

/-- The listing of a directory that the file is not in stays as it is. -/
theorem list_eq (differs : disk.DiffersAt location other) {root : String}
    (apart : disk.locate true (below root path) ≠ .ok (location.dropLast, .directory)) :
    other.list root path = disk.list root path := by
  rcases differs.locate_cases true (below root path) with
    ⟨fault, located, alsoLocated⟩ | ⟨there, node, alsoNode, located, alsoLocated, _, same⟩
  · rw [list, list, located, alsoLocated]
  · by_cases isDirectory : node = .directory
    · subst isDirectory
      cases same.mp rfl
      have elsewhere : there ≠ location.dropLast := fun same => apart (same ▸ located)
      rw [list, list, located, alsoLocated]
      dsimp only
      rw [differs.inside_eq elsewhere]
    · rw [list_of_not_directory located isDirectory,
        list_of_not_directory alsoLocated fun isOther => isDirectory (same.mpr isOther)]

/-- The metadata of anything but the file stay as they are. -/
theorem metadata_eq (differs : disk.DiffersAt location other) {root : String}
    (apart : ∀ node, disk.locate false (below root path) ≠ .ok (location, node)) :
    other.metadata root path = disk.metadata root path := by
  rcases differs.locate_cases false (below root path) with
    ⟨fault, located, alsoLocated⟩ | ⟨there, node, alsoNode, located, alsoLocated, same, _⟩
  · rw [metadata, metadata, located, alsoLocated]
  · rw [metadata, metadata, located, alsoLocated, same fun here => apart node (here ▸ located)]

end DiffersAt

/-! ## Writing to a file -/

/-- What is reached by one more name, if anything. -/
def goOn? (disk : Disk) (here : Location) (name : String) : Option Location :=
  match disk.walk true mostLinks here [name] with
  | .ok (there, _) => some there
  | .error _ => none

/-- Where the file is that is written to under a path, if it is there already. -/
def fileAt? (disk : Disk) (path : String) : Option Location :=
  let names := (names (zeroTerminated path)).filter fun name => !isSelf name
  names.getLast?.bind fun name =>
    (names.dropLast.foldlM (goOn? disk) []).bind fun here =>
      match disk.walk true mostLinks here [name] with
      | .ok (there, .file ..) => some there
      | _ => none

/-- Directories that are all there are not made. -/
theorem foldl_enter {names : List String} (entered : names.foldlM (goOn? disk) here = some location) :
    names.foldl enter (disk, here) = (disk, location) := by
  induction names generalizing here with
  | nil =>
      cases entered
      rfl
  | cons name rest ih =>
      obtain ⟨there, first, later⟩ := Option.bind_eq_some_iff.mp entered
      have step : enter (disk, here) name = (disk, there) := by
        unfold goOn? at first
        split at first
        · rename_i walked
          cases first
          simp only [enter, walked]
        · cases first
      rw [List.foldl_cons, step, ih later]

/-- Such a file is where the last name leads from where the others lead. -/
theorem of_fileAt? (placed : disk.fileAt? path = some location) :
    ∃ name here text size modified,
      ((names (zeroTerminated path)).filter fun name => !isSelf name).getLast? = some name ∧
      ((names (zeroTerminated path)).filter fun name => !isSelf name).dropLast.foldlM (goOn? disk) [] = some here ∧
      disk.walk true mostLinks here [name] = .ok (location, .file text size modified) := by
  unfold fileAt? at placed
  obtain ⟨name, last, placed⟩ := Option.bind_eq_some_iff.mp placed
  obtain ⟨here, entered, placed⟩ := Option.bind_eq_some_iff.mp placed
  split at placed
  · rename_i walked
    cases placed
    exact ⟨name, here, _, _, _, last, entered, walked⟩
  · cases placed

theorem put_of_fileAt? (placed : disk.fileAt? path = some location) (node : Node) :
    disk.put path node = disk.set location node := by
  obtain ⟨name, here, text, size, modified, last, entered, walked⟩ := of_fileAt? placed
  unfold put
  dsimp only
  rw [last]
  dsimp only
  rw [foldl_enter entered]
  dsimp only
  rw [walked]

namespace DiffersAt

theorem goOn?_eq (differs : disk.DiffersAt location other) : goOn? other = goOn? disk := by
  funext here name
  rw [goOn?, goOn?, differs.walk_eq]
  cases disk.walk true mostLinks here [name] <;> rfl

theorem fileAt?_eq (differs : disk.DiffersAt location other) (path : String) :
    other.fileAt? path = disk.fileAt? path := by
  have last (here : Location) (name : String) :
      (match other.walk true mostLinks here [name] with
        | .ok (there, .file ..) => some there
        | _ => none) =
      match disk.walk true mostLinks here [name] with
        | .ok (there, .file ..) => some there
        | _ => none := by
    rw [differs.walk_eq]
    cases walked : disk.walk true mostLinks here [name] with
    | error fault => rfl
    | ok found =>
        obtain ⟨there, node⟩ := found
        obtain ⟨alsoNode, alsoPresent, same | ⟨⟨_, _, _, rfl⟩, _, _, _, rfl⟩⟩ :=
          differs.exists_node? (node?_of_walk walked)
        · rw [Except.map, alsoPresent, same]
          rfl
        · rw [Except.map, alsoPresent]
          rfl
  unfold fileAt?
  simp only [differs.goOn?_eq, last]

protected theorem refl (isFile : ∃ text size modified, disk.node? location = some (.file text size modified)) :
    disk.DiffersAt location disk := ⟨rfl, isFile, isFile⟩

theorem set (differs : disk.DiffersAt location other) (text : String) (size : Nat) (modified : Option Int) :
    disk.DiffersAt location (other.set location (.file text size modified)) where
  elsewhere := by
    rw [Disk.set, List.filter_append, List.filter_filter, differs.elsewhere]
    simp
  isFile := differs.isFile
  isOtherFile := by
    obtain ⟨_, _, _, isFile⟩ := differs.isOtherFile
    have inside : isAbove location = false := by
      by_contra above
      rw [node?, if_pos (by simpa using above)] at isFile
      cases isFile
    refine ⟨text, size, modified, ?_⟩
    have gone : (other.nodes.filter fun entry => entry.1 != location).lookup location = none :=
      List.lookup_eq_none_iff.mpr fun entry present => bne_comm.trans (List.mem_filter.mp present).2
    rw [node?, inside, Disk.set, List.lookup_append, gone]
    simp

/-- A text that is written to the file makes no difference elsewhere. -/
theorem write (differs : disk.DiffersAt location other) (placed : disk.fileAt? path = some location)
    (text : String) : disk.DiffersAt location (other.write path text) := by
  rw [Disk.write, put_of_fileAt? (differs.fileAt?_eq path ▸ placed)]
  exact differs.set _ _ _

theorem append (differs : disk.DiffersAt location other) (placed : disk.fileAt? path = some location)
    (text : String) : disk.DiffersAt location (other.append path text) := by
  unfold Disk.append
  split
  · exact differs.write placed _
  · exact differs.write placed _

end DiffersAt

/-! ## Traversals -/

/-- Whether a traversal of a root comes upon a file: it lists the directory that the file is in, or reads it. -/
def ComesUpon (disk : Disk) (root : String) (location : Location) : Prop :=
  (∃ path, (Discovery.Source.ofFileSystem (disk.view root)).Reaches path ∧
      disk.locate true (below root path) = .ok (location.dropLast, .directory)) ∨
    ∃ path node, (Discovery.Source.ofFileSystem (disk.view root)).ReachesFile path ∧
      disk.locate false (below root path) = .ok (location, node)

/-- What a traversal does not come upon makes no difference to it. -/
theorem DiffersAt.alike (differs : disk.DiffersAt location other) {root : String}
    (apart : ¬ disk.ComesUpon root location) :
    (Discovery.Source.ofFileSystem (disk.view root)).Alike (.ofFileSystem (other.view root)) := by
  constructor
  · intro directory reached
    have same : other.list root directory = disk.list root directory :=
      differs.list_eq fun located => apart (.inl ⟨directory, reached, located⟩)
    simp only [Discovery.Source.ofFileSystem, view, same]
  · intro path reached
    have same : other.metadata root path = disk.metadata root path :=
      differs.metadata_eq fun node located => apart (.inr ⟨path, node, reached, located⟩)
    simp only [Discovery.Source.ofFileSystem, view, same]

end Courier.Disk
