import Courier.FileSystem
import Courier.Keyed

/-!
# Trees in memory

A file system built up entry by entry. An added path makes the directories
above it, up to the first that is known. Directories and files are told apart by
tables of their own, so a path may be added as both, and is then listed as a
directory. Paths can be marked to fail.
-/

namespace Courier

structure MemoryTree where
  root : String
  /-- The directories with the names in each. -/
  directories : Keyed (Keyed Unit)
  files : Keyed File := []
  failing : List String := []
  deriving DecidableEq

namespace MemoryTree

/-- The tree with the root directory only. -/
def empty (root : String) : MemoryTree := { root, directories := [("", [])] }

/-- What stands before and after the last slash. -/
def splitLast : List Char → Option (List Char × List Char)
  | [] => none
  | c :: rest =>
      match splitLast rest with
      | some (parent, name) => some (c :: parent, name)
      | none => if c = '/' then some ([], rest) else none

theorem length_of_splitLast {path parent name : List Char} (found : splitLast path = some (parent, name)) :
    parent.length < path.length := by
  induction path generalizing parent name with
  | nil => cases found
  | cons c rest ih =>
      unfold splitLast at found
      split at found
      · rename_i inner
        cases found
        simpa using ih inner
      · split at found
        · cases found
          simp
        · cases found

/-- Adds a name to a directory, which is made if it is not known. -/
def addName (directories : Keyed (Keyed Unit)) (parent name : String) : Keyed (Keyed Unit) :=
  directories.insert parent (((directories.find? parent).getD []).insert name ())

/-- Adds a path to the directory above it, and that directory to the one above, up to one that is known. -/
def addUpwards (directories : Keyed (Keyed Unit)) (path : List Char) : Keyed (Keyed Unit) :=
  match _found : splitLast path with
  | none => addName directories "" (String.ofList path)
  | some (parent, name) =>
      let added := addName directories (String.ofList parent) (String.ofList name)
      if directories.contains (String.ofList parent) || parent.isEmpty then added
      else addUpwards added parent
termination_by path.length
decreasing_by exact length_of_splitLast ‹_›

def addDirectory (tree : MemoryTree) (path : String) : MemoryTree :=
  if path.isEmpty then tree
  else
    let known := if tree.directories.contains path then tree.directories else tree.directories.insert path []
    { tree with directories := addUpwards known path.toList }

def addFile (tree : MemoryTree) (file : File) : MemoryTree :=
  { tree with
    files := tree.files.insert file.path file
    directories := addUpwards tree.directories file.path.toList }

/-- Marks a path: listing it or reading its metadata fails from now on. -/
def failOn (tree : MemoryTree) (path : String) : MemoryTree :=
  { tree with failing := path :: tree.failing }

/-- The failure of a marked path, and otherwise what is found at a path. -/
def unlessFailing {Found : Type} (tree : MemoryTree) (path : String)
    (found : Except DiscoveryError Found) : Except DiscoveryError Found :=
  if tree.failing.contains path then .error (.injected (if path.isEmpty then tree.root else path)) else found

/-- The entries of a directory, in the order of their names. -/
def list (tree : MemoryTree) (path : String) : Except DiscoveryError (List Entry) :=
  tree.unlessFailing path <|
    match tree.directories.find? path with
    | none => .error (.noDirectory path)
    | some names =>
        .ok (names.keys.map fun name =>
          let entry := joinPath path name
          ⟨entry, tree.directories.contains entry⟩)

def metadata (tree : MemoryTree) (path : String) : Except DiscoveryError File :=
  tree.unlessFailing path <|
    match tree.files.find? path with
    | none => .error (.noFile path)
    | some file => .ok file

def toFileSystem (tree : MemoryTree) : FileSystem := ⟨tree.root, tree.list, tree.metadata⟩

/-- The number of directories and of the names in them. -/
def extent (tree : MemoryTree) : Nat :=
  tree.directories.foldl (fun count entry => count + entry.2.length + 1) 0

/-- More rounds than a traversal of this tree takes, if it ends. A root that is found in itself is visited
again at every depth, so all that is there may be visited that often before a failure is reached. -/
def limit (tree : MemoryTree) : Nat := 16 * (tree.extent + 1) * (tree.extent + 1)

end MemoryTree

end Courier
