import Courier.FileSystem
import Courier.ZeroTerminated

/-!
# Disks

A tree of directories, files and links, as seen from one directory in it, the
current one; nothing else is in the directories above that. Paths are walked
name by name: links on the way are followed, a link at the end only if the walk
is told to. `rooted` is the file system below a directory; it never follows the
links that it finds there.
-/

namespace Courier

/-- The names that lead from the current directory to a location; for one above it, as many times two points
as it is above. -/
abbrev Location := List String

/-- What stands at a location. A file has a size of its own: a shorter text goes on with zeros, a longer one
is cut off. -/
inductive Node where
  | directory
  | file (text : String) (size : Nat) (modified : Option Int)
  | link (target : String)
  deriving DecidableEq, Repr

namespace Node

/-- The size that a directory has as a file. -/
def directorySize : Nat := 4096

/-- The size as a file; that of a link is the length of its target. -/
def size : Node → Nat
  | directory => directorySize
  | file _ size _ => size
  | link target => target.utf8ByteSize

def modified? : Node → Option Int
  | file _ _ modified => modified
  | _ => none

end Node

structure Disk where
  nodes : List (Location × Node) := []
  deriving DecidableEq

namespace Disk

/-- The greatest length of one name, in bytes. -/
def longestName : Nat := 255

/-- The greatest length of a path, in bytes. -/
def longestPath : Nat := 4095

/-- How many links one walk follows. -/
def mostLinks : Nat := 40

/-- Whether a location is the current directory or above it. -/
def isAbove (location : Location) : Bool := location.all (· == "..")

def node? (disk : Disk) (location : Location) : Option Node :=
  if isAbove location then some .directory else disk.nodes.lookup location

/-! ## Paths -/

def isAbsolute (path : String) : Bool := path.toList.head? == some '/'

/-- The names in a path; an empty one stands for the directory that it is reached in. -/
def names (path : String) : List String := path.splitOn "/"

/-- Whether a name stands for the directory that it is reached in. -/
def isSelf (name : String) : Bool := name == "" || name == "."

/-- The location above another. -/
def parent (location : Location) : Location :=
  if isAbove location then location ++ [".."] else location.dropLast

/-- Walks along some names. A link among them is replaced by the names of its target. -/
def walk (disk : Disk) (follow : Bool) (links : Nat) (here : Location) (names : List String) :
    Except PathFault (Location × Node) :=
  match disk.node? here, names with
  | none, _ => .error .absent
  | some node, [] => .ok (here, node)
  | some .directory, name :: rest =>
      if isSelf name then walk disk follow links here rest
      else if name == ".." then walk disk follow links (parent here) rest
      else if longestName < name.utf8ByteSize then .error .tooLong
      else
        match disk.node? (here ++ [name]) with
        | none => .error .absent
        | some (.link target) =>
            if rest.isEmpty && !follow then .ok (here ++ [name], .link target)
            else
              match links with
              | 0 => .error .tooManyLinks
              | links + 1 =>
                  if isAbsolute target then .error .absent
                  else walk disk follow links here (Disk.names target ++ rest)
        | some _ => walk disk follow links (here ++ [name]) rest
  | some _, _ :: _ => .error .notDirectory
termination_by (links, names.length)

/-- The location that a path leads to, and what stands there. Nothing is known of absolute paths. -/
def locate (disk : Disk) (follow : Bool) (path : String) : Except PathFault (Location × Node) :=
  let path := zeroTerminated path
  if path.isEmpty then .error .absent
  else if longestPath < path.utf8ByteSize then .error .tooLong
  else if isAbsolute path then .error .absent
  else disk.walk follow mostLinks [] (names path)

/-- The path of something below a directory. An absolute path is not below it. -/
def below (directory path : String) : String :=
  if path.isEmpty then directory
  else if isAbsolute path then path
  else if directory.isEmpty || directory.toList.getLast? == some '/' then directory ++ path
  else directory ++ "/" ++ path

/-! ## Changes -/

/-- Puts a node at a location, instead of what was there. -/
def set (disk : Disk) (location : Location) (node : Node) : Disk :=
  { nodes := disk.nodes.filter (fun entry => entry.1 != location) ++ [(location, node)] }

/-- Goes on by one name towards a location where something is to be put; a directory that is missing is
made. -/
def enter (reached : Disk × Location) (name : String) : Disk × Location :=
  let (disk, here) := reached
  match disk.walk true mostLinks here [name] with
  | .ok (location, _) => (disk, location)
  | .error _ => (disk.set (here ++ [name]) .directory, here ++ [name])

/-- Puts a node where a path leads, and makes the directories on the way that are missing. A directory
stays what it is, and a link that leads somewhere is followed. -/
def put (disk : Disk) (path : String) (node : Node) : Disk :=
  let names := (names (zeroTerminated path)).filter fun name => !isSelf name
  match names.getLast? with
  | none => disk
  | some name =>
      let (made, here) := names.dropLast.foldl enter (disk, [])
      match made.walk true mostLinks here [name] with
      | .ok (_, .directory) => made
      | .ok (location, _) => made.set location node
      | .error _ => made.set (here ++ [name]) node

/-- Writes a text to a file, which is emptied before if it exists. -/
def write (disk : Disk) (path text : String) : Disk := disk.put path (.file text text.utf8ByteSize none)

/-- The characters that fit into a number of bytes; one that is cut apart is unreadable. -/
def fitting : Nat → List Char → List Char
  | _, [] => []
  | 0, _ => []
  | room + 1, c :: rest =>
      if c.utf8Size ≤ room + 1 then c :: fitting (room + 1 - c.utf8Size) rest else ['\ufffd']
termination_by _ text => text.length

/-- The text of a file of a size. Of the zeros after a text that is too short one is shown. -/
def contents (text : String) (size : Nat) : String :=
  if text.utf8ByteSize < size then text ++ "\x00" else String.ofList (fitting size text.toList)

/-- The text of the file that a path leads to. -/
def read (disk : Disk) (path : String) : Except PathFault String :=
  match disk.locate true path with
  | .error fault => .error fault
  | .ok (_, .file text size _) => .ok (contents text size)
  | .ok _ => .error .isDirectory

/-- Writes a text at the end of a file, which is made if it does not exist. -/
def append (disk : Disk) (path text : String) : Disk :=
  match disk.read path with
  | .ok before => disk.write path (before ++ text)
  | .error _ => disk.write path text

/-! ## Below a directory -/

/-- The names in the directory at a location, with what they stand for. -/
def inside (disk : Disk) (location : Location) : List (String × Node) :=
  disk.nodes.filterMap fun entry =>
    match entry.1.getLast? with
    | some name => if entry.1.dropLast = location then some (name, entry.2) else none
    | none => none

/-- The entries of a directory below a root. Only a directory itself counts as one, not a link to it. -/
def list (disk : Disk) (root path : String) : Except DiscoveryError (List Entry) :=
  match disk.locate true (below root path) with
  | .error fault => .error (.unlistable (below root path) fault)
  | .ok (location, .directory) =>
      .ok ((disk.inside location).map fun found => ⟨joinPath path found.1, found.2 == .directory⟩)
  | .ok _ => .error (.unlistable (below root path) .notDirectory)

def metadata (disk : Disk) (root path : String) : Except DiscoveryError File :=
  match disk.locate false (below root path) with
  | .error fault => .error (.unreadable (below root path) fault)
  | .ok (_, node) =>
      .ok { path, modified := node.modified?, size := UInt64.ofNat node.size }

/-- What is seen of the disk below a root. -/
def view (disk : Disk) (root : String) : FileSystem := ⟨root, disk.list root, disk.metadata root⟩

/-- The file system below a root, which has to be a directory or lead to one. -/
def rooted (disk : Disk) (root : String) : Except DiscoveryError FileSystem :=
  match disk.locate true root with
  | .ok (_, .directory) => .ok (disk.view root)
  | _ => .error (.rootNotDirectory root)

/-- More rounds than a traversal of this disk takes. -/
def limit (disk : Disk) : Nat := 32 * (disk.nodes.length + 1)

end Disk

end Courier
