/-!
# File systems

What the discovery of files needs of a file system: to list a directory and to
read the metadata of a file, both by a path relative to the root, with `/`
between the names and the empty path for the root.
-/

namespace Courier

/-- A file, as discovery reports it. Times are nanoseconds since 1970, where they are known. -/
structure File where
  path : String
  created : Option Int := none
  modified : Option Int := none
  size : UInt64 := 0
  deriving DecidableEq, Repr

/-- An entry of a directory. -/
structure Entry where
  path : String
  isDirectory : Bool
  deriving DecidableEq, Repr

/-- Why the operating system refused a path. -/
inductive PathFault where
  | absent
  | notDirectory
  | isDirectory
  | tooLong
  | tooManyLinks
  deriving DecidableEq, Repr

def PathFault.message : PathFault → String
  | absent => "No such file or directory"
  | notDirectory => "Not a directory"
  | isDirectory => "Is a directory"
  | tooLong => "File name too long"
  | tooManyLinks => "Too many levels of symbolic links"

inductive DiscoveryError where
  | injected (path : String)
  | noDirectory (path : String)
  | noFile (path : String)
  | rootNotDirectory (root : String)
  | unlistable (path : String) (fault : PathFault)
  | unreadable (path : String) (fault : PathFault)
  /-- Something that is no error of discovery was thrown, and told this. -/
  | foreign (text : String)
  deriving DecidableEq, Repr

namespace DiscoveryError

def reason : DiscoveryError → String
  | injected path => "injected failure on " ++ path
  | noDirectory path => "no such directory: " ++ path
  | noFile path => "no such file: " ++ path
  | rootNotDirectory root => "root is not a directory: " ++ root
  | unlistable path fault => "cannot list " ++ path ++ ": " ++ fault.message
  | unreadable path fault => "cannot read metadata of " ++ path ++ ": " ++ fault.message
  | foreign text => text

def message (error : DiscoveryError) : String := "Discovery failed: " ++ error.reason

end DiscoveryError

structure FileSystem where
  root : String
  list : String → Except DiscoveryError (List Entry)
  metadata : String → Except DiscoveryError File

/-- The path of a name in a directory. -/
def joinPath (parent name : String) : String := if parent.isEmpty then name else parent ++ "/" ++ name

end Courier
