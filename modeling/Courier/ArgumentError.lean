/-!
# Refused arguments

The values that nothing can be built from, and how each is refused.
-/

namespace Courier

inductive ArgumentError where
  | capacity
  | fileSystem
  | workers
  | severity (name : String)
  deriving DecidableEq, Repr

def ArgumentError.message : ArgumentError → String
  | capacity => "BoundedChannel: capacity must be positive"
  | fileSystem => "FileDiscovery: file system must not be null"
  | workers => "FileDiscovery: worker count must be positive"
  | severity name => "Logger: Unknown severity level: " ++ name

end Courier
