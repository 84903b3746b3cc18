/-!
# The frontier of a traversal

The directories that were found and not yet visited, with the number of those
that are not yet done with. A directory counts from before it is queued until
its visitor completes it, so the traversal is over exactly when the count falls
to zero. The count is a machine word and wraps.
-/

namespace Courier

structure Frontier where
  pending : List String
  outstanding : UInt64
  aborted : Bool := false
  deriving DecidableEq

namespace Frontier

/-- The frontier before the visit of the root. -/
def ofRoot (root : String) : Frontier := { pending := [root], outstanding := 1 }

/-- Counts a directory that is about to be queued. -/
def count (frontier : Frontier) : Frontier := { frontier with outstanding := frontier.outstanding + 1 }

/-- Queues a directory that has been counted. -/
def enqueue (frontier : Frontier) (path : String) : Frontier :=
  { frontier with pending := frontier.pending ++ [path] }

def push (frontier : Frontier) (path : String) : Frontier := frontier.count.enqueue path

/-- Takes the next directory, or finds that there is none to come; nothing if the visitor has to wait. -/
def pop? (frontier : Frontier) : Option (Option String × Frontier) :=
  if frontier.aborted then some (none, frontier)
  else
    match frontier.pending with
    | path :: rest => some (some path, { frontier with pending := rest })
    | [] => if frontier.outstanding = 0 then some (none, frontier) else none

/-- One directory is done with. -/
def complete (frontier : Frontier) : Frontier :=
  { frontier with outstanding := frontier.outstanding - 1 }

/-- Ends the traversal at once. -/
def abort (frontier : Frontier) : Frontier := { frontier with aborted := true }

end Frontier

end Courier
