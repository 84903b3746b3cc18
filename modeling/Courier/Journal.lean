import Courier.FileSystem.Disk
import Courier.Severity

/-!
# Journals

A journal writes records to a file or to the console, one line each, if they get
past its threshold. A file is emptied or made by the first record that is
written to it, not before. Without a sink, records are dropped.
-/

namespace Courier

/-- What a journal takes from its surroundings. -/
structure Surroundings where
  /-- The time, as it stands in front of a line. -/
  stamp : String
  /-- The absolute path of the current directory. -/
  directory : String

/-- Where records go. A file counts as begun once a record was written to it. -/
inductive Sink where
  | console
  | file (path : String) (begun : Bool)
  deriving DecidableEq, Repr

/-- Why a journal cannot be opened. -/
inductive JournalError where
  | noPath
  deriving DecidableEq, Repr

def JournalError.message : JournalError → String
  | noPath => "filesystem error: cannot make absolute path: Invalid argument []"

structure Journal where
  surroundings : Surroundings
  disk : Disk
  sink : Option Sink := none
  threshold : Severity := .trace
  /-- Everything that was written to the console. -/
  console : String := ""

namespace Journal

/-- The line of a record in a file. -/
def fileLine (surroundings : Surroundings) (severity : Severity) (text : String) : String :=
  surroundings.stamp ++ " [" ++ severity.name ++ "] " ++ text ++ "\n"

/-- The line of a record on the console. -/
def consoleLine (severity : Severity) (text : String) : String := "[" ++ severity.name ++ "] " ++ text ++ "\n"

/-- Writes a record, if it gets past the threshold. -/
def record (journal : Journal) (severity : Severity) (text : String) : Journal :=
  if severity.passes journal.threshold then
    match journal.sink with
    | none => journal
    | some .console => { journal with console := journal.console ++ consoleLine severity text }
    | some (.file path begun) =>
        let line := fileLine journal.surroundings severity text
        { journal with
          disk := if begun then journal.disk.append path line else journal.disk.write path line
          sink := some (.file path true) }
  else journal

def setThreshold (journal : Journal) (threshold : Severity) : Journal := { journal with threshold }

def toConsole (journal : Journal) (threshold : Severity) : Journal :=
  { journal with sink := some .console, threshold }

def absolute (surroundings : Surroundings) (path : String) : String :=
  Disk.below surroundings.directory path

/-- Turns to a file and records that. Without a path, what was there before is given up all the same. -/
def toFile (journal : Journal) (path : String) (threshold : Severity) : Except JournalError Unit × Journal :=
  if path.isEmpty then (.error .noPath, { journal with sink := none })
  else
    (.ok (), { journal with sink := some (.file path false), threshold }.record .info
      ("Logger: Logging system initialized with file: " ++ absolute journal.surroundings path))

/-- The lines of a text, each of which ends with a line end. -/
def lines (text : String) : List String :=
  let parts := text.splitOn "\n"
  if parts.getLast? = some "" then parts.dropLast else parts

/-- The lines of a file; none if it cannot be read. -/
def linesOf (journal : Journal) (path : String) : List String :=
  match journal.disk.read path with
  | .ok text => lines text
  | .error _ => []

end Journal

end Courier
