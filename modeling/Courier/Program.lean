import Courier.CommandLine
import Courier.Configuration
import Courier.Discovery.Call
import Courier.Journal
import Courier.Network

/-!
# The program

The command line asks either for the files below some directories, of which a
plan is made and summed up, or for a server that accepts sessions until it is
interrupted. The journal is opened first. Every failure is told in one line and
makes the exit status one.
-/

namespace Courier

/-- What the program takes from outside, apart from its arguments and its disk. -/
structure Environment extends Surroundings where
  /-- What the system has for threads. -/
  host : Discovery.Host
  /-- The time that discovery took, in milliseconds. -/
  elapsed : String
  /-- What random values are derived from. -/
  seed : Octets := []

inductive ProgramError where
  | configuration (error : ConfigurationError)
  | noRoot
  | discovery (error : Discovery.CallError)
  | argument (error : ArgumentError)
  | endless
  | planning (error : PlanningError)
  | listening (address : String) (port : UInt16)
  deriving DecidableEq, Repr

/-- What is told of a failure; `activity` is told where the cause does not say what failed. -/
def ProgramError.message (activity : String) : ProgramError → String
  | configuration (.unreadable fault) =>
      activity ++ " failed: " ++ zeroTerminated (ConfigurationError.unreadable fault).message
  | configuration error => zeroTerminated error.message
  | noRoot => "No root directory given"
  | discovery (.discovery error) => zeroTerminated error.message
  | discovery error => activity ++ " failed: " ++ error.message
  | argument error => activity ++ " failed: " ++ error.message
  | endless => activity ++ " failed: too many steps"
  | planning error => error.message
  | listening address port => "Failed to listen on " ++ address ++ ":" ++ toString port.toNat

/-- What a run leaves: the exit status, what was printed, what was complained of, and the journal with
the disk. -/
structure Report where
  status : Nat
  output : String := ""
  complaints : String := ""
  journal : Journal

namespace Program

/-- What an activity comes to, and the journal that was kept. -/
abbrev Logged (Result : Type) := Except ProgramError Result × Journal

/-- The configuration in the file that the options name, or the default one. -/
def configure (options : Options) (journal : Journal) : Logged Configuration :=
  if options.configFile.isEmpty then (.ok {}, journal)
  else
    let journal := journal.record .debug ("Config: Reading " ++ options.configFile)
    match Configuration.load journal.disk options.configFile with
    | .error error => (.error (.configuration error), journal)
    | .ok configuration =>
        (.ok configuration,
          journal.record .info ("Config: Loaded " ++ options.configFile ++ " (" ++
            toString configuration.roots.length ++ " roots, " ++
            toString configuration.discovery.workers ++ " discovery workers)"))

/-! ## Discovery -/

/-- The journal once a traversal of a root has begun. -/
def scanning (discovery : Discovery.Settings) (journal : Journal) (root : String) : Journal :=
  journal.record .info
    ("File discovery: Scanning " ++ root ++ " with " ++ toString discovery.workers ++ " workers")

/-- The journal once a traversal of a root has found files. -/
def scanned (files : List File) (journal : Journal) (root : String) : Journal :=
  ((journal.record .debug "Discovery queue: Traversal complete").record .info
    ("File discovery: Finished scanning " ++ root)).record .debug
    ("File discovery: Collected " ++ toString files.length ++ " files")

/-- The files that a traversal of a root finds. What is written to the journal before that is seen by it. -/
def scanRoot (host : Discovery.Host) (discovery : Discovery.Settings) (journal : Journal) (root : String) :
    Logged (List File) :=
  let journal := scanning discovery journal root
  match Discovery.survey host (journal.disk.view root) discovery Discovery.Settings.defaultCapacity
    journal.disk.limit with
  | .error error => (.error (.argument error), journal)
  | .ok none => (.error .endless, journal)
  | .ok (some (mishaps, gathered)) =>
      let journal := mishaps.foldl (fun journal mishap => journal.record .error mishap.record) journal
      match gathered with
      | .error error => (.error (.discovery error), journal)
      | .ok files => (.ok files, scanned files journal root)

/-- The files below one root. -/
def discoverRoot (host : Discovery.Host) (discovery : Discovery.Settings) (journal : Journal) (root : String) :
    Logged (List File) :=
  let journal := journal.record .info ("Local filesystem: Using root " ++ root)
  match journal.disk.rooted root, host.spawned? with
  | .error error, _ =>
      (.error (.discovery (.discovery error)),
        journal.record .error ("Local filesystem: Root is not a directory: " ++ root))
  | .ok _, none => (.error (.discovery .unstarted), journal)
  | .ok _, some host => scanRoot host discovery journal root

/-- The files below some roots, one root after the other. -/
def discover (host : Discovery.Host) (discovery : Discovery.Settings) :
    List String → Journal → Logged (List File)
  | [], journal => (.ok [], journal)
  | root :: rest, journal =>
      match discoverRoot host discovery journal root with
      | (.error error, journal) => (.error error, journal)
      | (.ok found, journal) =>
          match discover host discovery rest journal with
          | (.error error, journal) => (.error error, journal)
          | (.ok more, journal) => (.ok (found ++ more), journal)

/-- The directories to discover files in: one that the options name replaces the configured ones. -/
def rootsOf (options : Options) (configuration : Configuration) : List String :=
  if options.root.isEmpty then configuration.roots else [options.root]

/-- The line that tells how many files there are. -/
def countLine (environment : Environment) (files : List File) : String :=
  "Discovered " ++ toString files.length ++ " files in " ++ environment.elapsed ++ "ms\n"

/-- The lines that sum a plan up. -/
def planLines (plan : Plan) : String :=
  "Small files:        " ++ toString plan.small.length ++ "\n" ++
  "Single-chunk files: " ++ toString plan.singleChunk.length ++ "\n" ++
  "Large files:        " ++ toString plan.large.length ++ "\n" ++
  "Total size:         " ++ toString plan.totalSize.toNat ++ " bytes\n"

/-- The record of a plan. -/
def planRecord (plan : Plan) : String :=
  "Transfer plan: " ++ toString plan.small.length ++ " small, " ++ toString plan.singleChunk.length ++
    " single-chunk, " ++ toString plan.large.length ++ " large"

def failed (activity : String) (error : ProgramError) (journal : Journal) : Report :=
  { status := 1, complaints := CommandLine.complain (error.message activity), journal }

/-- Makes a plan of files and sums it up. -/
def runPlanning (environment : Environment) (thresholds : Thresholds) (files : List File) (journal : Journal) :
    Report :=
  match Plan.create files thresholds with
  | .error error => { failed "Discovery" (.planning error) journal with output := countLine environment files }
  | .ok plan =>
      { status := 0
        output := countLine environment files ++ planLines plan
        journal := journal.record .info (planRecord plan) }

/-- Finds files and makes a plan of them. -/
def runDiscovery (environment : Environment) (options : Options) (journal : Journal) : Report :=
  match configure options journal with
  | (.error error, journal) => failed "Discovery" error journal
  | (.ok configuration, journal) =>
      let roots := rootsOf options configuration
      if roots.isEmpty then failed "Discovery" .noRoot journal
      else
        match discover environment.host configuration.discovery roots journal with
        | (.error error, journal) => failed "Discovery" error journal
        | (.ok files, journal) => runPlanning environment configuration.thresholds files journal

/-! ## Serving -/

/-- Accepts sessions until the program is interrupted, which happens at once. -/
def runServer (environment : Environment) (options : Options) (journal : Journal) : Report :=
  match configure options journal with
  | (.error error, journal) => failed "Server" error journal
  | (.ok configuration, journal) =>
      let empty : Network := { suite := .standard, seed := environment.seed }
      let (index, network) := empty.addServer configuration.address configuration.port configuration.policy
      match network.start index with
      | (false, _) =>
          failed "Server" (.listening configuration.address configuration.port)
            (journal.record .error ("Server: Failed to start server on " ++ configuration.address))
      | (true, network) =>
          let port := ((network.servers[index]?).map fun server => server.boundPort.toNat).getD 0
          let network := network.shutdown index
          let left := ((network.servers[index]?).map fun server => server.registry.size).getD 0
          let place := Address.withPort configuration.address port
          { status := 0
            output := "Listening on " ++ place ++ "\n"
            journal :=
              (journal.record .info ("Server: Server started successfully on " ++ place)).record .info
                ("Server: Server shutdown complete, " ++ toString left ++ " sessions left") }

/-! ## The whole program -/

/-- Opens the journal that the options ask for, or tells why that is impossible. -/
def openJournal (options : Options) (journal : Journal) : Except String Unit × Journal :=
  match Severity.parse options.logLevel with
  | .error error => (.error (CommandLine.complain error.message ++ CommandLine.usage), journal)
  | .ok level =>
      if options.logFile == "-" then (.ok (), journal.toConsole level)
      else
        match journal.toFile options.logFile level with
        | (.ok (), journal) => (.ok (), journal)
        | (.error error, journal) =>
            (.error ("Failed to initialize logging: " ++ error.message ++ "\n" ++
              CommandLine.complain ("Failed to open log file: " ++ error.message)), journal)

/-- Runs the program on a disk. -/
def run (environment : Environment) (disk : Disk) (arguments : List String) : Report :=
  let journal : Journal := { surroundings := environment.toSurroundings, disk }
  match CommandLine.read arguments with
  | (_, some error) => { status := 1, complaints := CommandLine.refusal error, journal }
  | (options, none) =>
      match openJournal options journal with
      | (.error complaints, journal) => { status := 1, complaints, journal }
      | (.ok (), journal) =>
          if options.serve then runServer environment options journal
          else runDiscovery environment options journal

end Program

end Courier
