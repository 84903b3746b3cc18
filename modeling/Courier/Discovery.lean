import Courier.BoundedChannel
import Courier.Discovery.Frontier
import Courier.FileSystem
import Courier.ZeroTerminated

/-!
# Discovery of files

A pool of workers visits the directories of a file system. Each takes a
directory from the frontier, lists it, queues the directories in it, reads the
metadata of the files in it and sends these as one batch. The first failure ends
the traversal. What a worker does between two moments at which others can see it
is one step, and a schedule is a sequence of steps of workers and consumer.
-/

namespace Courier

/-- The files of one directory. -/
abbrev Batch := List File

namespace Discovery

/-- What is thrown at a worker: an error of discovery, or something else, of which only the text is known. -/
inductive Fault where
  | known (error : DiscoveryError)
  | foreign (text : String)
  deriving DecidableEq, Repr

/-- The error that discovery ends with after a fault. -/
def Fault.toError : Fault → DiscoveryError
  | known error => error
  | foreign text => .foreign text

/-- What is told of a fault. -/
def Fault.message : Fault → String
  | known error => error.message
  | foreign text => text

/-- A fault with the directory that a worker was at; without one, no worker could be started. -/
structure Mishap where
  directory : Option String
  fault : Fault
  deriving DecidableEq, Repr

/-- The record of a mishap. -/
def Mishap.record : Mishap → String
  | ⟨some directory, fault⟩ =>
      "File discovery: Aborting at '" ++ directory ++ "': " ++ zeroTerminated fault.message
  | ⟨none, fault⟩ => "File discovery: Failed to start worker: " ++ zeroTerminated fault.message

/-- What discovery works on. A file system promises to throw nothing but errors of discovery, and discovery
does not rely on that. -/
structure Source where
  list : String → Except Fault (List Entry)
  metadata : String → Except Fault File

/-- A file system that keeps its promise. -/
def Source.ofFileSystem (system : FileSystem) : Source where
  list path := (system.list path).mapError .known
  metadata path := (system.metadata path).mapError .known

instance : Coe FileSystem Source := ⟨Source.ofFileSystem⟩

/-- What a worker does next. -/
inductive Worker where
  | popping
  | listing (directory : String)
  | scanning (directory : String) (entries : List Entry) (batch : Batch)
  | queueing (directory path : String) (entries : List Entry) (batch : Batch)
  | sending (batch : Batch)
  | completing
  | recording (mishap : Mishap)
  | aborting (failed : Bool)
  | closing
  | exited
  deriving DecidableEq

/-- The pool: what the workers share, the workers, and what the consumer has received. -/
structure Pool where
  frontier : Frontier
  output : BoundedChannel Batch
  /-- The first fault that was put on record. -/
  failure : Option Fault := none
  /-- All that went wrong, as the journal has it. -/
  mishaps : List Mishap := []
  workers : List Worker
  received : List Batch := []

/-- The pool before the first step of its workers. -/
def Pool.start (crew : List Worker) (output : BoundedChannel Batch) : Pool :=
  { frontier := .ofRoot "", output, workers := crew }

namespace Pool

/-- Whether every worker has exited. -/
def isDone (pool : Pool) : Bool := pool.workers.all (· == .exited)

def place (pool : Pool) (index : Nat) (worker : Worker) : Pool :=
  { pool with workers := pool.workers.set index worker }

/-- What a worker makes of the entries that are left of a directory: a directory is counted and will be
queued, a file is read, and at the end the batch is sent. -/
def scan (source : Source) (pool : Pool) (index : Nat) (directory : String) (entries : List Entry)
    (batch : Batch) : Pool :=
  match entries with
  | [] => pool.place index (.sending batch)
  | entry :: rest =>
      if entry.isDirectory then
        { pool with frontier := pool.frontier.count }.place index (.queueing directory entry.path rest batch)
      else
        match source.metadata entry.path with
        | .ok file => pool.place index (.scanning directory rest (batch ++ [file]))
        | .error fault => pool.place index (.recording ⟨some directory, fault⟩)

/-- The next step of the worker at `index`, which is `worker`; nothing if it has to wait or has exited. -/
def advance? (source : Source) (pool : Pool) (index : Nat) (worker : Worker) : Option Pool :=
  match worker with
  | .popping =>
      pool.frontier.pop?.map fun popped =>
        let pool := { pool with frontier := popped.2 }
        match popped.1 with
        | some directory => pool.place index (.listing directory)
        | none => pool.place index .exited
  | .listing directory =>
      match source.list directory with
      | .ok entries => some (pool.place index (.scanning directory entries []))
      | .error fault => some (pool.place index (.recording ⟨some directory, fault⟩))
  | .scanning directory entries batch => some (pool.scan source index directory entries batch)
  | .queueing directory path entries batch =>
      some ({ pool with frontier := pool.frontier.enqueue path }.place index (.scanning directory entries batch))
  | .sending batch =>
      (pool.output.send? batch).map fun sent =>
        let pool := { pool with output := sent.2 }
        if sent.1 then pool.place index .completing else pool.place index (.aborting false)
  | .completing => some ({ pool with frontier := pool.frontier.complete }.place index .popping)
  | .recording mishap =>
      some ({ pool with
        failure := pool.failure <|> some mishap.fault
        mishaps := pool.mishaps ++ [mishap] }.place index (.aborting true))
  | .aborting failed =>
      some ({ pool with frontier := pool.frontier.abort }.place index
        (if failed then .closing else .exited))
  | .closing => some ({ pool with output := pool.output.close }.place index .exited)
  | .exited => none

/-- What takes a step. -/
inductive Action where
  | work (index : Nat)
  | receive
  | closeOutput
  deriving DecidableEq

/-- One step, if it is possible. -/
def step? (source : Source) (pool : Pool) : Action → Option Pool
  | .work index => pool.workers[index]?.bind fun worker => pool.advance? source index worker
  | .receive =>
      match pool.output.receive? with
      | some (some batch, output) => some { pool with output, received := pool.received ++ [batch] }
      | _ => none
  | .closeOutput => some { pool with output := pool.output.close }

/-- One turn for each worker, and whether any of them could use it. -/
def turn (source : Source) (pool : Pool) : Bool × Pool :=
  (List.range pool.workers.length).foldl
    (fun reached index =>
      match reached.2.step? source (.work index) with
      | some pool => (true, pool)
      | none => reached)
    (false, pool)

/-- Turns for the workers until none of them can use one, at most a number. -/
def work (source : Source) : Nat → Pool → Pool
  | 0, pool => pool
  | turns + 1, pool =>
      match pool.turn source with
      | (true, pool) => work source turns pool
      | (false, pool) => pool

/-- How many turns the workers have before each turn of the consumer. -/
def lead : Nat := 64

/-- Some turns for the workers and one for the consumer, who closes the channel for good on receiving its
batch number `closeAfter`. -/
def round (source : Source) (closeAfter : Option Nat) (pool : Pool) : Pool :=
  let worked := pool.work source lead
  match worked.step? source .receive with
  | none => worked
  | some received =>
      if closeAfter = some received.received.length then (received.step? source .closeOutput).getD received
      else received

/-- Rounds until every worker has exited; nothing if that takes more than `limit` rounds. -/
def run (source : Source) (closeAfter : Option Nat) : Nat → Pool → Option Pool
  | 0, pool => if pool.isDone then some pool else none
  | limit + 1, pool =>
      if pool.isDone then some pool else run source closeAfter limit (pool.round source closeAfter)

/-- What is left to receive once every worker has exited and the output is closed. -/
def finish (pool : Pool) : Pool :=
  { pool with
    output := { pool.output with queue := [], closed := true }
    received := pool.received ++ pool.output.queue }

end Pool

/-- What discovery is run with. -/
structure Settings where
  workers : Nat
  positive : 0 < workers
  deriving DecidableEq

def Settings.defaultWorkers : Nat := 16

theorem Settings.defaultWorkers_positive : 0 < defaultWorkers := by decide

def Settings.defaultCapacity : Nat := 16

/-- Settings for a file system that has to be there and a number of workers that must not be zero. -/
def Settings.of? (present : Bool) (workers : Nat) : Except ArgumentError Settings :=
  if present then
    if positive : 0 < workers then .ok ⟨workers, positive⟩ else .error .workers
  else .error .fileSystem

end Discovery

end Courier
