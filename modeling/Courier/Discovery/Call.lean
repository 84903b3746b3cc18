import Courier.Discovery

/-!
# Calls of discovery

Who calls for a traversal makes room for the workers and starts them, waits until
every one has exited, closes the output and returns, or throws what the first
failure came to. Gathering all files is a call on one thread while another receives
batches until none can come any more. A schedule says in which order the workers,
the consumer and the caller step.
-/

namespace Courier.Discovery

/-! ## Workers to begin with -/

/-- What the system has for threads. -/
structure Host where
  /-- How many threads there is memory to list. -/
  memory : Nat
  /-- How many threads are started before one is refused. -/
  threads : Nat

/-- Why there is no list for the workers. -/
inductive CrewError where
  | tooMany
  | noMemory
  deriving DecidableEq, Repr

def CrewError.message : CrewError → String
  | tooMany => "vector::reserve"
  | noMemory => "std::bad_alloc"

/-- What is thrown where a thread is refused. -/
def Host.refusal : Fault := .foreign "Resource temporarily unavailable"

/-- How a worker begins: it is to take a directory, or to put on record that not all workers were started. -/
def Worker.Begins (worker : Worker) : Prop := worker = .popping ∨ worker = .recording ⟨none, Host.refusal⟩

namespace Host

/-- What is left once a thread was started, if it can be. -/
def spawned? (host : Host) : Option Host :=
  match host.threads with
  | 0 => none
  | threads + 1 => some { host with threads }

theorem threads_of_spawned? {host left : Host} (spawned : host.spawned? = some left) :
    host.threads = left.threads + 1 := by
  obtain ⟨memory, _ | threads⟩ := host <;> cases spawned
  rfl

/-- How many threads a list can hold, however much memory there is. -/
def mostListed : Nat := 1152921504606846975

/-- The workers of a pool. Where not all of them can be started, the caller has to put that on record and to end
the traversal, as a worker does with a failure. -/
def crew (host : Host) (workers : Nat) : List Worker :=
  if workers ≤ host.threads then List.replicate workers .popping
  else .recording ⟨none, refusal⟩ :: List.replicate host.threads .popping

/-- The workers, unless they cannot even be listed. -/
def muster (host : Host) (workers : Nat) : Except CrewError (List Worker) :=
  if mostListed < workers then .error .tooMany
  else if host.memory < workers then .error .noMemory
  else .ok (host.crew workers)

/-- Whether there is a list for so many workers. -/
def Lists (host : Host) (workers : Nat) : Prop := workers ≤ mostListed ∧ workers ≤ host.memory

instance (host : Host) (workers : Nat) : Decidable (host.Lists workers) := inferInstanceAs (Decidable (_ ∧ _))

/-- Whether there is a list for so many workers, and a thread for each of them. -/
def Starts (host : Host) (workers : Nat) : Prop := host.Lists workers ∧ workers ≤ host.threads

instance (host : Host) (workers : Nat) : Decidable (host.Starts workers) := inferInstanceAs (Decidable (_ ∧ _))

theorem muster_of_lists {host : Host} {workers : Nat} (lists : host.Lists workers) :
    host.muster workers = .ok (host.crew workers) := by
  rw [muster, if_neg (Nat.not_lt_of_le lists.1), if_neg (Nat.not_lt_of_le lists.2)]

/-- Without a list there is no crew. -/
theorem exists_muster_eq_error {host : Host} {workers : Nat} (unlisted : ¬ host.Lists workers) :
    ∃ error, host.muster workers = .error error := by
  by_cases many : mostListed < workers
  · exact ⟨.tooMany, by rw [muster, if_pos many]⟩
  · have scarce : host.memory < workers :=
      Nat.lt_of_not_le fun enough => unlisted ⟨Nat.le_of_not_lt many, enough⟩
    exact ⟨.noMemory, by rw [muster, if_neg many, if_pos scarce]⟩

theorem begins_of_mem_crew {host : Host} {workers : Nat} {worker : Worker}
    (present : worker ∈ host.crew workers) : worker.Begins := by
  unfold crew at present
  split at present
  · exact .inl (List.eq_of_mem_replicate present)
  · exact (List.mem_cons.mp present).symm.imp_left List.eq_of_mem_replicate

/-- There is somebody in every crew that is asked for. -/
theorem exists_mem_crew (host : Host) {workers : Nat} (positive : 0 < workers) :
    ∃ worker, worker ∈ host.crew workers := by
  unfold crew
  split
  · exact ⟨.popping, List.mem_replicate.mpr ⟨Nat.ne_of_gt positive, rfl⟩⟩
  · exact ⟨_, List.mem_cons_self⟩

end Host

/-! ## Calls -/

/-- What a call throws, or who makes the call: its own thread may be refused as well. -/
inductive CallError where
  | discovery (error : DiscoveryError)
  | unmanned (error : CrewError)
  | unstarted
  deriving DecidableEq, Repr

def CallError.message : CallError → String
  | discovery error => error.message
  | unmanned error => error.message
  | unstarted => Host.refusal.message

/-- What a call throws on account of a fault. -/
def Fault.thrown (fault : Fault) : CallError := .discovery fault.toError

/-- A pool at work, and what the call for it has come to, once it has returned. -/
structure Call where
  pool : Pool
  outcome : Option (Except CallError Unit) := none

namespace Call

/-- A call that cannot list its workers throws at once, and leaves the output as it is. -/
def start (host : Host) (settings : Settings) (output : BoundedChannel Batch) : Call :=
  match host.muster settings.workers with
  | .error error => ⟨.start [] output, some (.error (.unmanned error))⟩
  | .ok crew => ⟨.start crew output, none⟩

theorem start_of_lists {host : Host} {settings : Settings} (lists : host.Lists settings.workers)
    (output : BoundedChannel Batch) :
    start host settings output = ⟨.start (host.crew settings.workers) output, none⟩ := by
  rw [start, Host.muster_of_lists lists]

theorem exists_start_of_not_lists {host : Host} {settings : Settings} (unlisted : ¬ host.Lists settings.workers)
    (output : BoundedChannel Batch) :
    ∃ error, start host settings output = ⟨.start [] output, some (.error (.unmanned error))⟩ := by
  obtain ⟨error, refused⟩ := Host.exists_muster_eq_error unlisted
  exact ⟨error, by rw [start, refused]⟩

/-- However it starts, nobody has done anything yet. -/
theorem exists_crew (host : Host) (settings : Settings) (output : BoundedChannel Batch) :
    ∃ crew, (start host settings output).pool = .start crew output ∧ ∀ worker ∈ crew, worker.Begins := by
  by_cases lists : host.Lists settings.workers
  · exact ⟨_, by rw [start_of_lists lists], fun _ => Host.begins_of_mem_crew⟩
  · obtain ⟨_, same⟩ := exists_start_of_not_lists lists output
    exact ⟨[], by rw [same], fun _ never => absurd never List.not_mem_nil⟩

/-- What takes a step: a worker or the consumer, or the caller, who returns. -/
inductive Action where
  | pool (action : Pool.Action)
  | conclude
  deriving DecidableEq

/-- What a call comes to, by the first failure. -/
def verdict : Option Fault → Except CallError Unit
  | none => .ok ()
  | some fault => .error fault.thrown

/-- One step, if it is possible. -/
def step? (source : Source) (call : Call) : Action → Option Call
  | .pool action => (call.pool.step? source action).map fun pool => { call with pool }
  | .conclude =>
      if call.outcome.isNone && call.pool.isDone then
        some ⟨{ call.pool with output := call.pool.output.close }, some (verdict call.pool.failure)⟩
      else none

/-- The steps of a schedule, if all of them are possible. -/
def run? (source : Source) (call : Call) (schedule : List Action) : Option Call :=
  schedule.foldlM (step? source) call

/-- What gathering comes to, once the call has returned and the consumer finds the output drained. -/
def gathered? (call : Call) : Option (Except CallError (List File)) :=
  match call.outcome, call.pool.output.receive? with
  | some outcome, some (none, _) => some (outcome.map fun _ => call.pool.received.flatten)
  | _, _ => none

/-- What a step records as a failure of the traversal. -/
def recorded? (call : Call) : Action → Option Fault
  | .pool (.work index) =>
      match call.pool.workers[index]? with
      | some (.recording mishap) => some mishap.fault
      | _ => none
  | _ => none

/-- What the steps of a schedule record, in their order. -/
def recorded (source : Source) : Call → List Action → List Fault
  | _, [] => []
  | call, action :: rest =>
      (call.recorded? action).toList ++
        match call.step? source action with
        | none => []
        | some next => recorded source next rest

/-- Lets a call go on until it has returned and all that was sent is received; nothing if its workers take more
than `limit` rounds. -/
def finish? (source : Source) (closeAfter : Option Nat) (limit : Nat) (call : Call) : Option Call :=
  match call.outcome with
  | some _ => some call
  | none =>
      (call.pool.run source closeAfter limit).map fun pool => ⟨pool.finish, some (verdict pool.failure)⟩

end Call

/-! ## Traversals -/

/-- What a traversal comes to: the batches received, what was thrown, if anything was, and whether the output is
closed. -/
structure Result where
  batches : List Batch
  failure : Option CallError
  closed : Bool
  deriving DecidableEq

/-- What a call that has returned comes to. -/
def Call.result (call : Call) : Result where
  batches := call.pool.received
  failure :=
    match call.outcome with
    | some (.error error) => some error
    | _ => none
  closed := call.pool.output.closed

/-- Traverses a file system into a channel while a consumer receives. Nothing if the traversal takes
more than `limit` rounds. -/
def traverse (host : Host) (source : Source) (settings : Settings) (output : BoundedChannel Batch)
    (closeAfter : Option Nat) (limit : Nat) : Option Result :=
  ((Call.start host settings output).finish? source closeAfter limit).map Call.result

/-- Traverses a file system and gathers all its files, with all that went wrong on the way. Nothing if the output
stays open, for then the consumer waits for ever. -/
def survey (host : Host) (source : Source) (settings : Settings) (capacity limit : Nat) :
    Except ArgumentError (Option (List Mishap × Except CallError (List File))) := do
  let output ← BoundedChannel.ofCapacity capacity
  pure (((Call.start host settings output).finish? source none limit).bind fun call =>
    call.gathered?.map fun gathered => (call.pool.mishaps, gathered))

/-- Traverses a file system and gathers all its files. The traversal has a thread of its own. -/
def collect (host : Host) (source : Source) (settings : Settings) (capacity limit : Nat) :
    Except ArgumentError (Option (Except CallError (List File))) := do
  let output ← BoundedChannel.ofCapacity capacity
  match host.spawned? with
  | none => pure (some (.error .unstarted))
  | some host =>
      pure (((Call.start host settings output).finish? source none limit).bind Call.gathered?)

end Courier.Discovery
