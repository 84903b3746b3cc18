import Courier.Proofs.Discovery.Ledger

/-!
# What discovery comes to

Over every schedule of workers, consumer and caller, a call that has returned has
either delivered every directory of the tree or recorded a failure: one of the tree,
or that a worker could not be started. Where all workers are started, which batches
are sent and whether there is a failure thus depends on the tree alone, and so does,
but for the order, what is gathered from the batches.
-/

namespace Courier.Discovery

variable {source : Source} {pool next : Pool} {index : Nat} {worker : Worker}

/-! ## Invariants of the pool -/

namespace Worker

/-- Whether a worker has recorded a failure, or found the output closed. -/
def HasFailed : Worker → Prop
  | aborting _ | closing => True
  | _ => False

end Worker

namespace Pool

/-- While directories are pending and the traversal goes on, somebody is there to take them; and nobody closes
the output before the traversal was aborted. -/
structure IsAttended (pool : Pool) : Prop where
  attended : pool.frontier.aborted = true ∨ pool.frontier.pending = [] ∨
    ∃ worker ∈ pool.workers, worker ≠ .exited
  closing : .closing ∈ pool.workers → pool.frontier.aborted = true

/-- A failure is on record before anybody ends the traversal on its account. -/
structure IsAccountable (pool : Pool) : Prop where
  aborted : pool.frontier.aborted = true → pool.failure.isSome
  failed : ∀ worker ∈ pool.workers, worker.HasFailed → pool.failure.isSome

theorem isAttended_turn (attended : pool.IsAttended) (found : pool.workers[index]? = some worker)
    (turn : Turn source pool index worker next) : next.IsAttended := by
  have within := (List.getElem?_eq_some_iff.mp found).1
  -- a worker that goes on attends to whatever is pending
  have goesOn {frontier : Frontier} {output : BoundedChannel Batch} {failure : Option Fault}
      {mishaps : List Mishap} {received : List Batch} {successor : Worker}
      (still : frontier.aborted = pool.frontier.aborted) (working : successor ≠ .exited)
      (stays : successor ≠ .closing) :
      ({ frontier, output, failure, mishaps, workers := pool.workers.set index successor, received } :
        Pool).IsAttended := by
    refine ⟨.inr (.inr ⟨successor, List.mem_set within _, working⟩), fun present => ?_⟩
    rcases List.mem_or_eq_of_mem_set present with before | same
    · exact still.trans (attended.closing before)
    · exact absurd same.symm stays
  cases turn with
  | leaves finished =>
      refine ⟨finished.imp_right fun nothing => .inl nothing.1, fun present => attended.closing ?_⟩
      exact (List.mem_or_eq_of_mem_set present).resolve_right nofun
  | aborts => exact ⟨.inl rfl, fun _ => rfl⟩
  | closes =>
      have aborted := attended.closing (List.mem_of_getElem? found)
      exact ⟨.inl aborted, fun _ => aborted⟩
  | takes | lists | failsToList | counts | reads | failsToRead | scanned | enqueues | delivers | refused
  | completes | records => exact goesOn rfl nofun nofun

theorem isAccountable_turn (accountable : pool.IsAccountable)
    (closed : pool.output.closed = true → pool.failure.isSome) (found : pool.workers[index]? = some worker)
    (turn : Turn source pool index worker next) :
    next.IsAccountable ∧ (next.output.closed = true → next.failure.isSome) := by
  have failed (fails : worker.HasFailed) : pool.failure.isSome :=
    accountable.failed worker (List.mem_of_getElem? found) fails
  -- nothing has to be on record for a worker that merely goes on
  have goesOn {frontier : Frontier} {output : BoundedChannel Batch} {received : List Batch} {successor : Worker}
      (still : frontier.aborted = true → pool.failure.isSome) (open' : output.closed = true → pool.failure.isSome)
      (fails : successor.HasFailed → pool.failure.isSome) :
      ({ pool with frontier, output, workers := pool.workers.set index successor, received } : Pool).IsAccountable ∧
        (output.closed = true → pool.failure.isSome) := by
    refine ⟨⟨still, fun other present => ?_⟩, open'⟩
    rcases List.mem_or_eq_of_mem_set present with before | rfl
    · exact accountable.failed other before
    · exact fails
  cases turn with
  | records =>
      rename_i mishap
      have recorded : (pool.failure <|> some mishap.fault).isSome := by cases pool.failure <;> rfl
      exact ⟨⟨fun _ => recorded, fun _ _ _ => recorded⟩, fun _ => recorded⟩
  | refused isClosed => exact goesOn accountable.aborted closed fun _ => closed isClosed
  | aborts => exact goesOn (fun _ => failed trivial) closed fun _ => failed trivial
  | closes => exact goesOn accountable.aborted (fun _ => failed trivial) fun never => never.elim
  | takes | leaves | lists | failsToList | counts | reads | failsToRead | scanned | enqueues | delivers
  | completes => exact goesOn accountable.aborted closed fun never => never.elim

end Pool

/-! ## Workers that were not started -/

/-- Whether a worker is about to put on record that not all were started. -/
def Worker.refusals : Worker → Nat
  | recording mishap => mishap.directory.isNone.toNat
  | _ => 0

/-- How often that is on record, or about to be. -/
def Pool.refusals (pool : Pool) : Nat :=
  (pool.workers.map Worker.refusals).sum + pool.mishaps.countP fun mishap => mishap.directory.isNone

/-- No worker comes to that while it works. -/
theorem Pool.refusals_turn (found : pool.workers[index]? = some worker)
    (turn : Turn source pool index worker next) : next.refusals = pool.refusals := by
  -- one worker goes on, and what was told of it by then is told on record
  have goesOn {frontier : Frontier} {output : BoundedChannel Batch} {failure : Option Fault}
      {mishaps : List Mishap} {received : List Batch} {successor : Worker}
      (told : successor.refusals + mishaps.countP (fun mishap => mishap.directory.isNone) =
        worker.refusals + pool.mishaps.countP fun mishap => mishap.directory.isNone) :
      ({ frontier, output, failure, mishaps, workers := pool.workers.set index successor, received } :
        Pool).refusals = pool.refusals := by
    have sums := sum_map_set Worker.refusals found successor
    simp only [refusals]
    omega
  cases turn with
  | records =>
      rename_i mishap
      refine goesOn ?_
      rw [List.countP_append, List.countP_singleton]
      cases absent : mishap.directory.isNone <;> simp [Worker.refusals, absent, Nat.add_comm]
  | aborts =>
      rename_i failed
      refine goesOn ?_
      cases failed <;> rfl
  | takes | leaves | lists | failsToList | counts | reads | failsToRead | scanned | enqueues | delivers | refused
  | completes | closes => exact goesOn rfl

theorem Pool.refusals_start (host : Host) (workers : Nat) (output : BoundedChannel Batch) :
    (start (host.crew workers) output).refusals = if workers ≤ host.threads then 0 else 1 := by
  rw [start, refusals, Host.crew]
  split
  · simp [Worker.refusals]
  · simp [Worker.refusals]

/-! ## Runs of a call -/

namespace Call

variable {call next final : Call} {schedule : List Action}

/-- A call that has returned has told the first failure, and left neither a worker nor an open output. -/
def IsSettled (call : Call) : Prop :=
  ∀ outcome, call.outcome = some outcome →
    outcome = verdict call.pool.failure ∧ call.pool.isDone = true ∧ call.pool.output.closed = true

theorem isSettled_step? {action : Action} (settled : call.IsSettled)
    (stepped : call.step? source action = some next) : next.IsSettled := by
  rcases step?_eq_some_iff.mp stepped with ⟨poolAction, pool, _, moved, rfl⟩ | ⟨_, _, done, rfl⟩
  · intro outcome returned
    obtain ⟨told, done, closed⟩ := settled outcome returned
    cases poolAction with
    | work index =>
        rw [Pool.step?_work_of_isDone source done] at moved
        cases moved
    | receive =>
        obtain ⟨batch, rest, _, rfl⟩ := Pool.step?_receive_eq_some_iff.mp moved
        exact ⟨told, done, closed⟩
    | closeOutput =>
        cases moved
        exact ⟨told, done, rfl⟩
  · rintro outcome ⟨⟩
    exact ⟨rfl, done, rfl⟩

theorem isSettled_of_run? {host : Host} {settings : Settings} {output : BoundedChannel Batch}
    (lists : host.Lists settings.workers) (ran : (start host settings output).run? source schedule = some final) :
    final.IsSettled := by
  rw [start_of_lists lists] at ran
  exact run?_induction (fun _ _ _ _ settled stepped => isSettled_step? settled stepped)
    (fun _ returned => by cases returned) ran

theorem refusals_of_run? (ran : call.run? source schedule = some final) :
    final.pool.refusals = call.pool.refusals := by
  refine run?_induction (motive := fun later => later.pool.refusals = call.pool.refusals) ?_ rfl ran
  intro before action next _ same stepped
  rcases step?_eq_some_iff.mp stepped with ⟨poolAction, pool, _, moved, rfl⟩ | ⟨_, _, _, rfl⟩
  · cases poolAction with
    | work index =>
        obtain ⟨worker, found, turn⟩ := Pool.exists_turn_of_step? moved
        exact (Pool.refusals_turn found turn).trans same
    | receive =>
        obtain ⟨batch, rest, _, rfl⟩ := Pool.step?_receive_eq_some_iff.mp moved
        exact same
    | closeOutput =>
        cases moved
        exact same
  · exact same

/-- How a call stands whose consumer never closes the output. -/
structure IsOrderly (call : Call) : Prop where
  attended : call.pool.IsAttended
  accountable : call.pool.IsAccountable
  closed : call.outcome = none → call.pool.output.closed = true → call.pool.failure.isSome
  settled : call.IsSettled

theorem isOrderly_start {host : Host} {settings : Settings} (lists : host.Lists settings.workers)
    {output : BoundedChannel Batch} (accepting : output.closed = false) :
    (start host settings output).IsOrderly := by
  rw [start_of_lists lists]
  refine ⟨⟨.inr (.inr ?_), fun present => ?_⟩, ⟨fun aborted => (by cases aborted), ?_⟩, fun _ closed => ?_,
    fun _ returned => (by cases returned)⟩
  · obtain ⟨worker, present⟩ := host.exists_mem_crew settings.positive
    refine ⟨worker, present, ?_⟩
    rcases Host.begins_of_mem_crew present with rfl | rfl <;> exact nofun
  · rcases Host.begins_of_mem_crew present with same | same <;> cases same
  · intro worker present fails
    rcases Host.begins_of_mem_crew present with rfl | rfl <;> exact fails.elim
  · cases accepting.symm.trans closed

theorem isOrderly_step? {action : Action} (orderly : call.IsOrderly) (patient : action ≠ .pool .closeOutput)
    (stepped : call.step? source action = some next) : next.IsOrderly := by
  have settled := isSettled_step? orderly.settled stepped
  rcases step?_eq_some_iff.mp stepped with ⟨poolAction, pool, rfl, moved, rfl⟩ | ⟨_, _, _, rfl⟩
  · cases poolAction with
    | work index =>
        obtain ⟨worker, found, turn⟩ := Pool.exists_turn_of_step? moved
        have going : call.outcome = none := by
          cases returned : call.outcome with
          | none => rfl
          | some outcome =>
              rw [Pool.step?_work_of_isDone source (orderly.settled outcome returned).2.1] at moved
              cases moved
        obtain ⟨accountable, closed⟩ := Pool.isAccountable_turn orderly.accountable (orderly.closed going) found turn
        exact ⟨Pool.isAttended_turn orderly.attended found turn, accountable, fun _ => closed, settled⟩
    | receive =>
        obtain ⟨batch, rest, _, rfl⟩ := Pool.step?_receive_eq_some_iff.mp moved
        exact ⟨⟨orderly.attended.attended, orderly.attended.closing⟩,
          ⟨orderly.accountable.aborted, orderly.accountable.failed⟩, orderly.closed, settled⟩
    | closeOutput => exact absurd rfl patient
  · exact ⟨⟨orderly.attended.attended, orderly.attended.closing⟩,
      ⟨orderly.accountable.aborted, orderly.accountable.failed⟩, fun never => (by cases never), settled⟩

end Call

/-! ## Every directory -/

/-- A traversal that is over and was not aborted has delivered what it visited, which is the root and all that
this lists. -/
theorem Ledger.Agrees.of_isDone {ledger : Ledger} (agrees : ledger.Agrees source pool)
    (attended : pool.IsAttended) (done : pool.isDone = true) (going : pool.frontier.aborted = false) :
    ledger.visited = ledger.delivered ∧ ledger.delivered.Perm ("" :: ledger.delivered.flatMap source.below) := by
  have aborted : pool.frontier.aborted ≠ true := by simp [going]
  have exited (worker : Worker) (present : worker ∈ pool.workers) : worker = .exited := by
    simpa using List.all_eq_true.mp done worker present
  have untroubled : ¬ pool.IsTroubled := by
    rintro (stopped | ⟨worker, present, failing⟩)
    · exact aborted stopped
    · rw [exited worker present] at failing
      exact failing
  obtain ⟨dropped, lost⟩ := agrees.intact.resolve_left untroubled
  -- nobody is at a directory any more
  have idle (post : Post) (present : post ∈ ledger.crew) : post = ⟨.exited, none⟩ := by
    have left : post.worker = .exited :=
      exited post.worker (agrees.manned ▸ List.mem_map_of_mem present)
    have sound := agrees.sound post present
    obtain ⟨worker, directory⟩ := post
    cases left
    cases sound
    rfl
  have visited : ledger.visited = ledger.delivered := by
    have nowhere : ledger.crew.flatMap (fun post => post.directory.toList) = [] :=
      List.flatMap_eq_nil_iff.mpr fun post present => by rw [idle post present]; rfl
    rw [Ledger.visited, nowhere, dropped, List.nil_append, List.append_nil]
  have ahead : ledger.ahead source = [] :=
    List.flatMap_eq_nil_iff.mpr fun post present => by rw [idle post present]; rfl
  have pending : pool.frontier.pending = [] := by
    rcases attended.attended.resolve_left aborted with empty | ⟨worker, present, working⟩
    · exact empty
    · exact absurd (exited worker present) working
  have conserved := agrees.conserved
  rw [pending, ahead, lost, visited, List.nil_append, List.nil_append, List.nil_append] at conserved
  exact ⟨visited, conserved⟩

/-- On a tree that is every directory. -/
theorem Ledger.Balances.delivered_perm {tree : Tree source} {ledger : Ledger} (balances : ledger.Balances tree pool)
    (attended : pool.IsAttended) (done : pool.isDone = true) (going : pool.frontier.aborted = false) :
    ledger.delivered.Perm tree.directories := by
  obtain ⟨visited, conserved⟩ := balances.toAgrees.of_isDone attended done going
  have all : ∀ path ∈ tree.directories, path ∈ ledger.delivered :=
    tree.mem_of_closed (conserved.mem_iff.mpr List.mem_cons_self) fun directory visited path listed =>
      conserved.mem_iff.mpr (List.mem_cons_of_mem _ (List.mem_flatMap.mpr ⟨directory, visited, listed⟩))
  have covered := balances.covered
  rw [visited] at covered
  have unvisited : ledger.unvisited = [] := by
    rw [List.eq_nil_iff_forall_not_mem]
    intro path left
    have distinct := List.disjoint_of_nodup_append (covered.nodup_iff.mpr tree.directories_nodup)
    exact distinct (all path (covered.mem_iff.mp (List.mem_append_right _ left))) left
  rwa [unvisited, List.append_nil] at covered

/-- The files of batches are what is read of the files in their directories. -/
theorem map_ok_flatten {batches : List Batch} {directories : List String}
    (sent : batches.map .ok = directories.map source.batch?) :
    batches.flatten.map .ok = (directories.flatMap source.filesIn).map source.metadata := by
  induction directories generalizing batches with
  | nil =>
      cases List.map_eq_nil_iff.mp sent
      rfl
  | cons directory rest ih =>
      cases batches with
      | nil => cases sent
      | cons batch others =>
          rw [List.map_cons, List.map_cons, List.cons.injEq] at sent
          simp only [List.flatten_cons, List.flatMap_cons, List.map_append]
          rw [ih sent.2, Source.map_ok_of_batch? sent.1.symm]

/-- A host with room for so many workers, and a thread for each. -/
def Host.roomy (workers : Nat) : Host := ⟨workers, workers⟩

namespace Call

variable {call next final : Call} {schedule : List Action} {host : Host} {settings : Settings}
  {output : BoundedChannel Batch} {capacity : Nat}

theorem of_ofCapacity (fresh : BoundedChannel.ofCapacity capacity = .ok output) :
    output.queue = [] ∧ output.closed = false := by
  unfold BoundedChannel.ofCapacity at fresh
  split at fresh <;> cases fresh
  exact ⟨rfl, rfl⟩

/-- A run with a patient consumer is orderly. -/
theorem isOrderly_of_run? (lists : host.Lists settings.workers)
    (fresh : BoundedChannel.ofCapacity capacity = .ok output) (patient : .pool .closeOutput ∉ schedule)
    (ran : (start host settings output).run? source schedule = some final) : final.IsOrderly := by
  refine run?_induction (fun _ action _ taken orderly stepped => isOrderly_step? orderly ?_ stepped)
    (isOrderly_start lists (of_ofCapacity fresh).2) ran
  exact fun closes => patient (closes ▸ taken)

/-- Every run has a ledger. -/
theorem exists_agrees_of_run? (fresh : BoundedChannel.ofCapacity capacity = .ok output)
    (ran : (start host settings output).run? source schedule = some final) :
    ∃ ledger : Ledger, ledger.Agrees source final.pool := by
  obtain ⟨crew, same, begins⟩ := exists_crew host settings output
  obtain ⟨_, agrees⟩ : ∃ ledger : Ledger, ledger.Agrees source (start host settings output).pool := by
    rw [same]
    exact ⟨_, .start source begins output (of_ofCapacity fresh).1 []⟩
  exact agrees.run? ran

/-- On a tree it covers the tree, before and after. -/
theorem exists_ledger (tree : Tree source) (host : Host) (settings : Settings)
    (fresh : BoundedChannel.ofCapacity capacity = .ok output) :
    ∃ ledger : Ledger, ledger.Balances tree (start host settings output).pool := by
  obtain ⟨crew, same, begins⟩ := exists_crew host settings output
  rw [same]
  exact ⟨_, .start tree begins output (of_ofCapacity fresh).1⟩

theorem exists_ledger_of_run? (tree : Tree source) (fresh : BoundedChannel.ofCapacity capacity = .ok output)
    (ran : (start host settings output).run? source schedule = some final) :
    ∃ ledger : Ledger, ledger.Balances tree final.pool := by
  obtain ⟨begun, balanced⟩ := exists_ledger tree host settings fresh
  obtain ⟨ledger, balances, _⟩ := balanced.run? ran
  exact ⟨ledger, balances⟩

/-- Where all workers can be listed, the refusals tell whether all were started. -/
theorem refusals_of_lists (lists : host.Lists settings.workers)
    (ran : (start host settings output).run? source schedule = some final) :
    final.pool.refusals = if settings.workers ≤ host.threads then 0 else 1 := by
  rw [refusals_of_run? ran, start_of_lists lists, Pool.refusals_start]

/-- A call that has returned without a failure was not aborted. -/
theorem IsOrderly.going (orderly : final.IsOrderly) (clean : final.pool.failure = none) :
    final.pool.frontier.aborted = false := by
  cases aborted : final.pool.frontier.aborted with
  | false => rfl
  | true =>
      have recorded := orderly.accountable.aborted aborted
      rw [clean] at recorded
      cases recorded

/-- Once a call has returned without a failure, every directory was delivered. -/
theorem IsOrderly.delivered_perm (orderly : final.IsOrderly) {tree : Tree source} {ledger : Ledger}
    (balances : ledger.Balances tree final.pool) {outcome : Except CallError Unit}
    (returned : final.outcome = some outcome) (clean : final.pool.failure = none) :
    ledger.delivered.Perm tree.directories :=
  balances.delivered_perm orderly.attended (orderly.settled outcome returned).2.1 (orderly.going clean)

/-- A failure on record is one of the tree, or a thread was refused. -/
theorem fails_or_refused {ledger : Ledger} (lists : host.Lists settings.workers)
    (ran : (start host settings output).run? source schedule = some final)
    (agrees : ledger.Agrees source final.pool) {fault : Fault} (recorded : final.pool.failure = some fault) :
    (∃ path, source.Fails path fault) ∨ fault = Host.refusal ∧ host.threads < settings.workers := by
  obtain ⟨first, arises⟩ := agrees.faithful
  rw [first, Option.map_eq_some_iff] at recorded
  obtain ⟨mishap, head, rfl⟩ := recorded
  have present := List.mem_of_mem_head? head
  cases arises mishap present with
  | visiting fails => exact .inl ⟨_, fails⟩
  | starting =>
      refine .inr ⟨rfl, Nat.lt_of_not_le fun enough => ?_⟩
      have none := refusals_of_lists lists ran
      rw [if_pos enough, Pool.refusals, Nat.add_eq_zero_iff, List.countP_eq_zero] at none
      exact none.2 _ present rfl

/-- Once a call has returned, a failure is on record exactly if something in the tree fails or a thread was
refused. -/
theorem IsOrderly.isSome_failure_iff (orderly : final.IsOrderly) (lists : host.Lists settings.workers)
    (ran : (start host settings output).run? source schedule = some final) {tree : Tree source} {ledger : Ledger}
    (balances : ledger.Balances tree final.pool) {outcome : Except CallError Unit}
    (returned : final.outcome = some outcome) :
    final.pool.failure.isSome ↔ (∃ path fault, source.Fails path fault) ∨ host.threads < settings.workers := by
  constructor
  · intro recorded
    obtain ⟨fault, recorded⟩ := Option.isSome_iff_exists.mp recorded
    rcases fails_or_refused lists ran balances.toAgrees recorded with ⟨path, fails⟩ | ⟨_, refused⟩
    · exact .inl ⟨path, fault, fails⟩
    · exact .inr refused
  · rintro (⟨path, fault, fails⟩ | refused)
    · by_contra clean
      rw [Option.not_isSome_iff_eq_none] at clean
      obtain ⟨directory, other, reached, failed⟩ := fails.exists_batch?
      have delivered := (orderly.delivered_perm balances returned clean).mem_iff.mpr
        ((tree.mem_directories directory).mpr reached)
      have complete : source.batch? directory ∈ (final.pool.received ++ final.pool.output.queue).map .ok := by
        rw [balances.sent]
        exact List.mem_map_of_mem delivered
      simp [failed] at complete
    · -- nobody is left who could still be about to record the refusal
      have idle : (final.pool.workers.map Worker.refusals).sum = 0 := by
        rw [List.sum_eq_zero]
        rintro _ listed
        obtain ⟨worker, present, rfl⟩ := List.mem_map.mp listed
        have exited : worker = .exited := by
          simpa using List.all_eq_true.mp (orderly.settled outcome returned).2.1 worker present
        rw [exited]
        rfl
      have one := refusals_of_lists lists ran
      rw [if_neg (Nat.not_le_of_lt refused), Pool.refusals, idle, Nat.zero_add] at one
      have some : final.pool.mishaps ≠ [] := by
        intro none
        simp [none] at one
      rw [balances.faithful.1, Option.isSome_map, List.isSome_head?]
      simpa using some

/-! ## Gathering -/

theorem gathered?_of_drained {outcome : Except CallError Unit} (settled : final.IsSettled)
    (returned : final.outcome = some outcome) (drained : final.pool.output.queue = []) :
    final.gathered? = some (outcome.map fun _ => final.pool.received.flatten) := by
  have closed := (settled outcome returned).2.2
  simp [gathered?, returned, BoundedChannel.receive?, drained, closed]

/-- What was gathered is all that was sent. -/
theorem of_gathered? {gathered : Except CallError (List File)} (found : final.gathered? = some gathered) :
    ∃ outcome, final.outcome = some outcome ∧ final.pool.output.queue = [] ∧
      gathered = outcome.map fun _ => final.pool.received.flatten := by
  unfold gathered? at found
  split at found
  · rename_i outcome output returned ended
    cases found
    refine ⟨outcome, returned, ?_, rfl⟩
    unfold BoundedChannel.receive? at ended
    split at ended
    · cases ended
    · assumption
  · cases found

/-! ## The first failure -/

theorem failure_of_step? {action : Action} (stepped : call.step? source action = some next) :
    next.pool.failure = call.pool.failure.or (call.recorded? action) := by
  rcases step?_eq_some_iff.mp stepped with ⟨poolAction, pool, rfl, moved, rfl⟩ | ⟨rfl, _, _, rfl⟩
  · cases poolAction with
    | work index =>
        obtain ⟨worker, found, turn⟩ := Pool.exists_turn_of_step? moved
        simp only [recorded?, found]
        cases turn with
        | records => exact Option.orElse_eq_or
        | takes | leaves | lists | failsToList | counts | reads | failsToRead | scanned | enqueues | delivers
        | refused | completes | aborts | closes => exact (Option.or_none).symm
    | receive =>
        obtain ⟨batch, rest, _, rfl⟩ := Pool.step?_receive_eq_some_iff.mp moved
        exact (Option.or_none).symm
    | closeOutput =>
        cases moved
        exact (Option.or_none).symm
  · exact (Option.or_none).symm

/-- The failure on record is the first that was recorded. -/
theorem failure_eq_head? (ran : call.run? source schedule = some final) :
    final.pool.failure = call.pool.failure.or (recorded source call schedule).head? := by
  induction schedule generalizing call with
  | nil =>
      cases ran
      exact (Option.or_none).symm
  | cons action rest ih =>
      obtain ⟨next, stepped, ran⟩ := Option.bind_eq_some_iff.mp ran
      rw [ih ran, failure_of_step? stepped, recorded, stepped, Option.or_assoc]
      cases call.recorded? action <;> rfl

/-! ## Trees without failures -/

/-- Where nothing fails and no thread is refused, a call returns without an error. -/
theorem outcome_eq_ok (tree : Tree source) (intact : ∀ path fault, ¬ source.Fails path fault)
    (starts : host.Starts settings.workers) (fresh : BoundedChannel.ofCapacity capacity = .ok output)
    (patient : .pool .closeOutput ∉ schedule)
    (ran : (start host settings output).run? source schedule = some final) {outcome : Except CallError Unit}
    (returned : final.outcome = some outcome) : final.pool.failure = none ∧ outcome = .ok () := by
  have orderly := isOrderly_of_run? starts.1 fresh patient ran
  obtain ⟨ledger, balances⟩ := exists_ledger_of_run? tree fresh ran
  have clean : final.pool.failure = none := by
    rw [← Option.not_isSome_iff_eq_none, orderly.isSome_failure_iff starts.1 ran balances returned]
    rintro (⟨path, fault, fails⟩ | refused)
    · exact intact path fault fails
    · exact Nat.not_le_of_lt refused starts.2
  refine ⟨clean, ?_⟩
  rw [(orderly.settled outcome returned).1, clean]
  rfl

/-- Then every directory is delivered, as its batch. -/
theorem sent_perm (tree : Tree source) (intact : ∀ path fault, ¬ source.Fails path fault)
    (starts : host.Starts settings.workers) (fresh : BoundedChannel.ofCapacity capacity = .ok output)
    (patient : .pool .closeOutput ∉ schedule)
    (ran : (start host settings output).run? source schedule = some final) {outcome : Except CallError Unit}
    (returned : final.outcome = some outcome) :
    ∃ directories : List String, directories.Perm tree.directories ∧
      (final.pool.received ++ final.pool.output.queue).map .ok = directories.map source.batch? := by
  obtain ⟨ledger, balances⟩ := exists_ledger_of_run? tree fresh ran
  have clean := (outcome_eq_ok tree intact starts fresh patient ran returned).1
  exact ⟨ledger.delivered,
    (isOrderly_of_run? starts.1 fresh patient ran).delivered_perm balances returned clean, balances.sent⟩

/-- And what is gathered is what can be read of the files of the tree. -/
theorem gathered_perm (tree : Tree source) (intact : ∀ path fault, ¬ source.Fails path fault)
    (starts : host.Starts settings.workers) (fresh : BoundedChannel.ofCapacity capacity = .ok output)
    (patient : .pool .closeOutput ∉ schedule)
    (ran : (start host settings output).run? source schedule = some final)
    {gathered : Except CallError (List File)} (found : final.gathered? = some gathered) :
    ∃ files, gathered = .ok files ∧ (files.map .ok).Perm (tree.files.map source.metadata) := by
  obtain ⟨outcome, returned, drained, rfl⟩ := of_gathered? found
  obtain ⟨directories, same, sent⟩ := sent_perm tree intact starts fresh patient ran returned
  rw [drained, List.append_nil] at sent
  rw [(outcome_eq_ok tree intact starts fresh patient ran returned).2]
  refine ⟨_, rfl, ?_⟩
  rw [map_ok_flatten sent]
  exact (same.flatMap_right source.filesIn).map source.metadata

/-- Over every schedule with a patient consumer, for any capacity and any number of workers that can all be
started, a call on a tree without failures returns without an error and with the output closed, having sent the
batch of every directory once. What is gathered are all the files of the tree, each once, so that two calls
gather the same files in some order. -/
theorem delivers_each_directory_once (tree : Tree source) (intact : ∀ path fault, ¬ source.Fails path fault)
    (starts : host.Starts settings.workers) (fresh : BoundedChannel.ofCapacity capacity = .ok output)
    (patient : .pool .closeOutput ∉ schedule)
    (ran : (start host settings output).run? source schedule = some final) {outcome : Except CallError Unit}
    (returned : final.outcome = some outcome) :
    outcome = .ok () ∧ final.pool.output.closed = true ∧
      ((final.pool.received ++ final.pool.output.queue).map .ok).Perm (tree.directories.map source.batch?) ∧
      (final.pool.output.queue = [] → (final.gathered?).isSome) ∧
      tree.files.Nodup ∧ (∀ path, path ∈ tree.files ↔ source.ReachesFile path) ∧
      ∀ gathered, final.gathered? = some gathered →
        ∃ files, gathered = .ok files ∧ (files.map .ok).Perm (tree.files.map source.metadata) ∧
          ∀ (otherHost : Host) (otherSettings : Settings) (otherCapacity : Nat)
            (otherOutput : BoundedChannel Batch) (otherSchedule : List Action) (otherFinal : Call)
            (otherGathered : Except CallError (List File)),
            otherHost.Starts otherSettings.workers →
            BoundedChannel.ofCapacity otherCapacity = .ok otherOutput → .pool .closeOutput ∉ otherSchedule →
            (start otherHost otherSettings otherOutput).run? source otherSchedule = some otherFinal →
            otherFinal.gathered? = some otherGathered →
            ∃ otherFiles, otherGathered = .ok otherFiles ∧ files.Perm otherFiles := by
  have settled := isSettled_of_run? starts.1 ran
  obtain ⟨directories, same, sent⟩ := sent_perm tree intact starts fresh patient ran returned
  refine ⟨(outcome_eq_ok tree intact starts fresh patient ran returned).2, (settled outcome returned).2.2,
    sent ▸ same.map source.batch?, fun drained => ?_, tree.files_listed_once, tree.mem_files, ?_⟩
  · rw [gathered?_of_drained settled returned drained]
    rfl
  · intro gathered found
    obtain ⟨files, rfl, all⟩ := gathered_perm tree intact starts fresh patient ran found
    refine ⟨files, rfl, all, ?_⟩
    intro otherHost otherSettings otherCapacity otherOutput otherSchedule otherFinal otherGathered otherStarts
      otherFresh otherPatient otherRan otherFound
    obtain ⟨otherFiles, rfl, otherAll⟩ :=
      gathered_perm tree intact otherStarts otherFresh otherPatient otherRan otherFound
    have injective : Function.Injective (Except.ok : File → Except Fault File) := fun _ _ => Except.ok.inj
    exact ⟨otherFiles, rfl, (List.map_perm_map_iff injective).mp (all.trans otherAll.symm)⟩

theorem not_fails_grove (path : String) (fault : Fault) : ¬ (grove false).Fails path fault := by
  rintro (⟨reached, thrown⟩ | ⟨reached, thrown⟩)
  · have present := (reaches_grove_iff false path).mp reached
    simp only [List.mem_cons, List.not_mem_nil, or_false] at present
    rcases present with rfl | rfl | rfl <;> cases thrown
  · cases thrown

/-- Two workers share the grove, and the batch of a directory comes before that of the one above it. -/
def sharedSchedule : List Action :=
  ([List.replicate 4 (.work 0), List.replicate 4 (.work 1), List.replicate 4 (.work 0),
    [.work 1, .receive, .work 0, .work 0, .work 1, .receive], List.replicate 6 (.work 0),
    [.work 1, .receive]].flatten.map .pool) ++ [.conclude]

theorem delivers_each_directory_once_grove :
    (Host.roomy 2).Starts 2 ∧
    ∃ final, (start (.roomy 2) ⟨2, by decide⟩ ⟨1, [], false, by decide⟩).run? (grove false) sharedSchedule =
        some final ∧
      final.outcome = some (.ok ()) ∧
      final.pool.received = [[{ path := "left/leaf" }], [{ path := "leaf" }], []] ∧
      ((final.pool.received ++ final.pool.output.queue).map .ok).Perm
        ((groveTree false).directories.map (grove false).batch?) := by
  have starts : (Host.roomy 2).Starts 2 := by decide
  have ran : (start (.roomy 2) ⟨2, by decide⟩ ⟨1, [], false, by decide⟩).run? (grove false) sharedSchedule =
    some _ := rfl
  have fresh : BoundedChannel.ofCapacity 1 = .ok (⟨1, [], false, by decide⟩ : BoundedChannel Batch) := rfl
  exact ⟨starts, _, ran, rfl, rfl,
    (delivers_each_directory_once (groveTree false) not_fails_grove starts fresh (by decide) ran rfl).2.2.1⟩

/-- Where the second of two workers gets no thread, the first has nothing left to do. -/
def refusedSchedule : List Action :=
  ([.work 0, .work 0, .work 0, .work 1].map .pool) ++ [.conclude]

/-- A call on a tree without failures fails all the same when a thread is refused; and when there are too many workers
to list, it leaves the output open as well. -/
theorem fails_on_intact_grove :
    (∀ path fault, ¬ (grove false).Fails path fault) ∧ .pool .closeOutput ∉ refusedSchedule ∧
    (∃ final, (start ⟨2, 1⟩ ⟨2, by decide⟩ ⟨1, [], false, by decide⟩).run? (grove false) refusedSchedule =
        some final ∧
      final.outcome = some (.error (.discovery (.foreign "Resource temporarily unavailable"))) ∧
      final.pool.received = [] ∧ final.pool.output.queue = [] ∧ final.pool.output.closed = true) ∧
    ∃ final, (start (.roomy (2 ^ 60)) ⟨2 ^ 60, by decide⟩ ⟨1, [], false, by decide⟩).run? (grove false) [] =
        some final ∧
      final.outcome = some (.error (.unmanned .tooMany)) ∧ final.pool.output.closed = false :=
  ⟨not_fails_grove, by decide, ⟨_, rfl, rfl, rfl, rfl, rfl⟩, ⟨_, rfl, rfl, rfl⟩⟩

/-! ## Trees with failures -/

/-- Over every schedule with a patient consumer, for any capacity and any number of workers that can be listed, all
that is ever received are complete batches of different directories. A call fails exactly if something in the tree
fails or a thread is refused to one of the workers, with the error that the first recorded failure makes, which is
one of these; it returns or fails only after every worker has exited, with the output closed; and after a failure
nothing is gathered but the error. -/
theorem fails_iff_tree_or_start_fails (tree : Tree source) (lists : host.Lists settings.workers)
    (fresh : BoundedChannel.ofCapacity capacity = .ok output) (patient : .pool .closeOutput ∉ schedule)
    (ran : (start host settings output).run? source schedule = some final) :
    (∃ directories : List String, directories.Nodup ∧ (∀ directory ∈ directories, source.Reaches directory) ∧
        final.pool.received.map .ok = directories.map source.batch?) ∧
      ∀ outcome, final.outcome = some outcome →
        ((∃ error, outcome = .error error) ↔
          (∃ path fault, source.Fails path fault) ∨ host.threads < settings.workers) ∧
        (∀ error, outcome = .error error → ∃ fault,
          (recorded source (start host settings output) schedule).head? = some fault ∧ error = fault.thrown ∧
          ((∃ path, source.Fails path fault) ∨ fault = Host.refusal ∧ host.threads < settings.workers)) ∧
        (∀ worker ∈ final.pool.workers, worker = .exited) ∧ final.pool.output.closed = true ∧
        (final.pool.output.queue = [] → (final.gathered?).isSome) ∧
        ∀ error gathered, outcome = .error error → final.gathered? = some gathered → gathered = .error error := by
  have orderly := isOrderly_of_run? lists fresh patient ran
  obtain ⟨ledger, balances⟩ := exists_ledger_of_run? tree fresh ran
  constructor
  · -- what is queued was sent after what has been received
    have sent := balances.sent
    rw [List.map_append] at sent
    have visits : ledger.delivered.Sublist ledger.visited :=
      (List.sublist_append_right _ _).trans (List.sublist_append_left _ _)
    have distinct : ledger.delivered.Nodup :=
      (List.nodup_append.mp (balances.covered.nodup_iff.mpr tree.directories_nodup)).1.sublist visits
    obtain ⟨directories, later, split, received, _⟩ := List.map_eq_append_iff.mp sent.symm
    refine ⟨directories, distinct.sublist (split ▸ List.sublist_append_left _ _), ?_, received.symm⟩
    intro directory visited
    have delivered : directory ∈ ledger.delivered := split ▸ List.mem_append_left _ visited
    rw [← tree.mem_directories, ← balances.covered.mem_iff]
    exact List.mem_append_left _ (visits.subset delivered)
  · intro outcome returned
    obtain ⟨told, done, closed⟩ := orderly.settled outcome returned
    have fails (error : CallError) :
        outcome = .error error ↔ ∃ fault, final.pool.failure = some fault ∧ error = fault.thrown := by
      rw [told]
      cases final.pool.failure <;> simp [verdict, eq_comm]
    refine ⟨?_, ?_, ?_, closed, fun drained => ?_, ?_⟩
    · rw [← orderly.isSome_failure_iff lists ran balances returned, Option.isSome_iff_exists]
      simp only [fails]
      exact ⟨fun ⟨_, fault, recorded, _⟩ => ⟨fault, recorded⟩, fun ⟨fault, recorded⟩ => ⟨_, fault, recorded, rfl⟩⟩
    · intro error failed
      obtain ⟨fault, recorded, same⟩ := (fails error).mp failed
      have first := failure_eq_head? ran
      rw [start_of_lists lists] at first ⊢
      exact ⟨fault, first.symm.trans recorded, same, fails_or_refused lists ran balances.toAgrees recorded⟩
    · intro worker present
      simpa using List.all_eq_true.mp done worker present
    · rw [gathered?_of_drained orderly.settled returned drained]
      rfl
    · rintro error gathered rfl found
      obtain ⟨outcome, again, _, rfl⟩ := of_gathered? found
      cases returned.symm.trans again
      rfl

/-- The second worker fails while the first has yet to send the batch of the root. -/
def brokenSchedule : List Action :=
  ([List.replicate 4 (.work 0), List.replicate 6 (.work 1), List.replicate 6 (.work 0)].flatten.map .pool) ++
    [.conclude]

theorem fails_iff_tree_or_start_fails_grove :
    (Host.roomy 2).Lists 2 ∧
    ∃ final, (start (.roomy 2) ⟨2, by decide⟩ ⟨1, [], false, by decide⟩).run? (grove true) brokenSchedule =
        some final ∧
      final.outcome = some (.error (.discovery (.injected "left/leaf"))) ∧
      final.gathered? = some (.error (.discovery (.injected "left/leaf"))) ∧
      ∃ path fault, (grove true).Fails path fault := by
  have lists : (Host.roomy 2).Lists 2 := by decide
  have ran : (start (.roomy 2) ⟨2, by decide⟩ ⟨1, [], false, by decide⟩).run? (grove true) brokenSchedule =
    some _ := rfl
  have fresh : BoundedChannel.ofCapacity 1 = .ok (⟨1, [], false, by decide⟩ : BoundedChannel Batch) := rfl
  obtain ⟨fails, _⟩ := (fails_iff_tree_or_start_fails (groveTree true) lists fresh (by decide) ran).2 _ rfl
  exact ⟨lists, _, ran, rfl, rfl, (fails.mp ⟨_, rfl⟩).resolve_right (by decide)⟩

/-- Without any thread a call fails, and nothing in the tree has to. -/
theorem fails_without_failing_grove :
    (¬ ∃ path fault, (grove false).Fails path fault) ∧
    ∃ schedule final, .pool .closeOutput ∉ schedule ∧
      (start ⟨1, 0⟩ ⟨1, by decide⟩ ⟨1, [], false, by decide⟩).run? (grove false) schedule = some final ∧
      final.outcome = some (.error (.discovery (.foreign "Resource temporarily unavailable"))) ∧
      final.gathered? = some (.error (.discovery (.foreign "Resource temporarily unavailable"))) :=
  ⟨fun ⟨path, fault, fails⟩ => not_fails_grove path fault fails,
    (List.replicate 3 (.work 0)).map .pool ++ [.conclude], _, by decide, rfl, rfl, rfl⟩

end Call

end Courier.Discovery
