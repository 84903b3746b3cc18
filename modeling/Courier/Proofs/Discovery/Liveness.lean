import Courier.Proofs.Discovery.Outcome

/-!
# Discovery ends

On a finite tree, whatever fails in it, no schedule goes on forever, and none gets
stuck before every worker has exited and the call has returned. That holds also for
a consumer that closes the output at some point; nothing is sent from then on. A
call closes the output itself, unless there was no room to list its workers.
-/

namespace Courier.Discovery

variable {source : Source} {pool next : Pool} {index : Nat} {worker : Worker}

namespace Pool

/-- A closed output stays closed and takes nothing. -/
theorem closed_step? {action : Action} (stepped : pool.step? source action = some next)
    (closed : pool.output.closed = true) :
      next.output.closed = true ∧ next.received ++ next.output.queue = pool.received ++ pool.output.queue := by
  cases action with
  | work index =>
      obtain ⟨worker, found, turn⟩ := exists_turn_of_step? stepped
      cases turn with
      | delivers accepting => cases accepting.symm.trans closed
      | closes => exact ⟨rfl, rfl⟩
      | takes | leaves | lists | failsToList | counts | reads | failsToRead | scanned | enqueues | refused
      | completes | records | aborts => exact ⟨closed, rfl⟩
  | receive =>
      obtain ⟨batch, rest, queued, rfl⟩ := step?_receive_eq_some_iff.mp stepped
      refine ⟨closed, ?_⟩
      rw [queued, List.append_assoc]
      rfl
  | closeOutput =>
      cases stepped
      exact ⟨rfl, rfl⟩

end Pool

namespace Call

variable {call final : Call} {schedule : List Action} {host : Host} {settings : Settings}
  {output : BoundedChannel Batch} {capacity : Nat}

theorem step?_pool_isSome (source : Source) (call : Call) (action : Pool.Action) :
    (call.step? source (.pool action)).isSome = (call.pool.step? source action).isSome := by
  rw [step?, Option.isSome_map]

theorem isCounted_of_run? (ran : (start host settings output).run? source schedule = some final) :
    final.pool.IsCounted := by
  refine run?_induction (motive := fun call => call.pool.IsCounted) ?_ ?_ ran
  · intro call action next _ counted stepped
    rcases step?_eq_some_iff.mp stepped with ⟨poolAction, pool, _, moved, rfl⟩ | ⟨_, _, _, rfl⟩
    · exact Pool.isCounted_step? counted moved
    · exact counted
  · obtain ⟨crew, same, begins⟩ := exists_crew host settings output
    rw [same]
    exact Pool.isCounted_start begins output

/-- Nothing is sent once the output is closed. -/
theorem sent_of_closed (ran : call.run? source schedule = some final) (closed : call.pool.output.closed = true) :
    final.pool.output.closed = true ∧
      final.pool.received ++ final.pool.output.queue = call.pool.received ++ call.pool.output.queue := by
  refine run?_induction
    (motive := fun later => later.pool.output.closed = true ∧
      later.pool.received ++ later.pool.output.queue = call.pool.received ++ call.pool.output.queue)
    ?_ ⟨closed, rfl⟩ ran
  rintro before action next _ ⟨closed, same⟩ stepped
  rcases step?_eq_some_iff.mp stepped with ⟨poolAction, pool, _, moved, rfl⟩ | ⟨_, _, _, rfl⟩
  · obtain ⟨stays, kept⟩ := Pool.closed_step? moved closed
    exact ⟨stays, kept.trans same⟩
  · exact ⟨rfl, same⟩

/-- When only a consumer that has closed the output could still step, the call has returned. -/
theorem returned_of_stuck (counted : call.pool.IsCounted) (settled : call.IsSettled)
    (stuck : ∀ action, action ≠ .pool .closeOutput →
      (action = .pool .receive → call.pool.output.closed = false) → call.step? source action = none) :
    (∀ worker ∈ call.pool.workers, worker = .exited) ∧ call.outcome.isSome ∧
      call.pool.output.closed = true := by
  have done : call.pool.isDone = true := by
    by_contra busy
    rw [Bool.not_eq_true] at busy
    rcases Pool.exists_step?_of_not_isDone source counted busy with ⟨index, moves⟩ | ⟨accepting, receives⟩
    · rw [← step?_pool_isSome, stuck (.pool (.work index)) nofun nofun] at moves
      cases moves
    · rw [← step?_pool_isSome, stuck (.pool .receive) nofun fun _ => accepting] at receives
      cases receives
  have returned : call.outcome.isSome := by
    by_contra going
    rw [Option.not_isSome_iff_eq_none] at going
    have concluded := stuck .conclude nofun nofun
    simp [step?, going, done] at concluded
  obtain ⟨outcome, told⟩ := Option.isSome_iff_exists.mp returned
  refine ⟨fun worker present => ?_, returned, (settled outcome told).2.2⟩
  simpa using List.all_eq_true.mp done worker present

/-- Where a call has ended, nobody is at work and nothing is queued, all that can happen is that the output is
closed. -/
theorem closed_of_step? {next : Call} {action : Action} (nobody : call.pool.workers = [])
    (nothing : call.pool.output.queue = []) (ended : call.outcome.isSome)
    (stepped : call.step? source action = some next) :
    action = .pool .closeOutput ∧ next = { call with pool := { call.pool with output := call.pool.output.close } } := by
  rcases step?_eq_some_iff.mp stepped with ⟨poolAction, pool, rfl, moved, rfl⟩ | ⟨_, going, _⟩
  · cases poolAction with
    | work index =>
        rw [Pool.step?, nobody] at moved
        cases moved
    | receive =>
        obtain ⟨batch, rest, queued, _⟩ := Pool.step?_receive_eq_some_iff.mp moved
        cases nothing.symm.trans queued
    | closeOutput =>
        cases moved
        exact ⟨rfl, rfl⟩
  · rw [going] at ended
    cases ended

theorem closed_of_run? (nobody : call.pool.workers = []) (nothing : call.pool.output.queue = [])
    (ended : call.outcome.isSome) (ran : call.run? source schedule = some final) :
    final.pool.workers = [] ∧ final.outcome.isSome ∧
      (final.pool.output.closed = true ↔ call.pool.output.closed = true ∨ .pool .closeOutput ∈ schedule) := by
  induction schedule generalizing call with
  | nil =>
      cases ran
      exact ⟨nobody, ended, by simp⟩
  | cons action rest ih =>
      obtain ⟨next, stepped, more⟩ := Option.bind_eq_some_iff.mp ran
      obtain ⟨rfl, same⟩ := closed_of_step? nobody nothing ended stepped
      have kept : next.pool.workers = [] ∧ next.pool.output.queue = [] ∧ next.outcome.isSome := by
        rw [same]
        exact ⟨nobody, nothing, ended⟩
      obtain ⟨nobody, ended, closed⟩ := ih kept.1 kept.2.1 kept.2.2 more
      refine ⟨nobody, ended, ?_⟩
      rw [closed, same]
      simp [BoundedChannel.close]

/-- When only a consumer that has closed the output could still step, the output is closed: by the call, which does
so if its workers can be listed, or else by the consumer. -/
theorem closed_iff_of_stuck (fresh : BoundedChannel.ofCapacity capacity = .ok output)
    (ran : (start host settings output).run? source schedule = some final)
    (stuck : ∀ action, action ≠ .pool .closeOutput →
      (action = .pool .receive → final.pool.output.closed = false) → final.step? source action = none) :
    (∀ worker ∈ final.pool.workers, worker = .exited) ∧ final.outcome.isSome ∧
      (final.pool.output.closed = true ↔ host.Lists settings.workers ∨ .pool .closeOutput ∈ schedule) := by
  by_cases lists : host.Lists settings.workers
  · obtain ⟨exited, returned, closed⟩ :=
      returned_of_stuck (isCounted_of_run? ran) (isSettled_of_run? lists ran) stuck
    exact ⟨exited, returned, by simp [closed, lists]⟩
  · obtain ⟨error, same⟩ := exists_start_of_not_lists lists output
    obtain ⟨empty, accepting⟩ := of_ofCapacity fresh
    rw [same] at ran
    obtain ⟨nobody, ended, closed⟩ := closed_of_run? rfl empty rfl ran
    refine ⟨fun worker present => absurd (nobody ▸ present) List.not_mem_nil, ended, ?_⟩
    rw [closed, Pool.start, accepting]
    simp [lists]

/-- On a tree a schedule is longer than a fixed bound only by the steps that close the output. -/
theorem exists_length_le (tree : Tree source) (host : Host) (settings : Settings)
    (fresh : BoundedChannel.ofCapacity capacity = .ok output) :
    ∃ bound, ∀ schedule call, (start host settings output).run? source schedule = some call →
      schedule.length ≤ bound + schedule.count (.pool .closeOutput) := by
  obtain ⟨ledger, balances⟩ := exists_ledger tree host settings fresh
  refine ⟨ledger.potential source (start host settings output).pool + 1, fun schedule call ran => ?_⟩
  obtain ⟨_, _, bound⟩ := balances.run? ran
  have waiting := Bool.toNat_le (start host settings output).outcome.isNone
  omega

/-- Over every schedule, on any host, for any number of workers and any capacity, and whatever fails in the tree: a
schedule is longer than a fixed bound only by the steps that close the output. While a worker has not exited, some
worker can step or the open output has something to receive; a worker waits only at a frontier where nothing
is pending, something is outstanding and nothing was aborted, or at an output that is open and full. Where
nobody can step any more, every worker has exited and the call has ended; and the output is closed exactly if the
consumer has closed it or there was room to list all workers. Once it is closed, by whoever, nothing is sent. -/
theorem runs_end (tree : Tree source) (host : Host) (settings : Settings)
    (fresh : BoundedChannel.ofCapacity capacity = .ok output) :
    ∃ bound, ∀ schedule call, (start host settings output).run? source schedule = some call →
      schedule.length ≤ bound + schedule.count (.pool .closeOutput) ∧
      (call.pool.isDone = false →
        (∃ index, (call.step? source (.pool (.work index))).isSome) ∨
          call.pool.output.closed = false ∧ (call.step? source (.pool .receive)).isSome) ∧
      (∀ index worker, call.pool.workers[index]? = some worker →
        (call.step? source (.pool (.work index)) = none ↔
          worker = .exited ∨
          worker = .popping ∧ call.pool.frontier.pending = [] ∧ call.pool.frontier.outstanding ≠ 0 ∧
            call.pool.frontier.aborted = false ∨
          ∃ batch, worker = .sending batch ∧ call.pool.output.closed = false ∧
            call.pool.output.capacity ≤ call.pool.output.queue.length)) ∧
      ((∀ action, action ≠ .pool .closeOutput →
          (action = .pool .receive → call.pool.output.closed = false) → call.step? source action = none) →
        (∀ worker ∈ call.pool.workers, worker = .exited) ∧ call.outcome.isSome ∧
          (call.pool.output.closed = true ↔ host.Lists settings.workers ∨ .pool .closeOutput ∈ schedule)) ∧
      (call.pool.output.closed = true → ∀ more later, call.run? source more = some later →
        later.pool.output.closed = true ∧
          later.pool.received ++ later.pool.output.queue = call.pool.received ++ call.pool.output.queue) := by
  obtain ⟨bound, within⟩ := exists_length_le tree host settings fresh
  refine ⟨bound, fun schedule call ran => ?_⟩
  refine ⟨within schedule call ran, ?_, ?_, closed_iff_of_stuck fresh ran, ?_⟩
  · intro busy
    simp only [step?_pool_isSome]
    exact Pool.exists_step?_of_not_isDone source (isCounted_of_run? ran) busy
  · intro index worker found
    rw [step?, Option.map_eq_none_iff, Pool.step?, found, Option.bind_some, Pool.advance?_eq_none_iff]
  · exact fun closed more later ran => sent_of_closed ran closed

theorem runs_end_grove :
    BoundedChannel.ofCapacity 1 = .ok (⟨1, [], false, by decide⟩ : BoundedChannel Batch) ∧
      ∃ bound, ∀ schedule call,
        (start (.roomy 2) ⟨2, by decide⟩ ⟨1, [], false, by decide⟩).run? (grove true) schedule = some call →
        schedule.length ≤ bound + schedule.count (.pool .closeOutput) := by
  have fresh : BoundedChannel.ofCapacity 1 = .ok (⟨1, [], false, by decide⟩ : BoundedChannel Batch) := rfl
  obtain ⟨bound, holds⟩ := runs_end (groveTree true) (.roomy 2) ⟨2, by decide⟩ fresh
  exact ⟨fresh, bound, fun schedule call ran => (holds schedule call ran).1⟩

/-- With one worker more than can be listed, a call on the grove has ended before anybody could step, and the output is
open: whoever goes on receiving waits for ever. -/
theorem leaves_output_open_unlisted :
    ∃ call, (start (.roomy (2 ^ 60)) ⟨2 ^ 60, by decide⟩ ⟨1, [], false, by decide⟩).run? (grove false) [] = some call ∧
      call.outcome = some (.error (.unmanned .tooMany)) ∧ call.pool.output.closed = false ∧
      call.gathered? = none ∧ ∀ action, action ≠ .pool .closeOutput → call.step? (grove false) action = none := by
  refine ⟨_, rfl, rfl, rfl, rfl, fun action patient => ?_⟩
  cases action with
  | pool poolAction =>
      cases poolAction with
      | work index => rfl
      | receive => rfl
      | closeOutput => exact absurd rfl patient
  | conclude => rfl

end Call

end Courier.Discovery
