import Courier.Proofs.Discovery.Liveness

/-!
# Collecting files

A pool that is left to itself gives its workers turns, and its consumer one now and
then. All that it does are steps, so it follows one of the schedules and comes to what
all of them come to. Every round takes a step that brings the end closer, so that some
number of rounds is enough for a finite tree.
-/

namespace Courier.Discovery

variable {source : Source} {pool middle next final : Pool}

namespace Pool

/-- The steps of a schedule lead from one pool to another. -/
def Leads (source : Source) (pool : Pool) (schedule : List Action) (next : Pool) : Prop :=
  schedule.foldlM (step? source) pool = some next

namespace Leads

variable {action : Action} {schedule first second : List Action}

theorem refl (source : Source) (pool : Pool) : Leads source pool [] pool := rfl

theorem of_step? (stepped : pool.step? source action = some next) : Leads source pool [action] next :=
  Option.bind_eq_some_iff.mpr ⟨next, stepped, rfl⟩

theorem trans (begun : Leads source pool first middle) (ended : Leads source middle second next) :
    Leads source pool (first ++ second) next := by
  rw [Leads, List.foldlM_append]
  exact Option.bind_eq_some_iff.mpr ⟨middle, begun, ended⟩

/-- Steps of the pool are steps of a call for it. -/
theorem run? (led : Leads source pool schedule next) (outcome : Option (Except CallError Unit)) :
    (⟨pool, outcome⟩ : Call).run? source (schedule.map .pool) = some ⟨next, outcome⟩ := by
  induction schedule generalizing pool with
  | nil =>
      cases led
      rfl
  | cons action rest ih =>
      obtain ⟨middle, stepped, led⟩ := Option.bind_eq_some_iff.mp led
      have same : (⟨pool, outcome⟩ : Call).step? source (.pool action) = some ⟨middle, outcome⟩ := by
        rw [Call.step?, stepped]
        rfl
      exact Option.bind_eq_some_iff.mpr ⟨_, same, ih led⟩

theorem isCounted (led : Leads source pool schedule next) (counted : pool.IsCounted) : next.IsCounted := by
  induction schedule generalizing pool with
  | nil =>
      cases led
      exact counted
  | cons action rest ih =>
      obtain ⟨middle, stepped, led⟩ := Option.bind_eq_some_iff.mp led
      exact ih led (isCounted_step? counted stepped)

end Leads

/-! ## Turns and rounds -/

/-- One worker has its turn, if it can use it. -/
def attempt (source : Source) (reached : Bool × Pool) (index : Nat) : Bool × Pool :=
  match reached.2.step? source (.work index) with
  | some pool => (true, pool)
  | none => reached

/-- Either some worker among those who have a turn takes a step, or none of them can. -/
theorem foldl_attempt_cases (source : Source) (places : List Nat) (reached : Bool × Pool) :
    (∃ index indices next, places.foldl (attempt source) reached = (true, next) ∧
      Leads source reached.2 ((index :: indices).map .work) next) ∨
    places.foldl (attempt source) reached = reached ∧
      ∀ index ∈ places, reached.2.step? source (.work index) = none := by
  induction places generalizing reached with
  | nil => exact .inr ⟨rfl, fun _ present => absurd present List.not_mem_nil⟩
  | cons place rest ih =>
      rw [List.foldl_cons]
      cases stepped : reached.2.step? source (.work place) with
      | none =>
          have passed : attempt source reached place = reached := by rw [attempt, stepped]
          rw [passed]
          refine (ih reached).imp_right fun ⟨same, waiting⟩ => ⟨same, fun index present => ?_⟩
          rcases List.mem_cons.mp present with rfl | later
          · exact stepped
          · exact waiting index later
      | some pool =>
          have moved : attempt source reached place = (true, pool) := by rw [attempt, stepped]
          rw [moved]
          have first : Leads source reached.2 [.work place] pool := .of_step? stepped
          rcases ih (true, pool) with ⟨index, indices, next, same, led⟩ | ⟨same, _⟩
          · exact .inl ⟨place, index :: indices, next, same, first.trans led⟩
          · exact .inl ⟨place, [], pool, same, first⟩

theorem turn_cases (source : Source) (pool : Pool) :
    (∃ index indices next, pool.turn source = (true, next) ∧
      Leads source pool ((index :: indices).map .work) next) ∨
    pool.turn source = (false, pool) ∧ ∀ index, pool.step? source (.work index) = none := by
  have same : pool.turn source = (List.range pool.workers.length).foldl (attempt source) (false, pool) := rfl
  rw [same]
  refine (foldl_attempt_cases source _ (false, pool)).imp_right fun ⟨same, waiting⟩ => ⟨same, fun index => ?_⟩
  by_cases within : index < pool.workers.length
  · exact waiting index (List.mem_range.mpr within)
  · rw [step?, List.getElem?_eq_none (Nat.le_of_not_lt within), Option.bind_none]

/-- The turns of the workers are steps of theirs, and some step is taken if one is possible. -/
theorem exists_leads_work (source : Source) (turns : Nat) (pool : Pool) :
    ∃ indices, Leads source pool (indices.map .work) (pool.work source turns) ∧
      (0 < turns → indices = [] → ∀ index, pool.step? source (.work index) = none) := by
  induction turns generalizing pool with
  | zero => exact ⟨[], .refl source pool, fun none => absurd none (Nat.lt_irrefl 0)⟩
  | succ turns ih =>
      rcases turn_cases source pool with ⟨index, indices, next, turned, led⟩ | ⟨turned, waiting⟩
      · obtain ⟨later, more, _⟩ := ih next
        refine ⟨index :: indices ++ later, ?_, fun _ nothing => by cases nothing⟩
        rw [work, turned, List.map_append]
        exact led.trans more
      · refine ⟨[], ?_, fun _ _ => waiting⟩
        rw [work, turned]
        exact .refl source pool

/-- While a worker has not exited, a round takes at least one step that brings the end closer, and closes the
output only for a consumer that is to do so. -/
theorem exists_leads_round (source : Source) (closeAfter : Option Nat) (counted : pool.IsCounted)
    (busy : pool.isDone = false) :
    ∃ schedule, Leads source pool schedule (pool.round source closeAfter) ∧
      (.closeOutput ∈ schedule → closeAfter.isSome) ∧ schedule.count .closeOutput < schedule.length := by
  obtain ⟨indices, worked, idle⟩ := exists_leads_work source lead pool
  have never : Action.closeOutput ∉ indices.map Action.work := by simp
  have uncounted : (indices.map Action.work).count .closeOutput = 0 := List.count_eq_zero.mpr never
  cases received : (pool.work source lead).step? source .receive with
  | none =>
      refine ⟨indices.map .work, ?_, fun closes => absurd closes never, ?_⟩
      · rw [round, received]
        exact worked
      · rw [uncounted, List.length_map, List.length_pos_iff]
        rintro rfl
        have unmoved : pool = pool.work source lead := Option.some.inj worked
        rw [← unmoved] at received
        -- with all workers waiting there would be something to receive
        rcases exists_step?_of_not_isDone source counted busy with ⟨index, moves⟩ | ⟨_, receives⟩
        · rw [idle (by decide) rfl index] at moves
          cases moves
        · rw [received] at receives
          cases receives
  | some after =>
      by_cases due : closeAfter = some after.received.length
      · refine ⟨indices.map .work ++ [.receive, .closeOutput], ?_, fun _ => due ▸ rfl, ?_⟩
        · rw [round, received]
          simp only [due, if_true]
          exact worked.trans ((Leads.of_step? received).trans (.of_step? rfl))
        · simp only [List.count_append, uncounted, List.length_append, List.length_map]
          exact Nat.lt_of_lt_of_le (by decide) (Nat.le_add_left _ _)
      · have patient : Action.closeOutput ∉ indices.map Action.work ++ [.receive] := by simp
        refine ⟨indices.map .work ++ [.receive], ?_, fun closes => absurd closes patient, ?_⟩
        · rw [round, received]
          simp only [due, if_false]
          exact worked.trans (.of_step? received)
        · rw [List.count_eq_zero.mpr patient, List.length_append]
          exact Nat.succ_pos _

/-! ## Runs -/

/-- A pool that is left to itself until every worker has exited follows a schedule. -/
theorem exists_leads_run {closeAfter : Option Nat} {limit : Nat} (counted : pool.IsCounted)
    (ran : pool.run source closeAfter limit = some final) :
    ∃ schedule, Leads source pool schedule final ∧ (.closeOutput ∈ schedule → closeAfter.isSome) ∧
      final.isDone = true := by
  have ends (pool : Pool) (done : pool.isDone = true) :
      ∃ schedule, Leads source pool schedule pool ∧ (.closeOutput ∈ schedule → closeAfter.isSome) ∧
        pool.isDone = true :=
    ⟨[], .refl source pool, fun never => absurd never List.not_mem_nil, done⟩
  induction limit generalizing pool with
  | zero =>
      rw [run] at ran
      split at ran <;> cases ran
      exact ends final ‹_›
  | succ limit ih =>
      rw [run] at ran
      split at ran
      · cases ran
        exact ends final ‹_›
      · rename_i busy
        obtain ⟨first, begun, closes, _⟩ :=
          exists_leads_round source closeAfter counted (Bool.eq_false_iff.mpr busy)
        obtain ⟨rest, led, later, done⟩ := ih (begun.isCounted counted) ran
        exact ⟨first ++ rest, begun.trans led,
          fun present => (List.mem_append.mp present).elim closes later, done⟩

/-- A round of a pool that is not done uses up some of the potential. -/
theorem exists_balances_round {tree : Tree source} {ledger : Ledger} (closeAfter : Option Nat)
    (counted : pool.IsCounted) (balances : ledger.Balances tree pool) (busy : pool.isDone = false) :
    (pool.round source closeAfter).IsCounted ∧ ∃ after : Ledger,
      after.Balances tree (pool.round source closeAfter) ∧
        after.potential source (pool.round source closeAfter) < ledger.potential source pool := by
  obtain ⟨schedule, led, _, progress⟩ := exists_leads_round source closeAfter counted busy
  have begun : ledger.Balances tree (⟨pool, none⟩ : Call).pool := balances
  obtain ⟨after, balanced, bound⟩ := begun.run? (led.run? none)
  have closes : (schedule.map Call.Action.pool).count (.pool .closeOutput) = schedule.count .closeOutput :=
    List.count_map_of_injective schedule _ (fun _ _ => Call.Action.pool.inj) _
  rw [closes, List.length_map] at bound
  dsimp only at bound
  exact ⟨led.isCounted counted, after, balanced, by omega⟩

/-- With a bound that every round lowers, as many rounds are enough. -/
theorem isSome_run_of_closer {motive : Pool → Nat → Prop} {closeAfter : Option Nat}
    (closer : ∀ pool bound, motive pool bound → pool.isDone = false →
      ∃ less, less < bound ∧ motive (pool.round source closeAfter) less)
    {bound limit : Nat} (within : motive pool bound) (enough : bound ≤ limit) :
    (pool.run source closeAfter limit).isSome := by
  induction limit generalizing pool bound with
  | zero =>
      cases done : pool.isDone with
      | true => simp [run, done]
      | false =>
          obtain ⟨less, fewer, _⟩ := closer pool bound within done
          omega
  | succ limit ih =>
      cases done : pool.isDone with
      | true => simp [run, done]
      | false =>
          obtain ⟨less, fewer, within⟩ := closer pool bound within done
          simp only [run, done, Bool.false_eq_true, if_false]
          exact ih within (by omega)

/-- As many rounds as the ledger allows steps are enough. -/
theorem isSome_run {tree : Tree source} {ledger : Ledger} {limit : Nat} (closeAfter : Option Nat)
    (counted : pool.IsCounted) (balances : ledger.Balances tree pool)
    (enough : ledger.potential source pool ≤ limit) : (pool.run source closeAfter limit).isSome := by
  refine isSome_run_of_closer
    (motive := fun pool bound => pool.IsCounted ∧ ∃ ledger : Ledger, ledger.Balances tree pool ∧
      ledger.potential source pool = bound) ?_ ⟨counted, ledger, balances, rfl⟩ enough
  rintro pool bound ⟨counted, ledger, balances, rfl⟩ busy
  obtain ⟨counted, after, balanced, less⟩ := exists_balances_round closeAfter counted balances busy
  exact ⟨_, less, counted, after, balanced, rfl⟩

/-- What is queued can be received to the end. -/
theorem leads_drained (source : Source) (pool : Pool) :
    Leads source pool (pool.output.queue.map fun _ => .receive)
      { pool with
        output := { pool.output with queue := [] }
        received := pool.received ++ pool.output.queue } := by
  obtain ⟨frontier, ⟨capacity, queue, closed, positive⟩, failure, mishaps, workers, received⟩ := pool
  induction queue generalizing received with
  | nil =>
      simp only [List.append_nil]
      exact .refl source _
  | cons batch rest ih =>
      have later := ih (received ++ [batch])
      rw [List.append_assoc] at later
      exact (Leads.of_step? rfl).trans later

end Pool

/-! ## Calls that go on to their end -/

namespace Call

variable {call final : Call} {host : Host} {settings : Settings} {output : BoundedChannel Batch}
  {closeAfter : Option Nat} {capacity limit : Nat}

/-- A call that goes on to its end follows a schedule, in which only a consumer that is to do so closes the output.
If it had not ended before, it tells what is on record, and all that was sent is received. -/
theorem exists_run?_of_finish? (counted : call.pool.IsCounted)
    (finished : call.finish? source closeAfter limit = some final) :
    ∃ schedule, call.run? source schedule = some final ∧ (.pool .closeOutput ∈ schedule → closeAfter.isSome) ∧
      (call.outcome = none →
        final.outcome = some (verdict final.pool.failure) ∧ final.pool.output.queue = []) := by
  obtain ⟨pool, outcome⟩ := call
  cases outcome with
  | some outcome =>
      cases finished
      exact ⟨[], rfl, fun never => absurd never List.not_mem_nil, nofun⟩
  | none =>
      obtain ⟨worked, ran, rfl⟩ := Option.map_eq_some_iff.mp finished
      obtain ⟨schedule, led, patient, done⟩ := Pool.exists_leads_run counted ran
      let returned : Call := ⟨{ worked with output := worked.output.close }, some (verdict worked.failure)⟩
      have concluded : (⟨worked, none⟩ : Call).step? source .conclude = some returned := by
        simp [step?, done, returned]
      have drained : returned.run? source ((worked.output.queue.map fun _ => Pool.Action.receive).map .pool) =
          some ⟨worked.finish, returned.outcome⟩ :=
        (Pool.leads_drained source returned.pool).run? returned.outcome
      refine ⟨schedule.map .pool ++ .conclude :: (worked.output.queue.map fun _ => Pool.Action.receive).map .pool,
        ?_, fun closes => ?_, fun _ => ⟨rfl, rfl⟩⟩
      · rw [run?, List.foldlM_append]
        exact Option.bind_eq_some_iff.mpr
          ⟨_, led.run? none, Option.bind_eq_some_iff.mpr ⟨_, concluded, drained⟩⟩
      · refine patient ?_
        simpa using closes

theorem isCounted_start (host : Host) (settings : Settings) (output : BoundedChannel Batch) :
    (start host settings output).pool.IsCounted := by
  obtain ⟨crew, same, begins⟩ := exists_crew host settings output
  rw [same]
  exact Pool.isCounted_start begins output

/-- Any limit from some number of rounds on is enough on a tree. -/
theorem exists_isSome_finish? (tree : Tree source) (host : Host) (settings : Settings)
    (fresh : BoundedChannel.ofCapacity capacity = .ok output) (closeAfter : Option Nat) :
    ∃ enough, ∀ limit, enough ≤ limit →
      ((start host settings output).finish? source closeAfter limit).isSome := by
  have counted := isCounted_start host settings output
  obtain ⟨ledger, balances⟩ := exists_ledger tree host settings fresh
  refine ⟨ledger.potential source (start host settings output).pool, fun limit enough => ?_⟩
  unfold finish?
  split
  · rfl
  · rw [Option.isSome_map]
    exact Pool.isSome_run closeAfter counted balances enough

/-- A call that goes on to its end with a patient consumer has returned and all that was sent is received, if its
workers can be listed. -/
theorem gathered?_of_finish? (lists : host.Lists settings.workers)
    (finished : (start host settings output).finish? source none limit = some final) :
    ∃ schedule, (start host settings output).run? source schedule = some final ∧
      .pool .closeOutput ∉ schedule ∧ final.outcome = some (verdict final.pool.failure) ∧
      final.pool.output.queue = [] ∧
      final.gathered? = some ((verdict final.pool.failure).map fun _ => final.pool.received.flatten) := by
  obtain ⟨schedule, ran, closes, ended⟩ := exists_run?_of_finish? (isCounted_start host settings output) finished
  obtain ⟨returned, drained⟩ := ended (by rw [start_of_lists lists])
  exact ⟨schedule, ran, fun present => (by cases closes present), returned, drained,
    gathered?_of_drained (isSettled_of_run? lists ran) returned drained⟩

/-- Otherwise its output stays open, and nothing is ever gathered. -/
theorem gathered?_of_not_lists (fresh : BoundedChannel.ofCapacity capacity = .ok output)
    (unlisted : ¬ host.Lists settings.workers) {schedule : List Action} (patient : .pool .closeOutput ∉ schedule)
    (ran : (start host settings output).run? source schedule = some final) : final.gathered? = none := by
  obtain ⟨error, same⟩ := exists_start_of_not_lists unlisted output
  obtain ⟨empty, accepting⟩ := of_ofCapacity fresh
  rw [same] at ran
  obtain ⟨_, _, closed⟩ := closed_of_run? rfl empty rfl ran
  have stays : final.pool.output.closed = false := by
    rw [← Bool.not_eq_true, closed]
    rintro (never | closes)
    · cases accepting.symm.trans never
    · exact patient closes
  unfold gathered? BoundedChannel.receive?
  rw [stays]
  cases final.outcome <;> cases final.pool.output.queue <;> rfl

end Call

/-! ## Traversals -/

variable {host left : Host} {settings : Settings} {output : BoundedChannel Batch} {closeAfter : Option Nat}
  {capacity limit : Nat}

/-- What a traversal comes to is what a call comes to that one of the schedules ends, in which only a consumer
that is to do so closes the output. -/
theorem exists_run?_of_traverse {result : Result}
    (traversed : traverse host source settings output closeAfter limit = some result) :
    ∃ schedule final, (Call.start host settings output).run? source schedule = some final ∧
      (.pool .closeOutput ∈ schedule → closeAfter.isSome) ∧ result = final.result := by
  obtain ⟨final, finished, rfl⟩ := Option.map_eq_some_iff.mp traversed
  obtain ⟨schedule, ran, closes, _⟩ :=
    Call.exists_run?_of_finish? (Call.isCounted_start host settings output) finished
  exact ⟨schedule, final, ran, closes, rfl⟩

/-- Any limit from some number of rounds on is enough for the traversal of a tree. -/
theorem exists_isSome_traverse (tree : Tree source) (host : Host) (settings : Settings)
    (fresh : BoundedChannel.ofCapacity capacity = .ok output) (closeAfter : Option Nat) :
    ∃ enough, ∀ limit, enough ≤ limit → (traverse host source settings output closeAfter limit).isSome := by
  obtain ⟨enough, ends⟩ := Call.exists_isSome_finish? tree host settings fresh closeAfter
  refine ⟨enough, fun limit within => ?_⟩
  rw [traverse, Option.isSome_map]
  exact ends limit within

theorem collect_of_spawned? (fresh : BoundedChannel.ofCapacity capacity = .ok output)
    (spawned : host.spawned? = some left) :
    collect host source settings capacity limit =
      .ok (((Call.start left settings output).finish? source none limit).bind Call.gathered?) := by
  rw [collect, fresh, spawned]
  rfl

/-- If they cannot be listed, whoever gathers waits for ever. -/
theorem collect_of_not_lists (spawned : host.spawned? = some left) (unlisted : ¬ left.Lists settings.workers)
    (positive : 0 < capacity) : collect host source settings capacity limit = .ok none := by
  have fresh : BoundedChannel.ofCapacity capacity = .ok (⟨capacity, [], false, positive⟩ : BoundedChannel Batch) :=
    dif_pos positive
  have nothing : (Call.start left settings ⟨capacity, [], false, positive⟩).gathered? = none :=
    Call.gathered?_of_not_lists fresh unlisted List.not_mem_nil (rfl : Call.run? source _ [] = some _)
  obtain ⟨error, same⟩ := Call.exists_start_of_not_lists unlisted ⟨capacity, [], false, positive⟩
  rw [collect_of_spawned? fresh spawned, same, Call.finish?, Option.bind_some, ← same, nothing]

/-- Given enough rounds, gathering comes to an end if the traversal gets its thread and its workers can be listed:
with all the files of a tree, each once, or with an error. It is an error exactly if something in the tree fails or
a thread is refused to a worker, and then the error that one of these makes. -/
theorem exists_collect (tree : Tree source) (spawned : host.spawned? = some left)
    (lists : left.Lists settings.workers) (positive : 0 < capacity) :
    ∃ enough, ∀ limit, enough ≤ limit →
      ∃ gathered, collect host source settings capacity limit = .ok (some gathered) ∧
      (∀ files, gathered = .ok files → (files.map .ok).Perm (tree.files.map source.metadata)) ∧
      ((∃ error, gathered = .error error) ↔
        (∃ path fault, source.Fails path fault) ∨ left.threads < settings.workers) ∧
      ∀ error, gathered = .error error → ∃ fault, error = fault.thrown ∧
        ((∃ path, source.Fails path fault) ∨ fault = Host.refusal ∧ left.threads < settings.workers) := by
  have fresh : BoundedChannel.ofCapacity capacity = .ok (⟨capacity, [], false, positive⟩ : BoundedChannel Batch) :=
    dif_pos positive
  obtain ⟨enough, ends⟩ := Call.exists_isSome_finish? tree left settings fresh none
  refine ⟨enough, fun limit within => ?_⟩
  obtain ⟨final, finished⟩ := Option.isSome_iff_exists.mp (ends limit within)
  obtain ⟨schedule, ran, patient, returned, _, found⟩ := Call.gathered?_of_finish? lists finished
  obtain ⟨ledger, balances⟩ := Call.exists_ledger_of_run? tree fresh ran
  have fails :=
    (Call.isOrderly_of_run? lists fresh patient ran).isSome_failure_iff lists ran balances returned
  refine ⟨_, by rw [collect_of_spawned? fresh spawned, finished, Option.bind_some, found], ?_⟩
  cases recorded : final.pool.failure with
  | none =>
      rw [recorded] at fails
      have whole := fails.not.mp Bool.false_ne_true
      rw [not_or] at whole
      have intact (path : String) (fault : Fault) : ¬ source.Fails path fault :=
        fun failing => whole.1 ⟨path, fault, failing⟩
      have starts : left.Starts settings.workers := ⟨lists, Nat.le_of_not_lt whole.2⟩
      obtain ⟨files, same, all⟩ := Call.gathered_perm tree intact starts fresh patient ran found
      rw [recorded] at same
      cases same
      exact ⟨fun _ gathered => (by cases gathered; exact all),
        ⟨fun ⟨_, never⟩ => (by cases never), fun failing => (whole.1 (failing.resolve_right whole.2)).elim⟩,
        fun _ never => (by cases never)⟩
  | some fault =>
      rw [recorded] at fails
      refine ⟨fun _ never => (by cases never), ⟨fun _ => fails.mp rfl, fun _ => ⟨_, rfl⟩⟩, ?_⟩
      rintro _ ⟨⟩
      exact ⟨fault, rfl, Call.fails_or_refused lists ran balances.toAgrees recorded⟩

end Courier.Discovery
