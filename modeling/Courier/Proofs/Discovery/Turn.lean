import Courier.Discovery.Call
import Courier.Proofs.Discovery.Change

/-!
# Turns of workers

What a worker does in one step is listed here once, with everything that the step
depends on. From that follows when a worker has to wait, and that the count of the
frontier is, as a machine word, the number of directories that wait or are worked
on, unless somebody is about to end the traversal. So workers that wait for each
other forever are not possible: with nobody at work the count is zero and nobody
waits for more.
-/

namespace Courier

namespace Discovery

namespace Pool

variable {source : Source} {pool next : Pool} {index : Nat} {worker : Worker}

/-! ## What a worker can do -/

/-- What the worker at `index` does in one step, from what it is about to do and for every outcome of it. -/
inductive Turn (source : Source) (pool : Pool) (index : Nat) : Worker → Pool → Prop where
  | takes {directory : String} {rest : List String} (going : pool.frontier.aborted = false)
      (pending : pool.frontier.pending = directory :: rest) :
      Turn source pool index .popping
        ({ pool with frontier := { pool.frontier with pending := rest } }.place index (.listing directory))
  | leaves (finished : pool.frontier.aborted = true ∨
        pool.frontier.pending = [] ∧ pool.frontier.outstanding = 0) :
      Turn source pool index .popping (pool.place index .exited)
  | lists {directory : String} {entries : List Entry} (listed : source.list directory = .ok entries) :
      Turn source pool index (.listing directory) (pool.place index (.scanning directory entries []))
  | failsToList {directory : String} {fault : Fault} (thrown : source.list directory = .error fault) :
      Turn source pool index (.listing directory) (pool.place index (.recording ⟨some directory, fault⟩))
  | counts {directory path : String} {entries : List Entry} {batch : Batch} :
      Turn source pool index (.scanning directory (⟨path, true⟩ :: entries) batch)
        ({ pool with frontier := pool.frontier.count }.place index (.queueing directory path entries batch))
  | reads {directory path : String} {entries : List Entry} {batch : Batch} {file : File}
      (read : source.metadata path = .ok file) :
      Turn source pool index (.scanning directory (⟨path, false⟩ :: entries) batch)
        (pool.place index (.scanning directory entries (batch ++ [file])))
  | failsToRead {directory path : String} {entries : List Entry} {batch : Batch} {fault : Fault}
      (thrown : source.metadata path = .error fault) :
      Turn source pool index (.scanning directory (⟨path, false⟩ :: entries) batch)
        (pool.place index (.recording ⟨some directory, fault⟩))
  | scanned {directory : String} {batch : Batch} :
      Turn source pool index (.scanning directory [] batch) (pool.place index (.sending batch))
  | enqueues {directory path : String} {entries : List Entry} {batch : Batch} :
      Turn source pool index (.queueing directory path entries batch)
        ({ pool with frontier := pool.frontier.enqueue path }.place index (.scanning directory entries batch))
  | delivers {batch : Batch} (accepting : pool.output.closed = false)
      (room : pool.output.queue.length < pool.output.capacity) :
      Turn source pool index (.sending batch)
        ({ pool with output := { pool.output with queue := pool.output.queue ++ [batch] } }.place index .completing)
  | refused {batch : Batch} (closed : pool.output.closed = true) :
      Turn source pool index (.sending batch) (pool.place index (.aborting false))
  | completes :
      Turn source pool index .completing
        ({ pool with frontier := pool.frontier.complete }.place index .popping)
  | records {mishap : Mishap} :
      Turn source pool index (.recording mishap)
        ({ pool with
          failure := pool.failure <|> some mishap.fault
          mishaps := pool.mishaps ++ [mishap] }.place index (.aborting true))
  | aborts {failed : Bool} :
      Turn source pool index (.aborting failed)
        ({ pool with frontier := pool.frontier.abort }.place index (if failed then .closing else .exited))
  | closes :
      Turn source pool index .closing ({ pool with output := pool.output.close }.place index .exited)

/-- The inversion of a worker's step. -/
theorem turn_of_advance? (stepped : pool.advance? source index worker = some next) :
    Turn source pool index worker next := by
  cases worker with
  | popping =>
      simp only [advance?, Frontier.pop?] at stepped
      split at stepped
      · rename_i aborted
        cases stepped
        exact .leaves (.inl aborted)
      · rename_i going
        split at stepped
        · rename_i pending
          cases stepped
          exact .takes (by simpa using going) pending
        · rename_i pending
          split at stepped
          · rename_i none
            cases stepped
            exact .leaves (.inr ⟨pending, none⟩)
          · cases stepped
  | listing directory =>
      simp only [advance?] at stepped
      split at stepped <;> rename_i listed <;> cases stepped
      · exact .lists listed
      · exact .failsToList listed
  | scanning directory entries batch =>
      cases entries with
      | nil =>
          cases stepped
          exact .scanned
      | cons entry rest =>
          obtain ⟨path, isDirectory⟩ := entry
          cases isDirectory with
          | true =>
              cases stepped
              exact .counts
          | false =>
              simp only [advance?, scan, Bool.false_eq_true, if_false] at stepped
              split at stepped <;> rename_i read <;> cases stepped
              · exact .reads read
              · exact .failsToRead read
  | queueing directory path entries batch =>
      cases stepped
      exact .enqueues
  | sending batch =>
      simp only [advance?, BoundedChannel.send?] at stepped
      split at stepped
      · rename_i closed
        cases stepped
        exact .refused closed
      · rename_i accepting
        split at stepped
        · rename_i room
          cases stepped
          exact .delivers (by simpa using accepting) room
        · cases stepped
  | completing =>
      cases stepped
      exact .completes
  | recording mishap =>
      cases stepped
      exact .records
  | aborting failed =>
      cases stepped
      exact .aborts
  | closing =>
      cases stepped
      exact .closes
  | exited => cases stepped

theorem exists_turn_of_step? (stepped : pool.step? source (.work index) = some next) :
    ∃ worker, pool.workers[index]? = some worker ∧ Turn source pool index worker next := by
  obtain ⟨worker, found, advanced⟩ := Option.bind_eq_some_iff.mp stepped
  exact ⟨worker, found, turn_of_advance? advanced⟩

/-- The consumer receives if something is queued. -/
theorem step?_receive_eq_some_iff :
    pool.step? source .receive = some next ↔
      ∃ batch rest, pool.output.queue = batch :: rest ∧
        next = { pool with
          output := { pool.output with queue := rest }
          received := pool.received ++ [batch] } := by
  cases queued : pool.output.queue with
  | nil =>
      simp only [step?, BoundedChannel.receive?, queued]
      split <;> rename_i found
      · split at found <;> cases found
      · simp
  | cons batch rest => simp [step?, BoundedChannel.receive?, queued, eq_comm]

/-! ## When a worker waits -/

/-- A worker waits at the frontier while nothing is pending and something outstanding, and at the output while
that is open and full. -/
theorem advance?_eq_none_iff :
    pool.advance? source index worker = none ↔
      worker = .exited ∨
      worker = .popping ∧ pool.frontier.pending = [] ∧ pool.frontier.outstanding ≠ 0 ∧
        pool.frontier.aborted = false ∨
      ∃ batch, worker = .sending batch ∧ pool.output.closed = false ∧
        pool.output.capacity ≤ pool.output.queue.length := by
  cases worker with
  | popping =>
      cases aborted : pool.frontier.aborted <;> cases pending : pool.frontier.pending <;>
        simp [advance?, Frontier.pop?, aborted, pending]
  | listing directory =>
      cases listed : source.list directory <;> simp [advance?, listed]
  | sending batch =>
      cases closed : pool.output.closed <;> simp [advance?, BoundedChannel.send?, closed]
  | scanning | queueing | completing | recording | aborting | closing | exited => simp [advance?]

theorem step?_work_of_isDone (source : Source) (done : pool.isDone = true) (index : Nat) :
    pool.step? source (.work index) = none := by
  cases found : pool.workers[index]? with
  | none => rw [step?, found, Option.bind_none]
  | some worker =>
      have exited : worker = .exited := by
        simpa using List.all_eq_true.mp done worker (List.mem_of_getElem? found)
      rw [step?, found, exited]
      rfl

end Pool

/-! ## Trouble -/

/-- Whether a worker is about to end the traversal before its time. -/
def Worker.IsFailing : Worker → Prop
  | recording _ | aborting _ => True
  | _ => False

/-- Whether the traversal has ended before its time, or is about to. -/
def Pool.IsTroubled (pool : Pool) : Prop :=
  pool.frontier.aborted = true ∨ ∃ worker ∈ pool.workers, worker.IsFailing

/-- There is no way back from that. -/
theorem Pool.IsTroubled.turn {source : Source} {pool next : Pool} {index : Nat} {worker : Worker}
    (troubled : pool.IsTroubled) (found : pool.workers[index]? = some worker)
    (turn : Turn source pool index worker next) : next.IsTroubled := by
  obtain ⟨others, same, changed⟩ := exists_perm_set found
  -- a worker that is failing either is the one that moves, or stands as before
  have elsewhere {frontier : Frontier} {output : BoundedChannel Batch} {failure : Option Fault}
      {mishaps : List Mishap} {received : List Batch} {successor : Worker}
      (going : frontier.aborted = pool.frontier.aborted) (fails : worker.IsFailing → successor.IsFailing) :
      ({ frontier, output, failure, mishaps, workers := pool.workers.set index successor, received } :
        Pool).IsTroubled := by
    rcases troubled with aborted | ⟨culprit, present, failing⟩
    · exact .inl (going.trans aborted)
    · refine .inr ?_
      rcases List.mem_cons.mp (same.mem_iff.mp present) with rfl | other
      · exact ⟨successor, (changed successor).mem_iff.mpr List.mem_cons_self, fails failing⟩
      · exact ⟨culprit, (changed successor).mem_iff.mpr (List.mem_cons_of_mem _ other), failing⟩
  cases turn with
  | aborts => exact .inl rfl
  | records => exact elsewhere rfl fun _ => trivial
  | takes | leaves | lists | failsToList | counts | reads | failsToRead | scanned | enqueues | delivers
  | refused | completes | closes => exact elsewhere rfl fun failing => failing.elim

/-- A worker that comes to end the traversal puts it in trouble. -/
theorem Pool.isTroubled_place {pool : Pool} {index : Nat} {successor : Worker}
    (within : index < pool.workers.length) (failing : successor.IsFailing) :
    (pool.place index successor).IsTroubled :=
  .inr ⟨successor, List.mem_set within _, failing⟩

/-! ## What is outstanding -/

/-- How many of the directories that are counted at the frontier a worker answers for. -/
def Worker.load : Worker → Nat
  | .queueing .. => 2
  | .listing _ | .scanning .. | .sending _ | .completing => 1
  | .popping | .recording _ | .aborting _ | .closing | .exited => 0

namespace Pool

variable {source : Source} {pool next : Pool} {index : Nat} {worker : Worker}

/-- The directories that wait and those that workers answer for. -/
def backlog (pool : Pool) : Nat := pool.frontier.pending.length + (pool.workers.map Worker.load).sum

/-- Unless the traversal is in trouble, the count is the backlog, in the width of a machine word. -/
def IsCounted (pool : Pool) : Prop :=
  ¬ pool.IsTroubled → pool.frontier.outstanding = UInt64.ofNat pool.backlog

/-- It is so at first. -/
theorem isCounted_start {crew : List Worker} (begins : ∀ worker ∈ crew, worker.Begins)
    (output : BoundedChannel Batch) : (start crew output).IsCounted := by
  intro calm
  have idle : (crew.map Worker.load).sum = 0 := by
    rw [List.sum_eq_zero]
    rintro _ listed
    obtain ⟨worker, present, rfl⟩ := List.mem_map.mp listed
    rcases begins worker present with rfl | rfl <;> rfl
  simp [start, Frontier.ofRoot, backlog, idle]

/-- A step that lets the count and the backlog grow and shrink alike keeps them equal. -/
theorem IsCounted.of_balance (counted : pool.IsCounted) (more fewer : Nat)
    (found : pool.workers[index]? = some worker) (turn : Turn source pool index worker next) {successor : Worker}
    (placed : next.workers = pool.workers.set index successor)
    (count : next.frontier.outstanding + UInt64.ofNat fewer = pool.frontier.outstanding + UInt64.ofNat more)
    (grown : next.frontier.pending.length + successor.load + fewer =
      pool.frontier.pending.length + worker.load + more) : next.IsCounted := by
  intro calm
  have before := counted fun troubled => calm (troubled.turn found turn)
  have sums := sum_map_set Worker.load found successor
  have total : next.backlog + fewer = pool.backlog + more := by
    simp only [backlog, placed]
    omega
  rw [before, ← UInt64.ofNat_add, ← total, UInt64.ofNat_add] at count
  exact (UInt64.add_left_inj _).mp count

theorem isCounted_turn (counted : pool.IsCounted) (found : pool.workers[index]? = some worker)
    (turn : Turn source pool index worker next) : next.IsCounted := by
  have within := (List.getElem?_eq_some_iff.mp found).1
  have taken := turn
  cases turn with
  | takes going pending =>
      exact counted.of_balance 0 0 found taken rfl rfl (by simp [place, pending, Worker.load])
  | counts =>
      refine counted.of_balance 1 0 found taken rfl ?_ rfl
      simp [place, Frontier.count]
  | enqueues =>
      exact counted.of_balance 0 0 found taken rfl rfl (by simp [place, Frontier.enqueue, Worker.load])
  | completes =>
      refine counted.of_balance 0 1 found taken rfl ?_ rfl
      simp [place, Frontier.complete]
  | leaves | lists | reads | scanned | delivers | closes =>
      exact counted.of_balance 0 0 found taken rfl rfl rfl
  -- whoever is about to end the traversal has nobody count any more
  | failsToList | failsToRead | refused | records =>
      exact fun calm => (calm (isTroubled_place within trivial)).elim
  | aborts => exact fun calm => (calm (.inl rfl)).elim

theorem isCounted_step? (counted : pool.IsCounted) {action : Action}
    (stepped : pool.step? source action = some next) : next.IsCounted := by
  cases action with
  | work index =>
      obtain ⟨worker, found, turn⟩ := exists_turn_of_step? stepped
      exact isCounted_turn counted found turn
  | receive =>
      obtain ⟨batch, rest, _, rfl⟩ := step?_receive_eq_some_iff.mp stepped
      exact counted
  | closeOutput =>
      cases stepped
      exact counted

/-- While a worker has not exited, some worker can step, or the output is open and there is something to
receive. -/
theorem exists_step?_of_not_isDone (source : Source) (counted : pool.IsCounted) (busy : pool.isDone = false) :
    (∃ index, (pool.step? source (.work index)).isSome) ∨
      pool.output.closed = false ∧ (pool.step? source .receive).isSome := by
  by_contra stuck
  rw [not_or, not_exists] at stuck
  obtain ⟨waiting, nothing⟩ := stuck
  -- nobody can step, so every worker has exited or waits at the frontier or at the output
  have parked (worker) (present : worker ∈ pool.workers) :
      worker = .exited ∨ worker = .popping ∧ pool.frontier.pending = [] ∧ pool.frontier.outstanding ≠ 0 ∧
        pool.frontier.aborted = false := by
    obtain ⟨index, found⟩ := List.mem_iff_getElem?.mp present
    have blocked := waiting index
    rw [step?, found, Option.bind_some, Option.not_isSome_iff_eq_none, advance?_eq_none_iff] at blocked
    rcases blocked with gone | idle | ⟨batch, _, accepting, full⟩
    · exact .inl gone
    · exact .inr idle
    · refine absurd ⟨accepting, ?_⟩ nothing
      obtain ⟨first, rest, queued⟩ : ∃ first rest, pool.output.queue = first :: rest := by
        have room := pool.output.positive
        exact List.exists_cons_of_length_pos (by omega)
      exact Option.isSome_iff_exists.mpr ⟨_, step?_receive_eq_some_iff.mpr ⟨first, rest, queued, rfl⟩⟩
  obtain ⟨worker, present, working⟩ : ∃ worker ∈ pool.workers, worker ≠ .exited := by
    simpa [isDone] using busy
  obtain ⟨_, pending, outstanding, going⟩ := (parked worker present).resolve_left working
  have idle : (pool.workers.map Worker.load).sum = 0 := by
    rw [List.sum_eq_zero]
    rintro _ listed
    obtain ⟨worker, present, rfl⟩ := List.mem_map.mp listed
    rcases parked worker present with rfl | ⟨rfl, _⟩ <;> rfl
  have calm : ¬ pool.IsTroubled := by
    rintro (aborted | ⟨worker, present, failing⟩)
    · cases going.symm.trans aborted
    · rcases parked worker present with rfl | ⟨rfl, _⟩ <;> exact failing
  refine outstanding ?_
  rw [counted calm, backlog, pending, idle]
  rfl

end Pool

/-! ## Runs of a call -/

namespace Call

variable {source : Source} {call next final : Call} {schedule : List Action}

/-- What every step of a schedule keeps, its run keeps. -/
theorem run?_induction {motive : Call → Prop}
    (step : ∀ call action next, action ∈ schedule → motive call → call.step? source action = some next → motive next)
    (start : motive call) (ran : call.run? source schedule = some final) : motive final := by
  induction schedule generalizing call with
  | nil =>
      cases ran
      exact start
  | cons action rest ih =>
      obtain ⟨next, stepped, ran⟩ := Option.bind_eq_some_iff.mp ran
      exact ih (fun call action next later => step call action next (List.mem_cons_of_mem _ later))
        (step call action next List.mem_cons_self start stepped) ran

/-- A step of a call is a step of the pool, or the caller returns from a pool whose workers have exited. -/
theorem step?_eq_some_iff {action : Action} :
    call.step? source action = some next ↔
      (∃ poolAction pool, action = .pool poolAction ∧ call.pool.step? source poolAction = some pool ∧
        next = { call with pool }) ∨
      action = .conclude ∧ call.outcome = none ∧ call.pool.isDone = true ∧
        next = ⟨{ call.pool with output := call.pool.output.close }, some (verdict call.pool.failure)⟩ := by
  cases action with
  | pool poolAction =>
      simp only [step?, Option.map_eq_some_iff]
      constructor
      · rintro ⟨pool, moved, rfl⟩
        exact .inl ⟨poolAction, pool, rfl, moved, rfl⟩
      · rintro (⟨_, pool, same, moved, rfl⟩ | ⟨same, _⟩)
        · cases same
          exact ⟨pool, moved, rfl⟩
        · cases same
  | conclude =>
      simp only [step?, Bool.and_eq_true, Option.isNone_iff_eq_none]
      split
      · rename_i ready
        simp only [ready, Option.some.injEq, true_and, reduceCtorEq, false_and, exists_false, false_or]
        exact eq_comm
      · rename_i never
        simp only [reduceCtorEq, false_and, exists_false, false_or, false_iff]
        exact fun ready => never ⟨ready.2.1, ready.2.2.1⟩

end Call

end Discovery

end Courier
