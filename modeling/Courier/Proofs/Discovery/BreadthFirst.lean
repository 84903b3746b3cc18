import Courier.Proofs.Discovery.Collecting
import Courier.Proofs.Discovery.Levels

/-!
# One worker

A worker on its own takes the directories in the order in which it queued them, and
it queues them in the order in which they are listed. So it visits the tree level by
level, as far as the first directory that makes no batch, whatever it has queued below
that.
-/

namespace Courier.Discovery

variable {source : Source} {order : List String} {pool next : Pool} {depth : Nat}

/-- Whether a worker goes about its directories. -/
def Worker.IsVisiting : Worker → Prop
  | popping | listing _ | scanning .. | queueing .. | sending _ | completing => True
  | recording _ | aborting _ | closing | exited => False

/-- How far a single worker has come with directories in an order. -/
inductive Stage (source : Source) (order : List String) (pool : Pool) (sent left : List String) : Worker → Prop where
  /-- It is at a directory, or between two. What it has taken, what is pending and what it has yet to queue are what
  the directories list that it has taken. -/
  | visiting {worker : Worker} {directory : Option String} (sound : Post.Sound source ⟨worker, directory⟩)
      (visits : worker.IsVisiting) (going : pool.frontier.aborted = false) (accepting : pool.output.closed = false)
      (clean : pool.failure = none) (course : sent ++ directory.toList ++ left = order)
      (account : sent ++ directory.toList ++ pool.frontier.pending ++ worker.ahead source =
        "" :: (sent ++ directory.toList).flatMap source.below) : Stage source order pool sent left worker
  /-- A directory makes no batch, and that is not yet on record. -/
  | stumbling {directory : String} {fault : Fault} (thrown : source.batch? directory = .error fault)
      (course : sent ++ directory :: left = order) (accepting : pool.output.closed = false)
      (clean : pool.failure = none) :
      Stage source order pool sent left (.recording ⟨some directory, fault⟩)
  /-- A directory makes no batch, and nothing is done any more but to end. -/
  | ending {directory : String} {fault : Fault} {worker : Worker} (thrown : source.batch? directory = .error fault)
      (course : sent ++ directory :: left = order) (recorded : pool.failure = some fault)
      (ends : worker = .aborting true ∨ worker = .closing ∨ worker = .exited) :
      Stage source order pool sent left worker
  /-- All directories have made their batches. -/
  | finished (course : sent = order) (nothing : left = []) (clean : pool.failure = none) :
      Stage source order pool sent left .exited

/-- The stage depends on the frontier, the failure on record and whether the output is closed. -/
theorem Stage.of_same {sent left : List String} {worker : Worker} (stage : Stage source order pool sent left worker)
    (frontier : next.frontier = pool.frontier) (failure : next.failure = pool.failure)
    (closed : next.output.closed = pool.output.closed) : Stage source order next sent left worker := by
  cases stage with
  | visiting sound visits going accepting clean course account =>
      exact .visiting sound visits (frontier ▸ going) (closed ▸ accepting) (failure ▸ clean) course (frontier ▸ account)
  | stumbling thrown course accepting clean => exact .stumbling thrown course (closed ▸ accepting) (failure ▸ clean)
  | ending thrown course recorded ends => exact .ending thrown course (failure ▸ recorded) ends
  | finished course nothing clean => exact .finished course nothing (failure ▸ clean)

/-- A pool of one worker that keeps to an order. -/
structure Course (source : Source) (order : List String) (pool : Pool) (sent left : List String)
    (worker : Worker) : Prop where
  alone : pool.workers = [worker]
  made : (pool.received ++ pool.output.queue).map .ok = sent.map source.batch?
  stage : Stage source order pool sent left worker

namespace Course

variable {sent left : List String} {worker : Worker}

/-- A bound on the steps that are left. -/
def bound (source : Source) (pool : Pool) (left : List String) (worker : Worker) : Nat :=
  worker.rank source + pool.output.queue.length +
    (left.map fun directory => 2 * Worker.extent source directory + 6).sum

theorem start (source : Source) (order : List String) (output : BoundedChannel Batch) (empty : output.queue = [])
    (accepting : output.closed = false) : Course source order (.start [.popping] output) [] order .popping where
  alone := rfl
  made := by simp [Pool.start, empty]
  stage := .visiting .popping trivial rfl accepting rfl rfl rfl

/-- Behind what a worker has taken, the levels go on with what is pending. -/
theorem left_eq (finite : source.level depth = []) {taken pending : List String}
    (course : taken ++ left = source.levels depth) (account : taken ++ pending = "" :: taken.flatMap source.below) :
    left = pending ++ left.flatMap source.below := by
  have all := Source.levels_eq_cons finite
  rw [← course, List.flatMap_append, ← List.cons_append, ← account, List.append_assoc] at all
  exact List.append_cancel_left all

theorem set_alone (kept : Course source order pool sent left worker) (successor : Worker) :
    pool.workers.set 0 successor = [successor] := by
  rw [kept.alone, List.set_cons_zero]

/-- A single worker goes on with its directory, or between two, and sends nothing. -/
theorem proceed (kept : Course source order pool sent left worker) {directory : Option String} {successor : Worker}
    {frontier : Frontier} (sound : Post.Sound source ⟨successor, directory⟩) (visits : successor.IsVisiting)
    (going : frontier.aborted = false) (accepting : pool.output.closed = false) (clean : pool.failure = none)
    (course : sent ++ directory.toList ++ left = order)
    (account : sent ++ directory.toList ++ frontier.pending ++ successor.ahead source =
      "" :: (sent ++ directory.toList).flatMap source.below)
    (closer : successor.rank source < worker.rank source) :
    ∃ sent' left' worker', Course source order ({ pool with frontier }.place 0 successor) sent' left' worker' ∧
      bound source ({ pool with frontier }.place 0 successor) left' worker' < bound source pool left worker := by
  refine ⟨sent, left, successor, ⟨kept.set_alone successor, kept.made, ?_⟩, ?_⟩
  · exact .visiting sound visits going accepting clean course account
  · simp only [bound, Pool.place]
    omega

/-- A single worker meets a directory that makes no batch. -/
theorem stumble (kept : Course source order pool sent left worker) {directory : String} {fault : Fault}
    (thrown : source.batch? directory = .error fault) (course : sent ++ [directory] ++ left = order)
    (accepting : pool.output.closed = false) (clean : pool.failure = none)
    (closer : (Worker.recording ⟨some directory, fault⟩).rank source < worker.rank source) :
    ∃ sent' left' worker',
      Course source order (pool.place 0 (.recording ⟨some directory, fault⟩)) sent' left' worker' ∧
        bound source (pool.place 0 (.recording ⟨some directory, fault⟩)) left' worker' <
          bound source pool left worker := by
  rw [List.append_assoc] at course
  refine ⟨sent, left, _, ⟨kept.set_alone _, kept.made, .stumbling thrown course accepting clean⟩, ?_⟩
  simp only [bound, Pool.place]
  omega

/-- A single worker takes the next directory of the levels. -/
theorem take (finite : source.level depth = []) (kept : Course source (source.levels depth) pool sent left .popping)
    (going : pool.frontier.aborted = false) (accepting : pool.output.closed = false) (clean : pool.failure = none)
    (course : sent ++ left = source.levels depth)
    (account : sent ++ pool.frontier.pending = "" :: sent.flatMap source.below)
    {directory : String} {rest : List String} (pending : pool.frontier.pending = directory :: rest) :
    ∃ left' worker', Course source (source.levels depth)
        ({ pool with frontier := { pool.frontier with pending := rest } }.place 0 (.listing directory))
        sent left' worker' ∧
      bound source ({ pool with frontier := { pool.frontier with pending := rest } }.place 0 (.listing directory))
        left' worker' < bound source pool left .popping := by
  have ahead := left_eq finite course account
  rw [pending] at ahead account
  generalize others : rest ++ left.flatMap source.below = left' at ahead
  rw [List.cons_append, others] at ahead
  subst ahead
  refine ⟨left', _, ⟨kept.set_alone _, kept.made, ?_⟩, ?_⟩
  · refine .visiting (.listing directory) trivial going accepting clean ?_ ?_
    · rw [Option.toList_some, List.append_assoc]
      exact course
    · rw [Option.toList_some, List.flatMap_append, ← List.cons_append, ← account, List.flatMap_singleton]
      simp [Pool.place, Worker.ahead]
  · simp only [bound, Pool.place, Worker.rank, List.map_cons, List.sum_cons]
    omega

theorem turn (finite : source.level depth = []) (kept : Course source (source.levels depth) pool sent left worker)
    (turn : Pool.Turn source pool 0 worker next) :
    ∃ sent' left' worker', Course source (source.levels depth) next sent' left' worker' ∧
      bound source next left' worker' < bound source pool left worker := by
  cases kept.stage with
  | visiting sound visits going accepting clean course account =>
      cases turn with
      | takes _ pending =>
          cases sound
          simp only [Option.toList_none, List.append_nil, Worker.ahead] at course account
          exact ⟨sent, kept.take finite going accepting clean course account pending⟩
      | leaves done =>
          cases sound
          simp only [Option.toList_none, List.append_nil, Worker.ahead] at course account
          obtain ⟨nothing, _⟩ := done.resolve_left (by simp [going])
          -- with nothing pending, what is left of the levels lists but itself
          have ahead := left_eq finite course account
          rw [nothing, List.nil_append] at ahead
          have none : left = [] := Source.eq_nil_of_fixed finite course ahead.symm
          rw [none, List.append_nil] at course
          refine ⟨sent, left, .exited, ⟨kept.set_alone _, kept.made, .finished course none clean⟩, ?_⟩
          simp only [bound, Pool.place, Worker.rank]
          omega
      | lists listed =>
          cases sound
          refine kept.proceed (.scanning [] listed rfl) trivial going accepting clean course ?_
            (by simp [Worker.rank, Worker.extent, listed])
          rw [← account, Worker.ahead, Worker.ahead, Source.below_of_list listed]
      | failsToList thrown =>
          cases sound
          exact kept.stumble (Source.batch?_of_list_error thrown) course accepting clean (by simp [Worker.rank])
      | counts =>
          cases sound with
          | scanning seen listed read =>
              exact kept.proceed (.queueing seen listed read) trivial going accepting clean course account
                (by simp [Worker.rank]; omega)
      | reads file =>
          cases sound with
          | scanning seen listed read =>
              refine kept.proceed (.scanning (seen ++ [⟨_, false⟩]) (by rw [listed, List.append_assoc]; rfl) ?_) trivial
                going accepting clean course account (by simp [Worker.rank])
              rw [filesAmong_append]
              exact mapM_append_singleton read file
      | failsToRead thrown =>
          cases sound with
          | scanning seen listed read =>
              refine kept.stumble ?_ course accepting clean (by simp [Worker.rank])
              rw [Source.batch?_of_list listed, filesAmong_append, filesAmong_file]
              exact mapM_append_error read thrown
      | scanned =>
          cases sound with
          | scanning seen listed read =>
              rw [List.append_nil] at listed
              exact kept.proceed (.sending ((Source.batch?_of_list listed).trans read)) trivial going accepting clean
                course account (by simp [Worker.rank])
      | @enqueues directory path entries batch =>
          cases sound with
          | queueing seen listed read =>
              refine kept.proceed (.scanning (seen ++ [⟨path, true⟩]) (by rw [listed, List.append_assoc]; rfl) ?_)
                trivial going accepting clean course ?_ (by simp [Worker.rank])
              · rw [filesAmong_append, filesAmong_directory]
                exact (List.append_nil _).symm ▸ read
              · rw [← account]
                simp [Frontier.enqueue, Worker.ahead]
      | delivers _ room =>
          cases sound with
          | sending complete =>
              rename_i directory
              refine ⟨sent ++ [directory], left, .completing, ⟨kept.set_alone _, ?_, ?_⟩, ?_⟩
              · have before := kept.made
                rw [List.map_append] at before
                simp only [Pool.place, List.map_append, List.map_singleton, complete, ← before, List.append_assoc]
              · refine .visiting .completing trivial going accepting clean ?_ ?_
                · rw [Option.toList_none, List.append_nil]
                  exact course
                · rw [Option.toList_none, List.append_nil]
                  exact account
              · simp only [bound, Pool.place, Worker.rank, List.length_append, List.length_singleton]
                omega
      | refused closed => cases accepting.symm.trans closed
      | completes =>
          cases sound
          exact kept.proceed .popping trivial going accepting clean course account (by simp [Worker.rank])
      | records => exact visits.elim
      | aborts => exact visits.elim
      | closes => exact visits.elim
  | stumbling thrown course accepting clean =>
      cases turn with
      | records =>
          refine ⟨sent, left, .aborting true, ⟨kept.set_alone _, kept.made, .ending thrown course ?_ (.inl rfl)⟩, ?_⟩
          · rw [Pool.place, clean]
            rfl
          · simp only [bound, Pool.place, Worker.rank]
            omega
  | ending thrown course recorded ends =>
      rcases ends with rfl | rfl | rfl
      · cases turn with
        | aborts =>
            refine ⟨sent, left, .closing,
              ⟨kept.set_alone _, kept.made, .ending thrown course recorded (.inr (.inl rfl))⟩, ?_⟩
            simp only [bound, Pool.place, Worker.rank]
            omega
      · cases turn with
        | closes =>
            refine ⟨sent, left, .exited,
              ⟨kept.set_alone _, kept.made, .ending thrown course recorded (.inr (.inr rfl))⟩, ?_⟩
            simp only [bound, Pool.place, Worker.rank, BoundedChannel.close]
            omega
      · cases turn
  | finished same nothing clean => cases turn

/-- Every step but a close brings the end closer. -/
theorem step? (finite : source.level depth = []) (kept : Course source (source.levels depth) pool sent left worker)
    {action : Pool.Action} (patient : action ≠ .closeOutput) (stepped : pool.step? source action = some next) :
    ∃ sent' left' worker', Course source (source.levels depth) next sent' left' worker' ∧
      bound source next left' worker' < bound source pool left worker := by
  cases action with
  | work index =>
      obtain ⟨mover, found, turn⟩ := Pool.exists_turn_of_step? stepped
      rw [kept.alone] at found
      cases index with
      | zero =>
          cases found
          exact kept.turn finite turn
      | succ index => cases found
  | receive =>
      obtain ⟨batch, rest, queued, rfl⟩ := Pool.step?_receive_eq_some_iff.mp stepped
      refine ⟨sent, left, worker, ⟨kept.alone, ?_, ?_⟩, ?_⟩
      · rw [← kept.made, queued, List.append_assoc]
        rfl
      · exact kept.stage.of_same rfl rfl rfl
      · simp only [bound, queued, List.length_cons]
        omega
  | closeOutput => exact absurd rfl patient

/-! ## What is sent -/

/-- When its worker has exited, the output may be closed. -/
theorem close (kept : Course source order pool sent left worker) (done : pool.isDone = true) :
    worker = .exited ∧
      Course source order { pool with output := pool.output.close } sent left worker := by
  have exited : worker = .exited := by
    simpa [Pool.isDone, kept.alone] using done
  subst exited
  refine ⟨rfl, kept.alone, kept.made, ?_⟩
  cases kept.stage with
  | visiting _ visits => exact visits.elim
  | ending thrown course recorded ends => exact .ending thrown course recorded ends
  | finished course nothing clean => exact .finished course nothing clean

/-- A run of steps keeps to the levels, and every step brings the end closer. -/
theorem run? (finite : source.level depth = []) {call final : Call} {schedule : List Call.Action}
    (kept : Course source (source.levels depth) call.pool sent left worker)
    (patient : .pool .closeOutput ∉ schedule) (ran : call.run? source schedule = some final) :
    ∃ sent' left' worker', Course source (source.levels depth) final.pool sent' left' worker' ∧
      bound source final.pool left' worker' + final.outcome.isNone.toNat + schedule.length ≤
        bound source call.pool left worker + call.outcome.isNone.toNat := by
  induction schedule generalizing call sent left worker with
  | nil =>
      cases ran
      exact ⟨sent, left, worker, kept, Nat.le_refl _⟩
  | cons action rest ih =>
      have later : .pool .closeOutput ∉ rest := fun present => patient (List.mem_cons_of_mem _ present)
      obtain ⟨next, stepped, ran⟩ := Option.bind_eq_some_iff.mp ran
      rcases Call.step?_eq_some_iff.mp stepped with ⟨poolAction, pool, rfl, moved, rfl⟩ | ⟨rfl, going, done, rfl⟩
      · obtain ⟨_, _, _, middle, closer⟩ :=
          kept.step? finite (fun closes => patient (closes ▸ List.mem_cons_self)) moved
        obtain ⟨sent', left', worker', kept, enough⟩ := ih middle later ran
        refine ⟨sent', left', worker', kept, ?_⟩
        simp only [List.length_cons] at enough ⊢
        omega
      · obtain ⟨_, middle⟩ := kept.close done
        obtain ⟨sent', left', worker', kept, enough⟩ := ih middle later ran
        refine ⟨sent', left', worker', kept, ?_⟩
        simp only [bound, BoundedChannel.close, going, Option.isNone_none, Option.isNone_some, Bool.toNat_true,
          Bool.toNat_false, List.length_cons] at enough ⊢
        omega

/-- A round of a pool that is not done brings the end closer. -/
theorem round (finite : source.level depth = [])
    (kept : Course source (source.levels depth) pool sent left worker) (counted : pool.IsCounted)
    (busy : pool.isDone = false) :
    (pool.round source none).IsCounted ∧ ∃ sent' left' worker',
      Course source (source.levels depth) (pool.round source none) sent' left' worker' ∧
        bound source (pool.round source none) left' worker' < bound source pool left worker := by
  obtain ⟨schedule, led, closes, progress⟩ := Pool.exists_leads_round source none counted busy
  have patient : .pool .closeOutput ∉ schedule.map Call.Action.pool := by
    intro present
    obtain ⟨action, taken, same⟩ := List.mem_map.mp present
    cases same
    cases closes taken
  have begun : Course source (source.levels depth) (⟨pool, none⟩ : Call).pool sent left worker := kept
  obtain ⟨sent', left', worker', kept, enough⟩ := begun.run? finite patient (led.run? none)
  rw [List.length_map] at enough
  dsimp only at enough
  exact ⟨led.isCounted counted, sent', left', worker', kept, by omega⟩

end Course

/-! ## Traversals -/

/-- A pool of one worker. -/
def Settings.single : Settings := ⟨1, Nat.one_pos⟩

section Single

variable {host : Host} {output : BoundedChannel Batch} {capacity limit : Nat} {schedule : List Call.Action}
  {final : Call}

theorem Course.of_ofCapacity (source : Source) (order : List String)
    (fresh : BoundedChannel.ofCapacity capacity = .ok output) :
    Course source order (Pool.start [.popping] output) [] order .popping := by
  obtain ⟨empty, accepting⟩ := Call.of_ofCapacity fresh
  exact .start source order output empty accepting

end Single

end Courier.Discovery
