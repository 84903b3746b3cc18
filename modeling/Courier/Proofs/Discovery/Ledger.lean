import Courier.Proofs.Discovery.Tree
import Courier.Proofs.Discovery.Turn

/-!
# What becomes of the directories

A traversal is accounted for by a ledger: which worker visits which directory, which
directories were delivered as a batch, which were dropped on a failure, and which
nobody has visited yet. Whatever is listed is counted once, as waiting or as visited,
so unless the traversal is in trouble nothing is lost. On a tree nothing is visited
twice either, and every step brings the ledger closer to its end.
-/

namespace Courier.Discovery

variable {source : Source} {pool next : Pool} {index : Nat}

/-! ## Workers at their directories -/

namespace Worker

/-- The directories that a worker has yet to queue. -/
def ahead (source : Source) : Worker → List String
  | listing directory => source.below directory
  | scanning _ entries _ => directoriesAmong entries
  | queueing _ path entries _ => path :: directoriesAmong entries
  | _ => []

/-- How many entries a directory has. -/
def extent (source : Source) (directory : String) : Nat :=
  match source.list directory with
  | .ok entries => entries.length
  | .error _ => 0

/-- A bound on the steps of a worker until it takes a directory or has exited, where a delivery counts once
more for the consumer. -/
def rank (source : Source) : Worker → Nat
  | popping | closing => 1
  | listing directory => 2 * extent source directory + 6
  | scanning _ entries _ => 2 * entries.length + 5
  | queueing _ _ entries _ => 2 * entries.length + 6
  | sending _ => 4
  | recording _ => 3
  | completing | aborting _ => 2
  | exited => 0

end Worker

/-- A worker and the directory that it visits, if it does. -/
structure Post where
  worker : Worker
  directory : Option String

/-- What can go wrong: something in the tree fails while a directory is visited, or a worker is not started. -/
inductive Mishap.Arises (source : Source) : Mishap → Prop where
  | visiting {directory path : String} {fault : Fault} (fails : source.Fails path fault) :
      Arises source ⟨some directory, fault⟩
  | starting : Arises source ⟨none, Host.refusal⟩

/-- What a worker holds agrees with its directory: the entries that are left are the rest of the listing, and
the batch is what was read of the files before. -/
inductive Post.Sound (source : Source) : Post → Prop where
  | popping : Sound source ⟨.popping, none⟩
  | listing (directory : String) : Sound source ⟨.listing directory, some directory⟩
  | scanning {directory : String} (seen : List Entry) {entries : List Entry} {batch : Batch}
      (listed : source.list directory = .ok (seen ++ entries))
      (read : (filesAmong seen).mapM source.metadata = .ok batch) :
      Sound source ⟨.scanning directory entries batch, some directory⟩
  | queueing {directory : String} (seen : List Entry) {path : String} {entries : List Entry} {batch : Batch}
      (listed : source.list directory = .ok (seen ++ ⟨path, true⟩ :: entries))
      (read : (filesAmong seen).mapM source.metadata = .ok batch) :
      Sound source ⟨.queueing directory path entries batch, some directory⟩
  | sending {directory : String} {batch : Batch} (complete : source.batch? directory = .ok batch) :
      Sound source ⟨.sending batch, some directory⟩
  | completing : Sound source ⟨.completing, none⟩
  | recording {mishap : Mishap} (arises : mishap.Arises source) : Sound source ⟨.recording mishap, none⟩
  | aborting (failed : Bool) : Sound source ⟨.aborting failed, none⟩
  | closing : Sound source ⟨.closing, none⟩
  | exited : Sound source ⟨.exited, none⟩

/-- A new worker is at no directory. -/
theorem Worker.Begins.sound {worker : Worker} (begins : worker.Begins) : Post.Sound source ⟨worker, none⟩ := by
  rcases begins with rfl | rfl
  · exact .popping
  · exact .recording .starting

/-- What is on record can have gone wrong, and the failure is the first of it. -/
def Pool.IsFaithful (source : Source) (pool : Pool) : Prop :=
  pool.failure = pool.mishaps.head?.map Mishap.fault ∧ ∀ mishap ∈ pool.mishaps, mishap.Arises source

/-- It stays so with one mishap more. -/
theorem Pool.IsFaithful.record (faithful : pool.IsFaithful source) {mishap : Mishap}
    (arises : mishap.Arises source) :
    ({ pool with
      failure := pool.failure <|> some mishap.fault
      mishaps := pool.mishaps ++ [mishap] } : Pool).IsFaithful source := by
  obtain ⟨first, before⟩ := faithful
  refine ⟨?_, fun other present => ?_⟩
  · cases earlier : pool.mishaps with
    | nil =>
        rw [first, earlier]
        rfl
    | cons head rest =>
        rw [first, earlier]
        rfl
  · rcases List.mem_append.mp present with recorded | new
    · exact before other recorded
    · rw [List.mem_singleton.mp new]
      exact arises

/-! ## The ledger -/

/-- What becomes of the directories of a tree; `lost` are those that were listed and never queued. -/
structure Ledger where
  crew : List Post
  delivered : List String := []
  dropped : List String := []
  lost : List String := []
  unvisited : List String

namespace Ledger

/-- The directories that were ever taken. -/
def visited (ledger : Ledger) : List String :=
  ledger.crew.flatMap (fun post => post.directory.toList) ++ ledger.delivered ++ ledger.dropped

/-- The directories that were listed and are yet to be queued. -/
def ahead (source : Source) (ledger : Ledger) : List String :=
  ledger.crew.flatMap fun post => post.worker.ahead source

/-- A bound on the steps that are left of what the workers are at, and of receiving. -/
def workload (source : Source) (pool : Pool) : Nat :=
  (pool.workers.map (Worker.rank source)).sum + pool.output.queue.length

/-- A bound on the steps that are left. -/
def potential (source : Source) (pool : Pool) (ledger : Ledger) : Nat :=
  workload source pool + (ledger.unvisited.map fun directory => 2 * Worker.extent source directory + 6).sum

/-- The ledger agrees with the pool and accounts for all that was ever listed. -/
structure Agrees (source : Source) (pool : Pool) (ledger : Ledger) : Prop where
  manned : ledger.crew.map Post.worker = pool.workers
  sound : ∀ post ∈ ledger.crew, post.Sound source
  /-- What was delivered is the complete batch of a directory each. -/
  sent : (pool.received ++ pool.output.queue).map .ok = ledger.delivered.map source.batch?
  reached : ∀ directory ∈ ledger.visited, source.Reaches directory
  /-- What was listed is what waits, was visited or is lost. -/
  conserved : (pool.frontier.pending ++ ledger.ahead source ++ ledger.lost ++ ledger.visited).Perm
    ("" :: ledger.visited.flatMap source.below)
  intact : pool.IsTroubled ∨ ledger.dropped = [] ∧ ledger.lost = []
  faithful : pool.IsFaithful source

/-- The ledger agrees with the pool and accounts for every directory of the tree. -/
structure Balances (tree : Tree source) (pool : Pool) (ledger : Ledger) : Prop
    extends Agrees source pool ledger where
  covered : (ledger.visited ++ ledger.unvisited).Perm tree.directories

/-- What a step does to the ledger: it keeps to the directories that were visited and has less left to do, or it
takes up one that was pending. -/
inductive Entered (source : Source) (pool : Pool) (ledger : Ledger) (next : Pool) (after : Ledger) : Prop where
  | carried (visits : after.visited.Perm ledger.visited) (unvisited : after.unvisited = ledger.unvisited)
      (closer : workload source next < workload source pool)
  | took (directory : String) (pending : directory ∈ pool.frontier.pending)
      (visits : after.visited.Perm (directory :: ledger.visited))
      (unvisited : after.unvisited = ledger.unvisited.erase directory)
      (closer : workload source next < workload source pool + (2 * Worker.extent source directory + 6))

namespace Agrees

variable {ledger : Ledger} {post : Post}

/-- New workers hold nothing. -/
theorem flatMap_crew_nil {Held : Type} {holds : Post → List Held} {crew : List Worker}
    (nothing : ∀ worker ∈ crew, holds ⟨worker, none⟩ = []) :
    (crew.map fun worker => (⟨worker, none⟩ : Post)).flatMap holds = [] := by
  rw [List.flatMap_eq_nil_iff]
  intro post present
  obtain ⟨worker, there, rfl⟩ := List.mem_map.mp present
  exact nothing worker there

theorem start (source : Source) {crew : List Worker} (begins : ∀ worker ∈ crew, worker.Begins)
    (output : BoundedChannel Batch) (empty : output.queue = []) (unvisited : List String) :
    Agrees source (.start crew output) { crew := crew.map fun worker => ⟨worker, none⟩, unvisited } where
  manned := by rw [List.map_map, Function.comp_def, List.map_id', Pool.start]
  sound post present := by
    obtain ⟨worker, there, rfl⟩ := List.mem_map.mp present
    exact (begins worker there).sound
  sent := by simp [Pool.start, empty]
  reached := by
    rw [visited, flatMap_crew_nil fun _ _ => rfl]
    exact fun directory never => absurd never List.not_mem_nil
  conserved := by
    have nothing : ahead source { crew := crew.map fun worker => ⟨worker, none⟩, unvisited } = [] :=
      flatMap_crew_nil fun worker there => by rcases begins worker there with rfl | rfl <;> rfl
    rw [visited, nothing, flatMap_crew_nil fun _ _ => rfl]
    exact .refl _
  intact := .inr ⟨rfl, rfl⟩
  faithful := ⟨rfl, fun _ never => absurd never List.not_mem_nil⟩

/-- Every worker has a post. -/
theorem exists_post (agrees : ledger.Agrees source pool) {worker : Worker}
    (found : pool.workers[index]? = some worker) :
    ∃ directory, ledger.crew[index]? = some ⟨worker, directory⟩ ∧ Post.Sound source ⟨worker, directory⟩ := by
  rw [← agrees.manned, List.getElem?_map, Option.map_eq_some_iff] at found
  obtain ⟨⟨worker, directory⟩, found, rfl⟩ := found
  exact ⟨directory, found, agrees.sound _ (List.mem_of_getElem? found)⟩

/-- The directory that a worker visits is reached. -/
theorem reaches_of_post (agrees : ledger.Agrees source pool) {worker : Worker} {directory : String}
    (found : ledger.crew[index]? = some ⟨worker, some directory⟩) : source.Reaches directory := by
  refine agrees.reached directory ?_
  have present : directory ∈ ledger.crew.flatMap fun post => post.directory.toList :=
    List.mem_flatMap.mpr ⟨_, List.mem_of_getElem? found, by simp⟩
  simp only [visited, List.mem_append]
  exact .inl (.inl present)

/-- What is pending is the root or was listed. -/
theorem reaches_of_pending (agrees : ledger.Agrees source pool) {directory : String}
    (pending : directory ∈ pool.frontier.pending) : source.Reaches directory := by
  have listed : directory ∈ "" :: ledger.visited.flatMap source.below :=
    agrees.conserved.mem_iff.mp (by simp [pending])
  rcases List.mem_cons.mp listed with rfl | below
  · exact .root
  · obtain ⟨parent, visit, below⟩ := List.mem_flatMap.mp below
    exact .descend (agrees.reached parent visit) below

/-- A worker goes on to another post, where neither what was visited changes nor what was listed, and it comes
closer to its end. -/
theorem carry (agrees : ledger.Agrees source pool) (found : ledger.crew[index]? = some post)
    (successor : Post) (delivered dropped lost : List String)
    (placed : next.workers = pool.workers.set index successor.worker) (sound : successor.Sound source)
    (sent : (next.received ++ next.output.queue).map .ok = delivered.map source.batch?)
    (visits : (successor.directory.toList ++ delivered ++ dropped).Perm
      (post.directory.toList ++ ledger.delivered ++ ledger.dropped))
    (listed : (next.frontier.pending ++ successor.worker.ahead source ++ lost).Perm
      (pool.frontier.pending ++ post.worker.ahead source ++ ledger.lost))
    (intact : next.IsTroubled ∨ dropped = [] ∧ lost = [])
    (faithful : next.IsFaithful source)
    (closer : successor.worker.rank source + next.output.queue.length <
      post.worker.rank source + pool.output.queue.length) :
    ∃ after : Ledger, after.Agrees source next ∧ Entered source pool ledger next after := by
  obtain ⟨others, same, changed⟩ := exists_perm_set found
  let after : Ledger :=
    { crew := ledger.crew.set index successor, delivered, dropped, lost, unvisited := ledger.unvisited }
  have sameVisits : after.visited.Perm ledger.visited := by
    rw [List.perm_iff_count] at visits ⊢
    intro path
    have moved := visits path
    have before := (same.flatMap_right fun post => post.directory.toList).count_eq path
    have now := ((changed successor).flatMap_right fun post => post.directory.toList).count_eq path
    simp only [after, visited, List.flatMap_cons, List.count_append] at moved before now ⊢
    omega
  have sameListed : (next.frontier.pending ++ after.ahead source ++ lost).Perm
      (pool.frontier.pending ++ ledger.ahead source ++ ledger.lost) := by
    rw [List.perm_iff_count] at listed ⊢
    intro path
    have moved := listed path
    have before := (same.flatMap_right fun post => post.worker.ahead source).count_eq path
    have now := ((changed successor).flatMap_right fun post => post.worker.ahead source).count_eq path
    simp only [after, ahead, List.flatMap_cons, List.count_append] at moved before now ⊢
    omega
  refine ⟨after, ⟨?_, ?_, sent, ?_, ?_, intact, faithful⟩, ?_⟩
  · rw [placed, ← agrees.manned, List.map_set]
  · intro other present
    rcases List.mem_cons.mp ((changed successor).mem_iff.mp present) with rfl | remains
    · exact sound
    · exact agrees.sound other (same.mem_iff.mpr (List.mem_cons_of_mem _ remains))
  · exact fun directory visit => agrees.reached directory (sameVisits.mem_iff.mp visit)
  · calc next.frontier.pending ++ after.ahead source ++ after.lost ++ after.visited
        |>.Perm (pool.frontier.pending ++ ledger.ahead source ++ ledger.lost ++ ledger.visited) :=
          sameListed.append sameVisits
      _ |>.Perm ("" :: ledger.visited.flatMap source.below) := agrees.conserved
      _ |>.Perm ("" :: after.visited.flatMap source.below) := ((sameVisits.symm.flatMap_right _).cons _)
  · have manned : pool.workers[index]? = some post.worker := by
      rw [← agrees.manned, List.getElem?_map, found]
      rfl
    have sums := sum_map_set (Worker.rank source) manned successor.worker
    refine .carried sameVisits rfl ?_
    simp only [workload, placed]
    omega

/-- A worker takes the next directory. -/
theorem take (agrees : ledger.Agrees source pool) (found : pool.workers[index]? = some .popping)
    {directory : String} {rest : List String} (going : pool.frontier.aborted = false)
    (pending : pool.frontier.pending = directory :: rest)
    (taken : next =
      { pool with frontier := { pool.frontier with pending := rest } }.place index (.listing directory)) :
    ∃ after : Ledger, after.Agrees source next ∧ Entered source pool ledger next after := by
  have turn : Pool.Turn source pool index .popping next := taken ▸ .takes going pending
  subst taken
  obtain ⟨nowhere, manning, sound⟩ := agrees.exists_post found
  cases sound
  obtain ⟨others, same, changed⟩ := exists_perm_set manning
  have waiting : directory ∈ pool.frontier.pending := by
    rw [pending]
    exact List.mem_cons_self
  let successor : Post := ⟨.listing directory, some directory⟩
  let after : Ledger :=
    { ledger with crew := ledger.crew.set index successor, unvisited := ledger.unvisited.erase directory }
  have visits : after.visited.Perm (directory :: ledger.visited) := by
    rw [List.perm_iff_count]
    intro path
    have before := (same.flatMap_right fun post => post.directory.toList).count_eq path
    have now := ((changed successor).flatMap_right fun post => post.directory.toList).count_eq path
    simp only [after, successor, visited, List.flatMap_cons, List.count_append, List.count_cons,
      Option.toList_some, Option.toList_none, List.count_nil] at before now ⊢
    omega
  have listed : (after.ahead source).Perm (source.below directory ++ ledger.ahead source) := by
    rw [List.perm_iff_count]
    intro path
    have before := (same.flatMap_right fun post => post.worker.ahead source).count_eq path
    have now := ((changed successor).flatMap_right fun post => post.worker.ahead source).count_eq path
    simp only [after, successor, ahead, Worker.ahead, List.flatMap_cons, List.count_append, List.count_nil]
      at before now ⊢
    omega
  refine ⟨after, ⟨?_, ?_, agrees.sent, ?_, ?_, agrees.intact.imp_left (·.turn found turn),
    agrees.faithful⟩, ?_⟩
  · simp only [after, List.map_set, agrees.manned]
    rfl
  · intro other present
    rcases List.mem_cons.mp ((changed successor).mem_iff.mp present) with rfl | remains
    · exact .listing directory
    · exact agrees.sound other (same.mem_iff.mpr (List.mem_cons_of_mem _ remains))
  · intro other visit
    rcases List.mem_cons.mp (visits.mem_iff.mp visit) with rfl | before
    · exact agrees.reaches_of_pending waiting
    · exact agrees.reached other before
  · rw [List.perm_iff_count]
    intro path
    have before := agrees.conserved.count_eq path
    have more := visits.count_eq path
    have ahead := listed.count_eq path
    have below := (visits.flatMap_right source.below).count_eq path
    have kept : after.lost = ledger.lost := rfl
    simp only [pending, kept, List.flatMap_cons, List.count_append, List.count_cons, Pool.place]
      at before more ahead below ⊢
    omega
  · have sums := sum_map_set (Worker.rank source) found (.listing directory)
    simp only [Worker.rank] at sums
    refine .took directory waiting visits rfl ?_
    simp only [workload, Pool.place]
    omega

/-- A worker drops its directory, with what it has not queued of it, and goes on to end the traversal. -/
theorem drop (agrees : ledger.Agrees source pool) {worker : Worker} {directory : String}
    (found : ledger.crew[index]? = some ⟨worker, some directory⟩) (successor : Worker)
    (failing : successor.IsFailing) (sound : Post.Sound source ⟨successor, none⟩)
    (closer : successor.rank source < worker.rank source) :
    ∃ after : Ledger, after.Agrees source (pool.place index successor) ∧
      Entered source pool ledger (pool.place index successor) after := by
  have nothing : successor.ahead source = [] := by
    cases successor <;> first | rfl | exact failing.elim
  have within : index < pool.workers.length := by
    rw [← agrees.manned, List.length_map]
    exact (List.getElem?_eq_some_iff.mp found).1
  refine agrees.carry found ⟨successor, none⟩ ledger.delivered (directory :: ledger.dropped)
    (ledger.lost ++ worker.ahead source) rfl sound agrees.sent List.perm_middle ?_ (.inl (.inr ?_))
    agrees.faithful (Nat.add_lt_add_right closer _)
  · simp only [nothing, List.append_nil, List.append_assoc]
    exact List.perm_append_comm.append_left _
  · exact ⟨successor, List.mem_iff_getElem?.mpr ⟨index, List.getElem?_set_self within⟩, failing⟩

/-- Closing the output leaves the ledger as it is. -/
theorem close (agrees : ledger.Agrees source pool) :
    ledger.Agrees source { pool with output := pool.output.close } :=
  ⟨agrees.manned, agrees.sound, agrees.sent, agrees.reached, agrees.conserved, agrees.intact, agrees.faithful⟩

/-- So does receiving what was sent. -/
theorem receive (agrees : ledger.Agrees source pool) {batch : Batch} {rest : List Batch}
    (queued : pool.output.queue = batch :: rest) :
    ledger.Agrees source
      { pool with output := { pool.output with queue := rest }, received := pool.received ++ [batch] } := by
  refine ⟨agrees.manned, agrees.sound, ?_, agrees.reached, agrees.conserved, agrees.intact, agrees.faithful⟩
  rw [← agrees.sent, queued, List.append_assoc]
  rfl

/-- Every step of a worker has its entry in the ledger. -/
theorem turn (agrees : ledger.Agrees source pool) {worker : Worker}
    (found : pool.workers[index]? = some worker) (turn : Pool.Turn source pool index worker next) :
    ∃ after : Ledger, after.Agrees source next ∧ Entered source pool ledger next after := by
  obtain ⟨directory, manning, sound⟩ := agrees.exists_post found
  have intact := agrees.intact.imp_left (·.turn found turn)
  cases turn with
  | takes going pending => exact agrees.take found going pending rfl
  | leaves =>
      cases sound
      exact agrees.carry manning ⟨.exited, none⟩ _ _ _ rfl .exited agrees.sent (.refl _) (.refl _) intact
        agrees.faithful (by simp [Pool.place, Worker.rank])
  | lists listed =>
      cases sound
      have same : source.below _ = directoriesAmong _ := Source.below_of_list listed
      exact agrees.carry manning ⟨.scanning _ _ [], some _⟩ _ _ _ rfl (.scanning [] listed rfl) agrees.sent
        (.refl _) (by rw [Worker.ahead, Worker.ahead, same]; exact .refl _) intact agrees.faithful
        (by simp [Pool.place, Worker.rank, Worker.extent, listed])
  | failsToList thrown =>
      cases sound
      exact agrees.drop manning (.recording _) trivial
        (.recording (.visiting (.listing (agrees.reaches_of_post manning) thrown))) (by simp [Worker.rank])
  | counts =>
      cases sound with
      | scanning seen listed read =>
          exact agrees.carry manning ⟨.queueing _ _ _ _, some _⟩ _ _ _ rfl (.queueing seen listed read)
            agrees.sent (.refl _) (.refl _) intact agrees.faithful (by simp [Pool.place, Worker.rank]; omega)
  | reads file =>
      cases sound with
      | scanning seen listed read =>
          refine agrees.carry manning ⟨.scanning _ _ _, some _⟩ _ _ _ rfl
            (.scanning (seen ++ [⟨_, false⟩]) (by rw [listed, List.append_assoc]; rfl) ?_) agrees.sent (.refl _)
            (.refl _) intact agrees.faithful (by simp [Pool.place, Worker.rank])
          rw [filesAmong_append]
          exact mapM_append_singleton read file
  | failsToRead thrown =>
      cases sound with
      | scanning seen listed read =>
          rename_i directory path _ _ _
          have present : path ∈ source.filesIn directory := by
            rw [Source.filesIn_of_list listed, filesAmong_append, filesAmong_file]
            exact List.mem_append_right _ List.mem_cons_self
          exact agrees.drop manning (.recording _) trivial
            (.recording (.visiting (.reading ⟨_, agrees.reaches_of_post manning, present⟩ thrown)))
            (by simp [Worker.rank])
  | scanned =>
      cases sound with
      | scanning seen listed read =>
          rw [List.append_nil] at listed
          exact agrees.carry manning ⟨.sending _, some _⟩ _ _ _ rfl
            (.sending ((Source.batch?_of_list listed).trans read)) agrees.sent (.refl _) (.refl _) intact
            agrees.faithful (by simp [Pool.place, Worker.rank])
  | @enqueues directory path entries batch =>
      cases sound with
      | queueing seen listed read =>
          refine agrees.carry manning ⟨.scanning _ _ _, some _⟩ _ _ _ rfl
            (.scanning (seen ++ [⟨path, true⟩]) (by rw [listed, List.append_assoc]; rfl) ?_) agrees.sent (.refl _)
            ?_ intact agrees.faithful (by simp [Pool.place, Worker.rank])
          · rw [filesAmong_append, filesAmong_directory]
            exact (List.append_nil _).symm ▸ read
          · simp only [Pool.place, Frontier.enqueue, Worker.ahead, List.append_assoc, List.cons_append]
            exact .refl _
  | @delivers batch accepting room =>
      cases sound with
      | sending complete =>
          rename_i directory
          refine agrees.carry manning ⟨.completing, none⟩ (ledger.delivered ++ [directory]) _ _ rfl .completing
            ?_ ?_ (.refl _) intact agrees.faithful (by simp [Pool.place, Worker.rank]; omega)
          · have before := agrees.sent
            rw [List.map_append] at before
            simp only [Pool.place, List.map_append, List.map_singleton, complete, ← before, List.append_assoc]
          · simp only [Option.toList_some, Option.toList_none, List.nil_append, List.singleton_append]
            exact List.perm_append_comm.append_right _
  | refused closed =>
      cases sound with
      | sending complete =>
          exact agrees.drop manning (.aborting false) trivial (.aborting false) (by simp [Worker.rank])
  | completes =>
      cases sound
      exact agrees.carry manning ⟨.popping, none⟩ _ _ _ rfl .popping agrees.sent (.refl _) (.refl _) intact
        agrees.faithful (by simp [Pool.place, Worker.rank])
  | records =>
      cases sound with
      | recording arises =>
          exact agrees.carry manning ⟨.aborting true, none⟩ _ _ _ rfl (.aborting true) agrees.sent (.refl _)
            (.refl _) intact (agrees.faithful.record arises) (by simp [Pool.place, Worker.rank])
  | aborts =>
      cases sound
      rename_i failed
      cases failed with
      | true =>
          exact agrees.carry manning ⟨.closing, none⟩ _ _ _ rfl .closing agrees.sent (.refl _) (.refl _) intact
            agrees.faithful (by simp [Pool.place, Worker.rank])
      | false =>
          exact agrees.carry manning ⟨.exited, none⟩ _ _ _ rfl .exited agrees.sent (.refl _) (.refl _) intact
            agrees.faithful (by simp [Pool.place, Worker.rank])
  | closes =>
      cases sound
      exact agrees.carry manning ⟨.exited, none⟩ _ _ _ rfl .exited agrees.sent (.refl _) (.refl _) intact
        agrees.faithful (by simp [Pool.place, Worker.rank, BoundedChannel.close])

/-- So has every step of the pool. -/
theorem step? (agrees : ledger.Agrees source pool) {action : Pool.Action}
    (stepped : pool.step? source action = some next) : ∃ after : Ledger, after.Agrees source next := by
  cases action with
  | work index =>
      obtain ⟨worker, found, turn⟩ := Pool.exists_turn_of_step? stepped
      obtain ⟨after, agrees, _⟩ := agrees.turn found turn
      exact ⟨after, agrees⟩
  | receive =>
      obtain ⟨batch, rest, queued, rfl⟩ := Pool.step?_receive_eq_some_iff.mp stepped
      exact ⟨ledger, agrees.receive queued⟩
  | closeOutput =>
      cases stepped
      exact ⟨ledger, agrees.close⟩

/-- And every step of a call. -/
theorem run? (agrees : ledger.Agrees source pool) {outcome : Option (Except CallError Unit)} {final : Call}
    {schedule : List Call.Action} (ran : (⟨pool, outcome⟩ : Call).run? source schedule = some final) :
    ∃ after : Ledger, after.Agrees source final.pool := by
  refine Call.run?_induction (motive := fun call => ∃ after : Ledger, after.Agrees source call.pool) ?_
    ⟨ledger, agrees⟩ ran
  rintro call action next _ ⟨before, agrees⟩ stepped
  rcases Call.step?_eq_some_iff.mp stepped with ⟨poolAction, pool, rfl, moved, rfl⟩ | ⟨rfl, _, _, rfl⟩
  · exact agrees.step? moved
  · exact ⟨before, agrees.close⟩

end Agrees

namespace Balances

variable {tree : Tree source} {ledger : Ledger} {call final : Call} {schedule : List Call.Action}

theorem start (tree : Tree source) {crew : List Worker} (begins : ∀ worker ∈ crew, worker.Begins)
    (output : BoundedChannel Batch) (empty : output.queue = []) :
    Balances tree (.start crew output)
      { crew := crew.map fun worker => ⟨worker, none⟩, unvisited := tree.directories } where
  toAgrees := .start source begins output empty tree.directories
  covered := by
    rw [visited, Agrees.flatMap_crew_nil fun _ _ => rfl]
    exact .refl _

/-- What is pending belongs to the tree and was not visited before. -/
theorem mem_unvisited (balances : ledger.Balances tree pool) {directory : String}
    (pending : directory ∈ pool.frontier.pending) : directory ∈ ledger.unvisited := by
  have present : directory ∈ tree.directories :=
    (tree.mem_directories directory).mpr (balances.reaches_of_pending pending)
  refine (List.mem_append.mp (balances.covered.mem_iff.mpr present)).resolve_left fun visited => ?_
  -- visited and pending at once would make two listings of it
  have once := (List.nodup_iff_count_le_one.mp tree.directories_listed_once) directory
  have split := (balances.covered.flatMap_right source.below).count_eq directory
  have kept := balances.conserved.count_eq directory
  have first := List.count_pos_iff.mpr pending
  have second := List.count_pos_iff.mpr visited
  simp only [List.flatMap_append, List.count_append, List.count_cons] at once split kept
  omega

/-- Closing the output leaves the ledger as it is. -/
theorem close (balances : ledger.Balances tree pool) :
    ledger.Balances tree { pool with output := pool.output.close } :=
  ⟨balances.toAgrees.close, balances.covered⟩

/-- A step of a worker that has its entry in the ledger brings it closer to its end. -/
theorem turn (balances : ledger.Balances tree pool) {worker : Worker}
    (found : pool.workers[index]? = some worker) (turn : Pool.Turn source pool index worker next) :
    ∃ after : Ledger, after.Balances tree next ∧ after.potential source next < ledger.potential source pool := by
  obtain ⟨after, agrees, entered⟩ := balances.toAgrees.turn found turn
  cases entered with
  | carried visits unvisited closer =>
      refine ⟨after, ⟨agrees, ?_⟩, ?_⟩
      · rw [unvisited]
        exact (visits.append_right _).trans balances.covered
      · simp only [potential, unvisited]
        omega
  | took directory pending visits unvisited closer =>
      have left : ledger.unvisited.Perm (directory :: ledger.unvisited.erase directory) :=
        List.perm_cons_erase (balances.mem_unvisited pending)
      refine ⟨after, ⟨agrees, ?_⟩, ?_⟩
      · calc after.visited ++ after.unvisited
            |>.Perm (directory :: ledger.visited ++ ledger.unvisited.erase directory) :=
              unvisited ▸ visits.append_right _
          _ |>.Perm (ledger.visited ++ directory :: ledger.unvisited.erase directory) := List.perm_middle.symm
          _ |>.Perm (ledger.visited ++ ledger.unvisited) := left.symm.append_left _
          _ |>.Perm tree.directories := balances.covered
      · have saved := (left.map fun directory => 2 * Worker.extent source directory + 6).sum_eq
        simp only [List.map_cons, List.sum_cons] at saved
        simp only [potential, unvisited]
        omega

/-- So has every step of the pool; only closing the output brings its end no closer. -/
theorem step? (balances : ledger.Balances tree pool) {action : Pool.Action}
    (stepped : pool.step? source action = some next) :
    ∃ after : Ledger, after.Balances tree next ∧
      after.potential source next + (if action = .closeOutput then 0 else 1) ≤ ledger.potential source pool := by
  cases action with
  | work index =>
      obtain ⟨worker, found, turn⟩ := Pool.exists_turn_of_step? stepped
      exact balances.turn found turn
  | receive =>
      obtain ⟨batch, rest, queued, rfl⟩ := Pool.step?_receive_eq_some_iff.mp stepped
      refine ⟨ledger, ⟨balances.toAgrees.receive queued, balances.covered⟩, ?_⟩
      simp only [potential, workload, queued, List.length_cons, reduceCtorEq, if_false]
      omega
  | closeOutput =>
      cases stepped
      exact ⟨ledger, balances.close, Nat.le_refl _⟩

/-- Along a run every step but a close uses up some of the potential, and so does the return. -/
theorem run? (balances : ledger.Balances tree call.pool) (ran : call.run? source schedule = some final) :
    ∃ after : Ledger, after.Balances tree final.pool ∧
      after.potential source final.pool + final.outcome.isNone.toNat + schedule.length ≤
        ledger.potential source call.pool + call.outcome.isNone.toNat +
          schedule.count (.pool .closeOutput) := by
  induction schedule generalizing call ledger with
  | nil =>
      cases ran
      exact ⟨ledger, balances, Nat.le_refl _⟩
  | cons action rest ih =>
      obtain ⟨next, stepped, ran⟩ := Option.bind_eq_some_iff.mp ran
      rcases Call.step?_eq_some_iff.mp stepped with ⟨poolAction, pool, rfl, moved, rfl⟩ | ⟨rfl, going, _, rfl⟩
      · obtain ⟨middle, balances, spent⟩ := balances.step? moved
        obtain ⟨after, balances, bound⟩ := ih balances ran
        refine ⟨after, balances, ?_⟩
        rw [List.length_cons, List.count_cons]
        by_cases closes : poolAction = .closeOutput
        · simp only [closes, beq_self_eq_true, if_true] at spent bound ⊢
          omega
        · have other : (Call.Action.pool poolAction == .pool .closeOutput) = false := by simpa using closes
          simp only [closes, other, Bool.false_eq_true, if_false] at spent bound ⊢
          omega
      · obtain ⟨after, balances, bound⟩ := ih balances.close ran
        refine ⟨after, balances, ?_⟩
        have other : (Call.Action.conclude == .pool .closeOutput) = false := rfl
        simp only [going, potential, workload, List.length_cons, List.count_cons, other, BoundedChannel.close,
          Option.isNone_none, Option.isNone_some, Bool.toNat_true, Bool.toNat_false, Bool.false_eq_true, if_false]
          at bound ⊢
        omega

end Balances

end Ledger

end Courier.Discovery
