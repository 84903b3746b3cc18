import Courier.Proofs.Discovery.Collecting
import Courier.Proofs.Discovery.Levels

/-!
# All calls gather alike

Whatever the listings are, a call that gathers files has delivered the root and all that
it lists in turn, and has met no failure. So the listings alone tell which files
these are: any other call, with its own number of workers, capacity and schedule,
gathers the same files in some order, or has yet to end, or fails because a thread was
refused to one of its workers.
-/

namespace Courier.Discovery

variable {source : Source} {host otherHost : Host} {settings otherSettings : Settings}
  {gathered : Except CallError (List File)} {files : List File}

/-- What gathering can come to, over all capacities and schedules with a patient consumer. -/
inductive Gathers (host : Host) (settings : Settings) (source : Source)
    (gathered : Except CallError (List File)) : Prop where
  | intro {capacity : Nat} {output : BoundedChannel Batch} {schedule : List Call.Action} {final : Call}
      (fresh : BoundedChannel.ofCapacity capacity = .ok output)
      (patient : .pool .closeOutput ∉ schedule)
      (ran : (Call.start host settings output).run? source schedule = some final)
      (found : final.gathered? = some gathered) : Gathers host settings source gathered

/-- Nothing is gathered unless the workers can be listed. -/
theorem Gathers.lists (gathers : Gathers host settings source gathered) : host.Lists settings.workers := by
  by_contra unlisted
  obtain ⟨fresh, patient, ran, found⟩ := gathers
  rw [Call.gathered?_of_not_lists fresh unlisted patient ran] at found
  cases found

/-- Files that were gathered are those in the root and in all that it lists in turn, where every directory makes
its batch. -/
theorem Gathers.exists_closed (gathers : Gathers host settings source (.ok files)) :
    ∃ directories : List String, directories.Perm ("" :: directories.flatMap source.below) ∧
      (∀ path, path ∈ directories ↔ source.Reaches path) ∧
      ∃ batches : List Batch, batches.map .ok = directories.map source.batch? ∧ files = batches.flatten := by
  have lists := gathers.lists
  obtain @⟨_, _, _, final, fresh, patient, ran, found⟩ := gathers
  obtain ⟨outcome, returned, drained, same⟩ := Call.of_gathered? found
  obtain ⟨ledger, agrees⟩ := Call.exists_agrees_of_run? fresh ran
  have orderly := Call.isOrderly_of_run? lists fresh patient ran
  obtain ⟨told, done, _⟩ := orderly.settled outcome returned
  have clean : final.pool.failure = none := by
    cases recorded : final.pool.failure with
    | none => rfl
    | some fault =>
        rw [told, recorded] at same
        cases same
  obtain ⟨visited, closed⟩ := agrees.of_isDone orderly.attended done (orderly.going clean)
  have sent := agrees.sent
  rw [drained, List.append_nil] at sent
  refine ⟨ledger.delivered, closed, fun path => ⟨fun present => ?_, fun reached => ?_⟩, _, sent, ?_⟩
  · exact agrees.reached path (visited ▸ present)
  · induction reached with
    | root => exact closed.mem_iff.mpr List.mem_cons_self
    | descend _ listed ih =>
        exact closed.mem_iff.mpr (List.mem_cons_of_mem _ (List.mem_flatMap.mpr ⟨_, ih, listed⟩))
  · rw [told, clean] at same
    exact Except.ok.inj same

/-- Where files were gathered, nothing fails. -/
theorem Gathers.not_fails (gathers : Gathers host settings source (.ok files)) (path : String) (fault : Fault) :
    ¬ source.Fails path fault := by
  intro fails
  obtain ⟨directories, _, reached, batches, sent, _⟩ := gathers.exists_closed
  obtain ⟨directory, other, here, failed⟩ := fails.exists_batch?
  have complete : source.batch? directory ∈ batches.map .ok := by
    rw [sent]
    exact List.mem_map_of_mem ((reached directory).mpr here)
  simp [failed] at complete

/-- An error comes of what fails among what is reached, or of a thread that was refused. -/
theorem Gathers.fails_or_refused {error : CallError} (gathers : Gathers host settings source (.error error)) :
    ∃ fault, error = fault.thrown ∧
      ((∃ path, source.Fails path fault) ∨ fault = Host.refusal ∧ host.threads < settings.workers) := by
  have lists := gathers.lists
  obtain @⟨_, _, _, final, fresh, patient, ran, found⟩ := gathers
  obtain ⟨outcome, returned, _, same⟩ := Call.of_gathered? found
  obtain ⟨ledger, agrees⟩ := Call.exists_agrees_of_run? fresh ran
  rw [((Call.isOrderly_of_run? lists fresh patient ran).settled outcome returned).1] at same
  cases recorded : final.pool.failure with
  | none =>
      rw [recorded] at same
      cases same
  | some fault =>
      rw [recorded] at same
      cases same
      exact ⟨fault, rfl, Call.fails_or_refused lists ran agrees recorded⟩

/-- Where nothing fails, gathering comes to files, or a thread was refused. -/
theorem Gathers.exists_ok (gathers : Gathers host settings source gathered)
    (intact : ∀ path fault, ¬ source.Fails path fault) :
    (∃ files, gathered = .ok files) ∨
      gathered = .error Host.refusal.thrown ∧ host.threads < settings.workers := by
  cases gathered with
  | ok files => exact .inl ⟨files, rfl⟩
  | error error =>
      obtain ⟨fault, rfl, ⟨path, fails⟩ | ⟨rfl, refused⟩⟩ := gathers.fails_or_refused
      · exact absurd fails (intact path fault)
      · exact .inr ⟨rfl, refused⟩

/-- Of a root that lists itself no call gathers files, and none for it ends unless something fails or a thread is
refused. -/
theorem Gathers.of_root_below (gathers : Gathers host settings source gathered) (itself : "" ∈ source.below "") :
    (∃ error, gathered = .error error) ∧
      ((∃ path fault, source.Fails path fault) ∨ host.threads < settings.workers) := by
  cases gathered with
  | ok files =>
      obtain ⟨directories, closed, _⟩ := gathers.exists_closed
      obtain ⟨depth, finite⟩ := Source.exists_level_eq_nil_of_closed closed
      have root := Source.root_mem_level itself depth
      rw [finite] at root
      cases root
  | error error =>
      obtain ⟨fault, _, ⟨path, fails⟩ | ⟨_, refused⟩⟩ := gathers.fails_or_refused
      · exact ⟨⟨error, rfl⟩, .inl ⟨path, fault, fails⟩⟩
      · exact ⟨⟨error, rfl⟩, .inr refused⟩

/-- If files were gathered of a source, everything that gathering can come to of one that is alike are these files, in
some order, unless a thread is refused. -/
theorem Gathers.alike {other : Source} (gathers : Gathers host settings source (.ok files))
    (alike : source.Alike other) (again : Gathers otherHost otherSettings other gathered) :
    (∃ others, gathered = .ok others ∧ files.Perm others) ∨
      gathered = .error Host.refusal.thrown ∧ otherHost.threads < otherSettings.workers := by
  refine (again.exists_ok fun path fault fails => gathers.not_fails path fault (alike.fails fails)).imp_left ?_
  rintro ⟨others, rfl⟩
  obtain ⟨directories, closed, reached, batches, sent, rfl⟩ := gathers.exists_closed
  obtain ⟨otherDirectories, otherClosed, otherReached, otherBatches, otherSent, rfl⟩ := again.exists_closed
  have here (path : String) (present : path ∈ otherDirectories) : source.Reaches path :=
    alike.reaches_iff.mp ((otherReached path).mp present)
  rw [List.flatMap_congr fun path present => alike.below_eq (here path present)] at otherClosed
  obtain ⟨depth, finite⟩ := Source.exists_level_eq_nil_of_closed closed
  have same : directories.Perm otherDirectories :=
    (Source.perm_levels_of_closed closed (fun path present => (reached path).mp present) finite).trans
      (Source.perm_levels_of_closed otherClosed here finite).symm
  have filesIn : otherDirectories.flatMap other.filesIn = otherDirectories.flatMap source.filesIn :=
    List.flatMap_congr fun path present => alike.filesIn_eq (here path present)
  have read : (otherDirectories.flatMap source.filesIn).map other.metadata =
      (otherDirectories.flatMap source.filesIn).map source.metadata := by
    refine List.map_congr_left fun path present => alike.metadata path ?_
    obtain ⟨directory, there, inside⟩ := List.mem_flatMap.mp present
    exact ⟨directory, here directory there, inside⟩
  have injective : Function.Injective (Except.ok : File → Except Fault File) := fun _ _ => Except.ok.inj
  refine ⟨_, rfl, (List.map_perm_map_iff injective).mp ?_⟩
  rw [map_ok_flatten sent, map_ok_flatten otherSent, filesIn, read]
  exact (same.flatMap_right source.filesIn).map source.metadata

end Courier.Discovery
