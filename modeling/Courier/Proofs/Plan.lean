import Mathlib.Data.List.Sort
import Courier.Plan

/-!
# Plans are stable partitions

The order of a plan is described without an algorithm: sizes ascend, and the files
of any one size stand as they were given. No two arrangements fit that
description. A search by halves finds the place at which an ascending list is cut
by a size, so each part of a plan is the arrangement of the files that belong there.
-/

namespace Courier.Plan

variable {files first second sorted : List File} {size : UInt64}

/-- Sizes never descend. -/
def IsAscending (files : List File) : Prop := files.Pairwise fun first second => first.size ≤ second.size

/-- The files of one size, in their order. -/
def ofSize (size : UInt64) (files : List File) : List File := files.filter fun file => file.size = size

/-- An arrangement in ascending order of size in which the files of one size keep their order. -/
structure IsStableSort (files sorted : List File) : Prop where
  ascending : IsAscending sorted
  stable : ∀ size, ofSize size sorted = ofSize size files

/-! ## One arrangement -/

theorem mem_ofSize {file : File} : file ∈ ofSize size files ↔ file ∈ files ∧ file.size = size := by
  simp [ofSize]

theorem count_ofSize (file : File) (files : List File) :
    (ofSize file.size files).count file = files.count file := List.count_filter (decide_eq_true rfl)

/-- The files of every size are all files. -/
theorem perm_of_ofSize_eq (same : ∀ size, ofSize size first = ofSize size second) : first.Perm second := by
  rw [List.perm_iff_count]
  intro file
  rw [← count_ofSize, same, count_ofSize]

/-- The first file of an ascending list is no greater than any other. -/
theorem IsAscending.head_le {head file : File} {rest : List File} (ascending : IsAscending (head :: rest))
    (present : file ∈ head :: rest) : head.size ≤ file.size := by
  rcases List.mem_cons.mp present with rfl | later
  · exact UInt64.le_refl _
  · exact (List.pairwise_cons.mp ascending).1 file later

/-- Two ascending lists with the same files of every size are equal. -/
theorem IsAscending.eq (ascending : IsAscending first) (alsoAscending : IsAscending second)
    (same : ∀ size, ofSize size first = ofSize size second) : first = second := by
  have shared := perm_of_ofSize_eq same
  induction first generalizing second with
  | nil => exact shared.nil_eq
  | cons file rest ih =>
      cases second with
      | nil => exact shared.eq_nil
      | cons other others =>
          have equal : file.size = other.size :=
            UInt64.le_antisymm (ascending.head_le (shared.mem_iff.mpr List.mem_cons_self))
              (alsoAscending.head_le (shared.mem_iff.mp List.mem_cons_self))
          -- both heads lead the files of their size
          have heads := same file.size
          simp only [ofSize, List.filter_cons, equal, decide_true, if_true, List.cons.injEq] at heads
          obtain ⟨rfl, _⟩ := heads
          have tails (size : UInt64) : ofSize size rest = ofSize size others := by
            have whole := same size
            simp only [ofSize, List.filter_cons] at whole
            split at whole
            · exact (List.cons.inj whole).2
            · exact whole
          rw [ih (List.pairwise_cons.mp ascending).2 (List.pairwise_cons.mp alsoAscending).2 tails
            (perm_of_ofSize_eq tails)]

namespace IsStableSort

theorem eq (arranged : IsStableSort files first) (alsoArranged : IsStableSort files second) : first = second :=
  arranged.ascending.eq alsoArranged.ascending fun size =>
    (arranged.stable size).trans (alsoArranged.stable size).symm

theorem perm (arranged : IsStableSort files sorted) : sorted.Perm files := perm_of_ofSize_eq arranged.stable

/-- Leaving out files does not disturb the order of the others. -/
theorem filter (arranged : IsStableSort files sorted) (keep : File → Bool) :
    IsStableSort (files.filter keep) (sorted.filter keep) where
  ascending := List.Pairwise.filter keep arranged.ascending
  stable size := by
    have kept (files : List File) : ofSize size (files.filter keep) = (ofSize size files).filter keep :=
      List.filter_comm _ _ files
    rw [kept, kept, arranged.stable]

end IsStableSort

theorem isStableSort_sortBySize (files : List File) : IsStableSort files (sortBySize files) := by
  have transitive (first second third : File) (below : decide (first.size ≤ second.size) = true)
      (above : decide (second.size ≤ third.size) = true) : decide (first.size ≤ third.size) = true :=
    decide_eq_true (UInt64.le_trans (of_decide_eq_true below) (of_decide_eq_true above))
  have total (first second : File) :
      (decide (first.size ≤ second.size) || decide (second.size ≤ first.size)) = true := by
    simpa using UInt64.le_total first.size second.size
  have rearranged : (sortBySize files).Perm files := List.mergeSort_perm _ _
  refine ⟨(List.pairwise_mergeSort transitive total files).imp of_decide_eq_true, fun size => ?_⟩
  -- the files of one size are in order already, so sorting leaves them in theirs
  have level : (ofSize size files).Pairwise fun first second => decide (first.size ≤ second.size) = true := by
    refine List.pairwise_of_forall_mem_list fun first present second later => ?_
    rw [(mem_ofSize.mp present).2, (mem_ofSize.mp later).2]
    exact decide_eq_true (UInt64.le_refl size)
  have within : (ofSize size files).Sublist (sortBySize files) :=
    List.sublist_mergeSort transitive total level List.filter_sublist
  have sized : (ofSize size (ofSize size files)).Sublist (ofSize size (sortBySize files)) := within.filter _
  have again : ofSize size (ofSize size files) = ofSize size files := by simp [ofSize]
  rw [again] at sized
  exact (sized.eq_of_length (rearranged.filter _).length_eq.symm).symm

/-! ## Cutting -/

/-- The search ends between the files below the size and the others. -/
theorem exists_cut (size : UInt64) (ascending : IsAscending files) :
    ∃ lower upper, files = lower ++ upper ∧ placeOf size files = lower.length ∧
      (∀ file ∈ lower, file.size < size) ∧ ∀ file ∈ upper, size ≤ file.size := by
  induction files using placeOf.induct size with
  | case1 files nothing =>
      have short := congrArg List.length nothing
      rw [List.length_drop, List.length_nil] at short
      have empty : files = [] := List.length_eq_zero_iff.mp (by omega)
      subst empty
      exact ⟨[], [], rfl, by rw [placeOf]; rfl, List.forall_mem_nil _, List.forall_mem_nil _⟩
  | case2 files middle above halved below ih =>
      have whole : files = files.take (files.length / 2) ++ middle :: above := by
        rw [← halved, List.take_append_drop]
      have length : (files.take (files.length / 2)).length = files.length / 2 :=
        List.length_take_of_le (Nat.div_le_self _ _)
      have found : placeOf size files = files.length / 2 + 1 + placeOf size above := by
        rw [placeOf, halved]
        exact if_pos below
      rw [IsAscending, whole, List.pairwise_append, List.pairwise_cons] at ascending
      obtain ⟨_, ⟨_, later⟩, across⟩ := ascending
      obtain ⟨lower, upper, rfl, place, fewer, atLeast⟩ := ih later
      refine ⟨files.take (files.length / 2) ++ middle :: lower, upper, ?_, ?_, ?_, atLeast⟩
      · rw [List.append_assoc, List.cons_append]
        exact whole
      · rw [found, place, List.length_append, length, List.length_cons]
        omega
      · intro file present
        rcases List.mem_append.mp present with front | back
        · exact UInt64.lt_of_le_of_lt (across file front middle List.mem_cons_self) below
        · rcases List.mem_cons.mp back with rfl | back
          · exact below
          · exact fewer file back
  | case3 files middle above halved reached ih =>
      have whole : files = files.take (files.length / 2) ++ middle :: above := by
        rw [← halved, List.take_append_drop]
      have found : placeOf size files = placeOf size (files.take (files.length / 2)) := by
        rw [placeOf, halved]
        exact if_neg reached
      rw [IsAscending, whole, List.pairwise_append] at ascending
      obtain ⟨earlier, later, _⟩ := ascending
      obtain ⟨lower, upper, split, place, fewer, atLeast⟩ := ih earlier
      refine ⟨lower, upper ++ middle :: above, ?_, found.trans place, fewer, ?_⟩
      · rw [← List.append_assoc, ← split]
        exact whole
      · intro file present
        have least := UInt64.not_lt.mp reached
        rcases List.mem_append.mp present with front | back
        · exact atLeast file front
        · exact UInt64.le_trans least (IsAscending.head_le later back)

/-- What stands before the place are the files below the size, and what stands from it on are the others. -/
theorem cut_eq_filter (size : UInt64) (ascending : IsAscending files) :
    files.take (placeOf size files) = files.filter (fun file => file.size < size) ∧
      files.drop (placeOf size files) = files.filter (fun file => size ≤ file.size) := by
  obtain ⟨lower, upper, rfl, place, fewer, atLeast⟩ := exists_cut size ascending
  have kept : lower.filter (fun file => decide (file.size < size)) = lower :=
    List.filter_eq_self.mpr fun file present => decide_eq_true (fewer file present)
  have left : upper.filter (fun file => decide (file.size < size)) = [] :=
    List.filter_eq_nil_iff.mpr fun file present => by simpa using atLeast file present
  have alsoKept : upper.filter (fun file => decide (size ≤ file.size)) = upper :=
    List.filter_eq_self.mpr fun file present => decide_eq_true (atLeast file present)
  have alsoLeft : lower.filter (fun file => decide (size ≤ file.size)) = [] :=
    List.filter_eq_nil_iff.mpr fun file present => by simpa using fewer file present
  rw [place, List.take_left, List.drop_left, List.filter_append, List.filter_append, kept, left, alsoKept,
    alsoLeft, List.append_nil, List.nil_append]
  exact ⟨rfl, rfl⟩

/-! ## Plans -/

/-- Whether the files of one part of a plan are those of some sizes, each as often as it was given and in stable
ascending order. -/
structure IsPart (files part : List File) (belongs : UInt64 → Bool) : Prop where
  arranged : IsStableSort (files.filter fun file => belongs file.size) part
  count : ∀ file, part.count file = if belongs file.size then files.count file else 0

theorem isPart_sortBySize (files : List File) (belongs : UInt64 → Bool) :
    IsPart files ((sortBySize files).filter fun file => belongs file.size) belongs where
  arranged := (isStableSort_sortBySize files).filter _
  count file := by
    split
    · rename_i kept
      rw [← (isStableSort_sortBySize files).perm.count_eq]
      exact List.count_filter kept
    · rename_i left
      exact List.count_eq_zero.mpr fun present => left (List.mem_filter.mp present).2

/-- The parts of a plan are cut out of the stable ascending order of all files, in this order. -/
theorem exists_create (files : List File) {thresholds : Thresholds}
    (ordered : thresholds.small ≤ thresholds.large) :
    ∃ plan, create files thresholds = .ok plan ∧ plan.thresholds = thresholds ∧
      plan.small = (sortBySize files).filter (fun file => file.size < thresholds.small) ∧
      plan.singleChunk =
        (sortBySize files).filter (fun file => thresholds.small ≤ file.size ∧ file.size < thresholds.large) ∧
      plan.large = (sortBySize files).filter (fun file => thresholds.large ≤ file.size) ∧
      plan.small ++ plan.singleChunk ++ plan.large = sortBySize files := by
  have ascending := (isStableSort_sortBySize files).ascending
  obtain ⟨small, rest⟩ := cut_eq_filter thresholds.small ascending
  have restAscending : IsAscending ((sortBySize files).drop (placeOf thresholds.small (sortBySize files))) :=
    List.Pairwise.sublist (List.drop_sublist _ _) ascending
  obtain ⟨single, large⟩ := cut_eq_filter thresholds.large restAscending
  refine ⟨_, if_neg (UInt64.not_lt.mpr ordered), rfl, small, ?_, ?_, ?_⟩
  · refine single.trans ?_
    rw [rest, List.filter_filter]
    refine List.filter_congr fun file _ => ?_
    rw [Bool.decide_and, Bool.and_comm]
  · refine large.trans ?_
    rw [rest, List.filter_filter]
    refine List.filter_congr fun file _ => ?_
    rw [Bool.and_eq_left_iff_imp, decide_eq_true_iff, decide_eq_true_iff]
    exact UInt64.le_trans ordered
  · rw [List.append_assoc, List.take_append_drop, List.take_append_drop]

/-- A plan is refused exactly if the thresholds are the wrong way round. Otherwise its parts are the files below
the lower threshold, those from there to below the upper one, and those from there on, each in stable ascending
order, and one after the other they are the one stable ascending order of all files. -/
theorem create_partitions (files : List File) (thresholds : Thresholds) :
    ((∃ error, create files thresholds = .error error) ↔ thresholds.large < thresholds.small) ∧
    (thresholds.large < thresholds.small →
      create files thresholds = .error (.thresholds thresholds.small thresholds.large)) ∧
    (thresholds.small ≤ thresholds.large → ∃ plan, create files thresholds = .ok plan ∧
      plan.thresholds = thresholds ∧
      IsPart files plan.small (fun size => size < thresholds.small) ∧
      IsPart files plan.singleChunk (fun size => thresholds.small ≤ size ∧ size < thresholds.large) ∧
      IsPart files plan.large (fun size => thresholds.large ≤ size) ∧
      ∀ sorted, IsStableSort files sorted ↔ plan.small ++ plan.singleChunk ++ plan.large = sorted) := by
  have refused (inverted : thresholds.large < thresholds.small) :
      create files thresholds = .error (.thresholds thresholds.small thresholds.large) := if_pos inverted
  refine ⟨⟨?_, fun inverted => ⟨_, refused inverted⟩⟩, refused, fun ordered => ?_⟩
  · rintro ⟨error, failed⟩
    refine UInt64.not_le.mp fun ordered => ?_
    obtain ⟨plan, made, _⟩ := exists_create files ordered
    rw [made] at failed
    cases failed
  · obtain ⟨plan, made, carried, small, single, large, whole⟩ := exists_create files ordered
    have arranged := isStableSort_sortBySize files
    refine ⟨plan, made, carried, ?_, ?_, ?_, fun sorted => ?_⟩
    · rw [small]
      exact isPart_sortBySize files fun size => decide (size < thresholds.small)
    · rw [single]
      exact isPart_sortBySize files fun size => decide (thresholds.small ≤ size ∧ size < thresholds.large)
    · rw [large]
      exact isPart_sortBySize files fun size => decide (thresholds.large ≤ size)
    · rw [whole]
      constructor
      · exact arranged.eq
      · rintro rfl
        exact arranged

end Courier.Plan
