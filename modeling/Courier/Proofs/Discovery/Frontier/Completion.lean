import Courier.Proofs.Discovery.Frontier.Account

/-!
# The completion of a traversal

The count of a directory is never given up before the directory is completed. So
when nothing is outstanding nobody holds a directory, and nobody can find another:
the traversal is done for good, and only then are visitors dismissed, unless it is
aborted.
-/

namespace Courier.Frontier.Crew

variable {crew next : Crew} {action : Action} {report : Report} {history : List Report} {root : String}

/-! ## In whose hands the backlog is -/

section Hands

variable {index : Nat} {visitor : Visitor}

theorem length_held_le (crew : Crew) : crew.held.length ≤ crew.visitors.length :=
  List.length_filterMap_le _ _

/-- Who has found a directory holds another. -/
theorem length_found_le_held (crew : Crew) : crew.found.length ≤ crew.held.length := by
  rw [found, held]
  induction crew.visitors with
  | nil => exact Nat.le_refl _
  | cons visitor rest ih =>
      cases visitor with
      | idle => exact ih
      | waiting => exact ih
      | visiting path => exact Nat.le_succ_of_le ih
      | pushing path found => exact Nat.succ_le_succ ih

theorem held_ne_nil_of_backlog (nothing : crew.waiting.frontier.pending = []) (something : crew.backlog ≠ 0) :
    crew.held ≠ [] := by
  intro nobody
  have fewer := crew.length_found_le_held
  rw [nobody, List.length_nil] at fewer
  refine something ?_
  rw [backlog, nothing, nobody]
  simpa using fewer

theorem backlog_ne_zero_of_held {path : String} (present : crew.visitors[index]? = some visitor)
    (holds : visitor.held? = some path) : crew.backlog ≠ 0 := by
  have member : path ∈ crew.held := List.mem_filterMap.mpr ⟨visitor, List.mem_of_getElem? present, holds⟩
  have some := List.length_pos_of_mem member
  rw [backlog]
  omega

end Hands

/-- With no backlog left, visitors are only dismissed. -/
theorem Turn.of_backlog_eq_zero (turn : Turn crew action report next) (balanced : crew.IsBalanced)
    (alert : crew.IsAlert) (done : crew.backlog = 0) :
    (report = .dismissed ∨ report = .aborted) ∧ next.backlog = 0 := by
  have backlog := turn.moves.backlog
  cases turn with
  | takes present asks going pending =>
      rw [Crew.backlog, pending, List.length_cons] at done
      omega
  | leaves present asks finished => exact ⟨.inl rfl, backlog.trans done⟩
  | parks present asks going nothing outstanding =>
      rw [balanced.outstanding, done] at outstanding
      exact absurd rfl outstanding
  | counts present => exact absurd done (backlog_ne_zero_of_held present rfl)
  | enqueues present counted => exact absurd done (backlog_ne_zero_of_held present rfl)
  | completes present => exact absurd done (backlog_ne_zero_of_held present rfl)
  | aborts => exact ⟨.inr rfl, backlog.trans done⟩
  | rouses somebody => exact absurd done (alert somebody).2.2

/-! ## Asking -/

section Asking

variable {index : Nat} {visitor : Visitor}

/-- Who asks is answered, unless it waits and nobody is woken. -/
theorem step?_pop_cases (present : crew.visitors[index]? = some visitor) (asking : visitor.asks = true) :
    (∃ asked, Asks crew.waiting visitor asked ∧
        crew.step? (.visit index .pop) = some (crew.answer index asked.attemptPop)) ∨
      visitor = .waiting ∧ crew.waiting.woken = 0 ∧ crew.step? (.visit index .pop) = none := by
  cases visitor with
  | idle => exact .inl ⟨crew.waiting, .comes, by rw [step?, present]; rfl⟩
  | waiting =>
      by_cases nobody : crew.waiting.woken = 0
      · exact .inr ⟨rfl, nobody, by simp [step?, present, visit?, Waiting.step?, nobody]⟩
      · exact .inl ⟨_, .returns nobody, by simp [step?, present, visit?, Waiting.step?, nobody]⟩
  | visiting path => cases asking
  | pushing path found => cases asking

/-- Who waits is parked or woken, or stands in for one that is. -/
theorem IsBalanced.waiting_ne_zero (balanced : crew.IsBalanced) (present : crew.visitors[index]? = some .waiting) :
    crew.waiting.parked + crew.waiting.woken ≠ 0 := by
  have member : 1 ∈ crew.visitors.map Visitor.waits :=
    List.mem_map.mpr ⟨.waiting, List.mem_of_getElem? present, rfl⟩
  have counts := List.single_le_sum (fun _ _ => Nat.zero_le _) 1 member
  rw [balanced.waiters, Crew.waiters]
  omega

/-- Every visitor that asks is told that there is no directory to come. -/
def Dismisses (crew : Crew) : Prop :=
  ∀ index visitor, crew.visitors[index]? = some visitor → visitor.asks = true →
    ∃ next, crew.step? (.visit index .pop) = some (.dismissed, next)

theorem dismisses_of_finished (balanced : crew.IsBalanced) (nobody : crew.waiting.parked = 0)
    (finished : crew.waiting.frontier.aborted = true ∨
      crew.waiting.frontier.pending = [] ∧ crew.waiting.frontier.outstanding = 0) : crew.Dismisses := by
  intro index visitor present asking
  rcases step?_pop_cases present asking with ⟨asked, asks, stepped⟩ | ⟨rfl, woken, _⟩
  · have same := asks.quiet.1
    have turn := turn_of_attempt present asks (Prod.mk.eta).symm
    rw [stepped]
    generalize crew.answer index asked.attemptPop = answered at turn
    obtain ⟨report, next⟩ := answered
    cases turn with
    | takes _ _ going pending =>
        rcases finished with aborted | ⟨nothing, _⟩
        · simp [going] at aborted
        · simp [pending] at nothing
    | leaves => exact ⟨_, rfl⟩
    | parks _ _ going nothing outstanding =>
        rcases finished with aborted | ⟨_, none⟩
        · simp [going] at aborted
        · exact absurd none outstanding
  · have some := balanced.waiting_ne_zero present
    omega

end Asking

/-! ## Runs -/

/-- Everything that a run keeps. -/
structure IsSound (root : String) (visitors : Nat) (history : List Report) (crew : Crew) : Prop where
  balanced : crew.IsBalanced
  traced : IsTraced root history crew
  alert : crew.IsAlert
  size : crew.visitors.length = visitors

theorem Turn.length_visitors (turn : Turn crew action report next) :
    next.visitors.length = crew.visitors.length := by
  cases turn <;> simp

/-- What every step keeps, a run keeps. -/
theorem run_induction {motive : List Report → Crew → Prop}
    (step : ∀ history crew action report next, motive history crew →
      crew.step? action = some (report, next) → motive (history ++ [report]) next)
    (start : motive history crew) (schedule : List Action) :
    motive (history ++ (crew.run schedule).1) (crew.run schedule).2 := by
  induction schedule generalizing history crew with
  | nil =>
      rw [run, List.append_nil]
      exact start
  | cons action rest ih =>
      rw [run]
      cases stepped : crew.step? action with
      | none =>
          rw [List.append_nil]
          exact start
      | some outcome =>
          obtain ⟨report, next⟩ := outcome
          have run := ih (step history crew action report next start stepped)
          rw [List.append_assoc] at run
          exact run

namespace IsSound

variable {visitors : Nat}

theorem turn (sound : IsSound root visitors history crew) (turn : Turn crew action report next) :
    IsSound root visitors (history ++ [report]) next where
  balanced := sound.balanced.turn turn
  traced := sound.traced.turn turn
  alert := sound.alert.turn sound.balanced turn
  size := turn.length_visitors.trans sound.size

theorem run (root : String) (visitors : Nat) (schedule : List Action) :
    IsSound root visitors ((start root visitors).run schedule).1 ((start root visitors).run schedule).2 := by
  have begun : IsSound root visitors [] (start root visitors) :=
    ⟨isBalanced_start root visitors, isTraced_start root visitors, isAlert_start root visitors,
      List.length_replicate⟩
  exact run_induction (fun _ _ _ _ _ sound stepped => sound.turn (turn_of_step? stepped)) begun schedule

/-- Nobody is dismissed from a traversal that is not aborted while there is a backlog. -/
theorem backlog_eq_zero_of_finished (sound : IsSound root visitors history crew) (few : visitors < 2 ^ 63)
    (nothing : crew.waiting.frontier.pending = []) (none : crew.waiting.frontier.outstanding = 0) :
    crew.backlog = 0 := by
  -- with nothing pending the backlog is in the hands of visitors, two directories in those of each at most
  have held := crew.length_held_le
  have found := crew.length_found_le_held
  have bound : crew.backlog < 2 ^ 64 := by
    rw [backlog, nothing, List.length_nil]
    have size := sound.size
    omega
  have same := sound.balanced.outstanding
  rw [none] at same
  have zero := congrArg UInt64.toNat same
  rw [UInt64.toNat_ofNat_of_lt' bound] at zero
  exact zero.symm

end IsSound

/-! ## When a traversal is done -/

theorem nil_of_backlog_eq_zero (done : crew.backlog = 0) :
    crew.waiting.frontier.pending = [] ∧ crew.held = [] ∧ crew.found = [] := by
  rw [backlog] at done
  exact ⟨List.length_eq_zero_iff.mp (by omega), List.length_eq_zero_iff.mp (by omega),
    List.length_eq_zero_iff.mp (by omega)⟩

/-- With no backlog left, nothing is outstanding. -/
theorem IsBalanced.outstanding_eq_zero (balanced : crew.IsBalanced) (done : crew.backlog = 0) :
    crew.waiting.frontier.outstanding = 0 := by
  rw [balanced.outstanding, done]
  rfl

/-- A traversal without a backlog is done for good: whatever is tried, visitors are dismissed. -/
theorem stays_done (balanced : crew.IsBalanced) (alert : crew.IsAlert) (done : crew.backlog = 0)
    {schedule : List Action} {reports : List Report} {final : Crew} (ran : crew.run schedule = (reports, final)) :
    (∀ report ∈ reports, report = .dismissed ∨ report = .aborted) ∧
      final.waiting.frontier.outstanding = 0 ∧ final.Dismisses := by
  have kept := run_induction
    (motive := fun reports crew => crew.IsBalanced ∧ crew.IsAlert ∧ crew.backlog = 0 ∧
      ∀ report ∈ reports, report = .dismissed ∨ report = .aborted)
    (fun reports crew action report next ⟨balanced, alert, done, quiet⟩ stepped => by
      have turn := turn_of_step? stepped
      obtain ⟨dismissed, still⟩ := turn.of_backlog_eq_zero balanced alert done
      refine ⟨balanced.turn turn, alert.turn balanced turn, still, fun other member => ?_⟩
      rcases List.mem_append.mp member with earlier | last
      · exact quiet other earlier
      · exact List.mem_singleton.mp last ▸ dismissed)
    ⟨balanced, alert, done, List.forall_mem_nil _⟩ schedule
  rw [List.nil_append, ran] at kept
  obtain ⟨balanced, alert, done, quiet⟩ := kept
  have nobody : final.waiting.parked = 0 := by
    by_contra somebody
    exact (alert somebody).2.2 done
  have nothing := (nil_of_backlog_eq_zero done).1
  have none := balanced.outstanding_eq_zero done
  exact ⟨quiet, none, dismisses_of_finished balanced nobody (.inr ⟨nothing, none⟩)⟩

/-- Who asks in vain does so while somebody holds a directory. -/
theorem IsSound.held_ne_nil_of_blocked {visitors : Nat} (sound : IsSound root visitors history crew) {index : Nat}
    {visitor : Visitor} (present : crew.visitors[index]? = some visitor) (asking : visitor.asks = true)
    (blocked : crew.step? (.visit index .pop) = none ∨
      ∃ next, crew.step? (.visit index .pop) = some (.parked, next)) : crew.held ≠ [] := by
  rcases blocked with stuck | ⟨next, parks⟩
  · rcases step?_pop_cases present asking with ⟨asked, asks, stepped⟩ | ⟨rfl, woken, _⟩
    · rw [stepped] at stuck
      cases stuck
    · have waits := sound.balanced.waiting_ne_zero present
      obtain ⟨_, enough, something⟩ := sound.alert (by omega)
      rw [woken] at enough
      exact held_ne_nil_of_backlog (List.length_eq_zero_iff.mp (Nat.le_zero.mp enough)) something
  · cases turn_of_step? parks with
    | parks _ asks going nothing outstanding =>
        exact held_ne_nil_of_backlog nothing fun done =>
          outstanding (sound.balanced.outstanding_eq_zero done)

/-- However many visitors share a frontier, and however their steps come between each other: the count is, in the
width of a machine word, that of the directories that are pending, held, or counted and not queued, and a completion
takes one from it that is there. Directories are taken in the order in which they were queued, each once. Unless the
traversal was aborted, or there are so many visitors that their directories alone could wrap the count, a visitor is
dismissed only when the root and every directory that was pushed have been taken and completed once; from then on
nothing is outstanding and every visitor that asks is dismissed. After an abort every visitor that asks is dismissed,
whatever is pending. Nobody asks in vain unless somebody holds a directory, and who is parked stays so only for such
a visitor, or while others are woken for all that is pending. -/
theorem never_done_early (root : String) (visitors : Nat) {schedule : List Action} {history : List Report}
    {crew : Crew} (ran : (start root visitors).run schedule = (history, crew)) :
    crew.waiting.frontier.outstanding = UInt64.ofNat crew.backlog ∧
    (crew.backlog < 2 ^ 64 → crew.waiting.frontier.outstanding.toNat = crew.backlog) ∧
    (∀ index path next, crew.step? (.visit index .complete) = some (.completed path, next) →
      next.backlog + 1 = crew.backlog) ∧
    taken history ++ crew.waiting.frontier.pending = root :: queued history ∧
    (visitors < 2 ^ 63 → .aborted ∉ history →
      ∀ index next, crew.step? (.visit index .pop) = some (.dismissed, next) →
        taken history = root :: queued history ∧
        (taken history).Perm (root :: pushed history) ∧ (completed history).Perm (root :: pushed history) ∧
        ∀ later reports final, next.run later = (reports, final) →
          (∀ report ∈ reports, report = .dismissed ∨ report = .aborted) ∧
            final.waiting.frontier.outstanding = 0 ∧ final.Dismisses) ∧
    (.aborted ∈ history → crew.Dismisses) ∧
    (∀ index visitor, crew.visitors[index]? = some visitor → visitor.asks = true →
      (crew.step? (.visit index .pop) = none ∨ ∃ next, crew.step? (.visit index .pop) = some (.parked, next)) →
        crew.held ≠ []) ∧
    (crew.waiting.parked ≠ 0 → crew.held ≠ [] ∨
      crew.waiting.frontier.pending ≠ [] ∧ crew.waiting.frontier.pending.length ≤ crew.waiting.woken) := by
  have sound : IsSound root visitors history crew := by
    have run := IsSound.run root visitors schedule
    rw [ran] at run
    exact run
  refine ⟨sound.balanced.outstanding, fun bound => ?_, fun index path next stepped => ?_, sound.traced.order,
    fun few running index next stepped => ?_, fun aborted => ?_,
    fun index visitor present asking => sound.held_ne_nil_of_blocked present asking, fun parked => ?_⟩
  · rw [sound.balanced.outstanding, UInt64.toNat_ofNat_of_lt' bound]
  · exact (turn_of_step? stepped).moves.backlog
  · have turn := turn_of_step? stepped
    have going : crew.waiting.frontier.aborted = false :=
      Bool.eq_false_of_not_eq_true fun aborted => running (sound.traced.aborted.mp aborted)
    have done : crew.backlog = 0 := by
      cases turn with
      | leaves _ _ finished =>
          obtain ⟨nothing, none⟩ := finished.resolve_left (by simp [going])
          exact sound.backlog_eq_zero_of_finished few nothing none
    obtain ⟨nothing, nobody, unfound⟩ := nil_of_backlog_eq_zero done
    have order := sound.traced.order
    have pushes := sound.traced.pushes
    have visits := sound.traced.visits
    rw [nothing, List.append_nil] at order
    rw [unfound, List.append_nil] at pushes
    rw [nobody, List.append_nil] at visits
    have all : (taken history).Perm (root :: pushed history) := by
      rw [order]
      exact pushes.symm.cons root
    refine ⟨order, all, visits.symm.trans all, fun later reports final => ?_⟩
    exact stays_done (sound.balanced.turn turn) (sound.alert.turn sound.balanced turn)
      (turn.of_backlog_eq_zero sound.balanced sound.alert done).2
  · have shut := sound.traced.aborted.mpr aborted
    refine dismisses_of_finished sound.balanced ?_ (.inl shut)
    by_contra parked
    have going := (sound.alert parked).1
    rw [shut] at going
    cases going
  · obtain ⟨_, enough, something⟩ := sound.alert parked
    by_cases nothing : crew.waiting.frontier.pending = []
    · exact .inl (held_ne_nil_of_backlog nothing something)
    · exact .inr ⟨nothing, enough⟩

/-- The first visitor takes the root and pushes one directory for the second, which has had to wait. -/
def relay : List Action :=
  [.visit 0 .pop, .visit 1 .pop, .visit 0 (.push "inner"), .visit 0 .enqueue, .visit 0 .complete, .visit 1 .pop,
    .visit 1 .complete]

/-- When both are done, nothing is outstanding and both directories were completed. -/
theorem never_done_early_relay :
    ∃ history crew, (start "" 2).run relay = (history, crew) ∧ .aborted ∉ history ∧
      (∃ next, crew.step? (.visit 0 .pop) = some (.dismissed, next)) ∧
      taken history = "" :: queued history ∧ (completed history).Perm ("" :: pushed history) := by
  have ran : (start "" 2).run relay =
      ([.took "", .parked, .pushed "inner", .queued "inner", .completed "", .took "inner", .completed "inner"],
        ⟨{ frontier := ⟨[], 0, false⟩ }, [.idle, .idle]⟩) := rfl
  have running : Report.aborted ∉
      [.took "", .parked, .pushed "inner", .queued "inner", .completed "", .took "inner", .completed "inner"] := by
    decide
  have stepped : step? ⟨{ frontier := ⟨[], 0, false⟩ }, [.idle, .idle]⟩ (.visit 0 .pop) =
      some (.dismissed, ⟨{ frontier := ⟨[], 0, false⟩ }, [.idle, .idle]⟩) := rfl
  obtain ⟨_, _, _, _, dismissed, _⟩ := never_done_early "" 2 ran
  obtain ⟨order, _, all, _⟩ := dismissed (by decide) running 0 _ stepped
  exact ⟨_, _, ran, running, ⟨_, stepped⟩, order, all⟩

end Courier.Frontier.Crew
