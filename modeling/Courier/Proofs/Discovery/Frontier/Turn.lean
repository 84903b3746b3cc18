import Courier.Discovery.Frontier.Crew
import Courier.Proofs.Discovery.Change

/-!
# Turns of visitors

What a step of a crew does is listed here once, with everything that it depends on.
A directory that is counted is pending, or held by the visitor that took it, or about
to be queued by the one that found it; every step keeps the count equal to these, as
far as a machine word goes.
-/

namespace Courier

namespace Frontier

/-- Asking for a directory is answered with the first that is pending, or with none if the traversal is aborted
or nothing is outstanding. -/
theorem pop?_cases (frontier : Frontier) :
    (frontier.aborted = true ∨ frontier.pending = [] ∧ frontier.outstanding = 0) ∧
        frontier.pop? = some (none, frontier) ∨
      (∃ path rest, frontier.aborted = false ∧ frontier.pending = path :: rest ∧
        frontier.pop? = some (some path, { frontier with pending := rest })) ∨
      frontier.aborted = false ∧ frontier.pending = [] ∧ frontier.outstanding ≠ 0 ∧ frontier.pop? = none := by
  unfold pop?
  split
  · rename_i aborted
    exact .inl ⟨.inl aborted, rfl⟩
  · rename_i running
    have going := Bool.eq_false_of_not_eq_true running
    split
    · rename_i path rest pending
      exact .inr (.inl ⟨path, rest, going, pending, rfl⟩)
    · rename_i nothing
      split
      · rename_i finished
        exact .inl ⟨.inr ⟨nothing, finished⟩, rfl⟩
      · rename_i outstanding
        exact .inr (.inr ⟨going, nothing, outstanding, rfl⟩)

/-! ## What visitors answer for -/

namespace Visitor

/-- The directory that a visitor has taken and not completed. -/
@[simp] def held? : Visitor → Option String
  | visiting path | pushing path _ => some path
  | idle | waiting => none

/-- The directory that a visitor has counted and not queued. -/
@[simp] def found? : Visitor → Option String
  | pushing _ found => some found
  | idle | waiting | visiting _ => none

/-- Whether a visitor asks for a directory. -/
@[simp] def asks : Visitor → Bool
  | idle | waiting => true
  | visiting _ | pushing .. => false

/-- How many visitors wait in the place of this one. -/
@[simp] def waits : Visitor → Nat
  | waiting => 1
  | idle | visiting _ | pushing .. => 0

end Visitor

namespace Waiting

/-- One that is woken was parked. -/
@[simp] theorem waiting_notifyOne (waiting : Waiting) :
    waiting.notifyOne.parked + waiting.notifyOne.woken = waiting.parked + waiting.woken := by
  unfold notifyOne
  split
  · rfl
  · simp only
    omega

@[simp] theorem frontier_notifyOne (waiting : Waiting) : waiting.notifyOne.frontier = waiting.frontier := by
  unfold notifyOne
  split <;> rfl

@[simp] theorem counted_notifyOne (waiting : Waiting) : waiting.notifyOne.counted = waiting.counted := by
  unfold notifyOne
  split <;> rfl

@[simp] theorem frontier_completeOne (waiting : Waiting) :
    waiting.completeOne.frontier = waiting.frontier.complete := by
  unfold completeOne
  dsimp only
  split <;> rfl

@[simp] theorem counted_completeOne (waiting : Waiting) : waiting.completeOne.counted = waiting.counted := by
  unfold completeOne
  dsimp only
  split <;> rfl

@[simp] theorem waiting_completeOne (waiting : Waiting) :
    waiting.completeOne.parked + waiting.completeOne.woken = waiting.parked + waiting.woken := by
  unfold completeOne
  dsimp only
  split
  · simp [notifyAll, Nat.add_comm]
  · rfl

end Waiting

namespace Crew

variable {crew next : Crew} {action : Action} {report : Report}

/-- The directories that are taken and not completed. -/
def held (crew : Crew) : List String := crew.visitors.filterMap Visitor.held?

/-- The directories that are counted and not queued. -/
def found (crew : Crew) : List String := crew.visitors.filterMap Visitor.found?

/-- How many visitors wait. -/
def waiters (crew : Crew) : Nat := (crew.visitors.map Visitor.waits).sum

/-- The directories that are not done with: pending, held, or about to be queued. -/
def backlog (crew : Crew) : Nat := crew.waiting.frontier.pending.length + crew.held.length + crew.found.length

/-! ## What a step can do -/

/-- How a visitor comes to ask: for the first time, or woken. -/
inductive Asks (waiting : Waiting) : Visitor → Waiting → Prop where
  | comes : Asks waiting .idle waiting
  | returns (woken : waiting.woken ≠ 0) : Asks waiting .waiting { waiting with woken := waiting.woken - 1 }

/-- What a step does, with all that it depends on. -/
inductive Turn (crew : Crew) : Action → Report → Crew → Prop where
  | takes {index : Nat} {visitor : Visitor} {waiting : Waiting} {path : String} {rest : List String}
      (present : crew.visitors[index]? = some visitor) (asks : Asks crew.waiting visitor waiting)
      (going : crew.waiting.frontier.aborted = false) (pending : crew.waiting.frontier.pending = path :: rest) :
      Turn crew (.visit index .pop) (.took path)
        ⟨{ waiting with frontier := { crew.waiting.frontier with pending := rest } },
          crew.visitors.set index (.visiting path)⟩
  | leaves {index : Nat} {visitor : Visitor} {waiting : Waiting}
      (present : crew.visitors[index]? = some visitor) (asks : Asks crew.waiting visitor waiting)
      (finished : crew.waiting.frontier.aborted = true ∨
        crew.waiting.frontier.pending = [] ∧ crew.waiting.frontier.outstanding = 0) :
      Turn crew (.visit index .pop) .dismissed ⟨waiting, crew.visitors.set index .idle⟩
  | parks {index : Nat} {visitor : Visitor} {waiting : Waiting}
      (present : crew.visitors[index]? = some visitor) (asks : Asks crew.waiting visitor waiting)
      (going : crew.waiting.frontier.aborted = false) (nothing : crew.waiting.frontier.pending = [])
      (outstanding : crew.waiting.frontier.outstanding ≠ 0) :
      Turn crew (.visit index .pop) .parked
        ⟨{ waiting with parked := waiting.parked + 1 }, crew.visitors.set index .waiting⟩
  | counts {index : Nat} {path found : String} (present : crew.visitors[index]? = some (.visiting path)) :
      Turn crew (.visit index (.push found)) (.pushed found)
        ⟨{ crew.waiting with frontier := crew.waiting.frontier.count, counted := crew.waiting.counted + 1 },
          crew.visitors.set index (.pushing path found)⟩
  | enqueues {index : Nat} {path found : String} (present : crew.visitors[index]? = some (.pushing path found))
      (counted : crew.waiting.counted ≠ 0) :
      Turn crew (.visit index .enqueue) (.queued found)
        ⟨{ crew.waiting with
            frontier := crew.waiting.frontier.enqueue found
            counted := crew.waiting.counted - 1 }.notifyOne,
          crew.visitors.set index (.visiting path)⟩
  | completes {index : Nat} {path : String} (present : crew.visitors[index]? = some (.visiting path)) :
      Turn crew (.visit index .complete) (.completed path)
        ⟨crew.waiting.completeOne, crew.visitors.set index .idle⟩
  | aborts :
      Turn crew .abort .aborted
        ⟨{ crew.waiting with frontier := crew.waiting.frontier.abort }.notifyAll, crew.visitors⟩
  | rouses (parked : crew.waiting.parked ≠ 0) : Turn crew .rouse .roused ⟨crew.waiting.notifyOne, crew.visitors⟩

/-- To ask changes nothing at the frontier; who asks holds nothing, and no longer waits. -/
theorem Asks.quiet {waiting asked : Waiting} {visitor : Visitor} (asks : Asks waiting visitor asked) :
    asked.frontier = waiting.frontier ∧ asked.counted = waiting.counted ∧ asked.parked = waiting.parked ∧
      asked.woken + visitor.waits = waiting.woken ∧ visitor.held? = none ∧ visitor.found? = none := by
  cases asks with
  | comes => exact ⟨rfl, rfl, rfl, rfl, rfl, rfl⟩
  | returns woken => exact ⟨rfl, rfl, rfl, Nat.sub_add_cancel (Nat.one_le_iff_ne_zero.mpr woken), rfl, rfl⟩

theorem Asks.waits_le {waiting asked : Waiting} {visitor : Visitor} (asks : Asks waiting visitor asked) :
    visitor.waits ≤ 1 := by
  cases asks <;> decide

theorem turn_of_attempt {index : Nat} {visitor : Visitor} {waiting : Waiting}
    (present : crew.visitors[index]? = some visitor) (asks : Asks crew.waiting visitor waiting)
    (answered : crew.answer index waiting.attemptPop = (report, next)) :
    Turn crew (.visit index .pop) report next := by
  have same := asks.quiet.1
  rw [Waiting.attemptPop] at answered
  rcases waiting.frontier.pop?_cases with
    ⟨finished, popped⟩ | ⟨path, rest, going, pending, popped⟩ | ⟨going, nothing, outstanding, popped⟩
  · rw [popped] at answered
    rw [same] at finished
    cases answered
    exact .leaves present asks finished
  · rw [popped, same] at answered
    rw [same] at going pending
    cases answered
    exact .takes present asks going pending
  · rw [popped] at answered
    rw [same] at going nothing outstanding
    cases answered
    exact .parks present asks going nothing outstanding

/-- The inversion of a step. -/
theorem turn_of_step? (stepped : crew.step? action = some (report, next)) : Turn crew action report next := by
  cases action with
  | abort =>
      cases stepped
      exact .aborts
  | rouse =>
      simp only [step?, Waiting.step?] at stepped
      split at stepped
      · cases stepped
      · rename_i parked
        cases stepped
        exact .rouses parked
  | visit index move =>
      obtain ⟨visitor, present, moved⟩ := Option.bind_eq_some_iff.mp stepped
      cases visitor with
      | idle =>
          cases move with
          | pop =>
              exact turn_of_attempt present .comes (Option.some.inj moved)
          | push | enqueue | complete => cases moved
      | waiting =>
          cases move with
          | pop =>
              simp only [visit?, Waiting.step?] at moved
              split at moved
              · cases moved
              · rename_i woken
                exact turn_of_attempt present (.returns woken) (Option.some.inj moved)
          | push | enqueue | complete => cases moved
      | visiting path =>
          cases move with
          | push found =>
              cases moved
              exact .counts present
          | complete =>
              cases moved
              exact .completes present
          | pop | enqueue => cases moved
      | pushing path found =>
          cases move with
          | enqueue =>
              simp only [visit?, Waiting.step?] at moved
              split at moved
              · cases moved
              · rename_i counted
                cases moved
                exact .enqueues present counted
          | pop | push | complete => cases moved

/-! ## What reports tell -/

section History

/-- The directories that visitors took, in this order. -/
def taken (history : List Report) : List String :=
  history.filterMap fun
    | .took path => some path
    | _ => none

/-- The directories that were counted, in this order. -/
def pushed (history : List Report) : List String :=
  history.filterMap fun
    | .pushed path => some path
    | _ => none

/-- The directories that were queued, in this order. -/
def queued (history : List Report) : List String :=
  history.filterMap fun
    | .queued path => some path
    | _ => none

/-- The directories that were completed, in this order. -/
def completed (history : List Report) : List String :=
  history.filterMap fun
    | .completed path => some path
    | _ => none

variable (earlier later : List Report)

theorem taken_append : taken (earlier ++ later) = taken earlier ++ taken later := List.filterMap_append

theorem pushed_append : pushed (earlier ++ later) = pushed earlier ++ pushed later := List.filterMap_append

theorem queued_append : queued (earlier ++ later) = queued earlier ++ queued later := List.filterMap_append

theorem completed_append : completed (earlier ++ later) = completed earlier ++ completed later :=
  List.filterMap_append

end History

/-! ## The count -/

section Changing

variable {index : Nat} {visitor successor : Visitor}

theorem exists_perm_held (present : crew.visitors[index]? = some visitor)
    (placed : next.visitors = crew.visitors.set index successor) :
    ∃ others, crew.held.Perm (visitor.held?.toList ++ others) ∧
      next.held.Perm (successor.held?.toList ++ others) := by
  obtain ⟨others, same, changed⟩ := exists_perm_filterMap_set Visitor.held? present
  refine ⟨others, same, ?_⟩
  rw [held, placed]
  exact changed successor

theorem exists_perm_found (present : crew.visitors[index]? = some visitor)
    (placed : next.visitors = crew.visitors.set index successor) :
    ∃ others, crew.found.Perm (visitor.found?.toList ++ others) ∧
      next.found.Perm (successor.found?.toList ++ others) := by
  obtain ⟨others, same, changed⟩ := exists_perm_filterMap_set Visitor.found? present
  refine ⟨others, same, ?_⟩
  rw [found, placed]
  exact changed successor

theorem length_held_add (present : crew.visitors[index]? = some visitor)
    (placed : next.visitors = crew.visitors.set index successor) :
    next.held.length + visitor.held?.toList.length = crew.held.length + successor.held?.toList.length := by
  obtain ⟨others, before, after⟩ := exists_perm_held present placed
  rw [before.length_eq, after.length_eq, List.length_append, List.length_append]
  omega

theorem length_found_add (present : crew.visitors[index]? = some visitor)
    (placed : next.visitors = crew.visitors.set index successor) :
    next.found.length + visitor.found?.toList.length = crew.found.length + successor.found?.toList.length := by
  obtain ⟨others, before, after⟩ := exists_perm_found present placed
  rw [before.length_eq, after.length_eq, List.length_append, List.length_append]
  omega

theorem held_of_same (same : next.visitors = crew.visitors) : next.held = crew.held :=
  congrArg (List.filterMap Visitor.held?) same

theorem found_of_same (same : next.visitors = crew.visitors) : next.found = crew.found :=
  congrArg (List.filterMap Visitor.found?) same

end Changing

/-- What a step changes of what is counted: a directory that is found adds to the backlog, one that is completed
takes from it. -/
structure Moves (crew : Crew) (report : Report) (next : Crew) : Prop where
  backlog : next.backlog + (completed [report]).length = crew.backlog + (pushed [report]).length
  outstanding : next.waiting.frontier.outstanding + UInt64.ofNat (completed [report]).length =
    crew.waiting.frontier.outstanding + UInt64.ofNat (pushed [report]).length
  counted : next.waiting.counted + crew.found.length = crew.waiting.counted + next.found.length
  waiters : next.waiting.parked + next.waiting.woken + crew.waiters =
    crew.waiting.parked + crew.waiting.woken + next.waiters

namespace Moves

/-- One visitor changes what it answers for, and the rest changes by as much. -/
theorem of_change {index : Nat} {visitor successor : Visitor}
    (present : crew.visitors[index]? = some visitor) (placed : next.visitors = crew.visitors.set index successor)
    (count : next.waiting.frontier.outstanding + UInt64.ofNat (completed [report]).length =
      crew.waiting.frontier.outstanding + UInt64.ofNat (pushed [report]).length)
    (grown : next.waiting.frontier.pending.length + successor.held?.toList.length + successor.found?.toList.length +
        (completed [report]).length =
      crew.waiting.frontier.pending.length + visitor.held?.toList.length + visitor.found?.toList.length +
        (pushed [report]).length)
    (announced : next.waiting.counted + visitor.found?.toList.length =
      crew.waiting.counted + successor.found?.toList.length)
    (waiting : next.waiting.parked + next.waiting.woken + visitor.waits =
      crew.waiting.parked + crew.waiting.woken + successor.waits) : Moves crew report next := by
  have heldBy := length_held_add present placed
  have foundBy := length_found_add present placed
  have waitBy := sum_map_set Visitor.waits present successor
  rw [← placed] at waitBy
  refine ⟨?_, count, ?_, ?_⟩
  · rw [Crew.backlog, Crew.backlog]
    omega
  · omega
  · rw [Crew.waiters, Crew.waiters]
    omega

/-- Who asks comes away with what it takes from the frontier, or with nothing. -/
theorem of_asking {index : Nat} {visitor successor : Visitor} {asked : Waiting}
    (present : crew.visitors[index]? = some visitor) (asks : Asks crew.waiting visitor asked)
    (placed : next.visitors = crew.visitors.set index successor)
    (quiet : completed [report] = [] ∧ pushed [report] = [])
    (count : next.waiting.frontier.outstanding = crew.waiting.frontier.outstanding)
    (pending : next.waiting.frontier.pending.length + successor.held?.toList.length =
      crew.waiting.frontier.pending.length)
    (empty : successor.found? = none) (announced : next.waiting.counted = asked.counted)
    (waiting : next.waiting.parked + next.waiting.woken = asked.parked + asked.woken + successor.waits) :
    Moves crew report next := by
  obtain ⟨_, counted, parked, woken, free, unfound⟩ := asks.quiet
  refine of_change present placed ?_ ?_ ?_ ?_
  · rw [quiet.1, quiet.2, count]
  · rw [quiet.1, quiet.2, free, unfound, empty, pending]
    rfl
  · rw [unfound, empty, announced, counted]
  · rw [waiting, parked, ← woken]
    omega

/-- Nobody changes what it answers for. -/
theorem of_same (same : next.visitors = crew.visitors)
    (pending : next.waiting.frontier.pending = crew.waiting.frontier.pending)
    (count : next.waiting.frontier.outstanding = crew.waiting.frontier.outstanding)
    (quiet : completed [report] = [] ∧ pushed [report] = [])
    (announced : next.waiting.counted = crew.waiting.counted)
    (waiting : next.waiting.parked + next.waiting.woken = crew.waiting.parked + crew.waiting.woken) :
    Moves crew report next := by
  have holds := held_of_same same
  have finds := found_of_same same
  have waits : next.waiters = crew.waiters := congrArg (fun visitors => (visitors.map Visitor.waits).sum) same
  refine ⟨?_, ?_, ?_, ?_⟩
  · rw [quiet.1, quiet.2, Crew.backlog, Crew.backlog, pending, holds, finds]
  · rw [quiet.1, quiet.2, count]
  · rw [announced, finds]
  · rw [waiting, waits]

end Moves

theorem Turn.moves (turn : Turn crew action report next) : Moves crew report next := by
  cases turn with
  | takes present asks going pending =>
      refine .of_asking present asks rfl ⟨rfl, rfl⟩ rfl ?_ rfl rfl rfl
      rw [pending]
      rfl
  | leaves present asks finished =>
      have same := asks.quiet.1
      exact .of_asking present asks rfl ⟨rfl, rfl⟩ (by rw [same]) (by rw [same]; rfl) rfl rfl rfl
  | parks present asks going nothing outstanding =>
      have same := asks.quiet.1
      exact .of_asking present asks rfl ⟨rfl, rfl⟩ (by rw [same]) (by rw [same]; rfl) rfl rfl
        (Nat.add_right_comm _ _ _)
  | counts present =>
      refine .of_change present rfl ?_ ?_ ?_ rfl
      · simp [Frontier.count, completed, pushed]
      · simp [Frontier.count, completed, pushed]
      · simp
  | enqueues present counted =>
      refine .of_change present rfl ?_ ?_ ?_ ?_
      · simp [Frontier.enqueue, completed, pushed]
      · simp [Frontier.enqueue, completed, pushed]
      · rw [Waiting.counted_notifyOne]
        exact Nat.sub_add_cancel (Nat.one_le_iff_ne_zero.mpr counted)
      · rw [Waiting.waiting_notifyOne]
        rfl
  | completes present =>
      refine .of_change present rfl ?_ ?_ ?_ ?_
      · simp [Frontier.complete, completed, pushed]
      · simp [Frontier.complete, completed, pushed]
      · simp
      · simp
  | aborts => exact .of_same rfl rfl rfl ⟨rfl, rfl⟩ rfl (by simp [Waiting.notifyAll, Nat.add_comm])
  | rouses parked => exact .of_same rfl (by simp) (by simp) ⟨rfl, rfl⟩ (by simp) (by simp)

/-- The count is the backlog, in the width of a machine word; the directories counted and not queued, and the
visitors that wait, are as many as there are visitors who say so. -/
structure IsBalanced (crew : Crew) : Prop where
  outstanding : crew.waiting.frontier.outstanding = UInt64.ofNat crew.backlog
  counted : crew.waiting.counted = crew.found.length
  waiters : crew.waiting.parked + crew.waiting.woken = crew.waiters

theorem held_start (root : String) (visitors : Nat) : (start root visitors).held = [] := by
  simp [held, start]

theorem found_start (root : String) (visitors : Nat) : (start root visitors).found = [] := by
  simp [found, start]

theorem isBalanced_start (root : String) (visitors : Nat) : (start root visitors).IsBalanced := by
  refine ⟨?_, ?_, ?_⟩
  · rw [backlog, held_start, found_start]
    rfl
  · rw [found_start]
    rfl
  · simp [start, waiters]

theorem IsBalanced.turn (balanced : crew.IsBalanced) (turn : Turn crew action report next) : next.IsBalanced := by
  obtain ⟨backlog, outstanding, counted, waiting⟩ := turn.moves
  refine ⟨?_, ?_, ?_⟩
  · rw [balanced.outstanding, ← UInt64.ofNat_add, ← backlog, UInt64.ofNat_add] at outstanding
    exact (UInt64.add_left_inj _).mp outstanding
  · have before := balanced.counted
    omega
  · have before := balanced.waiters
    omega

end Crew

end Frontier

end Courier
