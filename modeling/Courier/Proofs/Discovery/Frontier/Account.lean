import Courier.Proofs.Discovery.Frontier.Turn

/-!
# The account of a frontier

What was taken from a frontier is accounted for by what was queued there, in its
order, and what was pushed and taken by what visitors have in their hands. Waking is
accounted for too: nobody stays parked beside a directory for which nobody is woken.
-/

namespace Courier.Frontier.Crew

variable {crew next : Crew} {action : Action} {report : Report} {history : List Report} {root : String}

/-! ## The order -/

/-- The directories are taken in the order in which they are queued, beginning with the root; those that are
counted and not queued, and those that are taken and not completed, are in the hands of visitors. -/
structure IsTraced (root : String) (history : List Report) (crew : Crew) : Prop where
  order : taken history ++ crew.waiting.frontier.pending = root :: queued history
  pushes : (pushed history).Perm (queued history ++ crew.found)
  visits : (taken history).Perm (completed history ++ crew.held)
  aborted : crew.waiting.frontier.aborted = true ↔ .aborted ∈ history

theorem isTraced_start (root : String) (visitors : Nat) : IsTraced root [] (start root visitors) where
  order := rfl
  pushes := by rw [found_start]; exact .refl _
  visits := by rw [held_start]; exact .refl _
  aborted := by simp [start, Frontier.ofRoot]

/-- What comes in is what goes out and what stays, also after an exchange. -/
theorem perm_exchange {into out inside inside' others before after new old : List String}
    (account : into.Perm (out ++ inside)) (here : inside.Perm (before ++ others))
    (there : inside'.Perm (after ++ others)) (exchange : (new ++ before).Perm (old ++ after)) :
    (into ++ new).Perm ((out ++ old) ++ inside') := by
  refine List.perm_iff_count.mpr fun path => ?_
  have total := account.count_eq path
  have first := here.count_eq path
  have second := there.count_eq path
  have change := exchange.count_eq path
  simp only [List.count_append] at total first second change ⊢
  omega

namespace IsTraced

/-- One visitor changes what it has in its hands, by what the report says. -/
theorem of_change (traced : IsTraced root history crew) {index : Nat} {visitor successor : Visitor}
    (present : crew.visitors[index]? = some visitor) (placed : next.visitors = crew.visitors.set index successor)
    (order : taken [report] ++ next.waiting.frontier.pending = crew.waiting.frontier.pending ++ queued [report])
    (pushes : (pushed [report] ++ visitor.found?.toList).Perm (queued [report] ++ successor.found?.toList))
    (visits : (taken [report] ++ visitor.held?.toList).Perm (completed [report] ++ successor.held?.toList))
    (aborted : next.waiting.frontier.aborted = crew.waiting.frontier.aborted) (calm : report ≠ .aborted) :
    IsTraced root (history ++ [report]) next := by
  obtain ⟨held, hadHeld, hasHeld⟩ := exists_perm_held present placed
  obtain ⟨found, hadFound, hasFound⟩ := exists_perm_found present placed
  refine ⟨?_, ?_, ?_, ?_⟩
  · calc taken (history ++ [report]) ++ next.waiting.frontier.pending
        = taken history ++ (taken [report] ++ next.waiting.frontier.pending) := by
          rw [taken_append, List.append_assoc]
      _ = taken history ++ crew.waiting.frontier.pending ++ queued [report] := by
          rw [order, List.append_assoc]
      _ = root :: queued (history ++ [report]) := by
          rw [traced.order, queued_append, List.cons_append]
  · rw [pushed_append, queued_append]
    exact perm_exchange traced.pushes hadFound hasFound pushes
  · rw [taken_append, completed_append]
    exact perm_exchange traced.visits hadHeld hasHeld visits
  · rw [aborted, traced.aborted]
    simp [calm.symm]

/-- Who asks comes away with what it takes from the frontier, or with nothing. -/
theorem of_asking (traced : IsTraced root history crew) {index : Nat} {visitor successor : Visitor} {asked : Waiting}
    (present : crew.visitors[index]? = some visitor) (asks : Asks crew.waiting visitor asked)
    (placed : next.visitors = crew.visitors.set index successor)
    (quiet : pushed [report] = [] ∧ queued [report] = [] ∧ completed [report] = [])
    (order : taken [report] ++ next.waiting.frontier.pending = crew.waiting.frontier.pending)
    (takes : taken [report] = successor.held?.toList) (empty : successor.found? = none)
    (aborted : next.waiting.frontier.aborted = crew.waiting.frontier.aborted) (calm : report ≠ .aborted) :
    IsTraced root (history ++ [report]) next := by
  obtain ⟨_, _, _, _, free, unfound⟩ := asks.quiet
  obtain ⟨pushes, queues, completes⟩ := quiet
  refine traced.of_change present placed ?_ ?_ ?_ aborted calm
  · rw [order, queues, List.append_nil]
  · rw [pushes, queues, unfound, empty]
  · rw [completes, takes, free]
    exact .of_eq (List.append_nil _)

/-- Nobody changes what it has in its hands. -/
theorem of_same (traced : IsTraced root history crew) (same : next.visitors = crew.visitors)
    (pending : next.waiting.frontier.pending = crew.waiting.frontier.pending)
    (quiet : taken [report] = [] ∧ pushed [report] = [] ∧ queued [report] = [] ∧ completed [report] = [])
    (aborted : next.waiting.frontier.aborted = true ↔
      crew.waiting.frontier.aborted = true ∨ report = .aborted) :
    IsTraced root (history ++ [report]) next := by
  obtain ⟨takes, pushes, queues, completes⟩ := quiet
  have holds := held_of_same same
  have finds := found_of_same same
  refine ⟨?_, ?_, ?_, ?_⟩
  · rw [taken_append, queued_append, takes, queues, pending, List.append_nil, List.append_nil]
    exact traced.order
  · rw [pushed_append, queued_append, pushes, queues, finds, List.append_nil, List.append_nil]
    exact traced.pushes
  · rw [taken_append, completed_append, takes, completes, holds, List.append_nil, List.append_nil]
    exact traced.visits
  · rw [aborted, traced.aborted, List.mem_append, List.mem_singleton, eq_comm]

theorem turn (traced : IsTraced root history crew) (turn : Turn crew action report next) :
    IsTraced root (history ++ [report]) next := by
  cases turn with
  | takes present asks going pending =>
      exact traced.of_asking present asks rfl ⟨rfl, rfl, rfl⟩ pending.symm rfl rfl rfl nofun
  | leaves present asks finished =>
      have same := asks.quiet.1
      exact traced.of_asking present asks rfl ⟨rfl, rfl, rfl⟩ (by rw [same]; rfl) rfl rfl (by rw [same]) nofun
  | parks present asks going nothing outstanding =>
      have same := asks.quiet.1
      exact traced.of_asking present asks rfl ⟨rfl, rfl, rfl⟩ (by rw [same]; rfl) rfl rfl (by rw [same]) nofun
  | counts present =>
      exact traced.of_change present rfl (List.append_nil _).symm (.refl _) (.refl _) rfl nofun
  | enqueues present counted =>
      refine traced.of_change present rfl ?_ (.refl _) (.refl _) ?_ nofun
      · rw [Waiting.frontier_notifyOne]
        rfl
      · rw [Waiting.frontier_notifyOne]
        rfl
  | completes present =>
      refine traced.of_change present rfl ?_ (.refl _) (.refl _) ?_ nofun
      · rw [Waiting.frontier_completeOne]
        exact (List.append_nil _).symm
      · rw [Waiting.frontier_completeOne]
        rfl
  | aborts => exact traced.of_same rfl rfl ⟨rfl, rfl, rfl, rfl⟩ (iff_of_true rfl (.inr rfl))
  | rouses parked =>
      refine traced.of_same rfl ?_ ⟨rfl, rfl, rfl, rfl⟩ ?_
      · rw [Waiting.frontier_notifyOne]
      · simp

end IsTraced

/-! ## Waking -/

/-- Whoever is parked has been left nothing: what is pending is for visitors that are woken, and something is
outstanding. -/
def IsAlert (crew : Crew) : Prop :=
  crew.waiting.parked ≠ 0 →
    crew.waiting.frontier.aborted = false ∧ crew.waiting.frontier.pending.length ≤ crew.waiting.woken ∧
      crew.backlog ≠ 0

theorem isAlert_start (root : String) (visitors : Nat) : (start root visitors).IsAlert :=
  fun parked => absurd rfl parked

theorem IsAlert.turn (alert : crew.IsAlert) (balanced : crew.IsBalanced) (turn : Turn crew action report next) :
    next.IsAlert := by
  intro parked
  have backlog := turn.moves.backlog
  cases turn with
  | takes present asks going pending =>
      obtain ⟨same, counted, stays, woken, free, empty⟩ := asks.quiet
      obtain ⟨_, enough, something⟩ := alert (stays ▸ parked)
      rw [pending, List.length_cons, ← woken] at enough
      have still : Crew.backlog _ = crew.backlog := backlog
      refine ⟨going, ?_, still.trans_ne something⟩
      exact Nat.le_of_add_le_add_right (enough.trans (Nat.add_le_add_left asks.waits_le _))
  | leaves present asks finished =>
      obtain ⟨same, counted, stays, woken, free, empty⟩ := asks.quiet
      obtain ⟨going, _, something⟩ := alert (stays ▸ parked)
      obtain ⟨nothing, _⟩ := finished.resolve_left (by simp [going])
      have still : Crew.backlog _ = crew.backlog := backlog
      refine ⟨same ▸ going, ?_, still.trans_ne something⟩
      rw [same, nothing]
      exact Nat.zero_le _
  | parks present asks going nothing outstanding =>
      obtain ⟨same, counted, stays, woken, free, empty⟩ := asks.quiet
      have still : Crew.backlog _ = crew.backlog := backlog
      have something : crew.backlog ≠ 0 := by
        intro none
        rw [balanced.outstanding, none] at outstanding
        exact outstanding rfl
      refine ⟨same ▸ going, ?_, still.trans_ne something⟩
      rw [same, nothing]
      exact Nat.zero_le _
  | counts present =>
      obtain ⟨going, enough, _⟩ := alert parked
      have more : Crew.backlog _ = crew.backlog + 1 := backlog
      exact ⟨going, enough, more.trans_ne (Nat.succ_ne_zero _)⟩
  | enqueues present counted =>
      have still : Crew.backlog _ = crew.backlog := backlog
      by_cases nobody : crew.waiting.parked = 0
      -- a directory more is pending, and a visitor more is woken for it
      · rw [Waiting.notifyOne, if_pos nobody] at parked
        exact absurd nobody parked
      · obtain ⟨going, enough, something⟩ := alert nobody
        refine ⟨?_, ?_, still.trans_ne something⟩
        · rw [Waiting.frontier_notifyOne]
          exact going
        · simpa [Waiting.notifyOne, nobody, Frontier.enqueue] using enough
  | completes present =>
      have fewer : Crew.backlog _ + 1 = crew.backlog := backlog
      -- the last completion wakes everybody, so that nobody is parked beside an empty backlog
      by_cases last : crew.waiting.frontier.outstanding = 1
      · simp [Waiting.completeOne, last, Waiting.notifyAll] at parked
      · have unnotified : crew.waiting.completeOne =
            { crew.waiting with frontier := crew.waiting.frontier.complete } := by
          simp [Waiting.completeOne, last]
        rw [unnotified] at parked fewer ⊢
        obtain ⟨going, enough, _⟩ := alert parked
        refine ⟨going, enough, fun none => last ?_⟩
        rw [balanced.outstanding, ← fewer, none]
        rfl
  | aborts => exact absurd rfl parked
  | rouses somebody =>
      obtain ⟨going, enough, something⟩ := alert somebody
      have still : Crew.backlog _ = crew.backlog := backlog
      refine ⟨?_, ?_, still.trans_ne something⟩
      · rw [Waiting.frontier_notifyOne]
        exact going
      · simp only [Waiting.notifyOne, if_neg somebody]
        exact Nat.le_succ_of_le enough

end Courier.Frontier.Crew
