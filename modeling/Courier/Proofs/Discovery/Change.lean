import Mathlib

/-!
# Changing one item of a list

Those who work together stand in a list, and a step changes one of them. Whatever
is summed up or picked out of the list then changes by what that one contributes.
-/

namespace Courier

/-- Up to their order, only the item that changes differs. -/
theorem exists_perm_set {Item : Type} {items : List Item} {index : Nat} {item : Item}
    (found : items[index]? = some item) :
    ∃ others, items.Perm (item :: others) ∧ ∀ next, (items.set index next).Perm (next :: others) := by
  induction items generalizing index with
  | nil => cases found
  | cons head rest ih =>
      cases index with
      | zero =>
          cases found
          exact ⟨rest, .refl _, fun next => .refl _⟩
      | succ index =>
          obtain ⟨others, same, changed⟩ := ih found
          exact ⟨head :: others, (same.cons head).trans (.swap _ _ _),
            fun next => ((changed next).cons head).trans (.swap _ _ _)⟩

/-- Changing one item changes a sum by as much. -/
theorem sum_map_set {Item : Type} (measure : Item → Nat) {items : List Item} {index : Nat} {item : Item}
    (found : items[index]? = some item) (next : Item) :
    ((items.set index next).map measure).sum + measure item = (items.map measure).sum + measure next := by
  obtain ⟨others, same, changed⟩ := exists_perm_set found
  rw [(same.map measure).sum_eq, ((changed next).map measure).sum_eq]
  simp only [List.map_cons, List.sum_cons]
  omega

/-- Changing one item changes what is picked out of a list by what is picked out of that item. -/
theorem exists_perm_filterMap_set {Item Picked : Type} (pick : Item → Option Picked) {items : List Item}
    {index : Nat} {item : Item} (found : items[index]? = some item) :
    ∃ others, (items.filterMap pick).Perm ((pick item).toList ++ others) ∧
      ∀ next, ((items.set index next).filterMap pick).Perm ((pick next).toList ++ others) := by
  obtain ⟨others, same, changed⟩ := exists_perm_set found
  have split (first : Item) : (first :: others).filterMap pick = (pick first).toList ++ others.filterMap pick := by
    cases picked : pick first <;> simp [picked]
  refine ⟨others.filterMap pick, ?_, fun next => ?_⟩
  · rw [← split]
    exact same.filterMap pick
  · rw [← split]
    exact (changed next).filterMap pick

end Courier
