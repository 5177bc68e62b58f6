/-
Taking items in order while something of a budget is left, where an item is charged only once it is
taken: the last item may cost more than was left.
-/
import Mathlib.Algebra.Ring.Nat
import Mathlib.Data.List.Basic

namespace Livetich.Lib

variable {α : Type*}

/-- The cost of a list of items. -/
def cost (size : α → Nat) (xs : List α) : Nat := (xs.map size).sum

@[simp] theorem cost_nil (size : α → Nat) : cost size [] = 0 := rfl

@[simp] theorem cost_cons (size : α → Nat) (x : α) (xs : List α) : cost size (x :: xs) = size x + cost size xs := by
  simp [cost]

/-- Items are taken as long as something is left. -/
def takeUntilSpent (size : α → Nat) : Nat → List α → List α
  | _, [] => []
  | budget, x :: xs => if budget = 0 then [] else x :: takeUntilSpent size (budget - size x) xs

theorem takeUntilSpent_cons (size : α → Nat) (budget : Nat) (x : α) (xs : List α) :
    takeUntilSpent size budget (x :: xs) =
      if budget = 0 then [] else x :: takeUntilSpent size (budget - size x) xs :=
  rfl

/-- The items taken are within the budget exactly when all of them are, or the first few come to it
exactly. -/
theorem cost_takeUntilSpent_le {size : α → Nat} : ∀ {budget : Nat} {xs : List α},
    cost size (takeUntilSpent size budget xs) ≤ budget ↔
      cost size xs ≤ budget ∨ ∃ ys, ys <+: xs ∧ cost size ys = budget
  | budget, [] => by
    show cost size [] ≤ budget ↔ _
    simp
  | budget, x :: xs => by
    rw [takeUntilSpent_cons]
    by_cases hzero : budget = 0
    · rw [if_pos hzero]
      exact ⟨fun _ => .inr ⟨[], List.nil_prefix, by simp [hzero]⟩, fun _ => by simp⟩
    · rw [if_neg hzero, cost_cons, cost_cons]
      by_cases hfits : size x ≤ budget
      · have ih := @cost_takeUntilSpent_le size (budget - size x) xs
        constructor
        · intro h
          rcases ih.1 (by omega) with hall | ⟨ys, hys, hcost⟩
          · exact .inl (by omega)
          · exact .inr ⟨x :: ys, List.cons_prefix_cons.2 ⟨rfl, hys⟩, by rw [cost_cons]; omega⟩
        · rintro (hall | ⟨ys, hys, hcost⟩)
          · have := ih.2 (.inl (by omega))
            omega
          · rcases List.prefix_cons_iff.1 hys with rfl | ⟨zs, rfl, hzs⟩
            · exact absurd hcost.symm hzero
            · rw [cost_cons] at hcost
              have := ih.2 (.inr ⟨zs, hzs, by omega⟩)
              omega
      · -- The first item alone is more than there was.
        refine ⟨fun h => absurd h (by omega), ?_⟩
        rintro (hall | ⟨ys, hys, hcost⟩)
        · omega
        · rcases List.prefix_cons_iff.1 hys with rfl | ⟨zs, rfl, -⟩
          · exact absurd hcost.symm hzero
          · rw [cost_cons] at hcost
            omega

end Livetich.Lib
