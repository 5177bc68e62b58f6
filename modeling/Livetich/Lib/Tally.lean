/-
Pools whose tasks hold something: what all of them hold together, for balances that must come to what is held.
-/
import Livetich.Lib.TransSys
import Mathlib.Algebra.BigOperators.Group.List.Basic
import Mathlib.Algebra.Order.BigOperators.Group.List

namespace TransSys.Pool

variable {τ M : Type*}

section Sum

variable [AddCommMonoid M]

/-- What a slot holds. -/
def holding (f : τ → M) (t : Option τ) : M := (t.map f).getD 0

@[simp] theorem holding_none (f : τ → M) : holding f none = 0 := rfl

@[simp] theorem holding_some (f : τ → M) (t : τ) : holding f (some t) = f t := rfl

/-- What all tasks hold. -/
def total (p : Pool τ) (f : τ → M) : M := (p.entries.map fun e => f e.2).sum

@[simp] theorem total_empty (f : τ → M) : (empty : Pool τ).total f = 0 := rfl

/-- The entry of a number apart from the others. -/
theorem sum_split (f : τ → M) (i : Nat) : ∀ {l : List (Nat × τ)}, (l.map (·.1)).Nodup →
    (l.map fun e => f e.2).sum =
      ((l.filter (·.1 != i)).map fun e => f e.2).sum + holding f ((l.find? (·.1 == i)).map (·.2))
  | [], _ => by simp
  | (j, u) :: l, h => by
    obtain ⟨hnot, h⟩ := List.nodup_cons.1 h
    by_cases hj : j = i
    · subst hj
      have hrest : l.filter (·.1 != j) = l := by
        refine List.filter_eq_self.2 fun e he => ?_
        have hne : e.1 ≠ j := fun heq => hnot (List.mem_map.2 ⟨e, he, heq⟩)
        simpa using hne
      rw [List.filter_cons_of_neg (by simp), hrest, List.find?_cons_of_pos (by simp), List.map_cons, List.sum_cons]
      exact add_comm _ _
    · rw [List.filter_cons_of_pos (by simpa using hj), List.find?_cons_of_neg (by simpa using hj), List.map_cons,
        List.sum_cons, List.map_cons, List.sum_cons, sum_split f i h, add_assoc]

/-- A task put in a slot holds what it holds in place of what the slot held. -/
theorem total_put (p : Pool τ) (f : τ → M) (i : Nat) (t : Option τ) :
    (p.put i t).total f + holding f (p.get i) = p.total f + holding f t := by
  unfold total put get
  rw [sum_split f i p.nodup, List.map_append, List.sum_append]
  cases t with
  | none => simp
  | some u =>
    simp only [Option.toList_some, List.map_cons, List.map_nil, List.sum_singleton, holding_some]
    rw [add_assoc, add_comm]

/-- A balance that changes as what is held and what is kept do still comes to both. -/
theorem balance_put {p : Pool τ} {f : τ → M} {i : Nat} {t : Option τ} [IsCancelAdd M] {balance balance' kept kept' : M}
    (h : balance = p.total f + kept)
    (hput : balance' + (holding f (p.get i) + kept) = balance + (holding f t + kept')) :
    balance' = (p.put i t).total f + kept' := by
  have htotal := total_put p f i t
  refine add_right_cancel (b := holding f (p.get i) + kept) ?_
  calc balance' + (holding f (p.get i) + kept) = (p.total f + kept) + (holding f t + kept') := by rw [hput, h]
    _ = (p.total f + holding f t) + (kept + kept') := by
      rw [add_add_add_comm]
    _ = ((p.put i t).total f + holding f (p.get i)) + (kept' + kept) := by rw [htotal, add_comm kept]
    _ = (p.put i t).total f + kept' + (holding f (p.get i) + kept) := by rw [add_add_add_comm]

end Sum

theorem total_nonneg [AddCommMonoid M] [Preorder M] [AddLeftMono M] {f : τ → M} (hf : ∀ t, 0 ≤ f t) (p : Pool τ) :
    0 ≤ p.total f := by
  refine List.sum_nonneg fun m hm => ?_
  obtain ⟨e, -, rfl⟩ := List.mem_map.1 hm
  exact hf e.2

end TransSys.Pool
