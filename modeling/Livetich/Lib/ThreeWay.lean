/-
Three-way merges of partial maps: the changes that one side made since a common base are taken over
into the other side wherever that side still has what the base had. `sel` says which keys may change.
-/
import Mathlib.Tactic.Common

namespace Livetich.Lib

variable {κ ν : Type*} [DecidableEq ν]

/-- `own` with the changes from `base` to `other` at the keys of `sel` that `own` did not change. -/
def threeWay (sel : κ → Bool) (base other own : κ → Option ν) (k : κ) : Option ν :=
  if sel k = true ∧ base k ≠ other k ∧ own k = base k then other k else own k

variable {sel : κ → Bool} {base other own : κ → Option ν} {k : κ}

/-- What `own` changed is kept. -/
theorem threeWay_of_changed (h : own k ≠ base k) : threeWay sel base other own k = own k :=
  if_neg fun hk => h hk.2.2

theorem threeWay_of_not_sel (h : sel k = false) : threeWay sel base other own k = own k :=
  if_neg fun hk => by rw [h] at hk; cases hk.1

theorem threeWay_of_agree (h : base k = other k) : threeWay sel base other own k = own k :=
  if_neg fun hk => hk.2.1 h

/-- A change that meets no change of `own`, or the same one, is in the result. -/
theorem threeWay_eq_other (hsel : sel k = true) (hne : base k ≠ other k) (h : own k = base k ∨ own k = other k) :
    threeWay sel base other own k = other k := by
  unfold threeWay
  by_cases heq : own k = base k
  · rw [if_pos ⟨hsel, hne, heq⟩]
  · rw [if_neg fun hk => heq hk.2.2]
    exact h.resolve_left heq

/-! ## Keys that exclude each other -/

/-- Of two keys that exclude each other at most one has a value. -/
def Free (R : κ → κ → Prop) (f : κ → Option ν) : Prop := ∀ p q, f p ≠ none → f q ≠ none → ¬ R p q

/-- The change at a key is taken over. -/
def Takes (sel : κ → Bool) (base other own : κ → Option ν) (k : κ) : Prop :=
  sel k = true ∧ base k ≠ other k ∧ own k = base k

theorem threeWay_of_takes (h : Takes sel base other own k) : threeWay sel base other own k = other k := if_pos h

theorem threeWay_of_not_takes (h : ¬ Takes sel base other own k) : threeWay sel base other own k = own k := if_neg h

/-- Both sides being free, the merge is as soon as nothing taken over excludes something that stays. -/
theorem threeWay_free {R : κ → κ → Prop} (hother : Free R other) (hown : Free R own)
    (h : ∀ p q, Takes sel base other own p → other p ≠ none → ¬ Takes sel base other own q → own q ≠ none →
      ¬ (R p q ∨ R q p)) : Free R (threeWay sel base other own) := by
  intro p q hp hq hR
  by_cases hpt : Takes sel base other own p <;> by_cases hqt : Takes sel base other own q
  · rw [threeWay_of_takes hpt] at hp
    rw [threeWay_of_takes hqt] at hq
    exact hother p q hp hq hR
  · rw [threeWay_of_takes hpt] at hp
    rw [threeWay_of_not_takes hqt] at hq
    exact h p q hpt hp hqt hq (.inl hR)
  · rw [threeWay_of_not_takes hpt] at hp
    rw [threeWay_of_takes hqt] at hq
    exact h q p hqt hq hpt hp (.inr hR)
  · rw [threeWay_of_not_takes hpt] at hp
    rw [threeWay_of_not_takes hqt] at hq
    exact hown p q hp hq hR

end Livetich.Lib
