/-
Ledgers: rows that are only ever added, each with a delta, and the balance of the rows that a test picks. A value that
is changed by posting the difference to the balance that was read stays equal to the balance just when the balance is
still what was read.
-/
import Mathlib.Algebra.BigOperators.Group.List.Basic
import Mathlib.Algebra.Group.Basic
import Mathlib.Tactic.Common

namespace Livetich.Lib.Ledger

variable {ρ M : Type*}

section Monoid

variable [AddMonoid M]

/-- The sum of the deltas of the rows that `p` picks. -/
def balance (delta : ρ → M) (p : ρ → Bool) (rows : List ρ) : M := ((rows.filter p).map delta).sum

variable {delta : ρ → M} {p q : ρ → Bool}

@[simp] theorem balance_nil : balance delta p [] = 0 := rfl

theorem balance_append (rows rows' : List ρ) :
    balance delta p (rows ++ rows') = balance delta p rows + balance delta p rows' := by
  unfold balance
  rw [List.filter_append, List.map_append, List.sum_append]

/-- A row that is picked adds its delta. -/
theorem balance_post {row : ρ} (h : p row = true) (rows : List ρ) :
    balance delta p (rows ++ [row]) = balance delta p rows + delta row := by
  rw [balance_append]
  unfold balance
  rw [List.filter_cons_of_pos h, List.filter_nil, List.map_cons, List.map_nil, List.sum_singleton]

/-- A row that is not picked adds nothing. -/
theorem balance_skip {row : ρ} (h : p row = false) (rows : List ρ) :
    balance delta p (rows ++ [row]) = balance delta p rows := by
  rw [balance_append]
  unfold balance
  rw [List.filter_cons_of_neg (by rw [h]; exact Bool.false_ne_true), List.filter_nil, List.map_nil, List.sum_nil,
    add_zero]

theorem balance_of_none {rows : List ρ} (h : ∀ row ∈ rows, p row = false) : balance delta p rows = 0 := by
  unfold balance
  rw [List.filter_eq_nil_iff.2 fun row hrow => by rw [h row hrow]; exact Bool.false_ne_true]
  rfl

/-- Tests that pick the same of the rows there have the same balance. -/
theorem balance_congr {rows : List ρ} (h : ∀ row ∈ rows, p row = q row) :
    balance delta p rows = balance delta q rows := by
  unfold balance
  rw [List.filter_congr h]

end Monoid

section Group

variable [AddCommGroup M] {delta : ρ → M} {p : ρ → Bool}

/-- Posting what is missing to `v` brings the balance to `v` just when nothing was posted since it was read. -/
theorem balance_settle {row : ρ} {rows : List ρ} {v seen : M} (h : p row = true) (hdelta : delta row = v - seen) :
    balance delta p (rows ++ [row]) = v ↔ balance delta p rows = seen := by
  rw [balance_post h, hdelta, ← add_sub_assoc, add_sub_right_comm, add_eq_right, sub_eq_zero]

end Group

end Livetich.Lib.Ledger
