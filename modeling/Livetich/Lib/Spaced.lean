/-
Entries that come in numbered rounds: at most `k` in a round, and the rounds a gap of time apart. Any
stretch of time meets few of them.
-/
import Mathlib.Algebra.Order.Group.Nat
import Mathlib.Data.List.MinMax
import Mathlib.Tactic.Common

namespace Livetich.Lib

/-- Entries with their round and time. -/
structure Spaced (k gap : Nat) (log : List (Nat × Nat)) : Prop where
  few : ∀ r, log.countP (fun x => x.1 = r) ≤ k
  apart : ∀ x ∈ log, ∀ y ∈ log, x.1 < y.1 → x.2 + gap * (y.1 - x.1) ≤ y.2

namespace Spaced

variable {k gap : Nat} {log : List (Nat × Nat)}

theorem nil (k gap : Nat) : Spaced k gap [] := by
  refine ⟨fun r => Nat.zero_le k, fun x hx => ?_⟩
  cases hx

/-- A new entry in the last round. -/
theorem cons (h : Spaced k gap log) {r t : Nat} (hlast : ∀ x ∈ log, x.1 ≤ r)
    (hcount : log.countP (fun x => x.1 = r) < k) (hgap : ∀ x ∈ log, x.1 < r → x.2 + gap * (r - x.1) ≤ t) :
    Spaced k gap ((r, t) :: log) := by
  refine ⟨fun r' => ?_, fun x hx y hy hlt => ?_⟩
  · by_cases hr : r = r'
    · subst hr
      rw [List.countP_cons_of_pos (by simp)]
      exact hcount
    · rw [List.countP_cons_of_neg (by simpa using hr)]
      exact h.few r'
  · rcases List.mem_cons.1 hx with rfl | hx
    · rcases List.mem_cons.1 hy with rfl | hy
      · exact absurd hlt (Nat.lt_irrefl r)
      · have := hlast y hy
        omega
    · rcases List.mem_cons.1 hy with rfl | hy
      · exact hgap x hx hlt
      · exact h.apart x hx y hy hlt

theorem sublist (h : Spaced k gap log) {l : List (Nat × Nat)} (hl : l.Sublist log) : Spaced k gap l :=
  ⟨fun r => (hl.countP_le).trans (h.few r), fun x hx y hy => h.apart x (hl.subset hx) y (hl.subset hy)⟩

/-- Rounds between two numbers hold few entries. -/
theorem length_le {log : List (Nat × Nat)} (hfew : ∀ r, log.countP (fun x => x.1 = r) ≤ k) :
    ∀ {n lo : Nat}, (∀ x ∈ log, lo ≤ x.1 ∧ x.1 < lo + n) → log.length ≤ k * n := by
  intro n lo
  induction n generalizing log with
  | zero =>
    intro h
    cases log with
    | nil => exact Nat.zero_le _
    | cons x log =>
      have := h x List.mem_cons_self
      omega
  | succ n ih =>
    intro h
    -- The last of the rounds apart from the others.
    have hsplit := List.length_eq_countP_add_countP (fun x : Nat × Nat => decide (x.1 = lo + n)) (l := log)
    have hrest : (log.filter fun x => !decide (x.1 = lo + n)).length ≤ k * n := by
      refine ih (fun r => (List.filter_sublist.countP_le).trans (hfew r)) fun x hx => ?_
      obtain ⟨hx, hne⟩ := List.mem_filter.1 hx
      have hb := h x hx
      have hne' : x.1 ≠ lo + n := by simpa using hne
      omega
    have hlast := hfew (lo + n)
    rw [← List.countP_eq_length_filter] at hrest
    have hcount : log.countP (fun x => decide ¬decide (x.1 = lo + n) = true) =
        log.countP fun x => !decide (x.1 = lo + n) := by
      congr 1
      funext x
      simp
    rw [Nat.mul_succ]
    omega

/-- A stretch of time meets the rounds of one gap more than it is long. -/
theorem window (h : Spaced k gap log) (hgap : 0 < gap) (start len : Nat) :
    (log.filter fun x => start ≤ x.2 ∧ x.2 ≤ start + len).length ≤ k * (len / gap + 1) := by
  have hsub : (log.filter fun x => start ≤ x.2 ∧ x.2 ≤ start + len).Sublist log := List.filter_sublist
  have hin : ∀ x ∈ log.filter (fun x => start ≤ x.2 ∧ x.2 ≤ start + len), start ≤ x.2 ∧ x.2 ≤ start + len :=
    fun x hx => by simpa using (List.mem_filter.1 hx).2
  generalize log.filter (fun x => start ≤ x.2 ∧ x.2 ≤ start + len) = l at hsub hin ⊢
  have hl := h.sublist hsub
  cases hmin : (l.map (·.1)).min? with
  | none =>
    rw [List.min?_eq_none_iff, List.map_eq_nil_iff] at hmin
    rw [hmin]
    exact Nat.zero_le _
  | some lo =>
    obtain ⟨hmem, hle⟩ := List.min?_eq_some_iff.1 hmin
    obtain ⟨first, hfirst, rfl⟩ := List.mem_map.1 hmem
    refine length_le hl.few fun y hy => ⟨hle _ (List.mem_map.2 ⟨y, hy, rfl⟩), ?_⟩
    have hge := hle _ (List.mem_map.2 ⟨y, hy, rfl⟩)
    rcases Nat.eq_or_lt_of_le hge with heq | hlt
    · rw [← heq]
      exact Nat.lt_add_of_pos_right (Nat.succ_pos _)
    · have hspace := hl.apart first hfirst y hy hlt
      have hstart := (hin first hfirst).1
      have hend := (hin y hy).2
      have hrounds : y.1 - first.1 ≤ len / gap := by
        rw [Nat.le_div_iff_mul_le hgap, Nat.mul_comm]
        omega
      omega

end Spaced

end Livetich.Lib
