/-
Work done in windows: every round takes the first `k` pending elements of a fixed list and deals with
those it can. What is pending never grows, so from some round on it does not change; an element that is
still pending then is one that no round can deal with, or has `k` such elements before it.
-/
import Mathlib.Data.List.TakeWhile
import Mathlib.Order.OrderIsoNat
import Mathlib.Tactic.Common

namespace Livetich.Lib

variable {α : Type*}

/-! ## Rounds -/

/-- A measure that never grows stops changing. -/
theorem eventually_constant {f : Nat → Nat} (h : ∀ n, f (n + 1) ≤ f n) :
    ∃ N, ∀ n, N ≤ n → f (n + 1) = f n := by
  have hanti : Antitone f := antitone_nat_of_succ_le h
  obtain ⟨N, hN⟩ := WellFoundedGT.monotone_chain_condition (α := Natᵒᵈ) ⟨fun n => OrderDual.toDual (f n), hanti⟩
  exact ⟨N, fun n hn => OrderDual.toDual.injective ((hN (n + 1) (by omega)).symm.trans (hN n hn))⟩

theorem countP_lt_of_not {p q : α → Bool} {l : List α} (hqp : ∀ x ∈ l, q x = true → p x = true) {x : α}
    (hx : x ∈ l) (hp : p x = true) (hq : q x = false) : l.countP q < l.countP p := by
  induction l with
  | nil => cases hx
  | cons y l ih =>
    have hrest : l.countP q ≤ l.countP p := List.countP_mono_left fun z hz => hqp z (List.mem_cons_of_mem _ hz)
    rcases List.mem_cons.1 hx with rfl | hxl
    · rw [List.countP_cons_of_pos hp, List.countP_cons_of_neg (by simp [hq])]
      omega
    · have hlt := ih (fun z hz => hqp z (List.mem_cons_of_mem _ hz)) hxl
      have hy := hqp y List.mem_cons_self
      by_cases hqy : q y = true
      · rw [List.countP_cons_of_pos hqy, List.countP_cons_of_pos (hy hqy)]
        omega
      · rw [List.countP_cons_of_neg hqy, List.countP_cons]
        omega

/-- What is pending does not change from some round on. -/
theorem eventually_same (pending : Nat → α → Bool) (l : List α)
    (h : ∀ n, ∀ x ∈ l, pending (n + 1) x = true → pending n x = true) :
    ∃ N, ∀ n, N ≤ n → ∀ x ∈ l, pending (n + 1) x = pending n x := by
  obtain ⟨N, hN⟩ := @eventually_constant (fun n => l.countP (pending n)) fun n =>
    List.countP_mono_left (h n)
  refine ⟨N, fun n hn x hx => ?_⟩
  cases hnew : pending (n + 1) x with
  | true => exact (h n x hx hnew).symm
  | false =>
    cases hold : pending n x with
    | false => rfl
    | true => exact absurd (hN n hn) (countP_lt_of_not (h n) hx hold hnew).ne

/-! ## Windows -/

/-- The first `k` elements that match. -/
def window (k : Nat) (p : α → Bool) (l : List α) : List α := (l.filter p).take k

theorem mem_of_mem_window {k : Nat} {p : α → Bool} {l : List α} {x : α} (h : x ∈ window k p l) :
    x ∈ l ∧ p x = true :=
  List.mem_filter.1 (List.mem_of_mem_take h)

variable [DecidableEq α]

/-- The elements of a list before the first `x`. -/
def before (l : List α) (x : α) : List α := l.takeWhile (· ≠ x)

theorem before_cons_self (x : α) (l : List α) : before (x :: l) x = [] := by
  simp [before]

theorem before_cons_of_ne {x y : α} (h : y ≠ x) (l : List α) : before (y :: l) x = y :: before l x := by
  simp [before, h]

theorem mem_of_mem_before {l : List α} {x y : α} (h : y ∈ before l x) : y ∈ l :=
  (List.takeWhile_sublist _).subset h

/-- An element is in the window when it matches and fewer than `k` before it do. -/
theorem mem_window {p : α → Bool} {x : α} : ∀ {k : Nat} {l : List α},
    x ∈ window k p l ↔ x ∈ l ∧ p x = true ∧ (before l x).countP p < k
  | _, [] => by simp [window]
  | k, y :: l => by
    by_cases hyx : y = x
    · subst hyx
      rw [before_cons_self, List.countP_nil]
      constructor
      · intro h
        refine ⟨List.mem_cons_self, (mem_of_mem_window h).2, ?_⟩
        by_contra hk
        have hzero : k = 0 := by omega
        subst hzero
        cases h
      · rintro ⟨-, hp, hk⟩
        obtain ⟨j, rfl⟩ := Nat.exists_eq_succ_of_ne_zero (Nat.pos_iff_ne_zero.1 hk)
        unfold window
        rw [List.filter_cons_of_pos hp, List.take_succ_cons]
        exact List.mem_cons_self
    · have hxy : x ≠ y := fun h => hyx h.symm
      rw [before_cons_of_ne hyx]
      by_cases hp : p y = true
      · rw [List.countP_cons_of_pos hp]
        unfold window
        rw [List.filter_cons_of_pos hp]
        cases k with
        | zero => simp
        | succ j =>
          rw [List.take_succ_cons, List.mem_cons, List.mem_cons, Nat.succ_lt_succ_iff]
          rw [or_iff_right hxy, or_iff_right hxy]
          exact mem_window
      · rw [List.countP_cons_of_neg hp]
        unfold window
        rw [List.filter_cons_of_neg hp, List.mem_cons, or_iff_right hxy]
        exact mem_window

/-- An element that matches and is not in the window has `k` elements of the window before it. -/
theorem le_countP_of_not_mem_window {k : Nat} {p : α → Bool} {l : List α} {x : α} (hx : x ∈ l)
    (hp : p x = true) (h : x ∉ window k p l) :
    k ≤ (before l x).countP fun y => decide (y ∈ window k p l) := by
  have hfull : k ≤ (before l x).countP p := by
    by_contra hlt
    exact h (mem_window.2 ⟨hx, hp, by omega⟩)
  have hstart : window k p (before l x) <+: window k p l :=
    List.prefix_take_iff.2 ⟨(List.take_prefix _ _).trans ((List.takeWhile_prefix _).filter p),
      List.length_take_le _ _⟩
  calc k = (window k p (before l x)).length := by
        unfold window
        rw [List.length_take, ← List.countP_eq_length_filter]
        omega
    _ = (window k p (before l x)).countP fun y => decide (y ∈ window k p l) := by
        symm
        rw [List.countP_eq_length]
        intro y hy
        exact decide_eq_true (hstart.subset hy)
    _ ≤ (before l x).countP fun y => decide (y ∈ window k p l) :=
        (List.Sublist.trans (List.take_sublist _ _) List.filter_sublist).countP_le

/-- When a round can deal with nothing in its window, an element that matches is one no round deals with,
or `k` of these are before it. -/
theorem held_up {k : Nat} {p blocked : α → Bool} {l : List α} (hround : ∀ y ∈ window k p l, blocked y = true)
    {x : α} (hx : x ∈ l) (hp : p x = true) :
    blocked x = true ∨ k ≤ (before l x).countP fun y => p y && blocked y := by
  by_cases hmem : x ∈ window k p l
  · exact .inl (hround x hmem)
  · refine .inr ((le_countP_of_not_mem_window hx hp hmem).trans (List.countP_mono_left fun y _ hy => ?_))
    have hy := of_decide_eq_true hy
    rw [Bool.and_eq_true]
    exact ⟨(mem_of_mem_window hy).2, hround y hy⟩

/-- An element with `k` others before it that match is not in the window. -/
theorem not_mem_window {k : Nat} {p held : α → Bool} {l : List α} {x : α}
    (hheld : ∀ y ∈ l, held y = true → p y = true) (hk : k ≤ (before l x).countP held) : x ∉ window k p l := by
  intro h
  have hlt := (mem_window.1 h).2.2
  have hle : (before l x).countP held ≤ (before l x).countP p :=
    List.countP_mono_left fun y hy => hheld y (mem_of_mem_before hy)
  omega

end Livetich.Lib
