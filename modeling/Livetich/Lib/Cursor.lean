/-
Sweeps by a stored cursor: a run takes the next keys after the cursor, a fixed number at most, and begins anew where
none are left. The cursor may be any key, also one that is not among those swept.
-/
import Mathlib.Data.List.Sort
import Mathlib.Order.Basic
import Mathlib.Tactic.Common

namespace Livetich.Lib.Cursor

variable {κ : Type*} [LinearOrder κ] (keys : List κ) (width : Nat)

/-! ## One run -/

/-- The keys after the cursor. -/
def rest (cursor : Option κ) : List κ := keys.filter fun k => cursor.all (· < k)

def page (cursor : Option κ) : List κ := (rest keys cursor).take width

/-- What a run takes. -/
def window (cursor : Option κ) : List κ :=
  if page keys width cursor = [] then page keys width none else page keys width cursor

/-- The cursor that a run leaves. -/
def next (cursor : Option κ) : Option κ := (window keys width cursor).getLast?

/-! ## Many runs -/

/-- What so many runs take. -/
def passes : Nat → Option κ → List κ
  | 0, _ => []
  | runs + 1, cursor => window keys width cursor ++ passes runs (next keys width cursor)

def after : Nat → Option κ → Option κ
  | 0, cursor => cursor
  | runs + 1, cursor => after runs (next keys width cursor)

theorem passes_add : ∀ (m n : Nat) (cursor : Option κ),
    passes keys width (m + n) cursor = passes keys width m cursor ++ passes keys width n (after keys width m cursor)
  | 0, n, cursor => by
    rw [Nat.zero_add]
    rfl
  | m + 1, n, cursor => by
    rw [show m + 1 + n = (m + n) + 1 by omega, passes, passes_add m n, passes, List.append_assoc, after]

/-- The keys that the next runs have before them. -/
def ahead (cursor : Option κ) : List κ := if rest keys cursor = [] then keys else rest keys cursor

variable {keys width} {cursor : Option κ} {k : κ}

@[simp] theorem rest_none : rest keys none = keys := by
  unfold rest
  simp

theorem window_eq (hwidth : 0 < width) : window keys width cursor = (ahead keys cursor).take width := by
  have hpage : page keys width cursor = [] ↔ rest keys cursor = [] := by
    unfold page
    rw [List.take_eq_nil_iff]
    exact ⟨fun h => h.resolve_left (Nat.ne_of_gt hwidth), .inr⟩
  unfold window ahead
  by_cases h : rest keys cursor = []
  · rw [if_pos (hpage.2 h), if_pos h, page, rest_none]
  · rw [if_neg (mt hpage.1 h), if_neg h, page]

/-- In ascending keys, those after one of them are the ones behind it. -/
theorem rest_of_split {front back : List κ} (hsorted : keys.Pairwise (· < ·)) (hsplit : keys = front ++ k :: back) :
    rest keys (some k) = back := by
  subst hsplit
  obtain ⟨-, hback, hfront⟩ := List.pairwise_append.1 hsorted
  unfold rest
  rw [List.filter_append, List.filter_cons_of_neg (by simp), List.filter_eq_nil_iff.2, List.filter_eq_self.2]
  · rfl
  · intro x hx
    simpa using (List.pairwise_cons.1 hback).1 x hx
  · intro x hx
    simpa using (hfront x hx k List.mem_cons_self).le

/-- In ascending keys, those after the cursor are at the end. -/
theorem rest_suffix (c : κ) : ∀ {keys : List κ}, keys.Pairwise (· < ·) → rest keys (some c) <:+ keys
  | [], _ => List.suffix_refl []
  | a :: l, hsorted => by
    obtain ⟨hhead, htail⟩ := List.pairwise_cons.1 hsorted
    by_cases hc : c < a
    · have hall : rest (a :: l) (some c) = a :: l := by
        refine List.filter_eq_self.2 fun x hx => ?_
        rcases List.mem_cons.1 hx with rfl | hx
        · simpa using hc
        · simpa using hc.trans (hhead x hx)
      exact hall.symm ▸ List.suffix_refl (a :: l)
    · have hskip : rest (a :: l) (some c) = rest l (some c) := List.filter_cons_of_neg (by simpa using hc)
      rw [hskip]
      exact (rest_suffix c htail).trans (List.suffix_cons a l)

theorem ahead_suffix (hsorted : keys.Pairwise (· < ·)) : ahead keys cursor <:+ keys := by
  unfold ahead
  split
  · exact List.suffix_refl keys
  · cases cursor with
    | none =>
      have hall : rest keys none = keys := rest_none
      exact hall.symm ▸ List.suffix_refl keys
    | some c => exact rest_suffix c hsorted

theorem ahead_ne_nil (hkeys : keys ≠ []) : ahead keys cursor ≠ [] := by
  unfold ahead
  split
  · exact hkeys
  · assumption

/-- A run leaves what was ahead but for its window. -/
theorem rest_next (hsorted : keys.Pairwise (· < ·)) (hwidth : 0 < width) (hkeys : keys ≠ []) :
    rest keys (next keys width cursor) = (ahead keys cursor).drop width := by
  have hwindow : (ahead keys cursor).take width ≠ [] := by
    rw [Ne, List.take_eq_nil_iff, not_or]
    exact ⟨Nat.ne_of_gt hwidth, ahead_ne_nil hkeys⟩
  obtain ⟨passed, last, hlast⟩ := (List.eq_nil_or_concat' _).resolve_left hwindow
  obtain ⟨front, hfront⟩ : ahead keys cursor <:+ keys := ahead_suffix hsorted
  have hsplit : keys = (front ++ passed) ++ last :: (ahead keys cursor).drop width := by
    calc keys = front ++ ahead keys cursor := hfront.symm
      _ = front ++ ((ahead keys cursor).take width ++ (ahead keys cursor).drop width) := by rw [List.take_append_drop]
      _ = (front ++ passed) ++ last :: (ahead keys cursor).drop width := by rw [hlast]; simp
  have hnext : next keys width cursor = some last := by
    rw [next, window_eq hwidth, hlast, List.getLast?_concat]
  rw [hnext]
  exact rest_of_split hsorted hsplit

/-! ## Every key has its turn -/

/-- What is ahead is passed window by window. -/
theorem mem_passes_of_ahead (hsorted : keys.Pairwise (· < ·)) (hwidth : 0 < width) : ∀ {runs : Nat} {cursor : Option κ},
    k ∈ (ahead keys cursor).take (width * runs) → k ∈ passes keys width runs cursor
  | 0, _, h => by
    rw [Nat.mul_zero] at h
    cases h
  | runs + 1, cursor, h => by
    rw [show width * (runs + 1) = width + width * runs by rw [Nat.mul_succ, Nat.add_comm], List.take_add] at h
    rw [passes, window_eq hwidth]
    rcases List.mem_append.1 h with h | h
    · exact List.mem_append_left _ h
    · refine List.mem_append_right _ (mem_passes_of_ahead hsorted hwidth ?_)
      have hkeys : keys ≠ [] := by
        rintro rfl
        have hk := List.mem_of_mem_drop (List.mem_of_mem_take h)
        exact absurd ((ahead_suffix List.Pairwise.nil).subset hk) List.not_mem_nil
      have hrest : _ = (ahead keys cursor).drop width := rest_next hsorted hwidth hkeys
      rw [← hrest] at h
      have hne : rest keys (next keys width cursor) ≠ [] := List.ne_nil_of_mem (List.mem_of_mem_take h)
      unfold ahead
      rw [if_neg hne]
      exact h

/-- After enough runs the sweep begins anew. -/
theorem begins_anew (hsorted : keys.Pairwise (· < ·)) (hwidth : 0 < width) (hkeys : keys ≠ []) :
    ∀ {runs : Nat} {cursor : Option κ}, (rest keys cursor).length ≤ width * runs →
    ∃ m ≤ runs, ahead keys (after keys width m cursor) = keys
  | 0, cursor, h => by
    have hrest : rest keys cursor = [] := List.eq_nil_of_length_eq_zero (by omega)
    refine ⟨0, le_refl 0, ?_⟩
    rw [after, ahead, if_pos hrest]
  | runs + 1, cursor, h => by
    by_cases hrest : rest keys cursor = []
    · exact ⟨0, Nat.zero_le _, by rw [after, ahead, if_pos hrest]⟩
    · have hlength : (rest keys (next keys width cursor)).length ≤ width * runs := by
        rw [rest_next hsorted hwidth hkeys, ahead, if_neg hrest, List.length_drop]
        rw [Nat.mul_succ] at h
        omega
      obtain ⟨m, hm, hanew⟩ := begins_anew hsorted hwidth hkeys hlength
      exact ⟨m + 1, Nat.succ_le_succ hm, hanew⟩

/-- Two turns through the keys pass every one of them, from any cursor. -/
theorem mem_passes (hsorted : keys.Pairwise (· < ·)) (hwidth : 0 < width) {runs : Nat}
    (hruns : 2 * (keys.length / width + 1) ≤ runs) (hk : k ∈ keys) : k ∈ passes keys width runs cursor := by
  have henough : keys.length ≤ width * (keys.length / width + 1) :=
    (Nat.lt_mul_div_succ keys.length hwidth).le
  have hrest : (rest keys cursor).length ≤ width * (keys.length / width + 1) :=
    (List.length_filter_le _ keys).trans henough
  obtain ⟨m, hm, hanew⟩ := begins_anew hsorted hwidth (List.ne_nil_of_mem hk) hrest
  obtain ⟨n, rfl⟩ : ∃ n, runs = m + n := ⟨runs - m, by omega⟩
  rw [passes_add]
  refine List.mem_append_right _ (mem_passes_of_ahead hsorted hwidth ?_)
  rw [hanew, List.take_of_length_le]
  · exact hk
  · exact henough.trans (Nat.mul_le_mul_left width (by omega))

end Livetich.Lib.Cursor
