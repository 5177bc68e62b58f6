/-
Text that is trimmed and cut: `trim`, and `slice(0, n)`, which counts UTF-16 units and may leave half of a
character at the end. Written as UTF-8, such a half is the replacement character.
-/
import Mathlib.Algebra.Order.BigOperators.Group.List
import Mathlib.Data.List.DropRight
import Livetich.Code.Paths
import Livetich.Js.Number

namespace Livetich.Js

open Livetich.Code (jsLength)

def replacement : Char := '\uFFFD'

/-- `slice(0, n)`, as it is stored. -/
def slice : List Char → Nat → List Char
  | [], _ => []
  | _ :: _, 0 => []
  | c :: cs, n + 1 => if jsLength [c] ≤ n + 1 then c :: slice cs (n + 1 - jsLength [c]) else [replacement]

theorem slice_nil (n : Nat) : slice [] n = [] := rfl

theorem slice_zero (cs : List Char) : slice cs 0 = [] := by
  cases cs <;> rfl

theorem slice_succ (c : Char) (cs : List Char) (n : Nat) : slice (c :: cs) (n + 1) =
    if jsLength [c] ≤ n + 1 then c :: slice cs (n + 1 - jsLength [c]) else [replacement] :=
  rfl

theorem jsLength_cons (c : Char) (cs : List Char) : jsLength (c :: cs) = jsLength [c] + jsLength cs := by
  simp [jsLength]

theorem jsLength_one (c : Char) : jsLength [c] = 1 ∨ jsLength [c] = 2 := by
  unfold jsLength
  rw [List.map_singleton, List.sum_singleton]
  split
  · exact .inl rfl
  · exact .inr rfl

theorem jsLength_sublist {l cs : List Char} (h : l.Sublist cs) : jsLength l ≤ jsLength cs :=
  List.Sublist.sum_le_sum (h.map _) fun _ _ => Nat.zero_le _

/-- What is left is the beginning of the text, perhaps with half of a character after it. -/
theorem slice_eq : ∀ (cs : List Char) (n : Nat), ∃ l, l <+: cs ∧ (slice cs n = l ∨ slice cs n = l ++ [replacement])
  | [], _ => ⟨[], List.prefix_rfl, .inl rfl⟩
  | c :: cs, 0 => ⟨[], List.nil_prefix, .inl rfl⟩
  | c :: cs, n + 1 => by
    rw [slice_succ]
    split
    · obtain ⟨l, hl, hslice⟩ := slice_eq cs (n + 1 - jsLength [c])
      refine ⟨c :: l, List.prefix_cons_inj c |>.2 hl, ?_⟩
      rcases hslice with hslice | hslice
      · exact .inl (by rw [hslice])
      · exact .inr (by rw [hslice, List.cons_append])
    · exact ⟨[], List.nil_prefix, .inr rfl⟩

theorem jsLength_slice : ∀ (cs : List Char) (n : Nat), jsLength (slice cs n) ≤ n
  | [], _ => Nat.zero_le _
  | _ :: _, 0 => Nat.zero_le _
  | c :: cs, n + 1 => by
    rw [slice_succ]
    split
    · rename_i hle
      have ih := jsLength_slice cs (n + 1 - jsLength [c])
      rw [jsLength_cons]
      omega
    · have hone : jsLength [replacement] = 1 := rfl
      omega

/-- A text that is short enough is not cut. -/
theorem slice_of_le : ∀ {cs : List Char} {n : Nat}, jsLength cs ≤ n → slice cs n = cs
  | [], n, _ => slice_nil n
  | c :: cs, 0, h => by
    rw [jsLength_cons] at h
    rcases jsLength_one c with hc | hc <;> omega
  | c :: cs, n + 1, h => by
    rw [jsLength_cons] at h
    rw [slice_succ, if_pos (by omega), slice_of_le (by omega)]

/-! ## Trimming -/

theorem trim_eq (cs : List Char) : trim cs = (cs.dropWhile isSpace).rdropWhile isSpace := rfl

theorem trim_sublist (cs : List Char) : (trim cs).Sublist cs :=
  (List.rdropWhile_prefix _ _).sublist.trans (List.dropWhile_suffix _).sublist

/-- Trimmed text begins with no space. -/
theorem head_trim {cs : List Char} {c : Char} (h : (trim cs).head? = some c) : isSpace c = false := by
  obtain ⟨rest, hrest⟩ := List.rdropWhile_prefix isSpace (cs.dropWhile isSpace)
  rw [← trim_eq] at hrest
  have hhead : (cs.dropWhile isSpace).head? = some c := by
    rw [← hrest, List.head?_append, h]
    rfl
  have hnot := List.head?_dropWhile_not isSpace cs
  rw [hhead] at hnot
  simpa using hnot

/-- Text that begins with no space is trimmed at its end only. -/
theorem trim_eq_self_iff {cs : List Char} (h : ∀ c, cs.head? = some c → isSpace c = false) :
    trim cs = cs ↔ cs.getLast?.any isSpace = false := by
  have hdrop : cs.dropWhile isSpace = cs := by
    cases cs with
    | nil => rfl
    | cons c cs => rw [List.dropWhile_cons, h c rfl, if_neg Bool.false_ne_true]
  rw [trim_eq, hdrop, List.rdropWhile_eq_self_iff]
  cases cs with
  | nil => simp
  | cons c cs =>
    rw [List.getLast?_eq_getLast_of_ne_nil (List.cons_ne_nil c cs), Option.any_some]
    simp

theorem trim_ne_nil {cs : List Char} (hne : cs ≠ []) (h : ∀ c, cs.head? = some c → isSpace c = false) :
    trim cs ≠ [] := by
  obtain ⟨c, rest, rfl⟩ := List.exists_cons_of_ne_nil hne
  rw [trim_eq, List.dropWhile_cons, h c rfl, if_neg Bool.false_ne_true]
  intro hnil
  have hspace := List.rdropWhile_eq_nil_iff.1 hnil c List.mem_cons_self
  rw [h c rfl] at hspace
  cases hspace

/-- A cut does not change how a text begins, but for half of a character. -/
theorem head_slice {cs : List Char} {n : Nat} (h : ∀ c, cs.head? = some c → isSpace c = false) :
    ∀ c, (slice cs n).head? = some c → isSpace c = false := by
  intro c hc
  cases cs with
  | nil =>
    rw [slice_nil] at hc
    cases hc
  | cons d ds =>
    cases n with
    | zero =>
      rw [slice_zero] at hc
      cases hc
    | succ n =>
      rw [slice_succ] at hc
      split at hc
      · cases hc
        exact h c rfl
      · cases hc
        rfl

end Livetich.Js
