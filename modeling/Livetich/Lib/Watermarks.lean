/-
Numbered messages of many sources, at most so many of which are listened to. The last number of each source is kept;
a message is let through when its number is greater, or when its source is new and there is room for one more.
-/
import Mathlib.Data.List.Dedup
import Mathlib.Order.Lattice
import Livetich.Lib.Table

namespace Livetich.Lib

variable {κ ν : Type*} [DecidableEq κ]

/-- `Map.set`. -/
def Table.set (t : Table κ ν) (k : κ) (r : ν) : Table κ ν :=
  if (t.get k).isSome then t.modify k fun _ => r else t.insert k r

theorem Table.get_set (t : Table κ ν) (k : κ) (r : ν) (j : κ) :
    (t.set k r).get j = if j = k then some r else t.get j := by
  unfold Table.set
  split
  · rename_i hsome
    rw [get_modify]
    split
    · rename_i hj
      subst hj
      obtain ⟨q, hq⟩ := Option.isSome_iff_exists.1 hsome
      rw [hq]
      rfl
    · rfl
  · rename_i hnone
    exact get_insert (by simpa using hnone) r j

namespace Watermarks

variable {room : Nat} {t u : Table κ ν} {k : κ} {n : ν} {log : List (κ × ν)}

/-- The numbers of a source, in the order in which they came. -/
def numbers (k : κ) (log : List (κ × ν)) : List ν := (log.filter (·.1 = k)).map (·.2)

theorem numbers_concat (k : κ) (log : List (κ × ν)) (e : κ × ν) :
    numbers k (log ++ [e]) = if e.1 = k then numbers k log ++ [e.2] else numbers k log := by
  unfold numbers
  rw [List.filter_append, List.map_append]
  by_cases h : e.1 = k
  · simp [h]
  · simp [h]

theorem numbers_ne_nil : numbers k log ≠ [] ↔ k ∈ log.map (·.1) := by
  unfold numbers
  simp [List.filter_eq_nil_iff]

theorem mem_numbers : n ∈ numbers k log ↔ (k, n) ∈ log := by
  unfold numbers
  simp only [List.mem_map, List.mem_filter, decide_eq_true_eq]
  constructor
  · rintro ⟨e, ⟨hmem, rfl⟩, rfl⟩
    exact hmem
  · intro hmem
    exact ⟨(k, n), ⟨hmem, rfl⟩, rfl⟩

theorem numbers_sublist {log' : List (κ × ν)} (h : log'.Sublist log) (k : κ) :
    (numbers k log').Sublist (numbers k log) :=
  (h.filter _).map _

variable [LinearOrder ν]

/-- The table once a message is let through. -/
def pass (room : Nat) (t : Table κ ν) (k : κ) (n : ν) : Option (Table κ ν) :=
  match t.get k with
  | some last => if last < n then some (t.set k n) else none
  | none => if t.entries.length < room then some (t.set k n) else none

/-- What the table has of the messages that were let through. -/
structure Kept (room : Nat) (t : Table κ ν) (log : List (κ × ν)) : Prop where
  last : ∀ k, t.get k = (numbers k log).getLast?
  increasing : ∀ k, (numbers k log).Pairwise (· < ·)
  room : t.entries.length ≤ room

theorem kept_empty (room : Nat) : Kept room (Table.empty : Table κ ν) [] :=
  ⟨fun _ => rfl, fun _ => List.Pairwise.nil, Nat.zero_le room⟩

/-- The last number is the greatest one. -/
theorem Kept.lt_iff (h : Kept room t log) {last : ν} (hlast : t.get k = some last) :
    (∀ m ∈ numbers k log, m < n) ↔ last < n := by
  rw [h.last] at hlast
  obtain ⟨front, hfront⟩ := List.getLast?_eq_some_iff.1 hlast
  constructor
  · intro hall
    exact hall last (by rw [hfront]; exact List.mem_append_right _ (List.mem_singleton_self last))
  · intro hlt m hm
    have hincreasing := h.increasing k
    rw [hfront] at hm hincreasing
    rcases List.mem_append.1 hm with hm | hm
    · exact lt_trans ((List.pairwise_append.1 hincreasing).2.2 m hm last (List.mem_singleton_self last)) hlt
    · rw [List.mem_singleton.1 hm]
      exact hlt

theorem Kept.get_eq_none (h : Kept room t log) : t.get k = none ↔ k ∉ log.map (·.1) := by
  rw [h.last, List.getLast?_eq_none_iff, ← numbers_ne_nil, not_not]

/-- The table has a row for each source that was let through. -/
theorem Kept.length_eq (h : Kept room t log) : t.entries.length = (log.map (·.1)).dedup.length := by
  have hperm : (t.entries.map (·.1)).Perm (log.map (·.1)).dedup := by
    -- Neither list has a source twice, and both have the sources with a last number.
    refine (List.perm_ext_iff_of_nodup t.nodup (List.nodup_dedup _)).2 fun k => ?_
    rw [Table.mem_keys, List.mem_dedup, ← not_iff_not, ← h.get_eq_none, Option.eq_none_iff_forall_ne_some, not_exists]
  rw [← hperm.length_eq, List.length_map]

/-- A message is let through just when its number is greater than all of its source that were, and its source is one
that was let through or there is room for it. -/
theorem Kept.pass_isSome_iff (h : Kept room t log) (k : κ) (n : ν) : (pass room t k n).isSome = true ↔
    (∀ m ∈ numbers k log, m < n) ∧ (k ∈ log.map (·.1) ∨ (log.map (·.1)).dedup.length < room) := by
  unfold pass
  rw [← h.length_eq]
  cases hget : t.get k with
  | some last =>
    have hknown : k ∈ log.map (·.1) := by
      by_contra hnot
      rw [h.get_eq_none.2 hnot] at hget
      cases hget
    rw [h.lt_iff hget, and_iff_left (.inl hknown)]
    dsimp only
    split <;> simp [*]
  | none =>
    have hnew := h.get_eq_none.1 hget
    have hnil : numbers k log = [] := not_not.1 (mt numbers_ne_nil.1 hnew)
    rw [hnil, or_iff_right hnew]
    dsimp only
    split <;> simp [*]

theorem Kept.pass (h : Kept room t log) (hpass : pass room t k n = some u) : Kept room u (log ++ [(k, n)]) := by
  have hset : u = t.set k n := by
    unfold Watermarks.pass at hpass
    split at hpass <;> split at hpass <;> cases hpass <;> rfl
  have hgreater : ∀ m ∈ numbers k log, m < n := ((h.pass_isSome_iff k n).1 (by rw [hpass]; rfl)).1
  subst hset
  refine ⟨fun j => ?_, fun j => ?_, ?_⟩
  · rw [Table.get_set, numbers_concat]
    by_cases hj : j = k
    · rw [if_pos hj, if_pos hj.symm, List.getLast?_concat]
    · rw [if_neg hj, if_neg (Ne.symm hj)]
      exact h.last j
  · rw [numbers_concat]
    split
    · rename_i hj
      subst hj
      refine List.pairwise_append.2 ⟨h.increasing k, List.pairwise_singleton _ _, fun m hm n' hn' => ?_⟩
      rw [List.mem_singleton.1 hn']
      exact hgreater m hm
    · exact h.increasing j
  · -- Only a new source makes the table longer, and there was room for it.
    unfold Watermarks.pass at hpass
    unfold Table.set
    cases hget : t.get k with
    | some last =>
      rw [Option.isSome_some, if_pos rfl, Table.entries_modify, List.length_map]
      exact h.room
    | none =>
      rw [hget] at hpass
      dsimp only at hpass
      split at hpass
      · rename_i hroom
        rw [Option.isSome_none, if_neg Bool.false_ne_true, Table.entries_insert hget, List.length_append]
        exact hroom
      · cases hpass

end Watermarks

end Livetich.Lib
