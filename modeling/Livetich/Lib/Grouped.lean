/-
Rows grouped by a key, as a `GROUP BY` returns them, and loops that write what each group comes to into the row of a
table. A database returns the groups in any order; each key has one group, so the loops do not depend on it.
-/
import Mathlib.Data.List.Dedup
import Livetich.Lib.Table

namespace Livetich.Lib

variable {κ ρ α : Type*} [DecidableEq κ]

/-- The rows of each key that has any. -/
def groupBy (key : α → κ) (rows : List α) : List (κ × List α) :=
  (rows.map key).dedup.map fun k => (k, rows.filter (key · = k))

/-- A loop that changes the row under the key of each item. -/
def Table.modifyAll (t : Table κ ρ) (key : α → κ) (f : α → ρ → ρ) (items : List α) : Table κ ρ :=
  items.foldl (fun t x => t.modify (key x) (f x)) t

theorem keys_groupBy (key : α → κ) (rows : List α) : (groupBy key rows).map (·.1) = (rows.map key).dedup := by
  unfold groupBy
  rw [List.map_map]
  exact List.map_id _

/-- A key finds the rows that have it. -/
theorem find_groupBy (key : α → κ) (rows : List α) (k : κ) :
    ((groupBy key rows).find? (·.1 == k)).map (·.2) =
      if k ∈ rows.map key then some (rows.filter (key · = k)) else none := by
  unfold groupBy
  rw [List.find?_map]
  have hfind : (rows.map key).dedup.find? ((·.1 == k) ∘ fun k => (k, rows.filter (key · = k))) =
      if k ∈ rows.map key then some k else none := by
    split
    · rename_i hk
      cases hfound : (rows.map key).dedup.find? ((·.1 == k) ∘ fun k => (k, rows.filter (key · = k))) with
      | none =>
        have hmiss := List.find?_eq_none.1 hfound k (List.mem_dedup.2 hk)
        simp at hmiss
      | some j =>
        have hj := List.find?_some hfound
        simp only [Function.comp_apply, beq_iff_eq] at hj
        rw [hj]
    · rename_i hk
      refine List.find?_eq_none.2 fun j hj => ?_
      simp only [Function.comp_apply, beq_iff_eq]
      rintro rfl
      exact hk (List.mem_dedup.1 hj)
  rw [hfind]
  split <;> rfl

theorem get_modifyAll {key : α → κ} {f : α → ρ → ρ} (k : κ) : ∀ {items : List α} {t : Table κ ρ},
    (items.map key).Nodup → (t.modifyAll key f items).get k =
      (t.get k).map fun r => ((items.find? (key · == k)).map fun x => f x r).getD r
  | [], t, _ => by
    show t.get k = _
    simp
  | x :: items, t, h => by
    obtain ⟨hnot, h⟩ := List.nodup_cons.1 h
    show ((t.modify (key x) (f x)).modifyAll key f items).get k = _
    rw [get_modifyAll k h]
    by_cases hk : k = key x
    · subst hk
      have hnone : items.find? (key · == key x) = none := by
        refine List.find?_eq_none.2 fun y hy heq => hnot ?_
        rw [← beq_iff_eq.1 heq]
        exact List.mem_map_of_mem hy
      rw [Table.get_modify_self, hnone, Option.map_map, List.find?_cons_of_pos (by simp)]
      rfl
    · rw [Table.get_modify_of_ne _ _ hk, List.find?_cons_of_neg (by simpa using fun heq => hk heq.symm)]

/-- Where every key comes once, an item changes its own row. -/
theorem get_modifyAll_of_mem {key : α → κ} {f : α → ρ → ρ} {items : List α} {t : Table κ ρ} {x : α} {r : ρ}
    (h : (items.map key).Nodup) (hx : x ∈ items) (hr : t.get (key x) = some r) :
    (t.modifyAll key f items).get (key x) = some (f x r) := by
  have hfind : items.find? (key · == key x) = some x := by
    cases hfound : items.find? (key · == key x) with
    | none =>
      have hmiss := List.find?_eq_none.1 hfound x hx
      simp at hmiss
    | some y =>
      have hy := List.find?_some hfound
      rw [beq_iff_eq] at hy
      rw [List.inj_on_of_nodup_map h (List.mem_of_find?_eq_some hfound) hx hy]
  rw [get_modifyAll _ h, hr, hfind]
  rfl

/-- A loop over the groups gives a row what its group comes to, where no rows come to nothing. -/
theorem get_modifyAll_groupBy {t : Table κ ρ} {k : κ} {r : ρ} (hr : t.get k = some r) {f : List α → ρ → ρ}
    (hnone : f [] r = r) (key : α → κ) (rows : List α) :
    (t.modifyAll (·.1) (fun g => f g.2) (groupBy key rows)).get k = some (f (rows.filter (key · = k)) r) := by
  have hval : ((groupBy key rows).find? (·.1 == k)).map (fun g => f g.2 r) =
      (((groupBy key rows).find? (·.1 == k)).map (·.2)).map fun g => f g r := by
    rw [Option.map_map]
    rfl
  rw [get_modifyAll k (by rw [keys_groupBy]; exact List.nodup_dedup _), hr, Option.map_some, hval, find_groupBy]
  split
  · rfl
  · rename_i hempty
    have hnil : rows.filter (key · = k) = [] := by
      refine List.filter_eq_nil_iff.2 fun x hx heq => hempty ?_
      rw [← of_decide_eq_true heq]
      exact List.mem_map_of_mem hx
    rw [hnil, hnone]
    rfl

/-- How many rows a key has, where a key without a group counts for none. -/
theorem length_groupBy (key : α → κ) (rows : List α) (k : κ) :
    (((groupBy key rows).find? (·.1 == k)).map (·.2.length)).getD 0 = (rows.filter (key · = k)).length := by
  have hval : ((groupBy key rows).find? (·.1 == k)).map (fun g => g.2.length) =
      (((groupBy key rows).find? (·.1 == k)).map (·.2)).map List.length := by
    rw [Option.map_map]
    rfl
  rw [hval, find_groupBy]
  split
  · rfl
  · rename_i hempty
    refine (List.length_eq_zero_iff.2 (List.filter_eq_nil_iff.2 fun x hx heq => hempty ?_)).symm
    rw [← of_decide_eq_true heq]
    exact List.mem_map_of_mem hx

end Livetich.Lib
