/-
Tables that a loop fills: each round writes the row under one key, from the row that is there if there is
one. What is under a key at the end comes from the rounds of that key alone, in their order.
-/
import Livetich.Lib.Table

namespace Livetich.Lib

variable {κ ρ α : Type*} [DecidableEq κ]

namespace Table

/-- The row under `k` is written anew, or added at the end. -/
def upsert (t : Table κ ρ) (k : κ) (f : Option ρ → ρ) : Table κ ρ := (t.modify k fun r => f (some r)).insert k (f none)

theorem get_upsert (t : Table κ ρ) (k : κ) (f : Option ρ → ρ) (j : κ) :
    (t.upsert k f).get j = if j = k then some (f (t.get k)) else t.get j := by
  have hmodify := get_modify t k (fun r => f (some r))
  unfold upsert
  cases hk : t.get k with
  | none =>
    have hnone : (t.modify k fun r => f (some r)).get k = none := by
      rw [get_modify_self, hk]
      rfl
    rw [get_insert hnone, hmodify]
    by_cases hj : j = k
    · rw [if_pos hj, if_pos hj]
    · rw [if_neg hj, if_neg hj, if_neg hj]
  | some r =>
    by_cases hj : j = k
    · subst hj
      rw [if_pos rfl]
      apply get_insert_of_some
      rw [get_modify_self, hk]
      rfl
    · have hother : (t.modify k fun r => f (some r)).get j = t.get j := by rw [hmodify, if_neg hj]
      rw [if_neg hj, ← hother]
      have hmem : k ∈ (t.modify k fun r => f (some r)).entries.map (·.1) :=
        mem_keys.2 ⟨f (some r), by rw [get_modify_self, hk]; rfl⟩
      unfold insert
      rw [dif_pos hmem]

/-- A loop that writes one row a round. -/
def fill (key : α → κ) (f : α → Option ρ → ρ) (t : Table κ ρ) (l : List α) : Table κ ρ :=
  l.foldl (fun t a => t.upsert (key a) (f a)) t

theorem get_fill (key : α → κ) (f : α → Option ρ → ρ) (k : κ) : ∀ (l : List α) (t : Table κ ρ),
    (fill key f t l).get k = (l.filter fun a => key a = k).foldl (fun r a => some (f a r)) (t.get k)
  | [], t => rfl
  | a :: l, t => by
    show (fill key f (t.upsert (key a) (f a)) l).get k = _
    rw [get_fill key f k l, get_upsert]
    by_cases hk : key a = k
    · subst hk
      rw [if_pos rfl, List.filter_cons_of_pos (by simp)]
      rfl
    · rw [if_neg (Ne.symm hk), List.filter_cons_of_neg (by simpa using hk)]

/-! ## The last write counts -/

/-- `set` in a loop. -/
def setAll (key : α → κ) (value : α → ρ) (l : List α) : Table κ ρ := fill key (fun a _ => value a) empty l

theorem foldl_last (value : α → ρ) : ∀ (l : List α) (r : Option ρ),
    l.foldl (fun _ a => some (value a)) r = (l.getLast?.map value).or r
  | [], r => by simp
  | [a], r => rfl
  | a :: b :: l, r => by
    show (b :: l).foldl _ (some (value a)) = _
    rw [foldl_last value (b :: l), List.getLast?_cons_cons]
    cases hlast : (b :: l).getLast? with
    | none => simp at hlast
    | some c => rfl

theorem get_setAll (key : α → κ) (value : α → ρ) (l : List α) (k : κ) :
    (setAll key value l).get k = ((l.filter fun a => key a = k).getLast?).map value := by
  unfold setAll
  rw [get_fill, foldl_last]
  exact Option.or_none

/-- Where the rows of a table are set, each key has its row's value. -/
theorem get_setAll_entries (t : Table κ α) (value : α → ρ) (k : κ) :
    (setAll (·.1) (fun e => value e.2) t.entries).get k = (t.get k).map value := by
  rw [get_setAll]
  cases hlast : (t.entries.filter fun e => e.1 = k).getLast? with
  | none =>
    have hnone : t.get k = none := by
      refine Option.eq_none_iff_forall_ne_some.2 fun r hr => ?_
      have hmem : (k, r) ∈ t.entries.filter fun e => e.1 = k := List.mem_filter.2 ⟨mem_of_get hr, by simp⟩
      rw [List.getLast?_eq_none_iff.1 hlast] at hmem
      exact List.not_mem_nil hmem
    rw [hnone]
    rfl
  | some e =>
    obtain ⟨hmem, hk⟩ := List.mem_filter.1 (List.mem_of_getLast? hlast)
    have hrow : t.get k = some e.2 := by
      rw [← of_decide_eq_true hk]
      exact get_of_mem hmem
    rw [hrow]
    rfl

/-! ## Values collected under their keys -/

/-- The values of each key, in the order they come. -/
def collect (key : α → κ) (value : α → ρ) (l : List α) : Table κ (List ρ) :=
  fill key (fun a vs => vs.getD [] ++ [value a]) empty l

theorem foldl_push (value : α → ρ) : ∀ (l : List α) (vs : List ρ),
    l.foldl (fun r a => some (r.getD [] ++ [value a])) (some vs) = some (vs ++ l.map value)
  | [], vs => by simp
  | a :: l, vs => by
    show l.foldl _ (some (vs ++ [value a])) = _
    rw [foldl_push value l, List.append_assoc]
    rfl

theorem get_collect (key : α → κ) (value : α → ρ) (l : List α) (k : κ) :
    (collect key value l).get k =
      if (l.filter fun a => key a = k) = [] then none else some ((l.filter fun a => key a = k).map value) := by
  unfold collect
  rw [get_fill]
  cases l.filter fun a => key a = k with
  | nil => rfl
  | cons a rest =>
    rw [if_neg (List.cons_ne_nil _ _)]
    exact foldl_push value rest [value a]

/-- What is collected under a key are its values. -/
theorem mem_collect {key : α → κ} {value : α → ρ} {l : List α} {e : κ × List ρ}
    (h : e ∈ (collect key value l).entries) : e.2 = (l.filter fun a => key a = e.1).map value := by
  have hget := mem_entries.1 h
  rw [get_collect] at hget
  split at hget
  · cases hget
  · exact (Option.some.inj hget).symm

/-- The keys are those of the items. -/
theorem keys_collect {key : α → κ} {value : α → ρ} {l : List α} {k : κ} :
    k ∈ (collect key value l).keys ↔ ∃ a ∈ l, key a = k := by
  unfold keys
  rw [mem_keys]
  constructor
  · rintro ⟨vs, hvs⟩
    rw [get_collect] at hvs
    split at hvs
    · cases hvs
    · rename_i hne
      obtain ⟨a, ha⟩ := List.exists_mem_of_ne_nil _ hne
      obtain ⟨hmem, hkey⟩ := List.mem_filter.1 ha
      exact ⟨a, hmem, by simpa using hkey⟩
  · rintro ⟨a, ha, rfl⟩
    have hne : (l.filter fun b => key b = key a) ≠ [] :=
      List.ne_nil_of_mem (List.mem_filter.2 ⟨ha, by simp⟩)
    exact ⟨_, by rw [get_collect, if_neg hne]⟩

end Table

end Livetich.Lib
