/-
Tables: rows under distinct keys, in the order the database keeps them. An update leaves the order
and the keys as they are.
-/
import Mathlib.Data.List.Nodup
import Mathlib.Tactic.Common

namespace Livetich.Lib

variable {κ ρ : Type*} [DecidableEq κ]

structure Table (κ ρ : Type*) where
  entries : List (κ × ρ)
  nodup : (entries.map (·.1)).Nodup

/-- The order in which rows are returned that nobody has asked to order. -/
structure Scan (α : Type*) where
  order : List α → List α
  perm : ∀ rows, (order rows).Perm rows

namespace Table

def empty : Table κ ρ := ⟨[], List.nodup_nil⟩

def get (t : Table κ ρ) (k : κ) : Option ρ := (t.entries.find? (·.1 == k)).map (·.2)

def keys (t : Table κ ρ) : List κ := t.entries.map (·.1)

/-- Apply `f` to the row under `k`; nothing happens when there is none. -/
def modify (t : Table κ ρ) (k : κ) (f : ρ → ρ) : Table κ ρ where
  entries := t.entries.map fun e => if e.1 = k then (e.1, f e.2) else e
  nodup := by
    have hkeys : (fun e : κ × ρ => (if e.1 = k then (e.1, f e.2) else e).1) = (·.1) := by
      funext e
      split <;> rfl
    rw [List.map_map]
    show (t.entries.map fun e => (if e.1 = k then (e.1, f e.2) else e).1).Nodup
    rw [hkeys]
    exact t.nodup

/-- Add a row at the end under a key not in use; nothing happens when `k` is in use. -/
def insert (t : Table κ ρ) (k : κ) (r : ρ) : Table κ ρ :=
  if h : k ∈ t.entries.map (·.1) then t
  else
    { entries := t.entries ++ [(k, r)]
      nodup := by
        rw [List.map_append, List.nodup_append]
        refine ⟨t.nodup, by simp, ?_⟩
        rintro a ha b hb rfl
        simp only [List.map_cons, List.map_nil, List.mem_singleton] at hb
        exact h (hb ▸ ha) }

/-- Keep the rows that pass a test. -/
def filter (t : Table κ ρ) (p : κ → ρ → Bool) : Table κ ρ where
  entries := t.entries.filter fun e => p e.1 e.2
  nodup := t.nodup.sublist (List.filter_sublist.map _)

/-! ## Reading a row -/

theorem mem_of_get {t : Table κ ρ} {k : κ} {r : ρ} (h : t.get k = some r) : (k, r) ∈ t.entries := by
  obtain ⟨⟨j, u⟩, hfind, hu⟩ := Option.map_eq_some_iff.1 h
  have hj := List.find?_some hfind
  simp only [beq_iff_eq] at hj hu
  subst hj hu
  exact List.mem_of_find?_eq_some hfind

theorem get_of_mem {t : Table κ ρ} {k : κ} {r : ρ} (h : (k, r) ∈ t.entries) : t.get k = some r := by
  unfold get
  cases hfind : t.entries.find? (·.1 == k) with
  | none =>
    have := List.find?_eq_none.1 hfind (k, r) h
    simp at this
  | some e =>
    have he := List.find?_some hfind
    simp only [beq_iff_eq] at he
    have heq := List.inj_on_of_nodup_map t.nodup (List.mem_of_find?_eq_some hfind) h he
    rw [heq]
    rfl

theorem mem_entries {t : Table κ ρ} {k : κ} {r : ρ} : (k, r) ∈ t.entries ↔ t.get k = some r :=
  ⟨get_of_mem, mem_of_get⟩

/-- A search finds some row just when a row passes its test. -/
theorem find_isSome {t : Table κ ρ} {p : κ × ρ → Bool} :
    (t.entries.find? p).isSome = true ↔ ∃ k r, t.get k = some r ∧ p (k, r) = true := by
  rw [List.find?_isSome]
  constructor
  · rintro ⟨⟨k, r⟩, hmem, hp⟩
    exact ⟨k, r, get_of_mem hmem, hp⟩
  · rintro ⟨k, r, hget, hp⟩
    exact ⟨(k, r), mem_of_get hget, hp⟩

/-! ## Writing a row -/

theorem entries_modify (t : Table κ ρ) (k : κ) (f : ρ → ρ) :
    (t.modify k f).entries = t.entries.map fun e => if e.1 = k then (e.1, f e.2) else e := rfl

@[simp] theorem modify_id (t : Table κ ρ) (k : κ) : t.modify k id = t := by
  have hentries : (t.modify k id).entries = t.entries := by
    rw [entries_modify]
    refine (List.map_congr_left fun e _ => ?_).trans t.entries.map_id
    split <;> rfl
  cases t
  unfold modify at hentries ⊢
  simp only at hentries
  simp only [hentries]

theorem get_modify (t : Table κ ρ) (k : κ) (f : ρ → ρ) (j : κ) :
    (t.modify k f).get j = if j = k then (t.get j).map f else t.get j := by
  unfold get modify
  rw [List.find?_map]
  have hkeys : (fun e : κ × ρ => ((if e.1 = k then (e.1, f e.2) else e).1 == j)) = (·.1 == j) := by
    funext e
    split <;> rfl
  show Option.map _ (Option.map _ (t.entries.find? fun e => (if e.1 = k then (e.1, f e.2) else e).1 == j))
    = _
  rw [hkeys]
  cases hfind : t.entries.find? (·.1 == j) with
  | none => simp
  | some e =>
    have he := List.find?_some hfind
    simp only [beq_iff_eq] at he
    subst he
    by_cases hk : e.1 = k
    · simp [hk]
    · simp [hk]

@[simp] theorem get_modify_self (t : Table κ ρ) (k : κ) (f : ρ → ρ) :
    (t.modify k f).get k = (t.get k).map f := by
  rw [get_modify, if_pos rfl]

theorem get_modify_of_ne (t : Table κ ρ) {k j : κ} (f : ρ → ρ) (h : j ≠ k) :
    (t.modify k f).get j = t.get j := by
  rw [get_modify, if_neg h]

@[simp] theorem keys_modify (t : Table κ ρ) (k : κ) (f : ρ → ρ) : (t.modify k f).keys = t.keys := by
  unfold keys
  rw [entries_modify, List.map_map]
  refine List.map_congr_left fun e _ => ?_
  show (if e.1 = k then (e.1, f e.2) else e).1 = e.1
  split <;> rfl

/-- Only what is done to the row itself counts. -/
theorem modify_congr {t : Table κ ρ} {k : κ} {f g : ρ → ρ} (h : ∀ r, t.get k = some r → f r = g r) :
    t.modify k f = t.modify k g := by
  have hentries : (t.modify k f).entries = (t.modify k g).entries := by
    rw [entries_modify, entries_modify]
    refine List.map_congr_left fun e he => ?_
    by_cases hk : e.1 = k
    · subst hk
      rw [if_pos rfl, if_pos rfl, h e.2 (get_of_mem he)]
    · rw [if_neg hk, if_neg hk]
  unfold modify at hentries ⊢
  simp only at hentries
  simp only [hentries]

theorem mem_keys {t : Table κ ρ} {k : κ} : k ∈ t.entries.map (·.1) ↔ ∃ r, t.get k = some r := by
  constructor
  · intro h
    obtain ⟨⟨j, r⟩, hr, rfl⟩ := List.mem_map.1 h
    exact ⟨r, get_of_mem hr⟩
  · rintro ⟨r, hr⟩
    exact List.mem_map_of_mem (mem_of_get hr)

theorem entries_insert {t : Table κ ρ} {k : κ} (h : t.get k = none) (r : ρ) :
    (t.insert k r).entries = t.entries ++ [(k, r)] := by
  unfold insert
  rw [dif_neg]
  rw [mem_keys]
  rintro ⟨q, hq⟩
  rw [h] at hq
  cases hq

theorem get_insert {t : Table κ ρ} {k : κ} (h : t.get k = none) (r : ρ) (j : κ) :
    (t.insert k r).get j = if j = k then some r else t.get j := by
  have hmem : ∀ q, (t.insert k r).get j = some q ↔ (j, q) ∈ t.entries ∨ (j = k ∧ q = r) := by
    intro q
    rw [← mem_entries, entries_insert h]
    simp
  by_cases hj : j = k
  · rw [if_pos hj]
    exact (hmem r).2 (.inr ⟨hj, rfl⟩)
  · rw [if_neg hj]
    apply Option.ext
    intro q
    rw [hmem, mem_entries]
    simp [hj]

/-- What is there stays when a row is added. -/
theorem get_insert_of_some {t : Table κ ρ} {j : κ} {q : ρ} (h : t.get j = some q) (k : κ) (r : ρ) :
    (t.insert k r).get j = some q := by
  cases hk : t.get k with
  | none =>
    rw [get_insert hk, if_neg]
    · exact h
    · rintro rfl
      rw [h] at hk
      cases hk
  | some p =>
    have hmem : k ∈ t.entries.map (·.1) := mem_keys.2 ⟨p, hk⟩
    unfold insert
    rw [dif_pos hmem]
    exact h

/-- A row of the table after an insert is an old one or the new one. -/
theorem get_insert_cases {t : Table κ ρ} {k j : κ} {r q : ρ} (h : (t.insert k r).get j = some q) :
    t.get j = some q ∨ (j = k ∧ q = r) := by
  cases hk : t.get k with
  | none =>
    rw [get_insert hk] at h
    split at h
    · rename_i hj
      exact .inr ⟨hj, (Option.some.inj h).symm⟩
    · exact .inl h
  | some p =>
    have hmem : k ∈ t.entries.map (·.1) := mem_keys.2 ⟨p, hk⟩
    unfold insert at h
    rw [dif_pos hmem] at h
    exact .inl h

theorem get_filter {t : Table κ ρ} {p : κ → ρ → Bool} {k : κ} {r : ρ} :
    (t.filter p).get k = some r ↔ t.get k = some r ∧ p k r = true := by
  rw [← mem_entries, ← mem_entries]
  exact List.mem_filter

/-- The row under one key is gone. -/
theorem get_filter_self (t : Table κ ρ) (k : κ) : (t.filter fun j _ => j != k).get k = none := by
  refine Option.eq_none_iff_forall_ne_some.2 fun r hr => ?_
  exact bne_iff_ne.1 (get_filter.1 hr).2 rfl

theorem get_filter_of_ne (t : Table κ ρ) {j k : κ} (h : j ≠ k) :
    (t.filter fun i _ => i != k).get j = t.get j := by
  apply Option.ext
  intro r
  rw [get_filter]
  exact ⟨fun hr => hr.1, fun hr => ⟨hr, bne_iff_ne.2 h⟩⟩

/-- Every row changed in place. -/
def map (t : Table κ ρ) (f : ρ → ρ) : Table κ ρ where
  entries := t.entries.map fun e => (e.1, f e.2)
  nodup := by
    rw [List.map_map]
    exact t.nodup

@[simp] theorem get_map (t : Table κ ρ) (f : ρ → ρ) (k : κ) : (t.map f).get k = (t.get k).map f := by
  unfold get map
  rw [List.find?_map, Option.map_map, Option.map_map]
  rfl

/-! ## Other unique keys -/

/-- The key of the first row that passes a test, as a unique key of its own finds it. -/
def findKey (t : Table κ ρ) (p : ρ → Bool) : Option κ := (t.entries.find? fun e => p e.2).map (·.1)

theorem findKey_some {t : Table κ ρ} {p : ρ → Bool} {k : κ} (h : t.findKey p = some k) :
    ∃ r, t.get k = some r ∧ p r = true := by
  obtain ⟨⟨j, r⟩, hfind, rfl⟩ := Option.map_eq_some_iff.1 h
  have hp := List.find?_some hfind
  exact ⟨r, get_of_mem (List.mem_of_find?_eq_some hfind), hp⟩

/-- Where a row is found, one entry goes with it. -/
theorem length_filter_ne {t : Table κ ρ} {k : κ} {r : ρ} (h : t.get k = some r) :
    (t.filter fun j _ => j != k).entries.length + 1 = t.entries.length := by
  have hone : t.entries.countP (fun e => e.1 == k) = 1 := by
    have hcount := List.count_eq_one_of_mem t.nodup (mem_keys.2 ⟨r, h⟩)
    rwa [List.count, List.countP_map] at hcount
  have hsplit := List.length_eq_countP_add_countP (fun e : κ × ρ => e.1 == k) (l := t.entries)
  have hrest : (t.filter fun j _ => j != k).entries.length = t.entries.countP fun e => ¬(e.1 == k) = true := by
    rw [List.countP_eq_length_filter]
    show (t.entries.filter fun e => e.1 != k).length = _
    congr 1
    exact List.filter_congr fun e _ => by by_cases he : e.1 = k <;> simp [he]
  omega

/-! ## New rows -/

/-- A new row; a key that is taken is refused. -/
def create (t : Table κ ρ) (k : κ) (r : ρ) : Option (Table κ ρ) :=
  if (t.get k).isNone then some (t.insert k r) else none

def createMany (t : Table κ ρ) : List (κ × ρ) → Option (Table κ ρ)
  | [] => some t
  | row :: rows => (t.create row.1 row.2).bind fun u => u.createMany rows

theorem entries_create {t u : Table κ ρ} {k : κ} {r : ρ} (h : t.create k r = some u) :
    u.entries = t.entries ++ [(k, r)] := by
  unfold create at h
  split at h
  · rename_i hnone
    cases h
    exact entries_insert (Option.isNone_iff_eq_none.1 hnone) r
  · cases h

theorem entries_createMany : ∀ {rows : List (κ × ρ)} {t u : Table κ ρ}, t.createMany rows = some u →
    u.entries = t.entries ++ rows
  | [], t, u, h => by
    cases h
    rw [List.append_nil]
  | row :: rows, t, u, h => by
    obtain ⟨s, hs, hu⟩ := Option.bind_eq_some_iff.1 h
    rw [entries_createMany hu, entries_create hs, List.append_assoc]
    rfl

/-- What is appended leaves the rows there were. -/
theorem get_of_append {t u : Table κ ρ} {rows : List (κ × ρ)} (h : u.entries = t.entries ++ rows) {k : κ} {r : ρ}
    (hr : t.get k = some r) : u.get k = some r := by
  rw [← mem_entries, h]
  exact List.mem_append_left _ (mem_entries.2 hr)

/-! ## Deleted rows -/

/-- The rows of the first table whose keys the second does not have. -/
def gone (t u : Table κ ρ) : List (κ × ρ) := t.entries.filter fun e => (u.get e.1).isNone

theorem mem_gone {t u : Table κ ρ} {k : κ} {r : ρ} : (k, r) ∈ gone t u ↔ t.get k = some r ∧ u.get k = none := by
  unfold gone
  rw [List.mem_filter, mem_entries, Option.isNone_iff_eq_none]

omit [DecidableEq κ] in
theorem entries_nodup (t : Table κ ρ) : t.entries.Nodup := List.Nodup.of_map _ t.nodup

/-- Where every row of the second table is one of the first, the others are gone. -/
theorem length_gone {t u : Table κ ρ} (h : ∀ k r, u.get k = some r → t.get k = some r) :
    (gone t u).length + u.entries.length = t.entries.length := by
  have hperm : u.entries.Perm (t.entries.filter fun e => (u.get e.1).isSome) := by
    refine (List.perm_ext_iff_of_nodup u.entries_nodup (t.entries_nodup.filter _)).2 fun e => ?_
    obtain ⟨k, r⟩ := e
    rw [List.mem_filter, mem_entries, mem_entries]
    constructor
    · intro hr
      exact ⟨h k r hr, by rw [hr]; rfl⟩
    · rintro ⟨hr, hsome⟩
      obtain ⟨q, hq⟩ := Option.isSome_iff_exists.1 hsome
      have heq := h k q hq
      rw [hr, Option.some.injEq] at heq
      rw [heq]
      exact hq
  have hsplit := List.length_eq_countP_add_countP (fun e : κ × ρ => (u.get e.1).isSome) (l := t.entries)
  have hgone : (gone t u).length = t.entries.countP fun e => ¬((u.get e.1).isSome) = true := by
    unfold gone
    rw [List.countP_eq_length_filter]
    congr 1
    exact List.filter_congr fun e _ => by cases u.get e.1 <;> rfl
  have hkept := hperm.length_eq
  rw [← List.countP_eq_length_filter] at hkept
  omega

end Table

/-! ## Maps with two keys -/

section Grid

variable {ι α : Type*} [DecidableEq ι] {grid : κ → ι → α} {k j : κ} {i l : ι} {x : α}

/-- A map of maps with one entry changed. -/
def put₂ (grid : κ → ι → α) (k : κ) (i : ι) (x : α) : κ → ι → α :=
  Function.update grid k (Function.update (grid k) i x)

@[simp] theorem put₂_self : put₂ grid k i x k i = x := by
  rw [put₂, Function.update_self, Function.update_self]

theorem put₂_of_ne (h : ¬(j = k ∧ l = i)) : put₂ grid k i x j l = grid j l := by
  unfold put₂
  by_cases hj : j = k
  · subst hj
    rw [Function.update_self, Function.update_of_ne fun hl => h ⟨rfl, hl⟩]
  · rw [Function.update_of_ne hj]

/-- What an entry is: the one put there, or what it was before. -/
theorem put₂_eq {y : α} (h : put₂ grid k i x j l = y) :
    (j = k ∧ l = i ∧ x = y) ∨ (¬(j = k ∧ l = i) ∧ grid j l = y) := by
  by_cases hjl : j = k ∧ l = i
  · obtain ⟨rfl, rfl⟩ := hjl
    rw [put₂_self] at h
    exact .inl ⟨rfl, rfl, h⟩
  · rw [put₂_of_ne hjl] at h
    exact .inr ⟨hjl, h⟩

/-- Reading every entry through `f` commutes with a change. -/
theorem put₂_map {β : Type*} (f : α → β) :
    (fun j l => f (put₂ grid k i x j l)) = put₂ (fun j l => f (grid j l)) k i (f x) := by
  funext j l
  by_cases hjl : j = k ∧ l = i
  · obtain ⟨rfl, rfl⟩ := hjl
    rw [put₂_self, put₂_self]
  · rw [put₂_of_ne hjl, put₂_of_ne hjl]

theorem put₂_same (h : grid k i = x) : put₂ grid k i x = grid := by
  rw [put₂, ← h, Function.update_eq_self, Function.update_eq_self]

end Grid

end Livetich.Lib
