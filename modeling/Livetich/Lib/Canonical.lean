/-
The canonical form of a list: its items once each, told apart by a key, and in an order. Lists of the same
items have the same canonical form, and a list that is in order with nothing twice is its own.
-/
import Mathlib.Data.List.Sort

namespace Livetich.Lib.Canonical

variable {α κ : Type} [DecidableEq κ] {key : α → κ} {r : α → α → Prop}

/-! ## Once each -/

/-- One more item, unless its key was seen; the keys seen are kept with the items. -/
def add (key : α → κ) (acc : List κ × List α) (a : α) : List κ × List α :=
  if key a ∈ acc.1 then acc else (acc.1 ++ [key a], acc.2 ++ [a])

def distinct (key : α → κ) (items : List α) : List α := (items.foldl (add key) ([], [])).2

/-- The keys seen are those of the items kept. -/
theorem foldl_add (hkey : Function.Injective key) : ∀ (items kept : List α), kept.Nodup →
    ((items.foldl (add key) (kept.map key, kept)).2.Nodup ∧
      ∀ a, a ∈ (items.foldl (add key) (kept.map key, kept)).2 ↔ a ∈ kept ∨ a ∈ items)
  | [], kept, hnodup => ⟨hnodup, fun a => by simp⟩
  | b :: items, kept, hnodup => by
    have hseen : key b ∈ kept.map key ↔ b ∈ kept := List.mem_map_of_injective hkey
    rw [List.foldl_cons, add]
    by_cases hb : b ∈ kept
    · rw [if_pos (hseen.2 hb)]
      obtain ⟨hdistinct, hmem⟩ := foldl_add hkey items kept hnodup
      refine ⟨hdistinct, fun a => ?_⟩
      rw [hmem, List.mem_cons]
      constructor
      · rintro (ha | ha)
        · exact .inl ha
        · exact .inr (.inr ha)
      · rintro (ha | rfl | ha)
        · exact .inl ha
        · exact .inl hb
        · exact .inr ha
    · rw [if_neg fun h => hb (hseen.1 h)]
      have hkept : (kept.map key ++ [key b], kept ++ [b]) = ((kept ++ [b]).map key, kept ++ [b]) := by simp
      have hnodup' : (kept ++ [b]).Nodup := by
        rw [List.nodup_append]
        refine ⟨hnodup, List.nodup_singleton b, fun a ha c hc => ?_⟩
        rw [List.mem_singleton.1 hc]
        rintro rfl
        exact hb ha
      obtain ⟨hdistinct, hmem⟩ := foldl_add hkey items (kept ++ [b]) hnodup'
      rw [hkept]
      refine ⟨hdistinct, fun a => ?_⟩
      rw [hmem, List.mem_append, List.mem_singleton, List.mem_cons, or_assoc]

theorem distinct_nodup (hkey : Function.Injective key) (items : List α) : (distinct key items).Nodup :=
  (foldl_add hkey items [] List.nodup_nil).1

theorem mem_distinct (hkey : Function.Injective key) {items : List α} {a : α} :
    a ∈ distinct key items ↔ a ∈ items := by
  refine ((foldl_add hkey items [] List.nodup_nil).2 a).trans ?_
  simp

/-! ## In order -/

def canonical (key : α → κ) (r : α → α → Prop) [DecidableRel r] (items : List α) : List α :=
  (distinct key items).insertionSort r

theorem mem_canonical [DecidableRel r] (hkey : Function.Injective key) {items : List α} {a : α} :
    a ∈ canonical key r items ↔ a ∈ items := by
  unfold canonical
  rw [List.mem_insertionSort, mem_distinct hkey]

/-- Strictly increasing. -/
def Increasing (r : α → α → Prop) (items : List α) : Prop := items.Pairwise fun a b => r a b ∧ a ≠ b

theorem canonical_increasing [DecidableRel r] [Std.Total r] [IsTrans α r] (hkey : Function.Injective key)
    (items : List α) :
    Increasing r (canonical key r items) := by
  have hnodup : (canonical key r items).Nodup :=
    (List.perm_insertionSort r _).nodup_iff.2 (distinct_nodup hkey items)
  exact (List.pairwise_insertionSort r _).and hnodup

/-- The members decide an increasing list. -/
theorem Increasing.unique [Std.Antisymm r] {items items' : List α} (h : Increasing r items)
    (h' : Increasing r items') (hmem : ∀ a, a ∈ items ↔ a ∈ items') : items = items' := by
  have hnodup : items.Nodup := h.imp fun hab => hab.2
  have hnodup' : items'.Nodup := h'.imp fun hab => hab.2
  have hperm : items.Perm items' := (List.perm_ext_iff_of_nodup hnodup hnodup').2 hmem
  exact hperm.eq_of_pairwise' (h.imp fun hab => hab.1) (h'.imp fun hab => hab.1)

theorem canonical_unique [DecidableRel r] [Std.Total r] [IsTrans α r] [Std.Antisymm r] (hkey : Function.Injective key)
    {items items' : List α} (h : Increasing r items') (hmem : ∀ a, a ∈ items ↔ a ∈ items') :
    canonical key r items = items' :=
  (canonical_increasing hkey items).unique h fun a => (mem_canonical hkey).trans (hmem a)

end Livetich.Lib.Canonical
