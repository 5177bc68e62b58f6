/-
Sorting by a coarse order and then by a finer one. The insertion sort is stable: what the coarse
order does not tell apart stays in the order of the list. So the finer order finds nothing left to
sort exactly if the list already had every tie in it.
-/
import Mathlib.Data.List.Pairwise
import Mathlib.Data.List.Sort

namespace TieBreak

variable {α : Type*}

/-- Of two members of a list, one stands before the other. -/
theorem pair_sublist {l : List α} {a b : α} (ha : a ∈ l) (hb : b ∈ l) (hne : a ≠ b) :
    [a, b].Sublist l ∨ [b, a].Sublist l := by
  let P : α → α → Prop := fun a b => a ≠ b → [a, b].Sublist l ∨ [b, a].Sublist l
  have : Std.Symm P := ⟨fun _ _ h hne => (h hne.symm).symm⟩
  have hpairs : l.Pairwise P := List.pairwise_iff_forall_sublist.2 fun h _ => .inl h
  exact hpairs.forall_of_forall (fun _ _ h => absurd rfl h) ha hb hne

/-- In a list without duplicates, only one of two members stands before the other. -/
theorem pair_asymm {l : List α} (hnodup : l.Nodup) {a b : α} (hab : [a, b].Sublist l) (hba : [b, a].Sublist l) :
    False := by
  induction l with
  | nil => cases hab
  | cons c l ih =>
    obtain ⟨hc, hnodup⟩ := List.nodup_cons.1 hnodup
    cases hab with
    | cons _ hab =>
      cases hba with
      | cons _ hba => exact ih hnodup hab hba
      | cons_cons _ _ => exact hc (hab.subset (by simp))
    | cons_cons _ hb =>
      cases hba with
      | cons _ hba => exact hc (hba.subset (by simp))
      | cons_cons _ _ => exact hc (hb.subset (by simp))

variable {r q : α → α → Prop} [DecidableRel r]

/-- The sorted list meets the finer order exactly if the list meets it at every tie. -/
theorem pairwise_insertionSort_iff [Std.Total r] [IsTrans α r] [Std.Total q] (hqr : ∀ a b, q a b → r a b)
    {l : List α} (hnodup : l.Nodup) :
    (l.insertionSort r).Pairwise q ↔ l.Pairwise fun a b => r a b → r b a → q a b := by
  have hperm : (l.insertionSort r).Perm l := List.perm_insertionSort ..
  have hsorted : (l.insertionSort r).Pairwise r := List.pairwise_insertionSort ..
  rw [List.pairwise_iff_forall_sublist, List.pairwise_iff_forall_sublist]
  constructor
  · intro h a b hab hr _
    exact h (List.pair_sublist_insertionSort hr hab)
  · intro h a b hab
    have hr : r a b := List.pairwise_iff_forall_sublist.1 hsorted hab
    by_cases hba : r b a
    · have hne : a ≠ b := by
        rintro rfl
        exact pair_asymm (hperm.nodup_iff.2 hnodup) hab hab
      rcases pair_sublist (hperm.subset (hab.subset (by simp))) (hperm.subset (hab.subset (by simp))) hne with hl | hl
      · exact h hl hr hba
      · exact (pair_asymm (hperm.nodup_iff.2 hnodup) hab (List.pair_sublist_insertionSort hba hl)).elim
    · exact (Std.Total.total a b).resolve_right fun hq => hba (hqr b a hq)

/-- Sorting by the finer order after the coarse one changes nothing exactly if the list meets the
finer order at every tie. -/
theorem insertionSort_insertionSort_iff [DecidableRel q] [Std.Total r] [IsTrans α r] [Std.Total q] [IsTrans α q]
    (hqr : ∀ a b, q a b → r a b) {l : List α} (hnodup : l.Nodup) :
    (l.insertionSort r).insertionSort q = l.insertionSort r ↔ l.Pairwise fun a b => r a b → r b a → q a b := by
  rw [← pairwise_insertionSort_iff hqr hnodup]
  constructor
  · intro h
    rw [← h]
    exact List.pairwise_insertionSort ..
  · exact List.Pairwise.insertionSort_eq

end TieBreak
