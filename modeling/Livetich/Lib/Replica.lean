/-
Replicated documents: a replica holds structs by their id (a client and its clock) and the ids of
those deleted, and takes in an update by adding what it does not hold. A state vector gives for
each client the clock up to which a replica holds its structs; the update it asks for has the structs
from there on, and every deletion.
-/
import Mathlib.Data.Finset.Image
import Mathlib.Tactic.Common

structure Replica.Id where
  client : Nat
  clock : Nat
  deriving DecidableEq

/-- A replica, and an update: either is a set of structs and a set of deletions. -/
structure Replica (K : Type*) where
  structs : Finset (Replica.Id × K)
  deleted : Finset Replica.Id

namespace Replica

variable {K : Type*}

theorem ext {d e : Replica K} (hs : d.structs = e.structs) (hd : d.deleted = e.deleted) : d = e := by
  cases d
  cases e
  cases hs
  cases hd
  rfl

def empty : Replica K := ⟨∅, ∅⟩

/-- No struct and no deletion speaks of the client. -/
def Fresh (d : Replica K) (client : Nat) : Prop :=
  (∀ s ∈ d.structs, s.1.client ≠ client) ∧ ∀ i ∈ d.deleted, i.client ≠ client

instance decidableFresh (d : Replica K) (client : Nat) : Decidable (d.Fresh client) :=
  inferInstanceAs (Decidable (_ ∧ ∀ i ∈ d.deleted, i.client ≠ client))

/-- The second replica is the first after edits of one client. -/
structure Writes (client : Nat) (d e : Replica K) : Prop where
  structs : d.structs ⊆ e.structs
  own : ∀ s ∈ e.structs, s ∉ d.structs → s.1.client = client
  deleted : d.deleted ⊆ e.deleted

theorem Writes.refl (client : Nat) (d : Replica K) : Writes client d d :=
  ⟨fun _ hs => hs, fun _ hs hnot => absurd hs hnot, fun _ hi => hi⟩

theorem Writes.trans {client : Nat} {c d e : Replica K} (h₁ : Writes client c d) (h₂ : Writes client d e) :
    Writes client c e where
  structs := h₁.structs.trans h₂.structs
  own s hs hnot := by
    by_cases hd : s ∈ d.structs
    · exact h₁.own s hd hnot
    · exact h₂.own s hs hd
  deleted := h₁.deleted.trans h₂.deleted

/-- The update for a replica with this state vector. -/
def since (d : Replica K) (stateVector : Nat → Nat) : Replica K where
  structs := d.structs.filter fun s => stateVector s.1.client ≤ s.1.clock
  deleted := d.deleted

variable [DecidableEq K]

/-- Take in an update: a struct whose id is held already is passed over. -/
def merge (d u : Replica K) : Replica K where
  structs := d.structs ∪ u.structs.filter fun s => s.1 ∉ d.structs.image (·.1)
  deleted := d.deleted ∪ u.deleted

@[simp] theorem empty_merge (d : Replica K) : empty.merge d = d :=
  ext (by simp [merge, empty]) (by simp [merge, empty])

/-- A replica that has never heard of a client catches up with that client's edits. -/
theorem merge_since {client : Nat} {d e : Replica K} {stateVector : Nat → Nat} (hw : Writes client d e)
    (hfresh : d.Fresh client) (hzero : stateVector client = 0) : d.merge (e.since stateVector) = e := by
  refine ext ?_ ?_
  · ext s
    simp only [merge, since, Finset.mem_union, Finset.mem_filter, Finset.mem_image, not_exists, not_and]
    constructor
    · rintro (hs | ⟨⟨hs, -⟩, -⟩)
      · exact hw.structs hs
      · exact hs
    · intro hs
      by_cases hd : s ∈ d.structs
      · exact .inl hd
      · -- a new struct is the client's, so it is asked for and its id is not held
        have hown := hw.own s hs hd
        refine .inr ⟨⟨hs, by rw [hown, hzero]; omega⟩, fun t ht heq => ?_⟩
        exact hfresh.1 t ht (by rw [heq, hown])
  · exact Finset.union_eq_right.2 hw.deleted

end Replica
