/-
Write-back caching of one object: a stored value, at most one live value that takes the updates,
and the join of every update accepted so far. `Step` lists what such a cache may do, and `Durable`,
that nothing accepted is lost, survives each of them. `Copy` is what a flush in flight holds: the
value as it was at some revision.
-/
import Mathlib.Order.Lattice
import Mathlib.Order.BoundedOrder.Lattice

namespace WriteBack

variable {α : Type*} [SemilatticeSup α]

/-! ## Copies -/

/-- A value as it was at a revision. -/
structure Copy (α : Type*) where
  revision : Nat
  body : α

/-- The copy is of this object: taken at this revision or before, and still covering the value
if no revision has passed since. -/
def Copy.Tracks (k : Copy α) (revision : Nat) (value : α) : Prop :=
  k.revision ≤ revision ∧ (k.revision = revision → value ≤ k.body)

theorem Copy.tracks_self (revision : Nat) (value : α) :
    Copy.Tracks ⟨revision, value⟩ revision value :=
  ⟨le_rfl, fun _ => le_rfl⟩

theorem Copy.Tracks.bump {k : Copy α} {revision : Nat} {value : α} (h : k.Tracks revision value)
    (value' : α) : k.Tracks (revision + 1) value' := by
  obtain ⟨hle, -⟩ := h
  refine ⟨by omega, fun he => ?_⟩
  omega

theorem Copy.Tracks.mono {k : Copy α} {revision : Nat} {value body : α}
    (h : k.Tracks revision value) (hb : k.body ≤ body) : Copy.Tracks ⟨k.revision, body⟩ revision value :=
  ⟨h.1, fun he => (h.2 he).trans hb⟩

/-! ## The cache -/

variable [OrderBot α]

structure State (α : Type*) where
  stored : α
  live : Option α
  /-- Every update accepted so far. -/
  accepted : α

namespace State

/-- Everything accepted is in the stored value or the live one. -/
def Durable (s : State α) : Prop := s.accepted ≤ s.stored ⊔ s.live.getD ⊥

end State

inductive Step : State α → State α → Prop
  | skip {s} : Step s s
  | accept {s d} (u : α) (hlive : s.live = some d) :
      Step s { s with live := some (d ⊔ u), accepted := s.accepted ⊔ u }
  /-- A write of `body` takes effect. -/
  | land {s} (body : α) (hle : s.stored ≤ body) : Step s { s with stored := body }
  | load {s} (d : α) (hlive : s.live = none) : Step s { s with live := some d }
  | evict {s} (hsafe : ∀ d, s.live = some d → d ≤ s.stored) : Step s { s with live := none }

theorem Step.durable {s s' : State α} (h : Step s s') (hd : s.Durable) : s'.Durable := by
  unfold State.Durable at *
  cases h with
  | skip => exact hd
  | accept u hlive =>
    rw [hlive] at hd
    show s.accepted ⊔ u ≤ s.stored ⊔ (_ ⊔ u)
    rw [← sup_assoc]
    exact sup_le_sup_right hd u
  | land body hle => exact hd.trans (sup_le_sup_right hle _)
  | load d hlive =>
    rw [hlive] at hd
    exact hd.trans (sup_le le_sup_left (bot_le.trans le_sup_left))
  | evict hsafe =>
    refine hd.trans (sup_le le_sup_left ?_)
    cases hl : s.live with
    | none => exact bot_le
    | some d => exact (hsafe d hl).trans le_sup_left

end WriteBack
