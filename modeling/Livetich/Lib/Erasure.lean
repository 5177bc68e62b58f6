/-
Runs that differ in secrets only. Where a step leaves the same public part whatever the secrets of the state and of the
event, two runs of events with one public part can be taken alike, and leave one public part.
-/
import Livetich.Lib.Table
import Livetich.Lib.TransSys

namespace Erasure

open TransSys

variable {σ ε : Type*} {step : σ → ε → Option σ} {erase : σ → σ} {eraseEvent : ε → ε}

/-- A step does the same to the public part of a state when the secrets are erased from it and from the event. -/
def Blind (step : σ → ε → Option σ) (erase : σ → σ) (eraseEvent : ε → ε) : Prop :=
  ∀ s e, (step s e).map erase = (step (erase s) (eraseEvent e)).map erase

theorem Blind.congr (h : Blind step erase eraseEvent) {s s' : σ} {e e' : ε} (hs : erase s = erase s')
    (he : eraseEvent e = eraseEvent e') : (step s e).map erase = (step s' e').map erase := by
  rw [h s e, h s' e', hs, he]

/-- A run of events that differ in secrets only: it is taken to the same public part. -/
theorem Blind.run (h : Blind step erase eraseEvent) : ∀ {es es' : List ε} {s s' t : σ},
    es.map eraseEvent = es'.map eraseEvent → erase s = erase s' → run step s es = some t →
    ∃ t', run step s' es' = some t' ∧ erase t = erase t'
  | [], [], s, s', t, _, hs, hrun => by
    cases hrun
    exact ⟨s', rfl, hs⟩
  | e :: es, e' :: es', s, s', t, hes, hs, hrun => by
    obtain ⟨he, hes⟩ := List.cons.inj hes
    obtain ⟨u, hu, hrun⟩ := run_cons.1 hrun
    have hstep := h.congr hs he
    rw [hu] at hstep
    obtain ⟨u', hu', heq⟩ := Option.map_eq_some_iff.1 hstep.symm
    obtain ⟨t', ht', hpublic⟩ := h.run hes heq.symm hrun
    exact ⟨t', run_cons.2 ⟨u', hu', ht'⟩, hpublic⟩

end Erasure

/-! ## Rows and tasks with a part erased -/

namespace Livetich.Lib.Table

variable {κ ρ : Type*}

theorem entries_inj : ∀ {t u : Table κ ρ}, t.entries = u.entries → t = u
  | ⟨_, _⟩, ⟨_, _⟩, rfl => rfl

theorem entries_map (t : Table κ ρ) (m : ρ → ρ) : (t.map m).entries = t.entries.map fun e => (e.1, m e.2) := rfl

theorem map_map_self {m : ρ → ρ} (h : ∀ r, m (m r) = m r) (t : Table κ ρ) : (t.map m).map m = t.map m := by
  apply entries_inj
  rw [entries_map, entries_map, List.map_map]
  exact List.map_congr_left fun e _ => congrArg (e.1, ·) (h e.2)

theorem map_filter (t : Table κ ρ) {m : ρ → ρ} {p : κ → ρ → Bool} (h : ∀ k r, p k (m r) = p k r) :
    (t.filter p).map m = (t.map m).filter p := by
  apply entries_inj
  have hentries : ∀ u : Table κ ρ, (u.filter p).entries = u.entries.filter fun e => p e.1 e.2 := fun _ => rfl
  rw [hentries, entries_map, entries_map, hentries, List.filter_map]
  refine congrArg _ (List.filter_congr fun e _ => ?_)
  exact (h e.1 e.2).symm

variable [DecidableEq κ]

theorem map_insert (t : Table κ ρ) (m : ρ → ρ) (k : κ) (r : ρ) : (t.insert k r).map m = (t.map m).insert k (m r) := by
  have hkeys : (t.map m).entries.map (·.1) = t.entries.map (·.1) := by
    rw [entries_map, List.map_map]
    rfl
  apply entries_inj
  unfold insert
  by_cases hk : k ∈ t.entries.map (·.1)
  · rw [dif_pos hk, dif_pos (hkeys ▸ hk)]
  · rw [dif_neg hk, dif_neg (hkeys ▸ hk)]
    simp only [entries_map, List.map_append, List.map_cons, List.map_nil]

theorem map_modify (t : Table κ ρ) {m : ρ → ρ} {f g : ρ → ρ} (h : ∀ r, m (f r) = g (m r)) (k : κ) :
    (t.modify k f).map m = (t.map m).modify k g := by
  apply entries_inj
  rw [entries_map, entries_modify, entries_modify, entries_map, List.map_map, List.map_map]
  refine List.map_congr_left fun e _ => ?_
  simp only [Function.comp_apply]
  split
  · rw [h]
  · rfl

end Livetich.Lib.Table

namespace TransSys.Pool

variable {τ : Type*}

theorem entries_inj : ∀ {p q : Pool τ}, p.entries = q.entries → p = q
  | ⟨_, _⟩, ⟨_, _⟩, rfl => rfl

theorem entries_map (p : Pool τ) (m : τ → τ) : (p.map m).entries = p.entries.map fun e => (e.1, m e.2) := rfl

theorem map_put (p : Pool τ) (m : τ → τ) (i : Nat) (t : Option τ) : (p.put i t).map m = (p.map m).put i (t.map m) := by
  apply entries_inj
  unfold put map
  simp only [List.map_append, List.filter_map]
  cases t <;> rfl

theorem map_map_self {m : τ → τ} (h : ∀ t, m (m t) = m t) (p : Pool τ) : (p.map m).map m = p.map m := by
  apply entries_inj
  rw [entries_map, entries_map, List.map_map]
  exact List.map_congr_left fun e _ => congrArg (e.1, ·) (h e.2)

end TransSys.Pool
