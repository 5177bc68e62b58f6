/-
Dropping events from a run: when a relation is kept by an event taken on both sides and by a
dropped event taken on one, it relates the whole run to the run without the dropped events.
-/
import Mathlib.Data.List.Basic
import Mathlib.Tactic.Common

namespace Purge

variable {σ ε : Type*} {step : σ → ε → σ} {keep : ε → Bool} {ok : ε → Prop}

/-- A relation between a run and the run left of it, for events that are `ok`. -/
structure Unwinding (step : σ → ε → σ) (keep : ε → Bool) (ok : ε → Prop) (R : σ → σ → Prop) : Prop where
  kept : ∀ {s t e}, ok e → keep e = true → R s t → R (step s e) (step t e)
  dropped : ∀ {s t e}, ok e → keep e = false → R s t → R (step s e) t

theorem Unwinding.run {R : σ → σ → Prop} (h : Unwinding step keep ok R) :
    ∀ {es : List ε} {s t : σ}, (∀ e ∈ es, ok e) → R s t →
      R (es.foldl step s) ((es.filter keep).foldl step t)
  | [], _, _, _, hst => hst
  | e :: es, s, t, hok, hst => by
    have he := hok e List.mem_cons_self
    have hes : ∀ e ∈ es, ok e := fun e' h' => hok e' (List.mem_cons_of_mem e h')
    by_cases hk : keep e = true
    · rw [List.filter_cons_of_pos hk]
      exact h.run hes (h.kept he hk hst)
    · rw [List.filter_cons_of_neg hk]
      exact h.run hes (h.dropped he (Bool.eq_false_iff.2 hk) hst)

/-- Where an invariant makes the dropped events do nothing, the two runs are one. -/
theorem unwinding_of_ignored {I : σ → Prop} (hI : ∀ {s e}, ok e → I s → I (step s e))
    (hdrop : ∀ {s e}, keep e = false → I s → step s e = s) :
    Unwinding step keep ok fun s t => s = t ∧ I s where
  kept := by
    rintro s _ e he - ⟨rfl, hs⟩
    exact ⟨rfl, hI he hs⟩
  dropped := by
    rintro s _ e - hk ⟨rfl, hs⟩
    rw [hdrop hk hs]
    exact ⟨rfl, hs⟩

end Purge
