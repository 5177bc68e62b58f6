/-
A registry of counted entries under one key. At most one entry is registered; the entries it has forgotten live on
by number, as long as somebody holds one. A caller that finds none registered waits for the load that is under way,
or starts one; the load creates an entry and registers it, or fails.
-/
import Mathlib.Data.Int.Basic
import Livetich.Lib.TransSys

namespace Registry

open TransSys

structure State where
  /-- The counters of the entries, by number. -/
  counts : Slots Int
  next : Nat
  registered : Option Nat
  /-- The entry a load is to create, and whether the load has come to its end. -/
  loading : Option (Nat × Bool)
  /-- The entry each caller waits for. -/
  waits : Slots Nat

/-- The counter of the registered entry. -/
def State.clients (s : State) : Option Int := s.registered.bind s.counts

/-- Whoever waits for an entry finds it registered, or its load failed. -/
structure Inv (s : State) : Prop where
  present : ∀ e, s.registered = some e → ∃ n, s.counts e = some n
  numbered : ∀ e n, s.counts e = some n → e < s.next
  pending : ∀ e, s.loading = some (e, false) → e < s.next ∧ s.counts e = none ∧ s.registered = none
  ended : ∀ e, s.loading = some (e, true) → e < s.next ∧ (s.counts e = none ∨ s.registered = some e)
  /-- A load is under way only for somebody. -/
  awaited : ∀ e b, s.loading = some (e, b) → ∃ i, s.waits i = some e
  arrives : ∀ i e, s.waits i = some e → e < s.next ∧
    ((∃ b, s.loading = some (e, b)) ∨ s.counts e = none ∨ s.registered = some e)

namespace Inv

variable {s : State}

/-- The counter of an entry changes. -/
theorem count (h : Inv s) {e : Nat} {n : Int} (hn : s.counts e = some n) (m : Int) :
    Inv { s with counts := s.counts.put e (some m) } := by
  have hnone : ∀ {d}, s.counts d = none → (s.counts.put e (some m)) d = none := by
    intro d hd
    have hde : d ≠ e := by
      rintro rfl
      rw [hn] at hd
      cases hd
    rw [Slots.put_of_ne _ _ hde, hd]
  refine ⟨fun d hd => ?_, fun d k hd => ?_, fun d hd => ?_, fun d hd => ?_, h.awaited, fun i d hd => ?_⟩
  · by_cases hde : d = e
    · rw [hde]
      exact ⟨m, Slots.put_self _ _ _⟩
    · obtain ⟨k, hk⟩ := h.present d hd
      exact ⟨k, (Slots.put_of_ne _ _ hde).trans hk⟩
  · rcases Slots.put_eq_some hd with ⟨rfl, -⟩ | ⟨-, hold⟩
    · exact h.numbered d n hn
    · exact h.numbered d k hold
  · obtain ⟨hlt, hcounts, hr⟩ := h.pending d hd
    exact ⟨hlt, hnone hcounts, hr⟩
  · obtain ⟨hlt, hcounts | hr⟩ := h.ended d hd
    · exact ⟨hlt, .inl (hnone hcounts)⟩
    · exact ⟨hlt, .inr hr⟩
  · obtain ⟨hlt, hload | hcounts | hr⟩ := h.arrives i d hd
    · exact ⟨hlt, .inl hload⟩
    · exact ⟨hlt, .inr (.inl (hnone hcounts))⟩
    · exact ⟨hlt, .inr (.inr hr)⟩

/-- A caller waits for the load under way. -/
theorem join (h : Inv s) {i e : Nat} {b : Bool} (hl : s.loading = some (e, b)) (hi : s.waits i = none) :
    Inv { s with waits := s.waits.put i (some e) } := by
  have hlt : e < s.next := by
    cases b with
    | false => exact (h.pending e hl).1
    | true => exact (h.ended e hl).1
  refine ⟨h.present, h.numbered, h.pending, h.ended, fun d c hd => ?_, fun j d hd => ?_⟩
  · obtain ⟨j, hj⟩ := h.awaited d c hd
    have hji : j ≠ i := by
      rintro rfl
      rw [hi] at hj
      cases hj
    exact ⟨j, (Slots.put_of_ne _ _ hji).trans hj⟩
  · rcases Slots.put_eq_some hd with ⟨rfl, hnew⟩ | ⟨-, hold⟩
    · cases hnew
      exact ⟨hlt, .inl ⟨b, hl⟩⟩
    · exact h.arrives j d hold

/-- A caller starts a load. -/
theorem load (h : Inv s) {i : Nat} (hl : s.loading = none) (hr : s.registered = none) (hi : s.waits i = none) :
    Inv { s with loading := some (s.next, false), next := s.next + 1, waits := s.waits.put i (some s.next) } := by
  have hfresh : s.counts s.next = none := by
    cases hc : s.counts s.next with
    | none => rfl
    | some n => exact absurd (h.numbered _ n hc) (Nat.lt_irrefl _)
  refine ⟨h.present, fun d n hd => Nat.lt_succ_of_lt (h.numbered d n hd), fun d hd => ?_, fun d hd => ?_,
    fun d b hd => ?_, fun j d hd => ?_⟩
  · cases hd
    exact ⟨Nat.lt_succ_self _, hfresh, hr⟩
  · cases hd
  · cases hd
    exact ⟨i, Slots.put_self _ _ _⟩
  · rcases Slots.put_eq_some hd with ⟨rfl, hnew⟩ | ⟨-, hold⟩
    · cases hnew
      exact ⟨Nat.lt_succ_self _, .inl ⟨false, rfl⟩⟩
    · obtain ⟨hlt, ⟨b, hb⟩ | hrest⟩ := h.arrives j d hold
      · rw [hl] at hb
        cases hb
      · exact ⟨Nat.lt_succ_of_lt hlt, .inr hrest⟩

/-- The load creates its entry. -/
theorem create (h : Inv s) {e : Nat} (hl : s.loading = some (e, false)) (n : Int) :
    Inv { s with counts := s.counts.put e (some n), registered := some e, loading := some (e, true) } := by
  obtain ⟨hlt, -, hr⟩ := h.pending e hl
  refine ⟨fun d hd => ?_, fun d k hd => ?_, fun d hd => ?_, fun d hd => ?_, fun d b hd => ?_, fun i d hd => ?_⟩
  · cases hd
    exact ⟨n, Slots.put_self _ _ _⟩
  · rcases Slots.put_eq_some hd with ⟨rfl, -⟩ | ⟨-, hold⟩
    · exact hlt
    · exact h.numbered d k hold
  · cases hd
  · cases hd
    exact ⟨hlt, .inr rfl⟩
  · cases hd
    exact h.awaited e false hl
  · obtain ⟨hd', ⟨b, hb⟩ | hcounts | hreg⟩ := h.arrives i d hd
    · rw [hl] at hb
      cases hb
      exact ⟨hd', .inl ⟨true, rfl⟩⟩
    · by_cases hde : d = e
      · exact ⟨hd', .inl ⟨true, by rw [hde]⟩⟩
      · exact ⟨hd', .inr (.inl ((Slots.put_of_ne _ _ hde).trans hcounts))⟩
    · rw [hr] at hreg
      cases hreg

theorem fail (h : Inv s) {e : Nat} (hl : s.loading = some (e, false)) : Inv { s with loading := some (e, true) } := by
  obtain ⟨hlt, hcounts, -⟩ := h.pending e hl
  refine ⟨h.present, h.numbered, fun d hd => ?_, fun d hd => ?_, fun d b hd => ?_, fun i d hd => ?_⟩
  · cases hd
  · cases hd
    exact ⟨hlt, .inl hcounts⟩
  · cases hd
    exact h.awaited e false hl
  · obtain ⟨hd', ⟨b, hb⟩ | hrest⟩ := h.arrives i d hd
    · rw [hl] at hb
      cases hb
      exact ⟨hd', .inl ⟨true, rfl⟩⟩
    · exact ⟨hd', .inr hrest⟩

theorem settle (h : Inv s) {e : Nat} (hl : s.loading = some (e, true)) : Inv { s with loading := none } := by
  refine ⟨h.present, h.numbered, ?_, ?_, ?_, fun i d hd => ?_⟩
  · rintro d ⟨⟩
  · rintro d ⟨⟩
  · rintro d b ⟨⟩
  · obtain ⟨hd', ⟨b, hb⟩ | hrest⟩ := h.arrives i d hd
    · rw [hl] at hb
      cases hb
      exact ⟨hd', .inr (h.ended e hl).2⟩
    · exact ⟨hd', .inr hrest⟩

/-- A caller stops waiting once the load is over. -/
theorem leave (h : Inv s) {i : Nat} (hl : ∀ e, s.waits i = some e → ∀ b, s.loading ≠ some (e, b)) :
    Inv { s with waits := s.waits.put i none } := by
  refine ⟨h.present, h.numbered, h.pending, h.ended, fun d b hd => ?_, fun j d hd => ?_⟩
  · obtain ⟨j, hj⟩ := h.awaited d b hd
    have hji : j ≠ i := by
      rintro rfl
      exact hl d hj b hd
    exact ⟨j, (Slots.put_of_ne _ _ hji).trans hj⟩
  · rcases Slots.put_eq_some hd with ⟨-, hnew⟩ | ⟨-, hold⟩
    · cases hnew
    · exact h.arrives j d hold

/-- The registered entry is forgotten while nobody waits for it. -/
theorem forget (h : Inv s) (hw : ∀ e, s.registered = some e → ∀ i, s.waits i ≠ some e) :
    Inv { s with registered := none } := by
  refine ⟨?_, h.numbered, fun d hd => ?_, fun d hd => ?_, h.awaited, fun i d hd => ?_⟩
  · rintro d ⟨⟩
  · obtain ⟨hlt, hcounts, -⟩ := h.pending d hd
    exact ⟨hlt, hcounts, rfl⟩
  · obtain ⟨hlt, hcounts | hr⟩ := h.ended d hd
    · exact ⟨hlt, .inl hcounts⟩
    · obtain ⟨i, hi⟩ := h.awaited d true hd
      exact absurd hi (hw d hr i)
  · obtain ⟨hlt, hload | hcounts | hr⟩ := h.arrives i d hd
    · exact ⟨hlt, .inl hload⟩
    · exact ⟨hlt, .inr (.inl hcounts)⟩
    · exact absurd hd (hw d hr i)

end Inv

end Registry
