/-
Time zones as offset functions: how a local clock reads an instant, the instants at which it shows
a given time, and the reading that calendars give to a local time. Instants and local times are in
milliseconds, offsets in seconds.
-/
import Mathlib.Algebra.Order.Ring.Int

namespace Livetich.Lib

/-- The offset from UTC, in seconds, that a zone has at each instant. -/
structure Zone where
  offset : Int → Int
  bounded : ∀ t, -50400 ≤ offset t ∧ offset t ≤ 50400

namespace Zone

def fixed (c : Int) (h : -50400 ≤ c ∧ c ≤ 50400) : Zone :=
  ⟨fun _ => c, fun _ => h⟩

/-- What the zone's clock shows at an instant. -/
def toLocal (z : Zone) (t : Int) : Int :=
  t + 1000 * z.offset t

/-- The clock shows `w` at `t` and at no other instant. -/
def Once (z : Zone) (w t : Int) : Prop :=
  z.toLocal t = w ∧ ∀ t', z.toLocal t' = w → t' = t

theorem toLocal_bounds (z : Zone) (t : Int) :
    t - 50400000 ≤ z.toLocal t ∧ z.toLocal t ≤ t + 50400000 := by
  have := z.bounded t
  unfold toLocal
  omega

/-! ## Guessing the offset of a local time -/

/-- Where a local time exists once, taking an offset off it gives an instant that shows it exactly
when the offset is the one in force there. -/
theorem once_probe {z : Zone} {w t : Int} (h : z.Once w t) (o : Int) :
    z.toLocal (w - 1000 * o) = w ↔ o = z.offset t := by
  obtain ⟨hshow, huniq⟩ := h
  constructor
  · intro hw
    have ht := huniq _ hw
    unfold toLocal at hshow
    omega
  · rintro rfl
    have ht : w - 1000 * z.offset t = t := by
      unfold toLocal at hshow
      omega
    rw [ht, hshow]

/-! ## Reading a local time -/

/-- The instant that a local time names: the first at which the clock shows it. A local time that
the clock skips names none. -/
def Reads (z : Zone) (w t : Int) : Prop :=
  z.toLocal t = w ∧ ∀ t', t' < t → z.toLocal t' ≠ w

theorem Reads.unique {z : Zone} {w t t' : Int} (h : z.Reads w t) (h' : z.Reads w t') : t = t' := by
  rcases lt_trichotomy t t' with hlt | heq | hlt
  · exact absurd h.1 (h'.2 t hlt)
  · exact heq
  · exact absurd h'.1 (h.2 t' hlt)

theorem Once.reads {z : Zone} {w t : Int} (h : z.Once w t) : z.Reads w t := by
  refine ⟨h.1, fun t' hlt hw => ?_⟩
  have := h.2 t' hw
  omega

theorem reads_fixed {c : Int} {h : -50400 ≤ c ∧ c ≤ 50400} {w t : Int} :
    (fixed c h).Reads w t ↔ t = w - 1000 * c := by
  unfold Reads toLocal fixed
  simp only
  constructor
  · intro hr
    omega
  · rintro rfl
    exact ⟨by omega, fun t' hlt => by omega⟩

end Zone

end Livetich.Lib
