/-
Closed intervals of integers: the numbers that a list of them covers, and the sweep that counts these
numbers once. The sweep goes through the intervals by their starts and keeps one open; an interval that
overlaps or adjoins the open one makes it longer, and any other closes it.
-/
import Mathlib.Data.Finset.Card
import Mathlib.Data.Finset.Range
import Mathlib.Data.List.Sort

namespace Livetich.Lib.Intervals

/-- The numbers from `a` to `b`, as a set that can be computed. -/
def interval (a b : Int) : Finset Int := (Finset.range (b + 1 - a).toNat).image fun k => a + Int.ofNat k

@[simp] theorem mem_interval {a b n : Int} : n ∈ interval a b ↔ a ≤ n ∧ n ≤ b := by
  unfold interval
  rw [Finset.mem_image]
  constructor
  · rintro ⟨k, hk, rfl⟩
    have hlt := Finset.mem_range.1 hk
    simp only [Int.ofNat_eq_natCast]
    omega
  · rintro ⟨ha, hb⟩
    refine ⟨(n - a).toNat, Finset.mem_range.2 (by omega), ?_⟩
    simp only [Int.ofNat_eq_natCast]
    omega

theorem card_interval (a b : Int) : (interval a b).card = (b + 1 - a).toNat := by
  unfold interval
  rw [Finset.card_image_of_injective, Finset.card_range]
  intro k l hkl
  simp only [Int.ofNat_eq_natCast] at hkl
  omega

/-- The numbers of some interval. -/
def covered : List (Int × Int) → Finset Int
  | [] => ∅
  | r :: rs => interval r.1 r.2 ∪ covered rs

@[simp] theorem mem_covered {n : Int} : ∀ {rs : List (Int × Int)}, n ∈ covered rs ↔ ∃ r ∈ rs, r.1 ≤ n ∧ n ≤ r.2
  | [] => by simp [covered]
  | r :: rs => by
    unfold covered
    rw [Finset.mem_union, mem_interval, mem_covered, List.exists_mem_cons_iff]

theorem covered_congr {rs rs' : List (Int × Int)} (h : ∀ r, r ∈ rs ↔ r ∈ rs') : covered rs = covered rs' := by
  ext n
  simp only [mem_covered, h]

/-- One interval more: it is joined with the open one, or the open one is counted. -/
def sweep : Int → Int × Int → List (Int × Int) → Int
  | total, cur, [] => total + (cur.2 - cur.1 + 1)
  | total, cur, r :: rs =>
    if r.1 ≤ cur.2 + 1 then sweep total (cur.1, max cur.2 r.2) rs
    else sweep (total + (cur.2 - cur.1 + 1)) r rs

/-- The sweep of intervals in the order of their starts counts what they cover. -/
theorem sweep_eq : ∀ {rs : List (Int × Int)} {total : Int} {cur : Int × Int},
    (cur :: rs).Pairwise (·.1 ≤ ·.1) → (∀ r ∈ cur :: rs, r.1 ≤ r.2) →
    sweep total cur rs = total + (covered (cur :: rs)).card
  | [], total, cur, _, hvalid => by
    have hcur := hvalid cur List.mem_cons_self
    unfold sweep covered covered
    rw [Finset.union_empty, card_interval]
    omega
  | r :: rs, total, cur, hsorted, hvalid => by
    obtain ⟨hfirst, hrest⟩ := List.pairwise_cons.1 hsorted
    have hcur := hvalid cur List.mem_cons_self
    have hr := hfirst r List.mem_cons_self
    unfold sweep
    split
    · -- the two intervals are one
      rename_i hjoin
      have hsorted' : ((cur.1, max cur.2 r.2) :: rs).Pairwise (·.1 ≤ ·.1) :=
        List.pairwise_cons.2 ⟨fun r' hr' => hfirst r' (List.mem_cons_of_mem _ hr'), (List.pairwise_cons.1 hrest).2⟩
      have hvalid' : ∀ r' ∈ (cur.1, max cur.2 r.2) :: rs, r'.1 ≤ r'.2 := by
        intro r' hr'
        rcases List.mem_cons.1 hr' with rfl | hr'
        · show cur.1 ≤ max cur.2 r.2
          omega
        · exact hvalid r' (List.mem_cons_of_mem _ (List.mem_cons_of_mem _ hr'))
      have hunion : covered ((cur.1, max cur.2 r.2) :: rs) = covered (cur :: r :: rs) := by
        unfold covered
        rw [covered, ← Finset.union_assoc]
        congr 1
        ext n
        simp only [Finset.mem_union, mem_interval]
        omega
      rw [sweep_eq hsorted' hvalid', hunion]
    · -- nothing that is still to come touches the open interval
      rename_i hgap
      have hdisjoint : Disjoint (interval cur.1 cur.2) (covered (r :: rs)) := by
        rw [Finset.disjoint_left]
        intro n hn hn'
        obtain ⟨r', hr', hle, -⟩ := mem_covered.1 hn'
        have hstart : r.1 ≤ r'.1 := by
          rcases List.mem_cons.1 hr' with rfl | hr'
          · exact le_rfl
          · exact (List.pairwise_cons.1 hrest).1 r' hr'
        have hend := (mem_interval.1 hn).2
        omega
      have hcard : (covered (cur :: r :: rs)).card = (interval cur.1 cur.2).card + (covered (r :: rs)).card := by
        rw [covered, Finset.card_union_of_disjoint hdisjoint]
      rw [sweep_eq hrest fun r' hr' => hvalid r' (List.mem_cons_of_mem _ hr'), hcard, card_interval]
      omega

end Livetich.Lib.Intervals
