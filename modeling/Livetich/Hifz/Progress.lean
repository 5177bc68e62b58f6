/-
Progress in memorization (`summarize` of the Hifz service): the ayahs that a student's entries of new
memorization cover, each counted once. The ranges of a surah are merged in the order of their starts.
-/
import Mathlib.Algebra.BigOperators.Group.Finset.Basic
import Mathlib.Algebra.GroupWithZero.Nat
import Mathlib.Data.Finset.Prod
import Livetich.Lib.Filled
import Livetich.Lib.Intervals
import Livetich.Quran.Surahs

namespace Livetich.Hifz

open Livetich.Lib
open Livetich.Quran (Ref validateRef validateRef_ok ayahsOf)

/-! ## The summary -/

inductive HifzKind
  | newHifz
  | murajaah
  deriving DecidableEq

structure Entry where
  kind : HifzKind
  surahNumber : Int
  ayahStart : Int
  ayahEnd : Int
  recordedAt : Int
  deriving DecidableEq

structure Summary where
  ayahsMemorized : Int
  surahsTouched : Nat
  lastRecitedAt : Option Int

/-- The entries of new memorization. -/
def newEntries (entries : List Entry) : List Entry := entries.filter fun e => e.kind = .newHifz

/-- `bySurah`. -/
def bySurah (entries : List Entry) : Table Int (List (Int × Int)) :=
  Table.collect (·.surahNumber) (fun e => (e.ayahStart, e.ayahEnd)) (newEntries entries)

/-- The round of one surah's ranges, which starts from the ayahs counted so far. -/
def countRanges (ayahsMemorized : Int) (ranges : List (Int × Int)) : Int :=
  match ranges.insertionSort fun a b => a.1 ≤ b.1 with
  -- no surah is without a range
  | [] => ayahsMemorized
  | cur :: rest => Intervals.sweep ayahsMemorized cur rest

def summarize (entries : List Entry) : Summary where
  ayahsMemorized := (bySurah entries).entries.foldl (fun n e => countRanges n e.2) 0
  surahsTouched := (bySurah entries).entries.length
  lastRecitedAt := entries.head?.map (·.recordedAt)

/-! ## What is covered -/

/-- The ayahs of the entries of new memorization, by surah. -/
def memorized (entries : List Entry) : Finset (Int × Int) :=
  (newEntries entries).toFinset.biUnion fun e => {e.surahNumber} ×ˢ Intervals.interval e.ayahStart e.ayahEnd

theorem mem_memorized {entries : List Entry} {p : Int × Int} : p ∈ memorized entries ↔
    ∃ e ∈ newEntries entries, e.surahNumber = p.1 ∧ e.ayahStart ≤ p.2 ∧ p.2 ≤ e.ayahEnd := by
  unfold memorized
  simp only [Finset.mem_biUnion, List.mem_toFinset, Finset.mem_product, Finset.mem_singleton, Intervals.mem_interval]
  constructor
  · rintro ⟨e, he, hs, hrange⟩
    exact ⟨e, he, hs.symm, hrange⟩
  · rintro ⟨e, he, hs, hrange⟩
    exact ⟨e, he, hs.symm, hrange⟩

theorem countRanges_eq {ranges : List (Int × Int)} (h : ∀ r ∈ ranges, r.1 ≤ r.2) (n : Int) :
    countRanges n ranges = n + (Intervals.covered ranges).card := by
  have hperm := ranges.perm_insertionSort fun a b => a.1 ≤ b.1
  have hsorted := ranges.pairwise_insertionSort fun a b => a.1 ≤ b.1
  have hcovered : Intervals.covered ranges = Intervals.covered (ranges.insertionSort fun a b => a.1 ≤ b.1) :=
    Intervals.covered_congr fun r => hperm.mem_iff.symm
  have hvalid : ∀ r ∈ ranges.insertionSort fun a b => a.1 ≤ b.1, r.1 ≤ r.2 := fun r hr => h r (hperm.mem_iff.1 hr)
  unfold countRanges
  rw [hcovered]
  cases hs : ranges.insertionSort fun a b => a.1 ≤ b.1 with
  | nil => simp [Intervals.covered]
  | cons cur rest =>
    rw [hs] at hsorted hvalid
    exact Intervals.sweep_eq hsorted hvalid

/-- The rounds of all surahs add up. -/
theorem foldl_countRanges : ∀ {groups : List (Int × List (Int × Int))} (n : Int),
    (∀ e ∈ groups, ∀ r ∈ e.2, r.1 ≤ r.2) →
    groups.foldl (fun n e => countRanges n e.2) n =
      n + ((groups.map fun e => (Intervals.covered e.2).card).sum : Nat)
  | [], n, _ => by simp
  | e :: groups, n, h => by
    rw [List.foldl_cons, countRanges_eq (h e List.mem_cons_self),
      foldl_countRanges _ fun e' he' => h e' (List.mem_cons_of_mem _ he'), List.map_cons, List.sum_cons]
    omega

/-- The ayahs of one surah. -/
theorem memorized_surah (entries : List Entry) {e : Int × List (Int × Int)}
    (he : e ∈ (bySurah entries).entries) :
    ((memorized entries).filter fun p => p.1 = e.1).card = (Intervals.covered e.2).card := by
  have hranges := Table.mem_collect he
  refine Finset.card_bij (fun p _ => p.2) ?_ ?_ ?_
  · intro p hp
    obtain ⟨hmem, hsurah⟩ := Finset.mem_filter.1 hp
    obtain ⟨entry, hentry, hs, hrange⟩ := mem_memorized.1 hmem
    rw [Intervals.mem_covered, hranges]
    refine ⟨_, List.mem_map.2 ⟨entry, List.mem_filter.2 ⟨hentry, ?_⟩, rfl⟩, hrange⟩
    rw [hs, hsurah]
    simp
  · intro p hp q hq hpq
    exact Prod.ext ((Finset.mem_filter.1 hp).2.trans (Finset.mem_filter.1 hq).2.symm) hpq
  · intro ayah hayah
    rw [Intervals.mem_covered, hranges] at hayah
    obtain ⟨r, hr, hrange⟩ := hayah
    obtain ⟨entry, hentry, rfl⟩ := List.mem_map.1 hr
    obtain ⟨hnew, hs⟩ := List.mem_filter.1 hentry
    exact ⟨(e.1, ayah), Finset.mem_filter.2 ⟨mem_memorized.2 ⟨entry, hnew, by simpa using hs, hrange⟩, rfl⟩, rfl⟩

/-- Each ayah is counted once. -/
theorem ayahsMemorized_eq {entries : List Entry} (h : ∀ e ∈ entries, e.ayahStart ≤ e.ayahEnd) :
    (summarize entries).ayahsMemorized = (memorized entries).card := by
  have hvalid : ∀ e ∈ (bySurah entries).entries, ∀ r ∈ e.2, r.1 ≤ r.2 := by
    intro e he r hr
    rw [Table.mem_collect he] at hr
    obtain ⟨entry, hentry, rfl⟩ := List.mem_map.1 hr
    exact h entry (List.mem_filter.1 (List.mem_filter.1 hentry).1).1
  have hsurahs : (memorized entries : Set (Int × Int)).MapsTo Prod.fst
      ((bySurah entries).keys.toFinset : Set Int) := by
    intro p hp
    obtain ⟨entry, hentry, hs, -⟩ := mem_memorized.1 (Finset.mem_coe.1 hp)
    rw [Finset.mem_coe, List.mem_toFinset]
    exact Table.keys_collect.2 ⟨entry, hentry, hs⟩
  have hgroups : (memorized entries).card =
      ((bySurah entries).entries.map fun e => (Intervals.covered e.2).card).sum := by
    rw [Finset.card_eq_sum_card_fiberwise hsurahs]
    unfold Table.keys
    rw [List.sum_toFinset _ (bySurah entries).nodup, List.map_map]
    congr 1
    exact List.map_congr_left fun e he => memorized_surah entries he
  show (bySurah entries).entries.foldl (fun n e => countRanges n e.2) 0 = _
  rw [foldl_countRanges 0 hvalid, Int.zero_add, hgroups]

/-! ## Order, more entries, and the size of the text -/

theorem memorized_perm {entries entries' : List Entry} (h : entries.Perm entries') :
    memorized entries = memorized entries' := by
  ext p
  simp only [mem_memorized, newEntries, List.mem_filter, h.mem_iff]

theorem memorized_mono {entries entries' : List Entry} (h : entries.Subset entries') :
    memorized entries ⊆ memorized entries' := by
  intro p hp
  obtain ⟨e, he, hrange⟩ := mem_memorized.1 hp
  obtain ⟨hmem, hnew⟩ := List.mem_filter.1 he
  exact mem_memorized.2 ⟨e, List.mem_filter.2 ⟨h hmem, hnew⟩, hrange⟩

/-- The surahs of the entries of new memorization. -/
def surahsOf (entries : List Entry) : Finset Int := ((newEntries entries).map (·.surahNumber)).toFinset

/-- Every memorized ayah is a verse of a surah of the entries. -/
theorem card_memorized_le {entries : List Entry}
    (h : ∀ e ∈ entries, ∃ ref, validateRef e.surahNumber e.ayahStart e.ayahEnd = .ok ref) :
    (memorized entries).card ≤ ∑ surah ∈ surahsOf entries, ayahsOf surah := by
  have hverses : memorized entries ⊆
      (surahsOf entries).biUnion fun surah => {surah} ×ˢ Intervals.interval 1 (ayahsOf surah : Int) := by
    intro p hp
    obtain ⟨e, he, hs, hstart, hend⟩ := mem_memorized.1 hp
    obtain ⟨ref, href⟩ := h e (List.mem_filter.1 he).1
    obtain ⟨-, hfirst, -, hlast⟩ := validateRef_ok href
    rw [hs] at hlast
    refine Finset.mem_biUnion.2 ⟨p.1, List.mem_toFinset.2 (List.mem_map.2 ⟨e, he, hs⟩), ?_⟩
    rw [Finset.mem_product, Finset.mem_singleton, Intervals.mem_interval]
    exact ⟨rfl, by omega, by omega⟩
  calc (memorized entries).card
      ≤ ((surahsOf entries).biUnion fun surah => {surah} ×ˢ Intervals.interval 1 (ayahsOf surah : Int)).card :=
        Finset.card_le_card hverses
    _ ≤ ∑ surah ∈ surahsOf entries, ({surah} ×ˢ Intervals.interval 1 (ayahsOf surah : Int)).card :=
        Finset.card_biUnion_le
    _ = ∑ surah ∈ surahsOf entries, ayahsOf surah := by
        refine Finset.sum_congr rfl fun surah _ => ?_
        rw [Finset.card_product, Finset.card_singleton, Intervals.card_interval]
        omega

/-- The count is that of the distinct ayahs; it does not depend on the order, more entries never make it
smaller, and for entries that passed `validateRef` the surahs' lengths bound it. -/
theorem summarize_spec {entries : List Entry} (h : ∀ e ∈ entries, e.ayahStart ≤ e.ayahEnd) :
    (summarize entries).ayahsMemorized = (memorized entries).card ∧
    (∀ entries', entries.Perm entries' →
      (summarize entries').ayahsMemorized = (summarize entries).ayahsMemorized) ∧
    (∀ before after added, entries = before ++ after → added.ayahStart ≤ added.ayahEnd →
      (summarize entries).ayahsMemorized ≤ (summarize (before ++ added :: after)).ayahsMemorized) ∧
    ((∀ e ∈ entries, ∃ ref, validateRef e.surahNumber e.ayahStart e.ayahEnd = .ok ref) →
      (summarize entries).ayahsMemorized ≤ (∑ surah ∈ surahsOf entries, ayahsOf surah : Nat)) := by
  have hcount := ayahsMemorized_eq h
  refine ⟨hcount, ?_, ?_, ?_⟩
  · intro entries' hperm
    rw [ayahsMemorized_eq fun e he => h e (hperm.mem_iff.2 he), hcount, memorized_perm hperm]
  · rintro before after added rfl hadded
    have hmore : ∀ e ∈ before ++ added :: after, e.ayahStart ≤ e.ayahEnd := by
      intro e he
      rcases List.mem_append.1 he with he | he
      · exact h e (List.mem_append_left _ he)
      · rcases List.mem_cons.1 he with rfl | he
        · exact hadded
        · exact h e (List.mem_append_right _ he)
    have hsub : (before ++ after).Subset (before ++ added :: after) := by
      intro e he
      simp only [List.mem_append, List.mem_cons] at he ⊢
      tauto
    rw [hcount, ayahsMemorized_eq hmore]
    exact Int.ofNat_le.2 (Finset.card_le_card (memorized_mono hsub))
  · intro hrefs
    rw [hcount]
    exact Int.ofNat_le.2 (card_memorized_le hrefs)

namespace Example

/-- Two ranges of al-Baqarah that adjoin, one inside them, al-Ikhlas twice, and a revision. -/
def entries : List Entry :=
  [⟨.newHifz, 2, 6, 20, 50⟩, ⟨.newHifz, 112, 1, 4, 40⟩, ⟨.murajaah, 36, 1, 83, 30⟩, ⟨.newHifz, 2, 1, 5, 20⟩,
    ⟨.newHifz, 2, 8, 9, 10⟩, ⟨.newHifz, 112, 1, 4, 0⟩]

end Example

open Example in
theorem entries_summarized : (memorized entries).card = 24 ∧ 24 ≤ ∑ surah ∈ surahsOf entries, ayahsOf surah := by
  have hspec := @summarize_spec entries (by decide)
  have hcount : (summarize entries).ayahsMemorized = 24 := by decide
  have hrefs : ∀ e ∈ entries, ∃ ref, validateRef e.surahNumber e.ayahStart e.ayahEnd = .ok ref := by
    have hall : ∀ e ∈ entries, (validateRef e.surahNumber e.ayahStart e.ayahEnd).toOption.isSome = true := by decide
    intro e he
    cases hv : validateRef e.surahNumber e.ayahStart e.ayahEnd with
    | ok ref => exact ⟨ref, rfl⟩
    | error message =>
      have hsome := hall e he
      rw [hv] at hsome
      cases hsome
  refine ⟨?_, ?_⟩
  · have := hspec.1
    omega
  · have := hspec.2.2.2 hrefs
    omega

end Livetich.Hifz
