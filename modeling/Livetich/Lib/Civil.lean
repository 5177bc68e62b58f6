/-
The proleptic Gregorian calendar on day numbers: day 0 is 1 January 1970, and a `Date` is a year,
a month and a day of that month that exists. Day numbers and dates are in bijection.
-/
import Mathlib.Algebra.Order.Ring.Int

namespace Livetich.Lib.Civil

/-! ## Years and months -/

def isLeap (y : Int) : Bool :=
  y % 4 = 0 && (y % 100 ≠ 0 || y % 400 = 0)

/-- The days that year `y` has beyond 365. -/
def leapDay (y : Int) : Int :=
  if isLeap y then 1 else 0

/-- The day number of 1 January of year `y`. -/
def dayFromYear (y : Int) : Int :=
  365 * (y - 1970) + (y - 1969) / 4 - (y - 1901) / 100 + (y - 1601) / 400

/-- The days of a year before its month `m`, where February has `28 + l` days. -/
def monthStart (l m : Int) : Int :=
  if m ≤ 2 then 31 * (m - 1) else (153 * (m - 3) + 2) / 5 + 59 + l

def monthLength (l m : Int) : Int :=
  monthStart l (m + 1) - monthStart l m

theorem leapDay_cases (y : Int) : leapDay y = 0 ∨ leapDay y = 1 := by
  unfold leapDay
  split
  · exact Or.inr rfl
  · exact Or.inl rfl

theorem dayFromYear_succ (y : Int) : dayFromYear (y + 1) = dayFromYear y + 365 + leapDay y := by
  unfold dayFromYear leapDay isLeap
  simp only [decide_not, Bool.and_eq_true, decide_eq_true_eq, Bool.or_eq_true, Bool.not_eq_true',
    decide_eq_false_iff_not]
  split <;> omega

theorem dayFromYear_lt {y z : Int} (h : y < z) : dayFromYear y + 365 ≤ dayFromYear z := by
  unfold dayFromYear
  omega

theorem dayFromYear_mono {y z : Int} (h : y ≤ z) : dayFromYear y ≤ dayFromYear z := by
  rcases Int.le_iff_lt_or_eq.1 h with hlt | rfl
  · have := dayFromYear_lt hlt
    omega
  · exact Int.le_refl _

/-- A year is fixed by one of its days. -/
theorem year_unique {n y y' : Int} (h : dayFromYear y ≤ n) (hlt : n < dayFromYear (y + 1))
    (h' : dayFromYear y' ≤ n) (hlt' : n < dayFromYear (y' + 1)) : y = y' := by
  rcases lt_trichotomy y y' with hyy | hyy | hyy
  · rcases (by omega : y + 1 = y' ∨ y + 1 < y') with rfl | hsucc
    · omega
    · have := dayFromYear_lt hsucc
      omega
  · exact hyy
  · rcases (by omega : y' + 1 = y ∨ y' + 1 < y) with rfl | hsucc
    · omega
    · have := dayFromYear_lt hsucc
      omega

theorem monthStart_thirteen (l : Int) : monthStart l 13 = 365 + l := by
  unfold monthStart
  omega

theorem monthStart_lt {l m m' : Int} (hl : l = 0 ∨ l = 1) (hm : 1 ≤ m) (h : m < m') :
    monthStart l m + 28 ≤ monthStart l m' := by
  unfold monthStart
  split <;> split <;> omega

theorem monthStart_nonneg {l m : Int} (hl : l = 0 ∨ l = 1) (hm : 1 ≤ m) : 0 ≤ monthStart l m := by
  unfold monthStart
  split <;> omega

/-! ## Day numbers to dates -/

def yearOfDay (n : Int) : Int :=
  let y := 1970 + n * 400 / 146097
  if n < dayFromYear y then y - 1
  else if dayFromYear (y + 1) ≤ n then y + 1
  else y

/-- The month of the `k`-th day of a year (from 0) with `l` leap days. -/
def monthOfYearDay (l k : Int) : Int :=
  if k < 31 then 1
  else if k < 59 + l then 2
  else 3 + (5 * (k - 59 - l) + 2) / 153

theorem yearOfDay_spec (n : Int) :
    dayFromYear (yearOfDay n) ≤ n ∧ n < dayFromYear (yearOfDay n + 1) := by
  unfold yearOfDay
  simp only
  split
  · rename_i hlt
    have heq : 1970 + n * 400 / 146097 - 1 + 1 = 1970 + n * 400 / 146097 := by omega
    rw [heq]
    refine ⟨?_, hlt⟩
    unfold dayFromYear
    omega
  · rename_i hge
    split
    · rename_i hsucc
      refine ⟨hsucc, ?_⟩
      unfold dayFromYear
      omega
    · rename_i hsucc
      exact ⟨by omega, by omega⟩

theorem yearOfDay_eq {n y : Int} (h : dayFromYear y ≤ n) (hlt : n < dayFromYear (y + 1)) :
    yearOfDay n = y :=
  year_unique (yearOfDay_spec n).1 (yearOfDay_spec n).2 h hlt

theorem le_yearOfDay {n y : Int} (h : dayFromYear y ≤ n) : y ≤ yearOfDay n := by
  by_contra hlt
  have hmono := dayFromYear_mono (y := yearOfDay n + 1) (z := y) (by omega)
  have hspec := yearOfDay_spec n
  omega

theorem yearOfDay_mono {m n : Int} (h : m ≤ n) : yearOfDay m ≤ yearOfDay n :=
  le_yearOfDay (Int.le_trans (yearOfDay_spec m).1 h)

theorem yearOfDay_lt {n y : Int} (h : n < dayFromYear y) : yearOfDay n < y := by
  by_contra hge
  have hmono := dayFromYear_mono (y := y) (z := yearOfDay n) (by omega)
  have hspec := yearOfDay_spec n
  omega

theorem monthOfYearDay_range {l k : Int} (hlt : k < 365 + l) :
    1 ≤ monthOfYearDay l k ∧ monthOfYearDay l k ≤ 12 := by
  unfold monthOfYearDay
  split
  · omega
  · split <;> omega

theorem monthOfYearDay_spec {l k : Int} (hk : 0 ≤ k) :
    monthStart l (monthOfYearDay l k) ≤ k ∧ k < monthStart l (monthOfYearDay l k + 1) := by
  unfold monthOfYearDay monthStart
  split
  · constructor <;> simp <;> omega
  · split
    · constructor <;> simp <;> omega
    · constructor <;> split <;> omega

/-- A day of the calendar. -/
@[ext] structure Date where
  year : Int
  month : Int
  day : Int
  month_pos : 1 ≤ month
  month_le : month ≤ 12
  day_pos : 1 ≤ day
  day_le : day ≤ monthLength (leapDay year) month
deriving DecidableEq

def ofDays (n : Int) : Date :=
  let y := yearOfDay n
  let k := n - dayFromYear y
  let m := monthOfYearDay (leapDay y) k
  have hy : dayFromYear y ≤ n ∧ n < dayFromYear (y + 1) := yearOfDay_spec n
  have hsucc := dayFromYear_succ y
  have hlow : 0 ≤ k := by omega
  have hhigh : k < 365 + leapDay y := by omega
  have hrange := monthOfYearDay_range hhigh
  have hspec : monthStart (leapDay y) m ≤ k ∧ k < monthStart (leapDay y) (m + 1) :=
    monthOfYearDay_spec hlow
  { year := y, month := m, day := k - monthStart (leapDay y) m + 1
    month_pos := hrange.1, month_le := hrange.2
    day_pos := by omega
    day_le := by unfold monthLength; omega }

/-- The day number of a year, a month and a day that need not exist: days overflow into the
months that follow, and months into years. -/
def makeDay (y m d : Int) : Int :=
  let year := y + (m - 1) / 12
  dayFromYear year + monthStart (leapDay year) ((m - 1) % 12 + 1) + d - 1

def Date.toDays (d : Date) : Int :=
  makeDay d.year d.month d.day

/-- The day of the week, from 0 for Sunday. -/
def weekday (n : Int) : Int :=
  (n + 4) % 7

theorem makeDay_eq {y m d : Int} (hm : 1 ≤ m) (hm' : m ≤ 12) :
    makeDay y m d = dayFromYear y + monthStart (leapDay y) m + d - 1 := by
  have hq : (m - 1) / 12 = 0 := by omega
  have hr : (m - 1) % 12 + 1 = m := by omega
  unfold makeDay
  simp only [hq, hr, Int.add_zero]

theorem Date.toDays_eq (d : Date) :
    d.toDays = dayFromYear d.year + monthStart (leapDay d.year) d.month + d.day - 1 :=
  makeDay_eq d.month_pos d.month_le

theorem toDays_ofDays (n : Int) : (ofDays n).toDays = n := by
  rw [Date.toDays_eq]
  unfold ofDays
  simp only
  omega

/-- A date lies in its year. -/
theorem Date.toDays_year (d : Date) :
    dayFromYear d.year ≤ d.toDays ∧ d.toDays < dayFromYear (d.year + 1) := by
  have hl := leapDay_cases d.year
  have hle := d.day_le
  have hm := d.month_pos
  have hstart := monthStart_nonneg hl hm
  have hend : monthStart (leapDay d.year) (d.month + 1) ≤ 365 + leapDay d.year := by
    rcases (by have := d.month_le; omega : d.month + 1 = 13 ∨ d.month + 1 < 13) with h | h
    · exact Int.le_of_eq (by rw [h, monthStart_thirteen])
    · have hlt := monthStart_lt hl (m := d.month + 1) (by omega) h
      rw [monthStart_thirteen] at hlt
      omega
  have hpos := d.day_pos
  unfold monthLength at hle
  rw [dayFromYear_succ, d.toDays_eq]
  omega

theorem ofDays_year (d : Date) : yearOfDay d.toDays = d.year :=
  yearOfDay_eq d.toDays_year.1 d.toDays_year.2

theorem month_unique {l k m m' : Int} (hl : l = 0 ∨ l = 1) (hm : 1 ≤ m) (hm' : 1 ≤ m')
    (h : monthStart l m ≤ k) (hlt : k < monthStart l (m + 1))
    (h' : monthStart l m' ≤ k) (hlt' : k < monthStart l (m' + 1)) : m = m' := by
  rcases lt_trichotomy m m' with hmm | hmm | hmm
  · rcases (by omega : m + 1 = m' ∨ m + 1 < m') with rfl | hsucc
    · omega
    · have := monthStart_lt hl (by omega) hsucc
      omega
  · exact hmm
  · rcases (by omega : m' + 1 = m ∨ m' + 1 < m) with rfl | hsucc
    · omega
    · have := monthStart_lt hl (by omega) hsucc
      omega

/-- A date is fixed by its day number. -/
theorem Date.toDays_inj {d e : Date} (h : d.toDays = e.toDays) : d = e := by
  have hy : d.year = e.year := by rw [← ofDays_year d, h, ofDays_year e]
  have hd := d.toDays_eq
  have he := e.toDays_eq
  have hdl := d.day_le
  have hel := e.day_le
  have hdp := d.day_pos
  have hep := e.day_pos
  unfold monthLength at hdl hel
  rw [hy] at hd hdl
  have hm : d.month = e.month :=
    month_unique (k := d.toDays - dayFromYear e.year) (leapDay_cases e.year) d.month_pos e.month_pos
      (by omega) (by omega) (by omega) (by omega)
  rw [hm] at hd
  exact Date.ext hy hm (by omega)

/-- Dates stand as their days do: by the year, then by the month, then by the day. -/
theorem Date.toDays_lt {d e : Date} (h : d.toDays < e.toDays) :
    d.year < e.year ∨ d.year = e.year ∧ (d.month < e.month ∨ d.month = e.month ∧ d.day < e.day) := by
  have hd := d.toDays_year
  have he := e.toDays_year
  rcases lt_trichotomy d.year e.year with hy | hy | hy
  · exact .inl hy
  · refine .inr ⟨hy, ?_⟩
    rw [d.toDays_eq, e.toDays_eq, hy] at h
    have hday := e.day_le
    have hpos := d.day_pos
    unfold monthLength at hday
    rcases lt_trichotomy d.month e.month with hm | hm | hm
    · exact .inl hm
    · rw [hm] at h
      exact .inr ⟨hm, by omega⟩
    · have hnext : monthStart (leapDay e.year) (e.month + 1) ≤ monthStart (leapDay e.year) d.month := by
        rcases (by omega : e.month + 1 = d.month ∨ e.month + 1 < d.month) with heq | hlt
        · rw [heq]
        · have hm' := e.month_pos
          have := monthStart_lt (leapDay_cases e.year) (m := e.month + 1) (by omega) hlt
          omega
      omega
  · have hmono := dayFromYear_mono (y := e.year + 1) (z := d.year) (by omega)
    omega

theorem ofDays_toDays (d : Date) : ofDays d.toDays = d :=
  Date.toDays_inj (toDays_ofDays d.toDays)

theorem ofDays_inj {n n' : Int} (h : ofDays n = ofDays n') : n = n' := by
  rw [← toDays_ofDays n, h, toDays_ofDays n']

theorem makeDay_ofDays (n : Int) : makeDay (ofDays n).year (ofDays n).month (ofDays n).day = n :=
  toDays_ofDays n

example : ofDays 19782 = ⟨2024, 2, 29, by decide, by decide, by decide, by decide⟩ := by decide

end Livetich.Lib.Civil
