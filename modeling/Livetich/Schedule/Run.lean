/-
The run of a schedule: the calendar days from the local day of its start on, week after week, the class days among
them, and the time each one meets at. `listOccurrences` goes through these days, and its keys stand in their order, as
long as `Date.UTC` reads the year it is given and the years are written with one number of digits.
-/
import Mathlib.Data.String.Basic
import Livetich.Schedule.WallClock

namespace Livetich.Schedule

open Livetich.Js Livetich.Lib

/-! ## The times of day -/

/-- The time that an entry of the overrides gives a weekday. -/
def overrideOf (dow : Int) (entry : String × Json) : Option LocalTime :=
  match entry.2 with
  | .str v => if (Number.ofString entry.1).toInteger = some dow ∧ 0 ≤ dow ∧ dow ≤ 6 then parseHhmm v else none
  | _ => none

/-- The valid times given to a weekday, in the order of the entries. -/
def overridesOf (raw : Json) (dow : Int) : List LocalTime := raw.entries.filterMap (overrideOf dow)

theorem setTimeOfDay_apply (out : Int → Option LocalTime) (entry : String × Json) (dow : Int) :
    setTimeOfDay out entry dow = (overrideOf dow entry).or (out dow) := by
  unfold setTimeOfDay overrideOf
  cases hday : (Number.ofString entry.1).toInteger with
  | none => cases entry.2 <;> simp
  | some day =>
    simp only [Option.some.injEq]
    by_cases hrange : day < 0 ∨ 6 < day
    · rw [if_pos hrange]
      cases entry.2 with
      | str v =>
        simp only
        rw [if_neg (by omega)]
        rfl
      | _ => rfl
    · rw [if_neg hrange]
      cases entry.2 with
      | str v =>
        simp only
        cases htime : parseHhmm v with
        | none => simp
        | some t =>
          simp only
          by_cases hdow : day = dow
          · subst hdow
            rw [if_pos ⟨rfl, by omega, by omega⟩, Function.update_self]
            rfl
          · rw [if_neg fun h => hdow h.1, Function.update_of_ne (Ne.symm hdow)]
            rfl
      | _ => rfl

/-- The last valid entry of a weekday is the one that counts. -/
theorem parseTimesByDay_eq (raw : Json) (dow : Int) : parseTimesByDay raw dow = (overridesOf raw dow).getLast? := by
  have hfold : ∀ (entries : List (String × Json)) (out : Int → Option LocalTime),
      entries.foldl setTimeOfDay out dow = ((entries.filterMap (overrideOf dow)).getLast?).or (out dow) := by
    intro entries
    induction entries with
    | nil => intro out; rfl
    | cons entry entries ih =>
      intro out
      rw [List.foldl_cons, ih, setTimeOfDay_apply]
      cases htime : overrideOf dow entry with
      | none => rw [List.filterMap_cons_none htime, Option.none_or]
      | some t =>
        rw [List.filterMap_cons_some htime, List.getLast?_cons]
        cases (entries.filterMap (overrideOf dow)).getLast? <;> rfl
  unfold parseTimesByDay overridesOf
  rw [hfold, Option.or_none]

/-! ## Weeks -/

/-- The days of a run of weeks. -/
def runDays (start : Int) (weeks : Nat) : List Int := (List.range (weeks * 7)).map fun i : Nat => start + i

theorem mem_runDays {start day : Int} {weeks : Nat} :
    day ∈ runDays start weeks ↔ start ≤ day ∧ day < start + weeks * 7 := by
  unfold runDays
  simp only [List.mem_map, List.mem_range]
  constructor
  · rintro ⟨i, hi, rfl⟩
    omega
  · rintro ⟨hlow, hhigh⟩
    exact ⟨(day - start).toNat, by omega, by omega⟩

theorem runDays_sorted (start : Int) (weeks : Nat) : (runDays start weeks).Pairwise (· < ·) := by
  unfold runDays
  refine List.Pairwise.map _ (fun i j hij => ?_) List.pairwise_lt_range
  omega

theorem runDays_succ (start : Int) (weeks : Nat) :
    runDays start (weeks + 1) = runDays start weeks ++ runDays (start + weeks * 7) 1 := by
  unfold runDays
  rw [Nat.add_mul, Nat.one_mul, List.range_add, List.map_append, List.map_map]
  congr 1
  refine List.map_congr_left fun i _ => ?_
  show start + ((weeks * 7 + i : Nat) : Int) = _
  omega

theorem filter_length {α : Type} (q : α → Bool) :
    ∀ l : List α, (l.filter q).length = (l.map fun x => (q x).toNat).sum
  | [] => rfl
  | x :: l => by
    have ih := filter_length q l
    rw [List.map_cons, List.sum_cons]
    cases hq : q x with
    | true => rw [List.filter_cons_of_pos hq, List.length_cons, ih, Bool.toNat_true, Nat.add_comm]
    | false => rw [List.filter_cons_of_neg (by simp [hq]), ih, Bool.toNat_false, Nat.zero_add]

/-- In any week each weekday comes once. -/
theorem week_count (p : Int → Bool) (start : Int) :
    ((runDays start 1).filter fun day => p (Civil.weekday day)).length =
      ((List.range 7).filter fun i : Nat => p i).length := by
  have hdays : runDays start 1 =
      [start + 0, start + 1, start + 2, start + 3, start + 4, start + 5, start + 6] := rfl
  have hrange : List.range 7 = [0, 1, 2, 3, 4, 5, 6] := rfl
  have hweekday : ∀ i : Int, Civil.weekday (start + i) = (Civil.weekday start + i) % 7 := by
    intro i
    unfold Civil.weekday
    omega
  have hfirst : 0 ≤ Civil.weekday start ∧ Civil.weekday start < 7 := by
    unfold Civil.weekday
    omega
  rw [filter_length, filter_length, hdays, hrange]
  simp only [List.map_cons, List.map_nil, List.sum_cons, List.sum_nil, hweekday]
  -- The week is turned so that it begins with the first weekday.
  generalize Civil.weekday start = first at hfirst
  have hcases : first = 0 ∨ first = 1 ∨ first = 2 ∨ first = 3 ∨ first = 4 ∨ first = 5 ∨ first = 6 := by omega
  rcases hcases with rfl | rfl | rfl | rfl | rfl | rfl | rfl
  all_goals simp only [Int.reduceAdd, Int.reduceMod, Nat.cast_ofNat, Nat.cast_zero, Nat.cast_one]
  all_goals omega

theorem run_count (p : Int → Bool) (start : Int) : ∀ weeks : Nat,
    ((runDays start weeks).filter fun day => p (Civil.weekday day)).length =
      weeks * ((List.range 7).filter fun i : Nat => p i).length
  | 0 => by simp [runDays]
  | weeks + 1 => by
    rw [runDays_succ, List.filter_append, List.length_append, run_count p start weeks, week_count, Nat.succ_mul]

/-! ## Complete schedules -/

/-- A schedule with a start, a positive number of weeks, a time of day and a zone that is known; its meeting days and
overrides are arbitrary. -/
structure Complete (tzdb : String → Option Zone) (s : CourseSchedule) (start : Int) (weeks : Nat) (general : LocalTime)
    (tz : Zone) : Prop where
  startDate : s.startDate = some start
  durationWeeks : s.durationWeeks = some (weeks : Int)
  weeks_pos : 0 < weeks
  meetingTime : s.meetingTime.bind parseHhmm = some general
  timezone : ∃ zone, s.timezone = some zone ∧ zone ≠ "" ∧ tzdb zone = some tz

/-- A day value of the set. -/
def isClassDay (s : CourseSchedule) (dow : Int) : Bool := Number.ofInt dow ∈ meetingDaysOf s.meetingDays

/-- The distinct day values from 0 to 6. -/
def weekdays (s : CourseSchedule) : List Nat := (List.range 7).filter fun i : Nat => isClassDay s i

/-- The days of the run, from the start's local day on, whose weekday is in the set. -/
def classDays (s : CourseSchedule) (start : Int) (weeks : Nat) (tz : Zone) : List Int :=
  (runDays (tz.toLocal start / DAY_MS) weeks).filter fun day => isClassDay s (Civil.weekday day)

/-- The time of a class day: its weekday's override, or else the general time. -/
def timeOn (s : CourseSchedule) (general : LocalTime) (day : Int) : LocalTime :=
  ((overridesOf s.meetingTimesByDay (Civil.weekday day)).getLast?).getD general

/-- The class of a day. -/
def classOn (s : CourseSchedule) (general : LocalTime) (day : Int) : Meeting := ⟨day * DAY_MS, timeOn s general day⟩

variable {tzdb : String → Option Zone} {s : CourseSchedule} {start : Int} {weeks : Nat} {general : LocalTime}
  {tz : Zone}

theorem classDays_length (s : CourseSchedule) (start : Int) (weeks : Nat) (tz : Zone) :
    (classDays s start weeks tz).length = weeks * (weekdays s).length :=
  run_count (isClassDay s) _ weeks

theorem mem_classDays {day : Int} :
    day ∈ classDays s start weeks tz ↔ (tz.toLocal start / DAY_MS ≤ day ∧
      day < tz.toLocal start / DAY_MS + weeks * 7) ∧ isClassDay s (Civil.weekday day) = true := by
  unfold classDays
  rw [List.mem_filter, mem_runDays]

/-- A class day of the run may be moved by weeks, as long as it stays in the run. -/
theorem mem_classDays_week {day day' : Int} (h : day ∈ classDays s start weeks tz)
    (hlow : tz.toLocal start / DAY_MS ≤ day') (hhigh : day' < tz.toLocal start / DAY_MS + weeks * 7)
    (hweek : (day' - day) % 7 = 0) : day' ∈ classDays s start weeks tz := by
  have hdow : Civil.weekday day' = Civil.weekday day := by
    unfold Civil.weekday
    omega
  rw [mem_classDays] at h ⊢
  rw [hdow]
  exact ⟨⟨hlow, hhigh⟩, h.2⟩

/-- The cadence of a complete schedule, which meets on no day where no day value can be read. -/
def cadenceOf (s : CourseSchedule) (start : Int) (weeks : Nat) (general : LocalTime) : Cadence :=
  { startDate := start
    durationWeeks := weeks
    days := meetingDaysOf s.meetingDays
    general := general
    perDay := parseTimesByDay s.meetingTimesByDay
    timezone := s.timezone.getD "" }

theorem Complete.listOccurrences_eq (h : Complete tzdb s start weeks general tz) :
    listOccurrences tzdb s = .ok (((cadenceOf s start weeks general).meetings tz).map (occurrence tz)) := by
  obtain ⟨zone, hzone, hnonempty, htz⟩ := h.timezone
  obtain ⟨meetingTime, hmeeting, hgeneral⟩ := Option.bind_eq_some_iff.1 h.meetingTime
  have hpos := h.weeks_pos
  have htime : meetingTime ≠ "" := by
    rintro rfl
    cases hgeneral
  by_cases hdays : meetingDaysOf s.meetingDays = []
  · have hnone : s.cadence = none := by
      unfold CourseSchedule.cadence
      simp [h.startDate, h.durationWeeks, hmeeting, hzone, hdays]
    have hmeetings : (cadenceOf s start weeks general).meetings tz = [] := by
      unfold Cadence.meetings Cadence.meetingOn cadenceOf
      simp [hdays]
    unfold listOccurrences
    rw [hnone, hmeetings]
    rfl
  · have hsome : s.cadence = some (cadenceOf s start weeks general) := by
      unfold CourseSchedule.cadence cadenceOf
      have hzero : weeks ≠ 0 := by omega
      simp [h.startDate, h.durationWeeks, hmeeting, hzone, hdays, hnonempty, htime, hgeneral, hzero]
    unfold listOccurrences
    have hzones : tzdb (cadenceOf s start weeks general).timezone = some tz := by
      unfold cadenceOf
      rw [hzone]
      exact htz
    simp only [hsome, hzones]

/-! ## The walk and the days -/

theorem meetingOn_day (s : CourseSchedule) (start : Int) (weeks : Nat) (general : LocalTime) (day : Int) :
    (cadenceOf s start weeks general).meetingOn (day * DAY_MS) =
      if isClassDay s (Civil.weekday day) then some (classOn s general day) else none := by
  have hday : day * DAY_MS / DAY_MS = day := by
    unfold DAY_MS
    omega
  unfold Cadence.meetingOn cadenceOf isClassDay classOn timeOn
  simp only [hday, parseTimesByDay_eq, decide_eq_true_eq]

theorem base_eq {c : Cadence} (h : 100 ≤ wallYear (tz.toLocal c.startDate)) :
    c.base tz = tz.toLocal c.startDate / DAY_MS * DAY_MS := by
  let d := Civil.ofDays (tz.toLocal c.startDate / DAY_MS)
  have hyear : (partsInTz c.startDate tz).year = d.year := wallParts_year (by omega)
  have hday : Civil.makeDay d.year d.month d.day = tz.toLocal c.startDate / DAY_MS := Civil.makeDay_ofDays _
  unfold Cadence.base
  simp only
  rw [hyear, dateUTC_eq (show 100 ≤ d.year from h)]
  show Civil.makeDay d.year d.month d.day * DAY_MS + 0 * 3600000 + 0 * 60000 + 0 * 1000 = _
  rw [hday]
  omega

/-- Before the year 100 the walk begins in a later year: 1900 years on, or as many years after the turn of the eras as
the start is before it. -/
theorem base_late {c : Cadence} (h : wallYear (tz.toLocal c.startDate) < 100) :
    (tz.toLocal c.startDate / DAY_MS + 7) * DAY_MS ≤ c.base tz := by
  have hspec := (Civil.yearOfDay_spec (tz.toLocal c.startDate / DAY_MS)).2
  obtain ⟨y, -, hlater, hbase⟩ := base_year c tz
  have hgap := Civil.dayFromYear_lt (hlater h)
  change _ < Civil.dayFromYear ((Civil.ofDays (tz.toLocal c.startDate / DAY_MS)).year + 1) at hspec
  generalize Civil.ofDays (tz.toLocal c.startDate / DAY_MS) = d at hspec hbase hgap
  have hstart := Civil.monthStart_nonneg (Civil.leapDay_cases y) d.month_pos
  have hday := d.day_pos
  rw [hbase]
  unfold DAY_MS at hspec ⊢
  omega

/-- From the year 100 on the walk begins on the start's local day. -/
theorem meetings_eq (h : 100 ≤ wallYear (tz.toLocal start)) :
    (cadenceOf s start weeks general).meetings tz = (classDays s start weeks tz).map (classOn s general) := by
  have hbase : (cadenceOf s start weeks general).base tz = tz.toLocal start / DAY_MS * DAY_MS :=
    base_eq h
  have hcount : ((weeks : Int) * 7).toNat = weeks * 7 := by omega
  unfold Cadence.meetings classDays runDays
  rw [hbase]
  show List.filterMap _ (List.range ((weeks : Int) * 7).toNat) = _
  rw [hcount, List.filter_map, List.map_map, ← List.filterMap_eq_map, List.filterMap_filter]
  refine List.filterMap_congr fun i _ => ?_
  have hday : tz.toLocal start / DAY_MS * DAY_MS + (i : Int) * DAY_MS = (tz.toLocal start / DAY_MS + i) * DAY_MS := by
    rw [Int.add_mul]
  rw [hday, meetingOn_day]
  rfl

/-! ## Keys -/

def keyOf (day : Int) : String :=
  dateKey (Civil.ofDays day).year (Civil.ofDays day).month (Civil.ofDays day).day

/-- The digits of the year that a key begins with. -/
def yearWidth (day : Int) : Nat := width (Civil.yearOfDay day).toNat

theorem dateKey_classOn (s : CourseSchedule) (general : LocalTime) (tz : Zone) (day : Int) :
    (occurrence tz (classOn s general day)).dateKey = keyOf day := by
  have hday : day * DAY_MS / DAY_MS = day := by
    unfold DAY_MS
    omega
  show dateKey (Civil.ofDays (day * DAY_MS / DAY_MS)).year (Civil.ofDays (day * DAY_MS / DAY_MS)).month
    (Civil.ofDays (day * DAY_MS / DAY_MS)).day = _
  rw [hday]
  rfl

theorem keyOf_tail (day : Int) : (keyOf day).toList = (toString (Civil.yearOfDay day)).toList ++
    '-' :: (digits2 (Civil.ofDays day).month.toNat ++ '-' :: digits2 (Civil.ofDays day).day.toNat) := by
  have hsmall := date_small (Civil.ofDays day)
  have hm := (Civil.ofDays day).month_pos
  have hd := (Civil.ofDays day).day_pos
  unfold keyOf dateKey
  simp only [String.toList_append, pad_chars (by omega : 0 ≤ (Civil.ofDays day).month) hsmall.1,
    pad_chars (by omega : 0 ≤ (Civil.ofDays day).day) hsmall.2]
  show _ ++ ['-'] ++ _ ++ ['-'] ++ _ = _
  simp only [List.append_assoc, List.singleton_append]
  rfl

theorem keyOf_chars {day : Int} (h : 0 ≤ Civil.yearOfDay day) :
    (keyOf day).toList = Nat.toDigits 10 (Civil.yearOfDay day).toNat ++
      '-' :: (digits2 (Civil.ofDays day).month.toNat ++ '-' :: digits2 (Civil.ofDays day).day.toNat) := by
  rw [keyOf_tail]
  obtain ⟨y, hy⟩ := Int.eq_ofNat_of_zero_le h
  rw [hy]
  congr 1
  exact Nat.toList_repr

/-- Days of years with one number of digits stand as their keys do. -/
theorem keyOf_lt {day day' : Int} (h : 0 ≤ Civil.yearOfDay day) (hlt : day < day')
    (hwidth : yearWidth day = yearWidth day') : keyOf day < keyOf day' := by
  have hyears : Civil.yearOfDay day ≤ Civil.yearOfDay day' :=
    Civil.le_yearOfDay (Int.le_trans (Civil.yearOfDay_spec day).1 (by omega))
  have hdates : (Civil.ofDays day).toDays < (Civil.ofDays day').toDays := by
    rw [Civil.toDays_ofDays, Civil.toDays_ofDays]
    exact hlt
  have hm := (Civil.ofDays day).month_pos
  have hd := (Civil.ofDays day).day_pos
  have hsmall := date_small (Civil.ofDays day')
  rw [String.lt_iff_toList_lt, keyOf_chars h, keyOf_chars (by omega)]
  rcases Civil.Date.toDays_lt hdates with hyear | ⟨hyear, hrest⟩
  · change Civil.yearOfDay day < Civil.yearOfDay day' at hyear
    exact toDigits_lt hwidth (by omega)
  · change Civil.yearOfDay day = Civil.yearOfDay day' at hyear
    rw [hyear]
    refine List.append_left_lt (List.cons_lt_cons_iff.2 (.inr ⟨rfl, ?_⟩))
    rcases hrest with hmonth | ⟨hmonth, hday⟩
    · exact digits2_lt (by omega) (by omega) _ _
    · rw [hmonth]
      refine List.append_left_lt (List.cons_lt_cons_iff.2 (.inr ⟨rfl, ?_⟩))
      have hlast := digits2_lt (m := (Civil.ofDays day).day.toNat) (n := (Civil.ofDays day').day.toNat) (by omega)
        (by omega) [] []
      rwa [List.append_nil, List.append_nil] at hlast

/-- With a further digit of the year the order of the keys turns. -/
theorem keyOf_turn {day day' : Int} {k : Nat} (h : Civil.yearOfDay day + 1 = (10 ^ (k + 1) : Nat))
    (h' : Civil.yearOfDay day' = (10 ^ (k + 1) : Nat)) : keyOf day' < keyOf day := by
  have hpos : 0 < 10 ^ (k + 1) := Nat.pow_pos (by decide)
  have hnat : (Civil.yearOfDay day).toNat = 10 ^ (k + 1) - 1 := by omega
  rw [String.lt_iff_toList_lt, keyOf_chars (by omega), keyOf_chars (by omega), hnat, h', Int.toNat_natCast]
  exact toDigits_pow_lt k _ _

/-- A key of a year from 0 on tells its day. -/
theorem keyOf_inj {day day' : Int} (h : 0 ≤ Civil.yearOfDay day) (heq : keyOf day = keyOf day') : day = day' := by
  have hsmall := date_small (Civil.ofDays day)
  have hsmall' := date_small (Civil.ofDays day')
  have hm := (Civil.ofDays day).month_pos
  have hm' := (Civil.ofDays day').month_pos
  have hd := (Civil.ofDays day).day_pos
  have hd' := (Civil.ofDays day').day_pos
  have hchars := congrArg String.toList heq
  rw [keyOf_tail, keyOf_tail] at hchars
  obtain ⟨hyear, htail⟩ := List.append_inj' hchars rfl
  obtain ⟨hmonth, hday⟩ := List.append_inj (List.cons.inj htail).2 rfl
  have hmonth' := digits2_inj (by omega) (by omega) hmonth
  have hday' := digits2_inj (by omega) (by omega) (List.cons.inj hday).2
  have hyear' : (Civil.ofDays day).year = (Civil.ofDays day').year :=
    toString_inj_of_nonneg h (String.toList_injective hyear)
  exact Civil.ofDays_inj (Civil.Date.ext hyear' (by omega) (by omega))

/-! ## The occurrences of a run -/

/-- The schedule's occurrences are its class days, each at its time, as many as its weeks have of its
weekdays, and their keys increase. -/
def Scheduled (tzdb : String → Option Zone) (s : CourseSchedule) (start : Int) (weeks : Nat) (general : LocalTime)
    (tz : Zone) : Prop :=
  ∃ occs, listOccurrences tzdb s = .ok occs ∧
    occs = (classDays s start weeks tz).map (fun day => occurrence tz (classOn s general day)) ∧
    occs.length = weeks * (weekdays s).length ∧ (occs.map (·.dateKey)).Pairwise (· < ·)

theorem keys_eq (s : CourseSchedule) (general : LocalTime) (tz : Zone) (days : List Int) :
    (days.map fun day => occurrence tz (classOn s general day)).map (·.dateKey) = days.map keyOf := by
  rw [List.map_map]
  exact List.map_congr_left fun day _ => dateKey_classOn s general tz day

theorem classDays_sorted (s : CourseSchedule) (start : Int) (weeks : Nat) (tz : Zone) :
    (classDays s start weeks tz).Pairwise (· < ·) :=
  (runDays_sorted _ _).filter _

/-- A run that begins before the year 100 has none of its class days in the list. -/
theorem not_scheduled_early (h : Complete tzdb s start weeks general tz) (hyear : wallYear (tz.toLocal start) < 100)
    {day : Int} (hday : day ∈ classDays s start weeks tz) : ¬ Scheduled tzdb s start weeks general tz := by
  rintro ⟨occs, hoccs, heq, -, -⟩
  rw [h.listOccurrences_eq] at hoccs
  cases hoccs
  obtain ⟨⟨hlow, hhigh⟩, -⟩ := mem_classDays.1 hday
  -- The class day of that weekday in the first week.
  let first := tz.toLocal start / DAY_MS + (day - tz.toLocal start / DAY_MS) % 7
  have hfirst : first ∈ classDays s start weeks tz := mem_classDays_week hday (by omega) (by omega) (by omega)
  have hlisted : occurrence tz (classOn s general first) ∈
      ((cadenceOf s start weeks general).meetings tz).map (occurrence tz) := by
    rw [heq]
    exact List.mem_map_of_mem (f := fun day => occurrence tz (classOn s general day)) hfirst
  obtain ⟨m, hm, hsame⟩ := List.mem_map.1 hlisted
  have hdated := meetings_dated hm
  have hkey : keyOf (m.dt / DAY_MS) = keyOf first := by
    rw [← dateKey_classOn s general tz first, ← hsame]
    rfl
  have hmyear : 100 ≤ Civil.yearOfDay (m.dt / DAY_MS) := hdated.year
  have hmday : m.dt / DAY_MS = first := keyOf_inj (by omega) hkey
  obtain ⟨i, -, hi⟩ := mem_meetings.1 hm
  obtain ⟨-, rfl⟩ := meetingOn_some.1 hi
  have hlate := base_late (c := cadenceOf s start weeks general) hyear
  have hbase : tz.toLocal start / DAY_MS + 7 ≤ first := by
    rw [← hmday]
    change (tz.toLocal start / DAY_MS + 7) * DAY_MS ≤ _ at hlate
    unfold DAY_MS at hlate ⊢
    simp only
    omega
  omega

/-- In a list that is sorted both ways the two orders agree. -/
theorem rel_of_sorted {R : Int → Int → Prop} {l : List Int} (hsorted : l.Pairwise (· < ·)) (h : l.Pairwise R)
    {day day' : Int} (hday : day ∈ l) (hday' : day' ∈ l) (hlt : day < day') : R day day' := by
  obtain ⟨i, hi, rfl⟩ := List.getElem_of_mem hday
  obtain ⟨j, hj, rfl⟩ := List.getElem_of_mem hday'
  rcases lt_trichotomy i j with hij | rfl | hij
  · exact List.pairwise_iff_getElem.1 h i j hi hj hij
  · omega
  · have := List.pairwise_iff_getElem.1 hsorted j i hj hi hij
    omega

theorem yearOfDay_classDay (hyear : 100 ≤ wallYear (tz.toLocal start)) {day : Int}
    (hday : day ∈ classDays s start weeks tz) : 100 ≤ Civil.yearOfDay day :=
  Int.le_trans hyear (Civil.yearOfDay_mono (mem_classDays.1 hday).1.1)

/-- Where a digit is added to the years between two class days, the class days of that week have their keys the wrong
way round. -/
theorem widths_eq_of_sorted (hyear : 100 ≤ wallYear (tz.toLocal start))
    (hsorted : ((classDays s start weeks tz).map keyOf).Pairwise (· < ·)) {day day' : Int}
    (hday : day ∈ classDays s start weeks tz) (hday' : day' ∈ classDays s start weeks tz) (hlt : day < day') :
    yearWidth day = yearWidth day' := by
  have hy := yearOfDay_classDay hyear hday
  have hy' := yearOfDay_classDay hyear hday'
  have hmono := Civil.yearOfDay_mono (Int.le_of_lt hlt)
  obtain ⟨k, hk⟩ : ∃ k, yearWidth day = k + 1 := ⟨yearWidth day - 1, by
    have := width_pos (Civil.yearOfDay day).toNat
    unfold yearWidth
    omega⟩
  have hbelow : (Civil.yearOfDay day).toNat < 10 ^ (k + 1) := (width_le_iff (by omega)).1 (Nat.le_of_eq hk)
  by_contra hne
  have habove : 10 ^ (k + 1) ≤ (Civil.yearOfDay day').toNat := by
    by_contra hless
    have hle : yearWidth day' ≤ k + 1 := (width_le_iff (by omega)).2 (by omega)
    have hge : k + 1 ≤ yearWidth day' := by
      by_contra hshort
      have hpos := width_pos (Civil.yearOfDay day').toNat
      have hsmall : (Civil.yearOfDay day').toNat < 10 ^ k :=
        (width_le_iff (by unfold yearWidth at hshort; omega)).1 (by unfold yearWidth at hshort; omega)
      have hwidth : yearWidth day ≤ k := (width_le_iff (by unfold yearWidth at hshort; omega)).2 (by omega)
      omega
    omega
  generalize hpow : 10 ^ (k + 1) = pow at hbelow habove
  -- The first day of the year with one digit more, and a class day in the week before it and in the week after it.
  have hgap := Civil.dayFromYear_lt (y := (pow : Int) - 1) (z := pow) (by omega)
  have hgap' := Civil.dayFromYear_lt (y := (pow : Int)) (z := pow + 1) (by omega)
  have hspec := Civil.yearOfDay_spec day
  have hspec' := Civil.yearOfDay_spec day'
  have hfrom := Civil.dayFromYear_mono (y := Civil.yearOfDay day + 1) (z := (pow : Int)) (by omega)
  have hto := Civil.dayFromYear_mono (y := (pow : Int)) (z := Civil.yearOfDay day') (by omega)
  generalize hturn : Civil.dayFromYear (pow : Int) = turn at hgap hgap' hfrom hto
  let before := day + (turn - 1 - day) / 7 * 7
  let after := day' - (day' - turn) / 7 * 7
  obtain ⟨⟨hlow, hhigh⟩, -⟩ := mem_classDays.1 hday
  obtain ⟨⟨hlow', hhigh'⟩, -⟩ := mem_classDays.1 hday'
  have hbefore : before ∈ classDays s start weeks tz := mem_classDays_week hday (by omega) (by omega) (by omega)
  have hafter : after ∈ classDays s start weeks tz := mem_classDays_week hday' (by omega) (by omega) (by omega)
  have hyears : Civil.yearOfDay before = (pow : Int) - 1 :=
    Civil.yearOfDay_eq (by omega) (by rw [Int.sub_add_cancel, hturn]; omega)
  have hyears' : Civil.yearOfDay after = (pow : Int) := Civil.yearOfDay_eq (by omega) (by omega)
  have hkeys := rel_of_sorted (classDays_sorted s start weeks tz) (List.pairwise_map.1 hsorted) hbefore hafter
    (by omega)
  exact lt_asymm hkeys (keyOf_turn (by rw [hyears, hpow]; omega) (by rw [hyears', hpow]))

theorem meetings_nil (h : Complete tzdb s start weeks general tz) (hnone : classDays s start weeks tz = []) :
    (cadenceOf s start weeks general).meetings tz = [] := by
  have hlength := classDays_length s start weeks tz
  have hpos := h.weeks_pos
  rw [hnone, List.length_nil, eq_comm, Nat.mul_eq_zero] at hlength
  have hweekdays : weekdays s = [] := List.eq_nil_of_length_eq_zero (by omega)
  refine List.eq_nil_iff_forall_not_mem.2 fun m hm => ?_
  obtain ⟨i, -, hi⟩ := mem_meetings.1 hm
  obtain ⟨hday, -⟩ := meetingOn_some.1 hi
  generalize ((cadenceOf s start weeks general).base tz + i * DAY_MS) / DAY_MS = day at hday
  have hrange : 0 ≤ Civil.weekday day ∧ Civil.weekday day < 7 := by
    unfold Civil.weekday
    omega
  have hmem : (Civil.weekday day).toNat ∈ weekdays s := by
    unfold weekdays isClassDay
    rw [List.mem_filter, List.mem_range, Int.toNat_of_nonneg hrange.1]
    exact ⟨by omega, decide_eq_true hday⟩
  rw [hweekdays] at hmem
  cases hmem

/-- The occurrences are the class days of the run exactly when there is none, or the start's local year is 100 or later
and the years of all class days are written with one number of digits. -/
theorem scheduled_iff (h : Complete tzdb s start weeks general tz) :
    Scheduled tzdb s start weeks general tz ↔ classDays s start weeks tz = [] ∨
      (100 ≤ wallYear (tz.toLocal start) ∧
        ∀ day ∈ classDays s start weeks tz, ∀ day' ∈ classDays s start weeks tz, yearWidth day = yearWidth day') := by
  constructor
  · intro hsched
    by_cases hnone : classDays s start weeks tz = []
    · exact .inl hnone
    · obtain ⟨first, hfirst⟩ := List.exists_mem_of_ne_nil _ hnone
      have hyear : 100 ≤ wallYear (tz.toLocal start) := by
        by_contra hearly
        exact not_scheduled_early h (by omega) hfirst hsched
      obtain ⟨occs, -, rfl, -, hsorted⟩ := hsched
      rw [keys_eq] at hsorted
      refine .inr ⟨hyear, fun day hday day' hday' => ?_⟩
      rcases lt_trichotomy day day' with hlt | rfl | hlt
      · exact widths_eq_of_sorted hyear hsorted hday hday' hlt
      · rfl
      · exact (widths_eq_of_sorted hyear hsorted hday' hday hlt).symm
  · rintro (hnone | ⟨hyear, hwidths⟩)
    · refine ⟨[], ?_, ?_, ?_, .nil⟩
      · rw [h.listOccurrences_eq, meetings_nil h hnone]
        rfl
      · rw [hnone]
        rfl
      · rw [← classDays_length s start weeks tz, hnone]
        rfl
    · have hoccs : ((cadenceOf s start weeks general).meetings tz).map (occurrence tz) =
          (classDays s start weeks tz).map fun day => occurrence tz (classOn s general day) := by
        rw [meetings_eq hyear, List.map_map]
        rfl
      refine ⟨_, h.listOccurrences_eq, hoccs, ?_, ?_⟩
      · rw [hoccs, List.length_map, classDays_length]
      · rw [hoccs, keys_eq, List.pairwise_map]
        refine (classDays_sorted s start weeks tz).imp_of_mem fun hday hday' hlt => ?_
        have hpos := yearOfDay_classDay hyear hday
        exact keyOf_lt (by omega) hlt (hwidths _ hday _ hday')

namespace Example

/-- From Saturday 8 March 2025 on: Sundays at 03:30 and Mondays at 20:00, with a repeated day and two that name none. -/
def sundaysMondays : CourseSchedule :=
  { sundays with
    meetingDays := .arr [.num (.ofInt 0), .str "1", .num (.ofInt 0), .num (.ofInt 9), .str "soon"]
    meetingTimesByDay := .obj [("1", .str "20:00"), ("0", .str "late")] }

/-- A program that begins on 3 January of the year 50, on Mondays. -/
def early : CourseSchedule :=
  { startDate := some (-60589123200000), durationWeeks := some 1, meetingDays := .arr [.num (.ofInt 1)]
    meetingTime := some "18:00", meetingTimesByDay := .null, timezone := some "Africa/Lagos" }

end Example

open Example in
theorem sundaysMondays_scheduled : Scheduled zones sundaysMondays 1741435200000 2 lateNight newYork := by
  have hcomplete : Complete zones sundaysMondays 1741435200000 2 lateNight newYork :=
    ⟨rfl, rfl, by decide, rfl, "America/New_York", rfl, by decide, rfl⟩
  refine (scheduled_iff hcomplete).2 (.inr ⟨by decide, ?_⟩)
  have hdays : classDays sundaysMondays 1741435200000 2 newYork = [20156, 20157, 20163, 20164] := by decide +kernel
  rw [hdays]
  decide +kernel

open Example in
/-- Its one class is listed 1900 years later. -/
theorem early_not_scheduled :
    Complete lagosZones early (-60589123200000) 1 evening lagos ∧
      keyOf (-701263) = "50-01-03" ∧ classDays early (-60589123200000) 1 lagos = [-701263] ∧
      (listOccurrences lagosZones early).map (·.map (·.dateKey)) = .ok ["1950-01-09"] ∧
      ¬ Scheduled lagosZones early (-60589123200000) 1 evening lagos := by
  have hcomplete : Complete lagosZones early (-60589123200000) 1 evening lagos :=
    ⟨rfl, rfl, by decide, rfl, "Africa/Lagos", rfl, by decide, rfl⟩
  have hdays : classDays early (-60589123200000) 1 lagos = [-701263] := by decide
  refine ⟨hcomplete, by decide, hdays, by decide, ?_⟩
  exact not_scheduled_early hcomplete (by decide) (by rw [hdays]; exact List.mem_singleton.2 rfl)

end Livetich.Schedule
