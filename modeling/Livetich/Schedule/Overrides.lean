/-
Which parts of a schedule decide its occurrences: the set of its day values, and of the time
overrides only what they give on the days the program meets.
-/
import Mathlib.Data.List.Sort
import Livetich.Schedule.Occurrences

namespace Livetich.Schedule

open Livetich.Js Livetich.Lib

/-! ## Other times -/

/-- The meeting at the time that the overrides `p` give its day. -/
def Cadence.retime (c : Cadence) (p : Int → Option LocalTime) (m : Meeting) : Meeting :=
  { m with time := (p (Civil.weekday (m.dt / DAY_MS))).getD c.general }

/-- Under the overrides `p` every meeting of the schedule has the instant it has under its own. -/
def KeepsTimes (tzdb : String → Option Zone) (s : CourseSchedule) (p : Int → Option LocalTime) : Prop :=
  ∀ c tz, s.cadence = some c → tzdb c.timezone = some tz → ∀ m ∈ c.meetings tz,
    (occurrence tz (c.retime p m)).scheduledAt = (occurrence tz m).scheduledAt

theorem cadence_withTimes (s : CourseSchedule) (raw : Json) :
    ({ s with meetingTimesByDay := raw } : CourseSchedule).cadence =
      s.cadence.map fun c => { c with perDay := parseTimesByDay raw } := by
  unfold CourseSchedule.cadence
  simp only
  split
  · split
    · rfl
    · rw [Option.map_map]
      rfl
  · rfl

theorem meetingOn_withTimes (c : Cadence) (p : Int → Option LocalTime) (dt : Int) :
    ({ c with perDay := p } : Cadence).meetingOn dt = (c.meetingOn dt).map (c.retime p) := by
  unfold Cadence.meetingOn
  simp only
  by_cases hday : Number.ofInt (Civil.weekday (dt / DAY_MS)) ∈ c.days
  · rw [if_pos hday, if_pos hday]
    rfl
  · rw [if_neg hday, if_neg hday]
    rfl

theorem meetings_withTimes (c : Cadence) (p : Int → Option LocalTime) (tz : Zone) :
    ({ c with perDay := p } : Cadence).meetings tz = (c.meetings tz).map (c.retime p) := by
  unfold Cadence.meetings
  rw [List.map_filterMap]
  apply List.filterMap_congr
  intro i _
  exact meetingOn_withTimes c p _

/-- Only the time of a meeting moves, so only its instant can. -/
theorem occurrence_retime (c : Cadence) (p : Int → Option LocalTime) (tz : Zone) (m : Meeting) :
    occurrence tz (c.retime p m) = occurrence tz m ↔
      (occurrence tz (c.retime p m)).scheduledAt = (occurrence tz m).scheduledAt := by
  constructor
  · intro h
    rw [h]
  · intro h
    unfold occurrence at h ⊢
    rw [Occurrence.mk.injEq]
    exact ⟨rfl, h⟩

/-- Other overrides leave the occurrences as they are exactly when they move no meeting. -/
theorem listOccurrences_withTimes (tzdb : String → Option Zone) (s : CourseSchedule) (raw : Json) :
    listOccurrences tzdb { s with meetingTimesByDay := raw } = listOccurrences tzdb s ↔
      KeepsTimes tzdb s (parseTimesByDay raw) := by
  unfold listOccurrences KeepsTimes
  rw [cadence_withTimes]
  rcases s.cadence with _ | c
  · simp
  · simp only [Option.map_some, Option.some.injEq]
    cases htz : tzdb c.timezone with
    | none =>
      simp only [true_iff]
      rintro _ tz rfl h
      rw [htz] at h
      cases h
    | some tz =>
      simp only [Except.ok.injEq]
      rw [meetings_withTimes, List.map_map, List.map_inj_left]
      constructor
      · rintro h _ tz' rfl h' m hm
        rw [htz] at h'
        cases h'
        exact (occurrence_retime c _ tz m).1 (h m hm)
      · intro h m hm
        exact (occurrence_retime c _ tz m).2 (h c tz rfl htz m hm)

/-! ## The same days -/

/-- A `meetingDays` column that holds a list of days. -/
def daysColumn (days : List Int) : Json :=
  .arr (days.map fun d => .num (.ofInt d))

theorem meetingDaysOf_daysColumn (days : List Int) :
    meetingDaysOf (daysColumn days) = days.map Number.ofInt := by
  unfold meetingDaysOf daysColumn Json.items
  rw [List.map_map, List.filter_eq_self.2]
  · rfl
  · intro n hn
    obtain ⟨d, -, rfl⟩ := List.mem_map.1 hn
    rfl

theorem meetings_withDays {c : Cadence} {days : List Number}
    (h : ∀ n, n ∈ days ↔ n ∈ c.days) (tz : Zone) :
    ({ c with days := days } : Cadence).meetings tz = c.meetings tz := by
  unfold Cadence.meetings
  apply List.filterMap_congr
  intro i _
  unfold Cadence.meetingOn
  simp only [h]
  rfl

/-- Day columns with the same numbers give the same occurrences. -/
theorem listOccurrences_withDays (tzdb : String → Option Zone) (s : CourseSchedule) (raw : Json)
    (h : ∀ n, n ∈ meetingDaysOf raw ↔ n ∈ meetingDaysOf s.meetingDays) :
    listOccurrences tzdb { s with meetingDays := raw } = listOccurrences tzdb s := by
  have hempty : (meetingDaysOf raw).isEmpty = (meetingDaysOf s.meetingDays).isEmpty := by
    rw [Bool.eq_iff_iff, List.isEmpty_iff, List.isEmpty_iff, List.eq_nil_iff_forall_not_mem,
      List.eq_nil_iff_forall_not_mem]
    simp only [h]
  have hcadence : ({ s with meetingDays := raw } : CourseSchedule).cadence =
      s.cadence.map fun c => { c with days := meetingDaysOf raw } := by
    unfold CourseSchedule.cadence
    simp only [hempty]
    split
    · split
      · rfl
      · rw [Option.map_map]
        rfl
    · rfl
  unfold listOccurrences
  rw [hcadence]
  cases hc : s.cadence with
  | none => rfl
  | some c =>
    simp only [Option.map_some]
    cases tzdb c.timezone with
    | none => rfl
    | some tz =>
      simp only
      rw [meetings_withDays]
      intro n
      rw [(cadence_fields hc).2.2.1]
      exact h n

/-- `Array.from(new Set(days)).sort((a, b) => a - b)`. -/
def sortDays (days : List Int) : List Int :=
  days.eraseDups.insertionSort (· ≤ ·)

theorem mem_sortDays {days : List Int} {d : Int} : d ∈ sortDays days ↔ d ∈ days := by
  unfold sortDays
  rw [List.mem_insertionSort, List.mem_eraseDups]

/-- Sorting a column of days does not change its numbers. -/
theorem mem_sortedColumn {days : List Int} {n : Number} :
    n ∈ meetingDaysOf (daysColumn (sortDays days)) ↔ n ∈ meetingDaysOf (daysColumn days) := by
  rw [meetingDaysOf_daysColumn, meetingDaysOf_daysColumn]
  simp only [List.mem_map, mem_sortDays]

/-- Overrides that read alike give the same occurrences. -/
theorem listOccurrences_sameTimes (tzdb : String → Option Zone) (s : CourseSchedule) {raw raw' : Json}
    (h : parseTimesByDay raw = parseTimesByDay raw') :
    listOccurrences tzdb { s with meetingTimesByDay := raw } =
      listOccurrences tzdb { s with meetingTimesByDay := raw' } := by
  have hcadence : ({ s with meetingTimesByDay := raw } : CourseSchedule).cadence =
      ({ s with meetingTimesByDay := raw' } : CourseSchedule).cadence := by
    rw [cadence_withTimes s raw, cadence_withTimes s raw', h]
  unfold listOccurrences
  rw [hcadence]

end Livetich.Schedule
