/-
The wall clock of a meeting: when the instant given to it reads back, in its zone, as the local
time it was made from. `zonedWallTimeToUtc` takes the offset at the wall time read as UTC, so the
answer is right exactly when that offset is the one in force at the meeting.
-/
import Livetich.Schedule.Occurrences

namespace Livetich.Schedule

open Livetich.Js Livetich.Lib

/-! ## Parts and days -/

/-- What the local clock should show at a meeting. -/
def Meeting.wall (m : Meeting) : Int :=
  m.dt + m.time.hh * 3600000 + m.time.mm * 60000

def Meeting.parts (m : Meeting) : Parts :=
  { year := m.date.year, month := m.date.month, day := m.date.day
    hour := m.time.hh, minute := m.time.mm, second := 0 }

/-- The year of a local time. -/
def wallYear (wall : Int) : Int :=
  Civil.yearOfDay (wall / DAY_MS)

/-- What holds of every meeting of a schedule: its day is a midnight, from the year 100 on. -/
structure Meeting.Dated (m : Meeting) : Prop where
  midnight : m.dt % DAY_MS = 0
  year : 100 ≤ m.date.year

theorem dateUTC_eq {y : Int} (h : 100 ≤ y) (mo d hh mm ss : Int) :
    dateUTC y (mo - 1) d hh mm ss =
      Civil.makeDay y mo d * DAY_MS + hh * 3600000 + mm * 60000 + ss * 1000 := by
  unfold dateUTC
  rw [if_neg (by omega), Int.sub_add_cancel]

theorem wallParts_year {wall : Int} (h : 1 ≤ wallYear wall) :
    (wallParts wall).year = wallYear wall :=
  if_neg (by
    unfold wallYear at h
    show ¬ Civil.yearOfDay (wall / DAY_MS) ≤ 0
    omega)

/-- Parts that are read as UTC give back the local time, but for a year below 100. -/
theorem dateUTC_wallParts {wall : Int} (hsec : wall % 1000 = 0) (hy : 100 ≤ wallYear wall) :
    let p := wallParts wall
    dateUTC p.year (p.month - 1) p.day p.hour p.minute p.second = wall := by
  intro p
  have hyear : p.year = (Civil.ofDays (wall / DAY_MS)).year := wallParts_year (by omega)
  have hday : Civil.makeDay p.year p.month p.day = wall / DAY_MS := by
    rw [hyear]
    exact Civil.makeDay_ofDays _
  rw [dateUTC_eq (by rw [hyear]; exact hy), hday]
  show wall / DAY_MS * DAY_MS + wall % DAY_MS / 1000 / 3600 * 3600000 +
    wall % DAY_MS / 1000 % 3600 / 60 * 60000 + wall % DAY_MS / 1000 % 60 * 1000 = wall
  unfold DAY_MS
  omega

/-- The year 99 is read as 1999. -/
theorem dateUTC_wallParts_99 {wall : Int} (hsec : wall % 1000 = 0) (hy : wallYear wall = 99) :
    let p := wallParts wall
    dateUTC p.year (p.month - 1) p.day p.hour p.minute p.second = wall + 693960 * DAY_MS := by
  intro p
  have hyear : p.year = 99 := by rw [← hy]; exact wallParts_year (by omega)
  have hm : 1 ≤ p.month := (Civil.ofDays (wall / DAY_MS)).month_pos
  have hm' : p.month ≤ 12 := (Civil.ofDays (wall / DAY_MS)).month_le
  have hday := Civil.toDays_ofDays (wall / DAY_MS)
  have hleap : Civil.leapDay (wallYear wall) = 0 := by rw [hy]; rfl
  have hstart : Civil.dayFromYear (wallYear wall) = Civil.dayFromYear 99 := by rw [hy]
  rw [Civil.Date.toDays_eq] at hday
  change Civil.dayFromYear (wallYear wall) + Civil.monthStart (Civil.leapDay (wallYear wall)) p.month +
    p.day - 1 = wall / DAY_MS at hday
  rw [hleap, hstart] at hday
  unfold dateUTC
  simp only
  rw [hyear, if_pos (by decide), Int.sub_add_cancel, Civil.makeDay_eq hm hm']
  have h99 : Civil.dayFromYear (1900 + 99) = Civil.dayFromYear 99 + 693960 := by decide
  have h1999 : Civil.leapDay (1900 + 99) = 0 := rfl
  rw [h99, h1999]
  change (Civil.dayFromYear 99 + 693960 + Civil.monthStart 0 p.month + p.day - 1) * DAY_MS +
    wall % DAY_MS / 1000 / 3600 * 3600000 + wall % DAY_MS / 1000 % 3600 / 60 * 60000 +
    wall % DAY_MS / 1000 % 60 * 1000 = _
  have hsum : Civil.dayFromYear 99 + 693960 + Civil.monthStart 0 p.month + p.day - 1 =
      wall / DAY_MS + 693960 := by omega
  rw [hsum]
  unfold DAY_MS
  omega

/-- Whole seconds with the same parts are the same local time, but for the era. -/
theorem wallParts_inj {v w : Int} (hv : v % 1000 = 0) (hw : w % 1000 = 0) (hvy : 1 ≤ wallYear v)
    (hwy : 1 ≤ wallYear w) (h : wallParts v = wallParts w) : v = w := by
  have hdate : Civil.ofDays (v / DAY_MS) = Civil.ofDays (w / DAY_MS) := by
    apply Civil.Date.ext
    · have hyear := congrArg Parts.year h
      rw [wallParts_year hvy, wallParts_year hwy] at hyear
      exact hyear
    · exact congrArg Parts.month h
    · exact congrArg Parts.day h
  have hday := Civil.ofDays_inj hdate
  have hhour : v % DAY_MS / 1000 / 3600 = w % DAY_MS / 1000 / 3600 := congrArg Parts.hour h
  have hmin : v % DAY_MS / 1000 % 3600 / 60 = w % DAY_MS / 1000 % 3600 / 60 :=
    congrArg Parts.minute h
  have hsec : v % DAY_MS / 1000 % 60 = w % DAY_MS / 1000 % 60 := congrArg Parts.second h
  unfold DAY_MS at hday hhour hmin hsec
  omega

/-! ## Meetings -/

/-- The walk begins on the start's month and day of a year from 100 on: its own, or a later one where its
own is before 100. -/
theorem base_year (c : Cadence) (tz : Zone) :
    let d := Civil.ofDays (tz.toLocal c.startDate / DAY_MS)
    ∃ y, 100 ≤ y ∧ (d.year < 100 → d.year + 1 < y) ∧ c.base tz =
      (Civil.dayFromYear y + Civil.monthStart (Civil.leapDay y) d.month + d.day - 1) * DAY_MS := by
  intro d
  -- the year as it is printed, and as the date's constructor reads it
  let printed := if d.year ≤ 0 then 1 - d.year else d.year
  let y := if 0 ≤ printed ∧ printed ≤ 99 then 1900 + printed else printed
  refine ⟨y, ?_, fun hyear => ?_, ?_⟩
  · simp only [y, printed]
    split <;> split <;> omega
  · simp only [y, printed]
    split <;> split <;> omega
  · rw [← Civil.makeDay_eq d.month_pos d.month_le]
    show dateUTC printed (d.month - 1) d.day 0 0 0 = _
    unfold dateUTC
    rw [Int.sub_add_cancel]
    simp only [y, Int.zero_mul, Int.add_zero]

theorem base_spec (c : Cadence) (tz : Zone) :
    c.base tz % DAY_MS = 0 ∧ Civil.dayFromYear 100 * DAY_MS ≤ c.base tz := by
  obtain ⟨y, hy, -, hbase⟩ := base_year c tz
  have hmono := Civil.dayFromYear_mono hy
  generalize Civil.ofDays (tz.toLocal c.startDate / DAY_MS) = d at hbase
  have hstart := Civil.monthStart_nonneg (Civil.leapDay_cases y) d.month_pos
  have hday := d.day_pos
  rw [hbase]
  unfold DAY_MS
  constructor
  · omega
  · omega

theorem meetings_dated {c : Cadence} {tz : Zone} {m : Meeting} (h : m ∈ c.meetings tz) :
    m.Dated := by
  obtain ⟨i, -, hi⟩ := List.mem_filterMap.1 h
  obtain ⟨hmod, hlow⟩ := base_spec c tz
  unfold Cadence.meetingOn at hi
  simp only at hi
  split at hi
  · cases hi
    have hi' : (0 : Int) ≤ (i : Int) := by omega
    constructor
    · unfold DAY_MS at hmod ⊢
      simp only
      omega
    · apply Civil.le_yearOfDay
      unfold DAY_MS at hlow ⊢
      simp only
      omega
  · cases hi

theorem Meeting.Dated.day {m : Meeting} (h : m.Dated) : m.wall / DAY_MS = m.dt / DAY_MS := by
  have := h.midnight
  unfold wall
  unfold DAY_MS at this ⊢
  omega

theorem Meeting.Dated.wallYear {m : Meeting} (h : m.Dated) :
    Schedule.wallYear m.wall = m.date.year := by
  unfold Schedule.wallYear
  rw [h.day]
  rfl

theorem Meeting.Dated.guess {m : Meeting} (h : m.Dated) :
    dateUTC m.date.year (m.date.month - 1) m.date.day m.time.hh m.time.mm 0 = m.wall := by
  have hday : Civil.makeDay m.date.year m.date.month m.date.day = m.dt / DAY_MS :=
    Civil.makeDay_ofDays _
  have hmid := h.midnight
  rw [dateUTC_eq h.year, hday]
  unfold wall
  unfold DAY_MS at hmid ⊢
  omega

theorem Meeting.Dated.parts_eq {m : Meeting} (h : m.Dated) : m.parts = wallParts m.wall := by
  have hmid := h.midnight
  have hyear := h.year
  have hh := m.time.hh.isLt
  have hm := m.time.mm.isLt
  have hrest : m.wall % DAY_MS = m.time.hh * 3600000 + m.time.mm * 60000 := by
    unfold wall
    unfold DAY_MS at hmid ⊢
    omega
  unfold wallParts parts
  simp only
  rw [h.day, hrest]
  have hpos : (if m.date.year ≤ 0 then 1 - m.date.year else m.date.year) = m.date.year :=
    if_neg (by omega)
  rw [Parts.mk.injEq]
  refine ⟨hpos.symm, rfl, rfl, ?_, ?_, ?_⟩
  · omega
  · omega
  · omega

/-! ## The instant of a meeting -/

/-- The offset found at the wall time read as UTC is the one in force at `t`. Before the year 100
`Date.UTC` does not read the local year it is given, so the local clock has to be past it. -/
def ProbeAgrees (tz : Zone) (w t : Int) : Prop :=
  tz.offset w = tz.offset t ∧ 100 ≤ wallYear (tz.toLocal w)

/-- An instant is read, in the zone, as the wall clock of a meeting and as the day of its key. -/
def ReadsBack (tz : Zone) (m : Meeting) (o : Occurrence) : Prop :=
  partsInTz o.scheduledAt tz = m.parts ∧ dateKeyInTz o.scheduledAt tz = o.dateKey

theorem toLocal_sec {tz : Zone} {t : Int} (h : t % 1000 = 0) : tz.toLocal t % 1000 = 0 := by
  unfold Zone.toLocal
  omega

theorem Meeting.Dated.sec {m : Meeting} (h : m.Dated) : m.wall % 1000 = 0 := by
  have := h.midnight
  unfold wall
  unfold DAY_MS at this
  omega

/-- A clock is at most 14 hours from UTC, so it reads the year before at the earliest. -/
theorem wallYear_near {tz : Zone} {w : Int} (h : 100 ≤ wallYear w) : 99 ≤ wallYear (tz.toLocal w) := by
  have hb := tz.toLocal_bounds w
  have hspec := Civil.yearOfDay_spec (w / DAY_MS)
  have hmono := Civil.dayFromYear_mono h
  have hlt := Civil.dayFromYear_lt (y := 99) (z := 100) (by omega)
  apply Civil.le_yearOfDay
  unfold wallYear at hmono
  unfold DAY_MS at hspec hmono ⊢
  omega

theorem scheduledAt_eq {m : Meeting} (h : m.Dated) (tz : Zone) :
    (occurrence tz m).scheduledAt = m.wall - tzOffsetMs m.wall tz := by
  show dateUTC m.date.year (m.date.month - 1) m.date.day m.time.hh m.time.mm 0 - _ = _
  rw [h.guess]

theorem tzOffsetMs_eq {tz : Zone} {w : Int} (hsec : w % 1000 = 0)
    (hy : 100 ≤ wallYear (tz.toLocal w)) : tzOffsetMs w tz = 1000 * tz.offset w := by
  have hread : tzOffsetMs w tz = tz.toLocal w - w :=
    congrArg (· - w) (dateUTC_wallParts (toLocal_sec hsec) hy)
  rw [hread]
  unfold Zone.toLocal
  omega

theorem tzOffsetMs_99 {tz : Zone} {w : Int} (hsec : w % 1000 = 0)
    (hy : wallYear (tz.toLocal w) = 99) :
    tzOffsetMs w tz = 1000 * tz.offset w + 693960 * DAY_MS := by
  have hread : tzOffsetMs w tz = tz.toLocal w + 693960 * DAY_MS - w :=
    congrArg (· - w) (dateUTC_wallParts_99 (toLocal_sec hsec) hy)
  rw [hread]
  unfold Zone.toLocal
  omega

theorem partsInTz_iff {tz : Zone} {m : Meeting} {r : Int} (h : m.Dated) (hsec : r % 1000 = 0)
    (hy : 1 ≤ wallYear (tz.toLocal r)) : partsInTz r tz = m.parts ↔ tz.toLocal r = m.wall := by
  rw [h.parts_eq]
  constructor
  · intro hparts
    have hw : 1 ≤ wallYear m.wall := by
      have := h.year
      rw [h.wallYear]
      omega
    exact wallParts_inj (toLocal_sec hsec) h.sec hy hw hparts
  · intro heq
    unfold partsInTz
    rw [heq]

/-- The key follows the parts. -/
theorem readsBack_iff {tz : Zone} {m : Meeting} :
    ReadsBack tz m (occurrence tz m) ↔ partsInTz (occurrence tz m).scheduledAt tz = m.parts := by
  constructor
  · exact fun h => h.1
  · intro h
    refine ⟨h, ?_⟩
    unfold dateKeyInTz
    rw [h]
    rfl

/-- Read from the year 99, a wall time is taken 1900 years back and never comes out again. -/
theorem not_readsBack_99 {tz : Zone} {m : Meeting} (h : m.Dated)
    (hy : wallYear (tz.toLocal m.wall) = 99) : ¬ ReadsBack tz m (occurrence tz m) := by
  rw [readsBack_iff, scheduledAt_eq h, tzOffsetMs_99 h.sec hy]
  intro hparts
  have hspec := Civil.yearOfDay_spec (tz.toLocal m.wall / DAY_MS)
  have hw := tz.toLocal_bounds m.wall
  have hb := tz.bounded m.wall
  have hr := tz.toLocal_bounds (m.wall - (1000 * tz.offset m.wall + 693960 * DAY_MS))
  generalize hL : tz.toLocal (m.wall - (1000 * tz.offset m.wall + 693960 * DAY_MS)) = L at hr
  change Civil.dayFromYear (wallYear (tz.toLocal m.wall)) ≤ _ ∧
    _ < Civil.dayFromYear (wallYear (tz.toLocal m.wall) + 1) at hspec
  rw [hy] at hspec
  have h99 : Civil.dayFromYear 99 = -683368 := by decide
  have h100 : Civil.dayFromYear (99 + 1) = -683003 := by decide
  have hold : wallYear L < -1500 := by
    apply Civil.yearOfDay_lt
    have h1500 : Civil.dayFromYear (-1500) = -1267391 := by decide
    unfold DAY_MS at hspec hr ⊢
    omega
  have hnew : m.date.year < 101 := by
    rw [← h.wallYear]
    apply Civil.yearOfDay_lt
    have h101 : Civil.dayFromYear 101 = -682638 := by decide
    unfold DAY_MS at hspec ⊢
    omega
  have hyear : (if wallYear L ≤ 0 then 1 - wallYear L else wallYear L) = m.date.year := by
    rw [← hL]
    exact congrArg Parts.year hparts
  rw [if_pos (by omega)] at hyear
  omega

theorem readsBack_agrees {tz : Zone} {m : Meeting} (h : m.Dated) {t : Int} (ht : tz.Once m.wall t) :
    ReadsBack tz m (occurrence tz m) ↔ ProbeAgrees tz m.wall t := by
  have hwall : 100 ≤ wallYear m.wall := by
    rw [h.wallYear]
    exact h.year
  have hnear : wallYear (tz.toLocal m.wall) = 99 ∨ 100 ≤ wallYear (tz.toLocal m.wall) := by
    have hyear : 99 ≤ wallYear (tz.toLocal m.wall) := wallYear_near hwall
    omega
  rcases hnear with hy | hy
  · constructor
    · intro hreads
      exact absurd hreads (not_readsBack_99 h hy)
    · rintro ⟨-, hy'⟩
      omega
  · have hsec := h.sec
    have hold : 1 ≤ wallYear (tz.toLocal (m.wall - 1000 * tz.offset m.wall)) := by
      have hb := tz.bounded m.wall
      have hr := tz.toLocal_bounds (m.wall - 1000 * tz.offset m.wall)
      have hspec := Civil.yearOfDay_spec (m.wall / DAY_MS)
      have hmono := Civil.dayFromYear_mono hwall
      have h100 : Civil.dayFromYear 100 = -683003 := by decide
      have h1 : Civil.dayFromYear 1 = -719162 := by decide
      unfold wallYear at hmono
      apply Civil.le_yearOfDay
      unfold DAY_MS at hspec hmono ⊢
      omega
    rw [readsBack_iff, scheduledAt_eq h, tzOffsetMs_eq hsec hy, partsInTz_iff h (by omega) hold,
      Zone.once_probe ht]
    exact ⟨fun heq => ⟨heq, hy⟩, fun hp => hp.1⟩

/-- A wall clock time of the schedule that its zone shows once is kept exactly when the offset at
that time read as UTC is the offset in force when the zone shows it. -/
theorem wall_clock_kept {tzdb : String → Option Zone} {s : CourseSchedule} {c : Cadence} {tz : Zone}
    (hc : s.cadence = some c) (htz : tzdb c.timezone = some tz) {i : Nat} {m : Meeting}
    (hm : (c.meetings tz)[i]? = some m) {t : Int} (ht : tz.Once m.wall t) :
    ∃ occs o, listOccurrences tzdb s = .ok occs ∧ occs[i]? = some o ∧
      (ReadsBack tz m o ↔ ProbeAgrees tz m.wall t) := by
  have hd : m.Dated := meetings_dated (List.mem_of_getElem? hm)
  refine ⟨(c.meetings tz).map (occurrence tz), occurrence tz m, ?_, ?_, readsBack_agrees hd ht⟩
  · unfold listOccurrences
    simp only [hc, htz]
  · rw [List.getElem?_map, hm]
    rfl

/-! ## A class on the morning the clocks change -/

namespace Example

/-- New York around 2025: standard time, and an hour more from 9 March to 2 November. -/
def newYork : Zone where
  offset t := if 1741503600000 ≤ t ∧ t < 1762063200000 then -14400 else -18000
  bounded t := by split <;> decide

def zones (name : String) : Option Zone :=
  if name = "America/New_York" then some newYork else none

/-- Sundays at 03:30 for two weeks from Saturday 8 March 2025, noon UTC. -/
def sundays : CourseSchedule :=
  { startDate := some 1741435200000
    durationWeeks := some 2
    meetingDays := .arr [.num (.ofInt 0)]
    meetingTime := some "03:30"
    meetingTimesByDay := .null
    timezone := some "America/New_York" }

def cadence : Cadence :=
  { startDate := 1741435200000, durationWeeks := 2, days := [.ofInt 0], general := lateNight
    perDay := fun _ => none, timezone := "America/New_York" }

/-- 03:30 on the Sunday that has no 02:30, and on the Sunday after. -/
def first : Meeting := ⟨1741478400000, lateNight⟩
def second : Meeting := ⟨1742083200000, lateNight⟩

theorem sundays_cadence : sundays.cadence = some cadence := rfl

theorem sundays_once (m : Meeting) (hm : m = first ∨ m = second) :
    newYork.Once m.wall (m.wall + 14400000) := by
  have hwall : m.wall = 1741491000000 ∨ m.wall = 1742095800000 := by
    rcases hm with rfl | rfl
    · exact Or.inl rfl
    · exact Or.inr rfl
  unfold Zone.Once Zone.toLocal newYork
  simp only
  constructor
  · split <;> omega
  · intro t'
    split <;> omega

end Example

open Example in
theorem second_sunday_kept :
    ∃ occs o, listOccurrences zones sundays = .ok occs ∧ occs[1]? = some o ∧
      (ReadsBack newYork second o ↔ ProbeAgrees newYork second.wall (second.wall + 14400000)) :=
  wall_clock_kept sundays_cadence (show zones _ = some newYork from rfl) (by decide) (sundays_once second (Or.inr rfl))

open Example in
theorem first_sunday_moved :
    ¬ ∀ (tzdb : String → Option Zone) (s : CourseSchedule) (c : Cadence) (tz : Zone) (i : Nat)
        (m : Meeting) (t : Int), s.cadence = some c → tzdb c.timezone = some tz →
        (c.meetings tz)[i]? = some m → tz.Once m.wall t →
        ∃ occs o, listOccurrences tzdb s = .ok occs ∧ occs[i]? = some o ∧ ReadsBack tz m o := by
  intro h
  obtain ⟨occs, o, hoccs, ho, hreads, -⟩ := h zones sundays cadence newYork 0 first _ sundays_cadence
    rfl (by decide) (sundays_once first (Or.inl rfl))
  have hlist : listOccurrences zones sundays =
      .ok [⟨"2025-03-09", 1741509000000⟩, ⟨"2025-03-16", 1742110200000⟩] := rfl
  rw [hlist] at hoccs
  cases hoccs
  cases ho
  exact absurd hreads (by decide)

end Livetich.Schedule
