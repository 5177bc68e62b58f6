/-
The weekly cadence of a program (`session-schedule.ts`): the local days it meets on, the instants
of its meetings, and the join window. `tzdb` is the time zone data of `Intl`, by zone name; a
`Date` is its time in milliseconds.
-/
import Mathlib.Data.List.Basic
import Livetich.Js.Json
import Livetich.Lib.Civil
import Livetich.Lib.Offset

namespace Livetich.Schedule

open Livetich.Js Livetich.Lib

/-! ## Data -/

/-- A time of day, as `parseHhmm` returns it. -/
@[ext] structure LocalTime where
  hh : Fin 24
  mm : Fin 60
deriving DecidableEq, Repr

/-- Schedule inputs pulled from the Course row; an absent JSON column is `null`. -/
structure CourseSchedule where
  startDate : Option Int
  durationWeeks : Option Int
  meetingDays : Json
  meetingTime : Option String
  meetingTimesByDay : Json
  timezone : Option String

structure Occurrence where
  dateKey : String
  scheduledAt : Int
deriving DecidableEq, Repr

structure JoinWindow where
  current : Option Occurrence
  next : Option Occurrence
  joinableNow : Bool
deriving DecidableEq, Repr

/-- `Intl.DateTimeFormat` refuses a zone it does not know. -/
structure RangeError where
  timeZone : String
deriving DecidableEq, Repr

/-! ## Wall clocks -/

def DAY_MS : Int := 24 * 60 * 60 * 1000

structure Parts where
  year : Int
  month : Int
  day : Int
  hour : Int
  minute : Int
  second : Int
deriving DecidableEq, Repr

/-- The parts of a local time as they are printed: a year before 1 is counted from 1 BC, and its
era is not shown. -/
def wallParts (wall : Int) : Parts :=
  let date := Civil.ofDays (wall / DAY_MS)
  let secs := wall % DAY_MS / 1000
  { year := if date.year ≤ 0 then 1 - date.year else date.year
    month := date.month
    day := date.day
    hour := secs / 3600
    minute := secs % 3600 / 60
    second := secs % 60 }

def partsInTz (date : Int) (tz : Zone) : Parts :=
  wallParts (tz.toLocal date)

/-- `Date.UTC`, which reads the years 0 to 99 as 1900 to 1999; `mo` counts from 0. -/
def dateUTC (y mo d hh mm ss : Int) : Int :=
  let year := if 0 ≤ y ∧ y ≤ 99 then 1900 + y else y
  Civil.makeDay year (mo + 1) d * DAY_MS + hh * 3600000 + mm * 60000 + ss * 1000

def tzOffsetMs (date : Int) (tz : Zone) : Int :=
  let p := partsInTz date tz
  dateUTC p.year (p.month - 1) p.day p.hour p.minute p.second - date

def zonedWallTimeToUtc (y mo d hh mm : Int) (tz : Zone) : Int :=
  let guess := dateUTC y (mo - 1) d hh mm 0
  guess - tzOffsetMs guess tz

def pad (n : Int) : String :=
  if n < 10 then "0" ++ toString n else toString n

def dateKey (y mo d : Int) : String :=
  toString y ++ "-" ++ pad mo ++ "-" ++ pad d

theorem pad_chars {n : Int} (h : 0 ≤ n) (h' : n < 100) : (pad n).toList = digits2 n.toNat := by
  obtain ⟨k, rfl⟩ := Int.eq_ofNat_of_zero_le h
  have hall : ∀ k : Fin 100, (pad (k.val : Int)).toList = digits2 k.val := by decide
  exact hall ⟨k, by omega⟩

theorem date_small (d : Civil.Date) : d.month < 100 ∧ d.day < 100 := by
  have hm := d.month_le
  have hd := d.day_le
  have hl := Civil.leapDay_cases d.year
  have hm' := d.month_pos
  refine ⟨by omega, ?_⟩
  unfold Civil.monthLength Civil.monthStart at hd
  split at hd <;> split at hd <;> omega

/-! ## Meeting times -/

/-- The value of two digits, below a bound. -/
def twoDigits (n : Nat) (a b : Char) : Option (Fin n) :=
  if Lib.isDigit a && Lib.isDigit b then
    let v := Lib.digitValue a * 10 + Lib.digitValue b
    if h : v < n then some ⟨v, h⟩ else none
  else none

/-- The match of `/^([01]\d|2[0-3]):([0-5]\d)$/`. -/
def parseHhmm (s : String) : Option LocalTime :=
  match s.toList with
  | [a, b, ':', c, d] =>
    match twoDigits 24 a b, twoDigits 60 c d with
    | some hh, some mm => some ⟨hh, mm⟩
    | _, _ => none
  | _ => none

/-- One entry of the overrides: a malformed key or value is dropped. -/
def setTimeOfDay (out : Int → Option LocalTime) (entry : String × Json) : Int → Option LocalTime :=
  match (Number.ofString entry.1).toInteger with
  | none => out
  | some day =>
    if day < 0 ∨ 6 < day then out
    else
      match entry.2 with
      | .str v =>
        match parseHhmm v with
        | some t => Function.update out day (some t)
        | none => out
      | _ => out

def parseTimesByDay (raw : Json) : Int → Option LocalTime :=
  raw.entries.foldl setTimeOfDay fun _ => none

/-! ## Occurrences -/

/-- The numbers of a meeting-days column. -/
def meetingDaysOf (raw : Json) : List Number :=
  (raw.items.map Json.toNumber).filter fun n => !n.isNaN

/-- A schedule with every field it needs. -/
structure Cadence where
  startDate : Int
  durationWeeks : Int
  days : List Number
  general : LocalTime
  perDay : Int → Option LocalTime
  timezone : String

/-- The checks of `listOccurrences`: a schedule that fails one has no meeting. -/
def CourseSchedule.cadence (schedule : CourseSchedule) : Option Cadence :=
  match schedule.startDate, schedule.durationWeeks, schedule.meetingTime, schedule.timezone with
  | some startDate, some durationWeeks, some meetingTime, some timezone =>
    let days := meetingDaysOf schedule.meetingDays
    if durationWeeks = 0 ∨ meetingTime = "" ∨ timezone = "" ∨ days.isEmpty then none
    else
      (parseHhmm meetingTime).map fun general =>
        { startDate, durationWeeks, days, general, timezone
          perDay := parseTimesByDay schedule.meetingTimesByDay }
  | _, _, _, _ => none

/-- A day the program meets on (its midnight as UTC) and the time it meets at. -/
structure Meeting where
  dt : Int
  time : LocalTime
deriving DecidableEq, Repr

def Meeting.date (m : Meeting) : Civil.Date :=
  Civil.ofDays (m.dt / DAY_MS)

def Cadence.meetingOn (c : Cadence) (dt : Int) : Option Meeting :=
  let dow := Civil.weekday (dt / DAY_MS)
  if Number.ofInt dow ∈ c.days then some ⟨dt, (c.perDay dow).getD c.general⟩ else none

/-- The program's first local calendar day. -/
def Cadence.base (c : Cadence) (tz : Zone) : Int :=
  let startKey := partsInTz c.startDate tz
  dateUTC startKey.year (startKey.month - 1) startKey.day 0 0 0

/-- The walk day by day from the first local day. -/
def Cadence.meetings (c : Cadence) (tz : Zone) : List Meeting :=
  (List.range (c.durationWeeks * 7).toNat).filterMap fun (i : Nat) =>
    c.meetingOn (c.base tz + i * DAY_MS)

def occurrence (tz : Zone) (m : Meeting) : Occurrence :=
  { dateKey := dateKey m.date.year m.date.month m.date.day
    scheduledAt := zonedWallTimeToUtc m.date.year m.date.month m.date.day m.time.hh m.time.mm tz }

/-- All meeting occurrences across the program run, in chronological order. -/
def listOccurrences (tzdb : String → Option Zone) (schedule : CourseSchedule) :
    Except RangeError (List Occurrence) :=
  match schedule.cadence with
  | none => .ok []
  | some c =>
    match tzdb c.timezone with
    | none => .error ⟨c.timezone⟩
    | some tz => .ok ((c.meetings tz).map (occurrence tz))

/-- What a complete schedule holds. -/
theorem cadence_fields {s : CourseSchedule} {c : Cadence} (h : s.cadence = some c) :
    s.meetingTime.bind parseHhmm = some c.general ∧ s.timezone = some c.timezone ∧
      c.days = meetingDaysOf s.meetingDays ∧ c.perDay = parseTimesByDay s.meetingTimesByDay := by
  unfold CourseSchedule.cadence at h
  split at h
  · rename_i hmeeting htimezone
    simp only at h
    split at h
    · cases h
    · obtain ⟨general, hgeneral, rfl⟩ := Option.map_eq_some_iff.1 h
      rw [hmeeting, htimezone]
      exact ⟨hgeneral, rfl, rfl, rfl⟩
  · cases h

/-- The number of days of the run. -/
def Cadence.dayCount (c : Cadence) : Nat :=
  (c.durationWeeks * 7).toNat

theorem meetingOn_some {c : Cadence} {dt : Int} {m : Meeting} :
    c.meetingOn dt = some m ↔ Number.ofInt (Civil.weekday (dt / DAY_MS)) ∈ c.days ∧
      m = ⟨dt, (c.perDay (Civil.weekday (dt / DAY_MS))).getD c.general⟩ := by
  unfold Cadence.meetingOn
  simp only
  split
  · rename_i hday
    rw [Option.some.injEq, eq_comm]
    exact ⟨fun h => ⟨hday, h⟩, fun h => h.2⟩
  · rename_i hday
    constructor
    · intro h
      cases h
    · exact fun h => absurd h.1 hday

theorem mem_meetings {c : Cadence} {tz : Zone} {m : Meeting} :
    m ∈ c.meetings tz ↔ ∃ i : Nat, i < c.dayCount ∧ c.meetingOn (c.base tz + i * DAY_MS) = some m := by
  unfold Cadence.meetings Cadence.dayCount
  simp only [List.mem_filterMap, List.mem_range]

/-- The meetings come in the order of their days. -/
theorem meetings_sorted (c : Cadence) (tz : Zone) :
    (c.meetings tz).Pairwise fun m m' => m.dt < m'.dt := by
  apply List.Pairwise.filterMap _ _ List.pairwise_lt_range
  intro i j hij m hm m' hm'
  obtain ⟨-, rfl⟩ := meetingOn_some.1 hm
  obtain ⟨-, rfl⟩ := meetingOn_some.1 hm'
  unfold DAY_MS
  simp only
  omega

def dateKeyInTz (now : Int) (tz : Zone) : String :=
  let today := partsInTz now tz
  dateKey today.year today.month today.day

/-- The join window of a course at `now`. -/
def resolveJoinWindow (tzdb : String → Option Zone) (schedule : CourseSchedule) (now : Int) :
    Except RangeError JoinWindow := do
  let occurrences ← listOccurrences tzdb schedule
  match occurrences.isEmpty, schedule.timezone.bind tzdb with
  | false, some tz =>
    let todayKey := dateKeyInTz now tz
    let current := occurrences.find? fun o => o.dateKey == todayKey
    let next := occurrences.find? fun o => now < o.scheduledAt
    return { current, next, joinableNow := current.isSome }
  | _, _ => return { current := none, next := none, joinableNow := false }

namespace Example

/-- An hour ahead of UTC all year. -/
def lagos : Zone := .fixed 3600 (by omega)

def lagosZones (name : String) : Option Zone :=
  if name = "Africa/Lagos" then some lagos else none

def evening : LocalTime := ⟨18, 0⟩

def lateNight : LocalTime := ⟨3, 30⟩

end Example

end Livetich.Schedule
