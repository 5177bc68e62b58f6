/-
The calendar file of a class (`calendar-ics.ts`): one weekly event with the general meeting time.
`IcsEvent` holds the values of its properties as the file has them, `IcsEvent.lines` the file.
-/
import Livetich.Lib.Ical
import Livetich.Schedule.WallClock

namespace Livetich.Schedule

open Livetich.Js Livetich.Lib

/-! ## Stamps -/

def ICS_DAYS : List String := ["SU", "MO", "TU", "WE", "TH", "FR", "SA"]

def DURATION_MIN : Int := 60

def utcStamp (d : Int) : String :=
  let date := Civil.ofDays (d / DAY_MS)
  let secs := d % DAY_MS / 1000
  toString date.year ++ pad date.month ++ pad date.day ++
    "T" ++ pad (secs / 3600) ++ pad (secs % 3600 / 60) ++ pad (secs % 60) ++ "Z"

/-- `+text.slice(from, to)`, as an integer. -/
def sliceNumber (text : String) (start stop : Nat) : Option Int :=
  (Number.ofChars ((text.toList.drop start).take (stop - start))).toInteger

/-- The wall-clock stamp of a day key and a time; parts that are no integers leave an invalid date,
whose fields are all `NaN`. -/
def localStamp (dateKey : String) (hh mm : Option Int) (addMin : Int) : String :=
  match sliceNumber dateKey 0 4, sliceNumber dateKey 5 7, sliceNumber dateKey 8 10, hh, mm with
  | some y, some mo, some d, some hh, some mm =>
    let t := dateUTC y (mo - 1) d hh mm 0 + addMin * 60000
    let date := Civil.ofDays (t / DAY_MS)
    let mins := t % DAY_MS / 60000
    toString date.year ++ pad date.month ++ pad date.day ++
      "T" ++ pad (mins / 60) ++ pad (mins % 60) ++ "00"
  | _, _, _, _, _ => "NaNNaNNaNTNaNNaN00"

def esc (s : String) : String :=
  (((s.replace "\\" "\\\\").replace ";" "\\;").replace "," "\\,").replace "\n" "\\n"

/-! ## The event -/

structure IcsCourse extends CourseSchedule where
  id : String
  title : String
  scheduleUpdatedAt : Option Int

/-- The property values of the emitted event. -/
structure IcsEvent where
  uid : String
  seq : Int
  dtstamp : String
  tzid : String
  dtstart : String
  dtend : String
  byday : String
  untilStamp : String
  title : String
deriving DecidableEq, Repr

/-- `ICS_DAYS[d]` in a joined list, where a value out of range leaves nothing. -/
def icsDay (d : Number) : String :=
  match d.toInteger with
  | some n => if 0 ≤ n then (ICS_DAYS[n.toNat]?).getD "" else ""
  | none => ""

/-- `texts.join(',')`. -/
def joinCommas (texts : List String) : String :=
  String.ofList ([','].intercalate (texts.map String.toList))

/-- The calendar sequence of a course: the second of its last schedule change. -/
def sequence (scheduleUpdatedAt : Option Int) : Int :=
  match scheduleUpdatedAt with
  | some t => t / 1000
  | none => 0

/-- The hour and the minute of a meeting time, as `split(':').map(Number)` reads them. -/
def splitTime (meetingTime : String) : Option Int × Option Int :=
  let parts := (meetingTime.toList.splitOn ':').map fun cs => (Number.ofChars cs).toInteger
  (parts[0]?.join, parts[1]?.join)

/-- The event of a course from its occurrences, or none when there is no occurrence. -/
def icsEvent (course : IcsCourse) (host : String) (now : Int) (occ : List Occurrence) :
    Option IcsEvent :=
  match occ.head?, occ.getLast?, course.meetingTime, course.timezone with
  | some first, some last, some meetingTime, some timezone =>
    let days := meetingDaysOf course.meetingDays
    let (hh, mm) := splitTime meetingTime
    some
      { uid := "course-" ++ course.id ++ "@" ++ host
        seq := sequence course.scheduleUpdatedAt
        dtstamp := utcStamp now
        tzid := timezone
        dtstart := localStamp first.dateKey hh mm 0
        dtend := localStamp first.dateKey hh mm DURATION_MIN
        byday := joinCommas (days.map icsDay)
        untilStamp := utcStamp last.scheduledAt
        title := course.title }
  | _, _, _, _ => none

def IcsEvent.lines (e : IcsEvent) : List String :=
  [ "BEGIN:VCALENDAR",
    "VERSION:2.0",
    "PRODID:-//livetich//class//EN",
    "CALSCALE:GREGORIAN",
    "METHOD:PUBLISH",
    "BEGIN:VEVENT",
    "UID:" ++ e.uid,
    "SEQUENCE:" ++ toString e.seq,
    "DTSTAMP:" ++ e.dtstamp,
    "DTSTART;TZID=" ++ e.tzid ++ ":" ++ e.dtstart,
    "DTEND;TZID=" ++ e.tzid ++ ":" ++ e.dtend,
    "RRULE:FREQ=WEEKLY;BYDAY=" ++ e.byday ++ ";UNTIL=" ++ e.untilStamp,
    "SUMMARY:" ++ esc e.title,
    "DESCRIPTION:" ++ esc ("Live class on livetich — " ++ e.title),
    "BEGIN:VALARM",
    "TRIGGER:-PT15M",
    "ACTION:DISPLAY",
    "DESCRIPTION:" ++ esc (e.title ++ " starts in 15 minutes"),
    "END:VALARM",
    "END:VEVENT",
    "END:VCALENDAR" ]

/-- The file: its lines, each closed by a line break. -/
def IcsEvent.render (e : IcsEvent) : String :=
  String.join (e.lines.map fun line => line ++ "\r\n")

def courseEvent (tzdb : String → Option Zone) (course : IcsCourse) (host : String) (now : Int) :
    Except RangeError (Option IcsEvent) :=
  (listOccurrences tzdb course.toCourseSchedule).map (icsEvent course host now)

/-- The calendar file of a course, or none when it cannot be scheduled yet. -/
def buildCourseIcs (tzdb : String → Option Zone) (course : IcsCourse) (host : String) (now : Int) :
    Except RangeError (Option String) :=
  (courseEvent tzdb course host now).map fun event => event.map IcsEvent.render

/-! ## The event read back -/

/-- The weekly recurrence that the event's values spell, if they are well formed. -/
def IcsEvent.read (e : IcsEvent) : Option Ical.Weekly :=
  match Ical.parseLocal e.dtstart.toList, Ical.parseByday e.byday.toList,
    Ical.parseUtc e.untilStamp.toList with
  | some dtstart, some byday, some untilTime => some { dtstart, byday, untilTime }
  | _, _, _ => none

/-- The recurrence of the event gives exactly the instants of the occurrences. -/
def Describes (tz : Zone) (e : IcsEvent) (occ : List Occurrence) : Prop :=
  ∃ r, e.read = some r ∧ ∀ t, t ∈ r.instants tz ↔ ∃ o ∈ occ, o.scheduledAt = t

end Livetich.Schedule
