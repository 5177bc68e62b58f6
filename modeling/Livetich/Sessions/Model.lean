/-
Live sessions and the two routines that decide whether one may be joined:
`SessionsService.resolveCourseSession`, which routes a user to a course and opens today's session
there, and `courseSessionStatus`, which tells the course page about its Join button. Room names are
kept as what they are built from; the schedule reads the clock through the argument `now`.
-/
import Livetich.Courses.Model
import Livetich.Lib.Table

namespace Livetich.Sessions

open Livetich.Schedule Livetich.Lib
open Livetich.Courses (Course Enrollment)

/-- `livekitRoom`: `session-<uuid>`, or `course-<courseId>-<dateKey>`. -/
inductive Room
  | session (uuid : String)
  | course (courseId : CourseId) (dateKey : String)
  deriving DecidableEq, Repr

structure LiveSession where
  courseId : CourseId
  sectionId : Option String
  status : SessionStatus
  livekitRoom : Room
  scheduledAt : Int
  startedAt : Option Int
  endedAt : Option Int
  deriving DecidableEq

/-- A new row; it is SCHEDULED unless it says otherwise. -/
def LiveSession.create (courseId : CourseId) (sectionId : Option String) (scheduledAt : Int)
    (livekitRoom : Room) : LiveSession :=
  { courseId, sectionId, status := .scheduled, livekitRoom, scheduledAt, startedAt := none, endedAt := none }

structure Db where
  courses : List Course
  enrollments : List Enrollment
  sessions : Table SessionId LiveSession

inductive SessionError
  | notFound (message : String)
  | forbidden (message : String)
  | conflict (message : String)
  /-- `Intl.DateTimeFormat` refuses the time zone of a course. -/
  | range (e : RangeError)

/-! ## Queries -/

def Db.course (db : Db) (id : CourseId) : Option Course :=
  db.courses.find? fun c => c.id == id

/-- The id of the program a course is a batch of; an empty string counts as none. -/
def parentOf (course : Course) : Option CourseId := course.parentCourseId.filter (· ≠ "")

def Db.isBatchOf (db : Db) (courseId : CourseId) (batchId : CourseId) : Bool :=
  (db.course batchId).any fun c => c.parentCourseId == some courseId

/-- `findFirst` of a LIVE session of a course. -/
def Db.liveOf (db : Db) (courseId : CourseId) : Option (SessionId × LiveSession) :=
  db.sessions.entries.find? fun e => e.2.courseId == courseId && e.2.status == .live

/-- `findFirst` of a LIVE session of a batch of a course. -/
def Db.childLive (db : Db) (courseId : CourseId) : Option (SessionId × LiveSession) :=
  db.sessions.entries.find? fun e => db.isBatchOf courseId e.2.courseId && e.2.status == .live

def Db.byRoom (db : Db) (room : Room) : Option (SessionId × LiveSession) :=
  db.sessions.entries.find? fun e => e.2.livekitRoom == room

def Db.enrolled (db : Db) (courseId : CourseId) (studentId : UserId) : Bool :=
  db.enrollments.any fun e => e.courseId == courseId && e.studentId == studentId

/-- `findFirst` of an enrolment of the student in a batch of the course, with that batch. -/
def Db.batchOf (db : Db) (courseId : CourseId) (studentId : UserId) : Option Course :=
  db.enrollments.findSome? fun e =>
    if e.studentId = studentId then (db.course e.courseId).filter (·.parentCourseId = some courseId)
    else none

/-- A session of the course is LIVE. -/
def Live (db : Db) (courseId : CourseId) : Prop :=
  ∃ id s, db.sessions.get id = some s ∧ s.courseId = courseId ∧ s.status = .live

/-- A session of a batch of the course is LIVE. -/
def BatchLive (db : Db) (courseId : CourseId) : Prop :=
  ∃ id s, db.sessions.get id = some s ∧ db.isBatchOf courseId s.courseId = true ∧ s.status = .live

theorem liveOf_isSome {db : Db} {courseId : CourseId} : (db.liveOf courseId).isSome = true ↔ Live db courseId := by
  unfold Db.liveOf Live
  rw [Table.find_isSome]
  simp only [Bool.and_eq_true, beq_iff_eq]

theorem childLive_isSome {db : Db} {courseId : CourseId} :
    (db.childLive courseId).isSome = true ↔ BatchLive db courseId := by
  unfold Db.childLive BatchLive
  rw [Table.find_isSome]
  simp only [Bool.and_eq_true, beq_iff_eq]

/-! ## Joining -/

/-- Where `resolveCourseSession` sends a user who asks for `course`. -/
def route (db : Db) (user : JwtPayload) (course : Course) : Except SessionError Course :=
  match user.role with
  | .student =>
    if db.enrolled course.id user.sub then .ok course
    else
      match db.batchOf course.id user.sub with
      | some batch => .ok batch
      | none => .error (.forbidden "Not enrolled")
  | .instructor =>
    if course.instructorId = some user.sub then .ok course
    else
      match db.courses.find? fun c => c.parentCourseId == some course.id && c.instructorId == some user.sub with
      | some batch => .ok batch
      | none => .error (.forbidden "Not your course")
  | .orgAdmin =>
    match (db.childLive course.id).bind fun e => db.course e.2.courseId with
    | some batch => .ok batch
    | none => .ok course

/-- The owner, or an admin of the owning organization who enters to teach. -/
def goingLiveAsHost (user : JwtPayload) (teach : Bool) (target : Course) : Bool :=
  (user.role == .instructor && target.instructorId == some user.sub) ||
    (user.role == .orgAdmin && target.organizationId == user.organizationId && teach)

/-- `resolveJoinWindow`; an unknown time zone throws. -/
def joinWindow (tzdb : String → Option Zone) (course : Course) (now : Int) :
    Except SessionError JoinWindow :=
  (resolveJoinWindow tzdb course.schedule now).mapError .range

def utc : Zone := .fixed 0 (by omega)

/-- The local date in a time zone, or the UTC date when there is no such zone. -/
def todayDateKey (tzdb : String → Option Zone) (tz : String) (now : Int) : String :=
  dateKeyInTz now ((tzdb tz).getD utc)

def notScheduled : SessionError := .conflict "No live session scheduled right now"

/-- The date key of today's room, and when its session is scheduled. -/
def todaysMeeting (tzdb : String → Option Zone) (target : Course) (window : JoinWindow) (now : Int) :
    String × Int :=
  let tz := (target.timezone.filter (· ≠ "")).getD "UTC"
  match window.current with
  | some o => (o.dateKey, o.scheduledAt)
  | none => (todayDateKey tzdb tz now, now)

/-- `upsert` on the room name: the first join of a day creates the row. -/
def upsert (sessions : Table SessionId LiveSession) (freshId : SessionId) (courseId : CourseId)
    (dateKey : String) (scheduledAt : Int) : Table SessionId LiveSession × SessionId × LiveSession :=
  match sessions.entries.find? fun e => e.2.livekitRoom == .course courseId dateKey with
  | some (id, session) => (sessions, id, session)
  | none =>
    let session := LiveSession.create courseId none scheduledAt (.course courseId dateKey)
    (sessions.insert freshId session, freshId, session)

/-- Re-opens an ENDED session. -/
def reopened (s : LiveSession) : LiveSession := { s with status := .scheduled, endedAt := none }

def wentLive (now : Int) (s : LiveSession) : LiveSession := { s with status := .live, startedAt := some now }

/-- Whether a join sets an ENDED session back to SCHEDULED. -/
def reopens (window : JoinWindow) (host : Bool) (status : SessionStatus) : Bool :=
  status == .ended && (window.joinableNow || host)

/-- `resolveCourseSession`, from the course row on, with nothing else running: the session to join, and
the sessions after it. -/
def enter (db : Db) (tzdb : String → Option Zone) (now : Int) (freshId : SessionId) (user : JwtPayload)
    (teach : Bool) (target : Course) : Except SessionError (SessionId × Table SessionId LiveSession) := do
  let host := goingLiveAsHost user teach target
  let activeLive := db.liveOf target.id
  let window ← joinWindow tzdb target now
  if activeLive.isNone && !window.joinableNow && !host then throw notScheduled
  let (dateKey, scheduledAt) := todaysMeeting tzdb target window now
  let (sessions, id, session) := match activeLive with
    | some (id, session) => (db.sessions, id, session)
    | none => upsert db.sessions freshId target.id dateKey scheduledAt
  let opened := reopens window host session.status
  let sessions := if opened then sessions.modify id reopened else sessions
  let status := if opened then .scheduled else session.status
  let sessions := if host && status == .scheduled then sessions.modify id (wentLive now) else sessions
  return (id, sessions)

def resolveCourseSession (db : Db) (tzdb : String → Option Zone) (now : Int) (freshId : SessionId)
    (user : JwtPayload) (courseId : CourseId) (teach : Bool) :
    Except SessionError (SessionId × Table SessionId LiveSession) :=
  match db.course courseId with
  | none => throw (.notFound "Course not found")
  | some course => do
    let target ← route db user course
    enter db tzdb now freshId user teach target

/-! ## The Join button -/

structure CourseStatus where
  joinableNow : Bool
  isLive : Bool
  nextAt : Option Int
  activeBatchId : Option CourseId
  activeBatchTitle : Option String
  deriving DecidableEq

/-- The SCHEDULED session of a batch that is due first. -/
def Db.nextOfBatches (db : Db) (courseId : CourseId) (now : Int) : Option LiveSession :=
  let due := (db.sessions.entries.map (·.2)).filter fun s =>
    db.isBatchOf courseId s.courseId && s.status == .scheduled && decide (now ≤ s.scheduledAt)
  due.foldr (fun s first => match first with
    | some f => if f.scheduledAt < s.scheduledAt then some f else some s
    | none => some s) none

def Db.titleOf (db : Db) (courseId : CourseId) : Option String := (db.course courseId).map (·.title)

def courseSessionStatus (db : Db) (tzdb : String → Option Zone) (now : Int) (courseId : CourseId) :
    Except SessionError CourseStatus :=
  match db.course courseId with
  | none => throw (.notFound "Course not found")
  | some course => do
    let own := db.liveOf courseId
    let child := if own.isNone && (parentOf course).isNone then db.childLive courseId else none
    let window ← joinWindow tzdb course now
    let activeLive := own.or child
    let today := window.current.bind fun o => db.byRoom (.course courseId o.dateKey)
    let isLive := activeLive.isSome || today.any (·.2.status == .live)
    let scheduled := (activeLive.map (·.2.scheduledAt)).or
      ((window.current.or window.next).map (·.scheduledAt))
    let batch := if scheduled.isNone && (parentOf course).isNone then db.nextOfBatches courseId now else none
    let activeBatch := (child.map (·.2)).or batch
    return { joinableNow := isLive || window.joinableNow
             isLive
             nextAt := scheduled.or (batch.map (·.scheduledAt))
             activeBatchId := activeBatch.map (·.courseId)
             activeBatchTitle := activeBatch.bind fun s => db.titleOf s.courseId }

namespace Example

/-- A course without a schedule. -/
def unscheduled (id : CourseId) (parentCourseId : Option CourseId) : Course :=
  { id, organizationId := some "org", instructorId := some "t", parentCourseId
    title := "Web", description := none, posterUrl := none, code := none, category := none
    level := none, startDate := none, durationWeeks := none, meetingDays := .null, meetingTime := none
    meetingTimesByDay := .null, timezone := none
    scheduleUpdatedAt := none, instantClassAssessment := true, pluginKeys := .null }

end Example

end Livetich.Sessions
