/-
The calls that change a live session, as tasks that run from one database answer to the next:
`schedule`, `start`, `end` and `resolveCourseSession`. Courses and enrolments stay as they are. What a
call does after its last write to the table (the class-end assessment, what is emitted to the room)
changes no session and is left out.
-/
import Livetich.Sessions.Model
import Livetich.Lib.TransSys

namespace Livetich.Sessions

open Livetich.Schedule Livetich.Lib TransSys
open Livetich.Courses (Course Enrollment)

/-! ## Calls -/

structure CreateSessionDto where
  courseId : CourseId
  sectionId : Option String
  scheduledAt : Int
  deriving DecidableEq

/-- A request in flight, by the database call it waits for. -/
inductive Task
  /-- `schedule`: the course of `assertCourseOwner`, the section, the new row. -/
  | scheduleOwner (instructorId : UserId) (dto : CreateSessionDto)
  | scheduleSection (dto : CreateSessionDto)
  | scheduleCreate (dto : CreateSessionDto)
  | startRead (instructorId : UserId) (id : SessionId)
  | startWrite (id : SessionId) (courseId : CourseId)
  | endRead (user : JwtPayload) (id : SessionId)
  | endWrite (id : SessionId)
  /-- `resolveCourseSession`: the course, where to route, the LIVE session of the target. -/
  | resolveCourse (user : JwtPayload) (courseId : CourseId) (teach : Bool)
  | resolveRoute (user : JwtPayload) (course : Course) (teach : Bool)
  | resolveLive (user : JwtPayload) (target : Course) (teach : Bool)
  | resolveUpsert (target : Course) (host : Bool) (window : JoinWindow) (dateKey : String) (scheduledAt : Int)
  | resolveReopen (target : Course) (host : Bool) (id : SessionId)
  | resolveGoLive (target : Course) (id : SessionId)

structure State where
  db : Db
  tasks : Pool Task

/-- What a step finds beside the database: the clock, the id and the uuid of a new row, and whether a
section exists. -/
structure Env where
  now : Int
  freshId : SessionId
  uuid : String
  sectionFound : Bool

inductive Event
  | schedule (i : Nat) (instructorId : UserId) (dto : CreateSessionDto)
  | start (i : Nat) (instructorId : UserId) (id : SessionId)
  | finish (i : Nat) (user : JwtPayload) (id : SessionId)
  | resolve (i : Nat) (user : JwtPayload) (courseId : CourseId) (teach : Bool)
  /-- The call task `i` waits for is answered, and the task runs to its next call. -/
  | resume (i : Nat) (env : Env)
  /-- The call task `i` waits for fails, and the request with it. -/
  | fail (i : Nat)

namespace State

def goto (s : State) (i : Nat) (t : Option Task) : State := { s with tasks := s.tasks.put i t }

def setSessions (s : State) (sessions : Table SessionId LiveSession) : State :=
  { s with db := { s.db with sessions } }

def modify (s : State) (id : SessionId) (f : LiveSession → LiveSession) : State :=
  s.setSessions (s.db.sessions.modify id f)

end State

/-- `getOwned`: the course's instructor. -/
def ownedBy (db : Db) (instructorId : UserId) (session : LiveSession) : Bool :=
  (db.course session.courseId).any fun c => c.instructorId == some instructorId

/-- `getManageable`: the assigned instructor, or an admin of the owning organization. -/
def manageable (db : Db) (user : JwtPayload) (session : LiveSession) : Bool :=
  (db.course session.courseId).any fun c =>
    (user.role == .instructor && c.instructorId == some user.sub) ||
      (user.role == .orgAdmin && c.organizationId == user.organizationId)

def ended (now : Int) (s : LiveSession) : LiveSession := { s with status := .ended, endedAt := some now }

/-- `resolveCourseSession` after the session's status is known: sets an ENDED one back, then goes live. -/
def afterStatus (target : Course) (host : Bool) (id : SessionId) (status : SessionStatus) : Option Task :=
  if host && status == .scheduled then some (.resolveGoLive target id) else none

/-- `resolveCourseSession` once the session is found or created. -/
def afterUpsert (target : Course) (host : Bool) (window : JoinWindow) (id : SessionId)
    (session : LiveSession) : Option Task :=
  if reopens window host session.status then some (.resolveReopen target host id)
  else afterStatus target host id session.status

/-- `resolveCourseSession` once it knows whether a session of the target is LIVE. -/
def afterLive (tzdb : String → Option Zone) (now : Int) (user : JwtPayload) (target : Course)
    (teach : Bool) (activeLive : Option (SessionId × LiveSession)) : Option Task :=
  let host := goingLiveAsHost user teach target
  match joinWindow tzdb target now with
  | .error _ => none
  | .ok window =>
    match activeLive with
    | some (id, session) => afterUpsert target host window id session
    | none =>
      if !window.joinableNow && !host then none
      else
        let (dateKey, scheduledAt) := todaysMeeting tzdb target window now
        some (.resolveUpsert target host window dateKey scheduledAt)

/-- The next step of task `t`, numbered `i`. -/
def resume (tzdb : String → Option Zone) (s : State) (i : Nat) (env : Env) : Task → State
  | .scheduleOwner instructorId dto =>
    s.goto i (if (s.db.course dto.courseId).any (·.instructorId == some instructorId) then
      (if (dto.sectionId.filter (· ≠ "")).isSome then some (.scheduleSection dto) else some (.scheduleCreate dto))
    else none)
  | .scheduleSection dto => s.goto i (if env.sectionFound then some (.scheduleCreate dto) else none)
  | .scheduleCreate dto =>
    let row := LiveSession.create dto.courseId dto.sectionId dto.scheduledAt (.session env.uuid)
    (s.setSessions (s.db.sessions.insert env.freshId row)).goto i none
  | .startRead instructorId id =>
    s.goto i (((s.db.sessions.get id).filter fun r => ownedBy s.db instructorId r && r.status == .scheduled).map
      fun r => .startWrite id r.courseId)
  | .startWrite id _ => (s.modify id (wentLive env.now)).goto i none
  | .endRead user id =>
    s.goto i (((s.db.sessions.get id).filter fun r => manageable s.db user r && r.status == .live).map
      fun _ => .endWrite id)
  | .endWrite id => (s.modify id (ended env.now)).goto i none
  | .resolveCourse user courseId teach =>
    s.goto i ((s.db.course courseId).map fun course => .resolveRoute user course teach)
  | .resolveRoute user course teach =>
    s.goto i ((route s.db user course).toOption.map fun target => .resolveLive user target teach)
  | .resolveLive user target teach =>
    s.goto i (afterLive tzdb env.now user target teach (s.db.liveOf target.id))
  | .resolveUpsert target host window dateKey scheduledAt =>
    let (sessions, id, session) := upsert s.db.sessions env.freshId target.id dateKey scheduledAt
    (s.setSessions sessions).goto i (afterUpsert target host window id session)
  | .resolveReopen target host id =>
    (s.modify id reopened).goto i (afterStatus target host id .scheduled)
  | .resolveGoLive _ id => (s.modify id (wentLive env.now)).goto i none

/-- The id and the uuid of a new row are not in use. -/
def Env.fresh (env : Env) (s : State) : Bool :=
  (s.db.sessions.get env.freshId).isNone && (s.db.byRoom (.session env.uuid)).isNone

/-- Start task `i`. -/
def spawn (s : State) (i : Nat) (t : Task) : Option State :=
  if s.tasks.get i = none then some (s.goto i (some t)) else none

def step (tzdb : String → Option Zone) (s : State) : Event → Option State
  | .schedule i instructorId dto => spawn s i (.scheduleOwner instructorId dto)
  | .start i instructorId id => spawn s i (.startRead instructorId id)
  | .finish i user id => spawn s i (.endRead user id)
  | .resolve i user courseId teach => spawn s i (.resolveCourse user courseId teach)
  | .resume i env =>
    if env.fresh s then (s.tasks.get i).map (resume tzdb s i env) else none
  | .fail i => (s.tasks.get i).map fun _ => s.goto i none

end Livetich.Sessions
