/-
The rows `CoursesService` reads and writes, the errors it answers with, and the checks its methods
share. A JSON column that holds no value reads as `null`.
-/
import Livetich.Lib.Checked
import Livetich.Model
import Livetich.Schedule.Occurrences

namespace Livetich.Courses

open Livetich.Js Livetich.Schedule

/-! ## Rows -/

structure Course where
  id : CourseId
  organizationId : Option OrganizationId
  instructorId : Option UserId
  parentCourseId : Option CourseId
  title : String
  description : Option String
  posterUrl : Option String
  code : Option String
  category : Option String
  level : Option String
  startDate : Option Int
  durationWeeks : Option Int
  meetingDays : Json
  meetingTime : Option String
  meetingTimesByDay : Json
  timezone : Option String
  scheduleUpdatedAt : Option Int
  instantClassAssessment : Bool
  pluginKeys : Json

/-- The schedule inputs of a row. -/
def Course.schedule (c : Course) : CourseSchedule :=
  { startDate := c.startDate, durationWeeks := c.durationWeeks, meetingDays := c.meetingDays
    meetingTime := c.meetingTime, meetingTimesByDay := c.meetingTimesByDay, timezone := c.timezone }

/-- The role a user has in an organization, and whether it is active. -/
structure OrgMembership where
  userId : UserId
  organizationId : OrganizationId
  role : Role
  active : Bool

/-- An enrolment, with the student it selects. -/
structure Enrollment where
  courseId : CourseId
  studentId : UserId
  name : String
  email : String
  reminderAddedAt : Option Int

structure Db where
  courses : List Course
  memberships : List OrgMembership
  enrollments : List Enrollment

def Db.course (db : Db) (id : CourseId) : Option Course :=
  db.courses.find? fun c => c.id == id

inductive HttpError
  | forbidden (message : String)
  | notFound (message : String)
  | badRequest (message : String)
  /-- A rejected write, or a value the database client refuses. -/
  | internal
  deriving DecidableEq, Repr

abbrev Result (α : Type) := Except HttpError α

/-- What a request finds outside the service: the clock, `new Date(text)` (nothing for an invalid
date), the identifier of a new row, and whether the transaction that writes a row commits. -/
structure Env where
  now : Int
  newDate : String → Option Int
  freshId : CourseId
  commits : Course → Bool

/-! ## Checks -/

/-- A check that throws unless it holds. -/
def require (p : Prop) [Decidable p] (e : HttpError) : Result Unit :=
  if p then .ok () else .error e

theorem require_ok {p : Prop} [Decidable p] {e : HttpError} {u : Unit} (h : require p e = .ok u) : p := by
  unfold require at h
  split at h
  · assumption
  · cases h

/-- A row that is found, or an error. -/
def found {α : Type} (x : Option α) (e : HttpError) : Result α :=
  match x with
  | some a => .ok a
  | none => .error e

theorem found_ok {α : Type} {x : Option α} {e : HttpError} {a : α} (h : found x e = .ok a) :
    x = some a := by
  cases x with
  | none => cases h
  | some b => cases h; rfl

/-- A check of a value that may be absent; an empty string counts as absent. -/
def whenGiven (x : Option String) (check : String → Result Unit) : Result Unit :=
  match x.filter (· ≠ "") with
  | some a => check a
  | none => .ok ()

def orgOf (user : JwtPayload) : Result OrganizationId :=
  found (user.organizationId.filter (· ≠ "")) (.forbidden "No organization on this account")

def assertOrgInstructor (db : Db) (orgId : OrganizationId) (instructorId : UserId) : Result Unit :=
  require ((db.memberships.find? fun m => m.userId == instructorId && m.organizationId == orgId).any
      fun m => m.active && m.role == .instructor)
    (.badRequest "Instructor not found in your organization")

def assertCodeAvailable (db : Db) (organizationId : OrganizationId) (parentCourseId : Option CourseId)
    (code : String) (exceptCourseId : Option CourseId) : Result Unit :=
  match db.courses.find? fun c => c.organizationId == some organizationId &&
      c.parentCourseId == parentCourseId && c.code == some code && exceptCourseId != some c.id with
  | none => .ok ()
  | some clash =>
    .error (.badRequest (if parentCourseId.isSome then
      "\"" ++ code ++ "\" is already the code for another intake of this program"
    else "\"" ++ code ++ "\" is already the code for \"" ++ clash.title ++ "\""))

/-- Assigned instructor of the course, or an admin of the owning org. -/
def assertCanManageCourse (db : Db) (user : JwtPayload) (courseId : CourseId) : Result Unit := do
  let course ← found (db.course courseId) (.notFound "Course not found")
  let isOwningAdmin := user.role == .orgAdmin && user.organizationId.isSome &&
    course.organizationId == user.organizationId
  require (isOwningAdmin ∨ course.instructorId = some user.sub) (.forbidden "Not your course")

def trimString (s : String) : String :=
  String.ofList (trim s.toList)

/-- `code.trim().toUpperCase()` of a code that is given, which holds letters and digits only. -/
def normalizeCode (code : Option String) : Option String :=
  (code.filter (· ≠ "")).map fun c => (trimString c).toUpper

end Livetich.Courses
