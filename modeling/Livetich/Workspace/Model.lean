/-
The rows behind a coding workspace and the context that `CodingWorkspaceService` loads from them.
An enrolment has at most one workspace, which is deleted with it, so the workspace is part of the
enrolment's row; its course and student are the enrolment's. A course has at most one git
configuration, which is deleted with it.
-/
import Livetich.Courses.Model
import Livetich.Lib.Checked
import Livetich.Lib.Table

namespace Livetich.Workspace

open Livetich.Lib
open Livetich.Courses (Course OrgMembership)

abbrev EnrollmentId := String

/-! ## Rows -/

inductive CodingWorkspaceStatus
  | notCreated
  | provisioning
  | active
  | archived
  | withdrawn
  | error
  deriving DecidableEq

inductive CodingSubmissionMode
  | git
  | upload
  deriving DecidableEq

inductive GitHubConnectionStatus
  | active
  | suspended
  | revoked
  deriving DecidableEq

structure CodingProgramGitConfig where
  templateRepositoryName : Option String
  defaultBranch : String
  deriving DecidableEq

/-- What a course row holds for coding. -/
structure CourseCoding where
  codingSubmissionMode : Option CodingSubmissionMode
  gitConfig : Option CodingProgramGitConfig
  deriving DecidableEq

structure GitHubOrganizationConnection where
  githubInstallationId : String
  githubOrganizationLogin : String
  status : GitHubConnectionStatus
  deriving DecidableEq

/-- `CodingEnrollmentWorkspace`. -/
structure EnrollmentWorkspace where
  status : CodingWorkspaceStatus
  githubRepositoryId : Option String
  githubRepositoryName : Option String
  githubRepositoryFullName : Option String
  defaultBranch : String
  courseBaseSha : Option String
  lastError : Option String
  lastSyncedAt : Option Nat
  updatedAt : Nat
  deriving DecidableEq

structure Enrollment where
  courseId : CourseId
  studentId : UserId
  no : Option Nat
  workspace : Option EnrollmentWorkspace
  deriving DecidableEq

structure Rows where
  courses : List Course
  coding : CourseId → CourseCoding
  memberships : List OrgMembership
  connections : OrganizationId → Option GitHubOrganizationConnection
  githubLogins : UserId → Option String
  enrollments : Table EnrollmentId Enrollment

def Rows.course (rows : Rows) (id : CourseId) : Option Course :=
  rows.courses.find? fun c => c.id == id

def Rows.gitConfig (rows : Rows) (id : CourseId) : Option CodingProgramGitConfig :=
  (rows.course id).bind fun _ => (rows.coding id).gitConfig

inductive HttpError
  | notFound (message : String)
  | forbidden (message : String)
  | badRequest (message : String)
  | serviceUnavailable (message : String)
  /-- A failure of the database or of GitHub that no handler turns into an answer. -/
  | internal (message : String)
  deriving DecidableEq

abbrev Result (α : Type) := Except HttpError α

/-- A string column that is set and not empty, as a truth test reads it. -/
def nonEmpty (x : Option String) : Option String := x.filter (· ≠ "")

/-- `const [owner, repo] = fullName.split('/')`, both of them not empty. -/
def splitFullName (fullName : String) : Option (String × String) :=
  match fullName.toList.splitOn '/' with
  | owner :: repo :: _ => if owner = [] ∨ repo = [] then none else some (String.ofList owner, String.ofList repo)
  | _ => none

/-! ## Context -/

/-- The enrolment with what `loadContext` includes in its first query. -/
structure LoadedEnrollment where
  id : EnrollmentId
  enrollment : Enrollment
  githubLogin : Option String
  course : Course
  courseCoding : CourseCoding
  parentCourse : Option (Course × CourseCoding)

structure WorkspaceContext where
  enrollmentId : EnrollmentId
  courseId : CourseId
  no : Option Nat
  workspace : Option EnrollmentWorkspace
  studentId : UserId
  githubLogin : String
  organizationId : Option OrganizationId
  courseTitle : String
  programTitle : String
  programCode : Option String
  cohortCode : Option String
  templateRepositoryName : Option String
  defaultBranch : String
  hasGitConfig : Bool
  submissionMode : Option CodingSubmissionMode
  connectionLogin : String
  installationId : String
  connectionActive : Bool

/-- The first half of `loadContext`: the enrolment, which has to be the caller's own. -/
def loadEnrollment (rows : Rows) (user : UserId) (enrollmentId : EnrollmentId) : Result LoadedEnrollment := do
  let enrollment ← orThrow (rows.enrollments.get enrollmentId) (.notFound "Enrolment not found")
  let course ← orThrow (rows.course enrollment.courseId) (.internal "an enrolment has a course")
  ensure (enrollment.studentId = user) (.forbidden "This is not your enrolment")
  return {
    id := enrollmentId
    enrollment := enrollment
    githubLogin := rows.githubLogins enrollment.studentId
    course := course
    courseCoding := rows.coding course.id
    parentCourse := (course.parentCourseId.bind rows.course).map fun p => (p, rows.coding p.id) }

/-- The git configuration in effect: the program's, else the course's own. -/
def LoadedEnrollment.gitConfig (l : LoadedEnrollment) : Option CodingProgramGitConfig :=
  (l.parentCourse.bind (·.2.gitConfig)) <|> l.courseCoding.gitConfig

/-- The second half of `loadContext`, once the connection is read. A batch inherits its program's
configuration; a course without a parent is itself the program. -/
def LoadedEnrollment.context (l : LoadedEnrollment)
    (connection : Option GitHubOrganizationConnection) : WorkspaceContext :=
  let program := l.parentCourse.getD (l.course, l.courseCoding)
  let gitConfig := l.gitConfig
  { enrollmentId := l.id
    courseId := l.enrollment.courseId
    no := l.enrollment.no
    workspace := l.enrollment.workspace
    studentId := l.enrollment.studentId
    githubLogin := l.githubLogin.getD ""
    organizationId := l.course.organizationId
    courseTitle := l.course.title
    programTitle := program.1.title
    programCode := program.1.code
    cohortCode := l.course.code
    templateRepositoryName := gitConfig.bind (·.templateRepositoryName)
    defaultBranch := (gitConfig.map (·.defaultBranch)).getD "main"
    hasGitConfig := gitConfig.isSome
    submissionMode := program.2.codingSubmissionMode
    connectionLogin := (connection.map (·.githubOrganizationLogin)).getD ""
    installationId := (connection.map (·.githubInstallationId)).getD ""
    connectionActive := connection.any (·.status = .active) }

/-- The connection of the organization that the course belongs to. -/
def Rows.connectionOf (rows : Rows) (course : Course) : Option GitHubOrganizationConnection :=
  course.organizationId.bind rows.connections

def loadContext (rows : Rows) (user : UserId) (enrollmentId : EnrollmentId) : Result WorkspaceContext := do
  let l ← loadEnrollment rows user enrollmentId
  return l.context (rows.connectionOf l.course)

/-- A template repository, and the branch whose head counts as what its copies start from. -/
structure StartingCode where
  owner : String
  repo : String
  branch : String
  deriving DecidableEq

/-- What `provision` makes a new repository from; an empty one without a template. -/
def WorkspaceContext.startingCode (ctx : WorkspaceContext) : Option StartingCode :=
  (nonEmpty ctx.templateRepositoryName).map fun template => ⟨ctx.connectionLogin, template, ctx.defaultBranch⟩

theorem course_id {rows : Rows} {id : CourseId} {course : Course} (h : rows.course id = some course) :
    course.id = id := by
  simpa using List.find?_some h

/-- What is loaded: the enrolment, which is the caller's, with its course and the course's program. -/
theorem loadEnrollment_ok {rows : Rows} {user : UserId} {enrollmentId : EnrollmentId} {l : LoadedEnrollment}
    (h : loadEnrollment rows user enrollmentId = .ok l) :
    ∃ enrollment course, rows.enrollments.get enrollmentId = some enrollment ∧
      rows.course enrollment.courseId = some course ∧ enrollment.studentId = user ∧
      l = ⟨enrollmentId, enrollment, rows.githubLogins enrollment.studentId, course, rows.coding course.id,
        (course.parentCourseId.bind rows.course).map fun p => (p, rows.coding p.id)⟩ := by
  unfold loadEnrollment at h
  obtain ⟨enrollment, henrollment, h⟩ := bind_ok_iff.1 h
  obtain ⟨course, hcourse, h⟩ := bind_ok_iff.1 h
  obtain ⟨_, hown, h⟩ := bind_ok_iff.1 h
  cases h
  exact ⟨enrollment, course, orThrow_ok_iff.1 henrollment, orThrow_ok_iff.1 hcourse, ensure_ok_iff.1 hown, rfl⟩

/-! ## What the student is shown -/

structure WorkspaceView where
  status : CodingWorkspaceStatus
  cloneUrl : Option String
  repositoryFullName : Option String
  defaultBranch : String
  blockedReason : Option String
  courseTitle : String
  programTitle : String
  submissionMode : Option CodingSubmissionMode
  deriving DecidableEq

def WorkspaceContext.view (ctx : WorkspaceContext) (status : CodingWorkspaceStatus)
    (blockedReason : Option String) (fullNameOverride : Option String) : WorkspaceView :=
  let fullName := fullNameOverride <|> ctx.workspace.bind (·.githubRepositoryFullName)
  { status := status
    cloneUrl := (nonEmpty fullName).map fun n => "https://github.com/" ++ n ++ ".git"
    repositoryFullName := fullName
    defaultBranch := (ctx.workspace.map (·.defaultBranch)).getD ctx.defaultBranch
    blockedReason := blockedReason
    courseTitle := ctx.courseTitle
    programTitle := ctx.programTitle
    submissionMode := ctx.submissionMode }

/-- Why the workspace cannot be started, if it cannot. -/
def WorkspaceContext.blockedReason (ctx : WorkspaceContext) : Option String :=
  if ctx.submissionMode = some .upload then
    some "This program hands work in as a file — there is no workspace to start. Use Submit to upload your project."
  else if ctx.hasGitConfig = false then
    some "This program is not set up for coding yet — your instructor needs to finish connecting it."
  else if ctx.connectionLogin = "" ∨ ctx.installationId = "" then
    some "This school has not connected GitHub yet — your instructor needs to do that once."
  else if ctx.connectionActive = false then
    some "This school’s GitHub connection needs renewing — your instructor can reconnect it."
  else if ctx.githubLogin = "" then
    some "Connect your GitHub account to start coding."
  else if nonEmpty ctx.programCode = none ∨ nonEmpty ctx.cohortCode = none then
    some "This program is missing its short code — your instructor needs to set one."
  else none

/-! ## A school with one program and one batch of it -/

namespace Example

def course (id : CourseId) (parent : Option CourseId) (code : String) (title : String) : Course where
  id := id
  organizationId := some "acme"
  instructorId := none
  parentCourseId := parent
  title := title
  description := none
  posterUrl := none
  code := some code
  category := none
  level := none
  startDate := none
  durationWeeks := none
  meetingDays := .null
  meetingTime := none
  meetingTimesByDay := .null
  timezone := none
  scheduleUpdatedAt := none
  instantClassAssessment := false
  pluginKeys := .null

def connection : GitHubOrganizationConnection := ⟨"77", "acme-school", .active⟩

/-- The program `fe`, which hands work in through GitHub from a template, and its batch `fe-sep`. -/
def school (enrollments : Table EnrollmentId Enrollment) : Rows where
  courses := [course "fe" none "FE" "Frontend", course "fe-sep" (some "fe") "SEP26" "Frontend — September"]
  coding := fun id => if id = "fe" then ⟨some .git, some ⟨some "fe-starter", "main"⟩⟩ else ⟨none, none⟩
  memberships := []
  connections := fun _ => some connection
  githubLogins := fun user => some user
  enrollments := enrollments

def workspace (name : String) (courseBaseSha : Option String) : EnrollmentWorkspace :=
  ⟨.active, some "9", some name, some ("acme-school/" ++ name), "main", courseBaseSha, none, some 0, 0⟩

end Example

end Livetich.Workspace
