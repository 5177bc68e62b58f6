/-
Starting a workspace (`CodingWorkspaceService.start`) as a machine that pauses at every await: the
steps of any number of starts interleave with each other, with crashes and failures of GitHub, and
with the requests that create and rename courses and that enrol students. Which repositories were
made for whom, and who was given access to them, is kept in a history that no handler reads.
-/
import Livetich.Lib.TransSys
import Livetich.Workspace.Model
import Livetich.Workspace.Names

namespace Livetich.Workspace

open Livetich.Courses (Course OrgMembership CreateCourseDto CreateBatchDto UpdateCourseDto matchesCode)
open Livetich.Lib TransSys

/-! ## GitHub -/

/-- A repository, with what it was made from. -/
structure Repo where
  id : String
  owner : String
  name : String
  defaultBranch : String
  madeFrom : Option StartingCode
  deriving DecidableEq

def Repo.fullName (repo : Repo) : String := repo.owner ++ "/" ++ repo.name

/-- How a call ends: it is carried out and answered, refused, or carried out without an answer. -/
inductive Outcome
  | answered
  | refused
  | lost
  deriving DecidableEq

def Outcome.reached (o : Outcome) : Bool := o != .refused

/-- What comes back from outside: a branch head, the identifier and branch of a new repository, and
the text of an error, of GitHub or of the database. -/
structure Reply where
  outcome : Outcome
  head : Option String
  id : String
  defaultBranch : String
  reason : String
  deriving DecidableEq

/-! ## A start between two awaits -/

inductive Stage
  | upserting
  | claiming
  | counting (attempt : Nat)
  | numbering (attempt : Nat) (next : Nat)
  | looking (no : Nat) (name : String)
  | heading (no : Nat) (name : String)
  | creating (no : Nat) (name : String) (courseBaseSha : Option String)
  | granting (no : Nat) (repo : Repo) (courseBaseSha : Option String)
  | saving (no : Nat) (repo : Repo) (courseBaseSha : Option String)
  | failing (reason : String)
  deriving DecidableEq

inductive Attempt
  /-- The enrolment is loaded, its connection is not. -/
  | connecting (l : LoadedEnrollment)
  | running (ctx : WorkspaceContext) (stage : Stage)

def Attempt.enrollmentId : Attempt → EnrollmentId
  | .connecting l => l.id
  | .running ctx _ => ctx.enrollmentId

inductive HandedKind
  | created
  | granted
  | activated
  deriving DecidableEq

/-- One entry of the history: a repository made for a student, opened to one, or recorded as theirs. -/
structure Handed where
  kind : HandedKind
  enrollmentId : EnrollmentId
  studentId : UserId
  organizationId : Option OrganizationId
  owner : String
  programCode : Option String
  cohortCode : Option String
  no : Nat
  name : String
  deriving DecidableEq

structure State where
  rows : Rows
  repos : List Repo
  attempts : Pool Attempt
  now : Nat
  /-- Every enrolment identifier handed out so far. -/
  issued : List EnrollmentId
  handed : List Handed

/-- `STALE_PROVISIONING_MS`. -/
def staleProvisioningMs : Nat := 5 * 60000

def allocationAttempts : Nat := 5

/-! ## Rows -/

def Rows.updateEnrollment (rows : Rows) (id : EnrollmentId) (f : Enrollment → Enrollment) : Rows :=
  { rows with enrollments := rows.enrollments.modify id f }

def Rows.workspace (rows : Rows) (id : EnrollmentId) : Option EnrollmentWorkspace :=
  (rows.enrollments.get id).bind (·.workspace)

/-- A row as `upsert` creates it. -/
def newWorkspace (now : Nat) : EnrollmentWorkspace where
  status := .notCreated
  githubRepositoryId := none
  githubRepositoryName := none
  githubRepositoryFullName := none
  defaultBranch := "main"
  courseBaseSha := none
  lastError := none
  lastSyncedAt := none
  updatedAt := now

/-- The `where` of the claim. -/
def claimable (now : Nat) (w : EnrollmentWorkspace) : Bool :=
  w.status = .notCreated || w.status = .error ||
    (w.status = .provisioning && w.updatedAt + staleProvisioningMs < now)

/-- `_max.no ?? 0` of the enrolments of a course. -/
def Rows.maxNo (rows : Rows) (courseId : CourseId) : Nat :=
  ((rows.enrollments.entries.filter (·.2.courseId == courseId)).map fun e => e.2.no.getD 0).foldr max 0

/-- Another enrolment of the course has the number. -/
def Rows.noTaken (rows : Rows) (id : EnrollmentId) (courseId : CourseId) (no : Nat) : Bool :=
  rows.enrollments.entries.any fun e => e.1 != id && e.2.courseId == courseId && e.2.no == some no

/-- What one await writes. -/
inductive Write
  | nothing
  | upserted (id : EnrollmentId)
  | claimed (id : EnrollmentId)
  | numbered (id : EnrollmentId) (no : Nat)
  | created (repo : Repo) (entry : Handed)
  | granted (entry : Handed)
  | activated (id : EnrollmentId) (repo : Repo) (defaultBranch : String) (courseBaseSha : Option String)
      (entry : Handed)
  | failed (id : EnrollmentId) (reason : String)

def Enrollment.updateWorkspace (e : Enrollment) (f : EnrollmentWorkspace → EnrollmentWorkspace) : Enrollment :=
  { e with workspace := e.workspace.map f }

def State.write (s : State) : Write → State
  | .nothing => s
  | .upserted id =>
    { s with rows := s.rows.updateEnrollment id fun e =>
        { e with workspace := some (e.workspace.getD (newWorkspace s.now)) } }
  | .claimed id =>
    { s with rows := s.rows.updateEnrollment id fun e => e.updateWorkspace fun w =>
        { w with status := .provisioning, lastError := none, updatedAt := s.now } }
  | .numbered id no => { s with rows := s.rows.updateEnrollment id fun e => { e with no := some no } }
  | .created repo entry => { s with repos := repo :: s.repos, handed := entry :: s.handed }
  | .granted entry => { s with handed := entry :: s.handed }
  | .activated id repo defaultBranch courseBaseSha entry =>
    { s with
      rows := s.rows.updateEnrollment id fun e => e.updateWorkspace fun w =>
        { w with
          status := .active
          githubRepositoryId := some repo.id
          githubRepositoryName := some repo.name
          githubRepositoryFullName := some repo.fullName
          defaultBranch := defaultBranch
          courseBaseSha := courseBaseSha
          lastError := none
          lastSyncedAt := some s.now
          updatedAt := s.now }
      handed := entry :: s.handed }
  | .failed id reason =>
    { s with rows := s.rows.updateEnrollment id fun e => e.updateWorkspace fun w =>
        { w with
          status := .error, lastError := some (String.ofList (reason.toList.take 2000)), updatedAt := s.now } }

/-! ## The steps of a start -/

/-- What a start does next: go on, or answer. -/
inductive Next
  | goes (a : Attempt)
  | answers (r : Result WorkspaceView)

/-- The answers that need no work. -/
def WorkspaceContext.answer (ctx : WorkspaceContext) : Option WorkspaceView :=
  match ctx.workspace with
  | some w =>
    if w.status = .active ∧ (nonEmpty w.githubRepositoryFullName).isSome then some (ctx.view w.status none none)
    else if w.status = .archived then
      some (ctx.view w.status (some "This program has finished. Your code is kept, read-only.") none)
    else if w.status = .withdrawn then some (ctx.view w.status (some "You are no longer on this program.") none)
    else ctx.blockedReason.map fun reason => ctx.view w.status (some reason) none
  | none => ctx.blockedReason.map fun reason => ctx.view .notCreated (some reason) none

/-- With its number an enrolment has a name, or there is none to build. -/
def nameStage (unicode : Unicode) (ctx : WorkspaceContext) (no : Nat) : Stage :=
  match repositoryName unicode ctx.programCode ctx.cohortCode (some no) with
  | .ok name => .looking no name
  | .error reason => .failing reason

def handedFor (ctx : WorkspaceContext) (kind : HandedKind) (no : Nat) (name : String) : Handed where
  kind := kind
  enrollmentId := ctx.enrollmentId
  studentId := ctx.studentId
  organizationId := ctx.organizationId
  owner := ctx.connectionLogin
  programCode := ctx.programCode
  cohortCode := ctx.cohortCode
  no := no
  name := name

/-- What the name of a repository is made of besides the number, and whose it is. -/
abbrev RepoKey := String × Option String × Option String

def WorkspaceContext.key (ctx : WorkspaceContext) : RepoKey :=
  (ctx.connectionLogin, ctx.programCode, ctx.cohortCode)

def Handed.key (h : Handed) : RepoKey := (h.owner, h.programCode, h.cohortCode)

/-- `getRepo`: GitHub has at most one repository of an owner and a name. -/
def State.repo (s : State) (owner name : String) : Option Repo :=
  s.repos.find? fun r => r.owner == owner && r.name == name

/-- One await of a running start, with what it goes on with. -/
def provisionStep (unicode : Unicode) (s : State) (ctx : WorkspaceContext) (reply : Reply) : Stage → Write × Next
  | .upserting =>
    match s.rows.enrollments.get ctx.enrollmentId with
    | some _ => (.upserted ctx.enrollmentId, .goes (.running ctx .claiming))
    | none => (.nothing, .answers (.error (.internal reply.reason)))
  | .claiming =>
    if (s.rows.workspace ctx.enrollmentId).any (claimable s.now) then
      (.claimed ctx.enrollmentId, .goes (.running ctx (match ctx.no with
        | some no => nameStage unicode ctx no
        | none => .counting 0)))
    else (.nothing, .answers (.ok (ctx.view .provisioning none none)))
  | .counting attempt =>
    (.nothing, .goes (.running ctx (.numbering attempt (s.rows.maxNo ctx.courseId + 1))))
  | .numbering attempt next =>
    match s.rows.enrollments.get ctx.enrollmentId with
    | none => (.nothing, .goes (.running ctx (.failing reply.reason)))
    | some e =>
      if s.rows.noTaken ctx.enrollmentId e.courseId next then
        (.nothing, .goes (.running ctx (if attempt + 1 < allocationAttempts then .counting (attempt + 1)
          else .failing "Could not allocate an enrolment number")))
      else (.numbered ctx.enrollmentId next, .goes (.running ctx (nameStage unicode ctx next)))
  | .looking no name =>
    if reply.outcome = .answered then
      (.nothing, .goes (.running ctx (match s.repo ctx.connectionLogin name with
        | some repo => .granting no repo none
        | none => if ctx.startingCode.isSome then .heading no name else .creating no name none)))
    else (.nothing, .goes (.running ctx (.failing reply.reason)))
  | .heading no name =>
    (.nothing, .goes (.running ctx (if reply.outcome = .answered then .creating no name reply.head
      else .failing reply.reason)))
  | .creating no name courseBaseSha =>
    if reply.outcome.reached = true ∧ s.repo ctx.connectionLogin name = none then
      let repo : Repo := ⟨reply.id, ctx.connectionLogin, name, reply.defaultBranch, ctx.startingCode⟩
      (.created repo (handedFor ctx .created no name), .goes (.running ctx (if reply.outcome = .answered
        then .granting no repo courseBaseSha else .failing reply.reason)))
    else (.nothing, .goes (.running ctx (.failing reply.reason)))
  | .granting no repo courseBaseSha =>
    if reply.outcome.reached then
      (.granted (handedFor ctx .granted no repo.name), .goes (.running ctx (if reply.outcome = .answered
        then .saving no repo courseBaseSha else .failing reply.reason)))
    else (.nothing, .goes (.running ctx (.failing reply.reason)))
  | .saving no repo courseBaseSha =>
    match s.rows.workspace ctx.enrollmentId with
    | none => (.nothing, .goes (.running ctx (.failing reply.reason)))
    | some _ =>
      (.activated ctx.enrollmentId repo ((nonEmpty (some repo.defaultBranch)).getD ctx.defaultBranch) courseBaseSha
          (handedFor ctx .activated no repo.name),
        .answers (.ok (ctx.view .active none (some repo.fullName))))
  | .failing reason =>
    match s.rows.workspace ctx.enrollmentId with
    | none => (.nothing, .answers (.error (.internal reply.reason)))
    | some _ =>
      (.failed ctx.enrollmentId reason,
        .answers (.error (.badRequest "We couldn't create your coding workspace. Please try again.")))

def Attempt.step (unicode : Unicode) (s : State) (reply : Reply) : Attempt → Write × Next
  | .connecting l =>
    let ctx := l.context (s.rows.connectionOf l.course)
    (.nothing, match ctx.answer with
      | some view => .answers (.ok view)
      | none => .goes (.running ctx .upserting))
  | .running ctx stage => provisionStep unicode s ctx reply stage

/-! ## Enrolling -/

def Rows.db (rows : Rows) : Courses.Db := ⟨rows.courses, rows.memberships, []⟩

/-- `enrollment.create`: one row for each student of a course. -/
def Rows.createEnrollment (rows : Rows) (id : EnrollmentId) (courseId : CourseId) (studentId : UserId) : Option Rows :=
  if rows.enrollments.entries.any fun e => e.2.courseId == courseId && e.2.studentId == studentId then none
  else some { rows with enrollments := rows.enrollments.insert id ⟨courseId, studentId, none, none⟩ }

/-- `CoursesService.enroll`. -/
def Rows.enroll (rows : Rows) (user : JwtPayload) (courseId : CourseId) (id : EnrollmentId) : Option Rows :=
  (rows.course courseId).bind fun course =>
    if (nonEmpty user.organizationId).isSome && course.organizationId == user.organizationId then
      rows.createEnrollment id courseId user.sub
    else none

/-- `CoursesService.enrollStudent`. -/
def Rows.enrollStudent (rows : Rows) (user : JwtPayload) (courseId : CourseId) (studentId : UserId)
    (id : EnrollmentId) : Option Rows :=
  (nonEmpty user.organizationId).bind fun orgId =>
    (rows.course courseId).bind fun course =>
      if course.organizationId == some orgId &&
          (rows.memberships.find? fun m => m.userId == studentId && m.organizationId == orgId).any
            fun m => m.active && m.role == .student then
        rows.createEnrollment id courseId studentId
      else none

/-- An invitation link of a course enrols whoever may open it. -/
def Rows.redeemInvite (rows : Rows) (courseId : CourseId) (studentId : UserId) (id : EnrollmentId) : Option Rows :=
  (rows.course courseId).bind fun _ => rows.createEnrollment id courseId studentId

/-- `CoursesService.unenroll`: the workspace goes with the row. -/
def Rows.unenroll (rows : Rows) (studentId : UserId) (courseId : CourseId) : Rows :=
  { rows with enrollments := rows.enrollments.filter fun _ e =>
      !(e.courseId == courseId && e.studentId == studentId) }

/-! ## The system -/

/-- What is set up besides: git configurations and modes, connections, accounts and memberships. -/
structure Settings where
  coding : CourseId → CourseCoding
  memberships : List OrgMembership
  connections : OrganizationId → Option GitHubOrganizationConnection
  githubLogins : UserId → Option String

inductive Event
  | createCourse (env : Courses.Env) (user : JwtPayload) (dto : CreateCourseDto)
  | createBatch (env : Courses.Env) (user : JwtPayload) (programId : CourseId) (dto : CreateBatchDto)
  | updateCourse (env : Courses.Env) (user : JwtPayload) (id : CourseId) (dto : UpdateCourseDto)
  | enroll (user : JwtPayload) (courseId : CourseId) (id : EnrollmentId)
  | enrollStudent (user : JwtPayload) (courseId : CourseId) (studentId : UserId) (id : EnrollmentId)
  | redeemInvite (courseId : CourseId) (studentId : UserId) (id : EnrollmentId)
  | unenroll (studentId : UserId) (courseId : CourseId)
  | configure (settings : Settings)
  | tick (ms : Nat)
  | start (i : Nat) (user : UserId) (enrollmentId : EnrollmentId)
  | resume (i : Nat) (reply : Reply)
  | crash (i : Nat)

def State.addCourse (s : State) (course : Course) : State :=
  { s with rows := { s.rows with courses := s.rows.courses ++ [course] } }

def State.enrolled (s : State) (id : EnrollmentId) (rows : Option Rows) : Option State :=
  if id ∈ s.issued then none else rows.map fun rows => { s with rows := rows, issued := id :: s.issued }

/-- Request `i` goes on, or is answered. -/
def State.next (s : State) (i : Nat) : Next → State
  | .goes a => { s with attempts := s.attempts.put i (some a) }
  | .answers _ => { s with attempts := s.attempts.put i none }

/-- A request that is refused, and an identifier that is not new, are no steps. -/
def step (unicode : Unicode) (s : State) : Event → Option State
  | .createCourse env user dto =>
    if dto.code.all matchesCode && (s.rows.course env.freshId).isNone then
      (Courses.createCourse env s.rows.db user dto).toOption.map s.addCourse
    else none
  | .createBatch env user programId dto =>
    if dto.code.all matchesCode && (s.rows.course env.freshId).isNone then
      (Courses.createBatch env s.rows.db user programId dto).toOption.map s.addCourse
    else none
  | .updateCourse env user id dto =>
    if (dto.code.write none).all matchesCode then
      (Courses.updateCourse env "" s.rows.db user id dto).toOption.map fun r =>
        { s with rows := { s.rows with courses := r.1.courses } }
    else none
  | .enroll user courseId id => s.enrolled id (s.rows.enroll user courseId id)
  | .enrollStudent user courseId studentId id => s.enrolled id (s.rows.enrollStudent user courseId studentId id)
  | .redeemInvite courseId studentId id => s.enrolled id (s.rows.redeemInvite courseId studentId id)
  | .unenroll studentId courseId => some { s with rows := s.rows.unenroll studentId courseId }
  | .configure settings =>
    some { s with rows := { s.rows with
      coding := settings.coding, memberships := settings.memberships, connections := settings.connections,
      githubLogins := settings.githubLogins } }
  | .tick ms => some { s with now := s.now + ms }
  | .start i user enrollmentId =>
    if (s.attempts.get i).isSome then none
    else
      match loadEnrollment s.rows user enrollmentId with
      | .ok l => some (s.next i (.goes (.connecting l)))
      | .error _ => some s
  | .resume i reply =>
    (s.attempts.get i).map fun a =>
      let (write, next) := a.step unicode s reply
      (s.write write).next i next
  | .crash i => (s.attempts.get i).map fun _ => { s with attempts := s.attempts.put i none }

/-! ## What a write does to a row -/

/-- The enrolment whose row is written. -/
def Write.target : Write → Option EnrollmentId
  | .upserted id | .claimed id | .numbered id _ | .activated id _ _ _ _ | .failed id _ => some id
  | .nothing | .created _ _ | .granted _ => none

theorem get_updateEnrollment (rows : Rows) (id e : EnrollmentId) (f : Enrollment → Enrollment) :
    (rows.updateEnrollment id f).enrollments.get e =
      if e = id then (rows.enrollments.get e).map f else rows.enrollments.get e :=
  Table.get_modify _ _ _ _

theorem get_write_of_ne {s : State} {w : Write} {e : EnrollmentId} (h : w.target ≠ some e) :
    (s.write w).rows.enrollments.get e = s.rows.enrollments.get e := by
  have hne : ∀ id, w.target = some id → e ≠ id := by
    rintro id hid rfl
    exact h hid
  cases w with
  | nothing => rfl
  | created repo entry => rfl
  | granted entry => rfl
  | upserted id => exact (get_updateEnrollment _ _ _ _).trans (if_neg (hne id rfl))
  | claimed id => exact (get_updateEnrollment _ _ _ _).trans (if_neg (hne id rfl))
  | numbered id no => exact (get_updateEnrollment _ _ _ _).trans (if_neg (hne id rfl))
  | activated id repo branch base entry => exact (get_updateEnrollment _ _ _ _).trans (if_neg (hne id rfl))
  | failed id reason => exact (get_updateEnrollment _ _ _ _).trans (if_neg (hne id rfl))

/-- What an update keeps of every row, it keeps of the table. -/
theorem bind_updateEnrollment {α : Type} (rows : Rows) (id e : EnrollmentId) {f : Enrollment → Enrollment}
    {g : Enrollment → Option α} (hf : ∀ row, g (f row) = g row) :
    ((rows.updateEnrollment id f).enrollments.get e).bind g = (rows.enrollments.get e).bind g := by
  rw [get_updateEnrollment]
  split
  · rw [Option.bind_map]
    exact congrArg (fun k => (rows.enrollments.get e).bind k) (funext hf)
  · rfl

/-- The course and the student of an enrolment. -/
def Rows.owner (rows : Rows) (e : EnrollmentId) : Option (CourseId × UserId) :=
  (rows.enrollments.get e).bind fun row => some (row.courseId, row.studentId)

/-- No write moves an enrolment to another course or student, or adds one. -/
@[simp] theorem write_owner (s : State) (w : Write) (e : EnrollmentId) : (s.write w).rows.owner e = s.rows.owner e := by
  cases w with
  | nothing => rfl
  | created repo entry => rfl
  | granted entry => rfl
  | upserted id => exact bind_updateEnrollment _ id e fun row => rfl
  | claimed id => exact bind_updateEnrollment _ id e fun row => rfl
  | numbered id no => exact bind_updateEnrollment _ id e fun row => rfl
  | activated id repo branch base entry => exact bind_updateEnrollment _ id e fun row => rfl
  | failed id reason => exact bind_updateEnrollment _ id e fun row => rfl

@[simp] theorem write_courses (s : State) (w : Write) : (s.write w).rows.courses = s.rows.courses := by
  cases w <;> rfl

@[simp] theorem write_connections (s : State) (w : Write) :
    (s.write w).rows.connections = s.rows.connections := by
  cases w <;> rfl

@[simp] theorem write_attempts (s : State) (w : Write) : (s.write w).attempts = s.attempts := by
  cases w <;> rfl

@[simp] theorem next_rows (s : State) (i : Nat) (n : Next) : (s.next i n).rows = s.rows := by
  cases n <;> rfl

@[simp] theorem next_repos (s : State) (i : Nat) (n : Next) : (s.next i n).repos = s.repos := by
  cases n <;> rfl

@[simp] theorem next_handed (s : State) (i : Nat) (n : Next) : (s.next i n).handed = s.handed := by
  cases n <;> rfl

/-- Repositories are never lost. -/
theorem write_repo {s : State} (w : Write) {owner name : String} (h : (s.repo owner name).isSome) :
    ((s.write w).repo owner name).isSome := by
  cases w with
  | created repo entry =>
    unfold State.repo at h ⊢
    rw [List.find?_isSome] at h ⊢
    obtain ⟨r, hr, hfound⟩ := h
    exact ⟨r, List.mem_cons_of_mem _ hr, hfound⟩
  | _ => exact h

theorem next_repo (s : State) (i : Nat) (n : Next) (owner name : String) :
    (s.next i n).repo owner name = s.repo owner name := by
  unfold State.repo
  rw [next_repos]

/-! ## Requests -/

theorem next_attempts {s : State} {i j : Nat} {n : Next} {a : Attempt} (h : (s.next i n).attempts.get j = some a) :
    n = .goes a ∨ s.attempts.get j = some a := by
  cases n with
  | goes b =>
    rcases Pool.get_put_cases h with ⟨-, hb⟩ | ⟨-, ha⟩
    · cases hb
      exact .inl rfl
    · exact .inr ha
  | answers r =>
    rcases Pool.get_put_cases h with ⟨-, hnone⟩ | ⟨-, ha⟩
    · cases hnone
    · exact .inr ha

/-! ## What a step can do -/

/-- Where a write comes from: the stage that makes it, for the enrolment of the context. -/
def Write.From (s : State) (ctx : WorkspaceContext) (reply : Reply) (stage : Stage) : Write → Prop
  | .nothing => True
  | .upserted id => stage = .upserting ∧ id = ctx.enrollmentId
  | .claimed id => stage = .claiming ∧ id = ctx.enrollmentId ∧ (s.rows.workspace id).any (claimable s.now) = true
  | .numbered id no => id = ctx.enrollmentId ∧ (∃ attempt, stage = .numbering attempt no) ∧
      ∃ e, s.rows.enrollments.get id = some e ∧ s.rows.noTaken id e.courseId no = false
  | .created repo entry => ∃ no name courseBaseSha, stage = .creating no name courseBaseSha ∧
      s.repo ctx.connectionLogin name = none ∧ repo.owner = ctx.connectionLogin ∧ repo.name = name ∧
      entry = handedFor ctx .created no name
  | .granted entry => ∃ no repo courseBaseSha, stage = .granting no repo courseBaseSha ∧
      reply.outcome.reached = true ∧ entry = handedFor ctx .granted no repo.name
  | .activated id repo _ courseBaseSha entry => id = ctx.enrollmentId ∧
      ∃ no, stage = .saving no repo courseBaseSha ∧ entry = handedFor ctx .activated no repo.name
  | .failed id reason => id = ctx.enrollmentId ∧ stage = .failing reason

theorem Write.From.target {s : State} {ctx : WorkspaceContext} {reply : Reply} {stage : Stage} {w : Write}
    (h : w.From s ctx reply stage) {id : EnrollmentId} (hid : w.target = some id) : id = ctx.enrollmentId := by
  cases w with
  | nothing => cases hid
  | created repo entry => cases hid
  | granted entry => cases hid
  | upserted id => cases hid; exact h.2
  | claimed id => cases hid; exact h.2.1
  | numbered id no => cases hid; exact h.1
  | activated id repo branch base entry => cases hid; exact h.1
  | failed id reason => cases hid; exact h.1

theorem provisionStep_from (unicode : Unicode) (s : State) (ctx : WorkspaceContext) (reply : Reply) (stage : Stage) :
    (provisionStep unicode s ctx reply stage).1.From s ctx reply stage := by
  cases stage with
  | upserting =>
    simp only [provisionStep]
    cases s.rows.enrollments.get ctx.enrollmentId with
    | none => trivial
    | some e => exact ⟨rfl, rfl⟩
  | claiming =>
    simp only [provisionStep]
    split
    · rename_i h
      exact ⟨rfl, rfl, h⟩
    · trivial
  | counting attempt => trivial
  | numbering attempt next =>
    simp only [provisionStep]
    cases hrow : s.rows.enrollments.get ctx.enrollmentId with
    | none => trivial
    | some e =>
      show (if s.rows.noTaken ctx.enrollmentId e.courseId next = true then _ else _ : Write × Next).1.From _ _ _ _
      split
      · trivial
      · rename_i htaken
        exact ⟨rfl, ⟨attempt, rfl⟩, e, hrow, by simpa using htaken⟩
  | looking no name =>
    simp only [provisionStep]
    split <;> trivial
  | heading no name => trivial
  | creating no name base =>
    simp only [provisionStep]
    split
    · rename_i h
      exact ⟨no, name, base, rfl, h.2, rfl, rfl, rfl⟩
    · trivial
  | granting no repo base =>
    simp only [provisionStep]
    split
    · rename_i h
      exact ⟨no, repo, base, rfl, h, rfl⟩
    · trivial
  | saving no repo base =>
    simp only [provisionStep]
    cases s.rows.workspace ctx.enrollmentId with
    | none => trivial
    | some w => exact ⟨rfl, no, rfl, rfl⟩
  | failing reason =>
    simp only [provisionStep]
    cases s.rows.workspace ctx.enrollmentId with
    | none => trivial
    | some w => exact ⟨rfl, rfl⟩

/-- The number that a start works with. -/
def Stage.number (ctx : WorkspaceContext) : Stage → Option Nat
  | .upserting | .claiming | .counting _ | .numbering _ _ => ctx.no
  | .looking no _ | .heading no _ | .creating no _ _ | .granting no _ _ | .saving no _ _ => some no
  | .failing _ => none

/-- The name a start works with is that of its codes and number, and so is its repository. -/
def Stage.Named (unicode : Unicode) (ctx : WorkspaceContext) : Stage → Prop
  | .looking no name | .heading no name | .creating no name _ =>
    repositoryName unicode ctx.programCode ctx.cohortCode (some no) = .ok name
  | .granting no repo _ | .saving no repo _ =>
    repositoryName unicode ctx.programCode ctx.cohortCode (some no) = .ok repo.name ∧
      repo.owner = ctx.connectionLogin
  | _ => True

/-- How a start goes on: with the number it had or the one it has just written, and under its name. -/
structure GoesOn (unicode : Unicode) (ctx : WorkspaceContext) (stage : Stage) (write : Write) (after : Stage) :
    Prop where
  number : ∀ no, after.number ctx = some no → stage.number ctx = some no ∨ write = .numbered ctx.enrollmentId no
  named : stage.Named unicode ctx → after.Named unicode ctx

theorem repo_found {s : State} {owner name : String} {repo : Repo} (h : s.repo owner name = some repo) :
    repo.owner = owner ∧ repo.name = name := by
  have := List.find?_some h
  simpa using this

theorem nameStage_named (unicode : Unicode) (ctx : WorkspaceContext) (no : Nat) :
    (nameStage unicode ctx no).Named unicode ctx ∧
      ∀ n, (nameStage unicode ctx no).number ctx = some n → n = no := by
  unfold nameStage
  cases hname : repositoryName unicode ctx.programCode ctx.cohortCode (some no) with
  | ok name =>
    refine ⟨hname, fun n hn => ?_⟩
    cases hn
    rfl
  | error reason => exact ⟨trivial, fun n hn => (by cases hn)⟩

theorem goesOn_failing (unicode : Unicode) (ctx : WorkspaceContext) (stage : Stage) (write : Write) (reason : String) :
    GoesOn unicode ctx stage write (.failing reason) :=
  ⟨fun _ h => (by cases h), fun _ => trivial⟩

theorem provisionStep_goes {unicode : Unicode} {s : State} {ctx : WorkspaceContext} {reply : Reply} {stage : Stage}
    {a : Attempt} (h : (provisionStep unicode s ctx reply stage).2 = .goes a) :
    ∃ after, a = .running ctx after ∧
      GoesOn unicode ctx stage (provisionStep unicode s ctx reply stage).1 after := by
  cases stage with
  | upserting =>
    simp only [provisionStep] at h ⊢
    split at h
    · cases h
      exact ⟨_, rfl, fun n hn => .inl hn, fun _ => trivial⟩
    · cases h
  | claiming =>
    simp only [provisionStep] at h ⊢
    split at h
    · cases h
      refine ⟨_, rfl, fun n hn => ?_, fun _ => ?_⟩
      · cases hno : ctx.no with
        | none =>
          rw [hno] at hn
          exact .inl hn
        | some no =>
          rw [hno] at hn
          rw [(nameStage_named unicode ctx no).2 n hn]
          exact .inl hno
      · cases ctx.no with
        | none => trivial
        | some no => exact (nameStage_named unicode ctx no).1
    · cases h
  | counting attempt =>
    cases h
    exact ⟨_, rfl, fun n hn => .inl hn, fun _ => trivial⟩
  | numbering attempt next =>
    simp only [provisionStep] at h ⊢
    split at h
    · cases h
      exact ⟨_, rfl, goesOn_failing _ _ _ _ _⟩
    · rename_i e _
      by_cases htaken : s.rows.noTaken ctx.enrollmentId e.courseId next = true
      · rw [if_pos htaken] at h ⊢
        cases h
        refine ⟨_, rfl, ?_⟩
        split
        · exact ⟨fun n hn => .inl hn, fun _ => trivial⟩
        · exact goesOn_failing _ _ _ _ _
      · rw [if_neg htaken] at h ⊢
        cases h
        refine ⟨_, rfl, fun n hn => ?_, fun _ => (nameStage_named unicode ctx next).1⟩
        rw [(nameStage_named unicode ctx next).2 n hn]
        exact .inr rfl
  | looking no name =>
    simp only [provisionStep] at h ⊢
    by_cases houtcome : reply.outcome = .answered
    · rw [if_pos houtcome] at h ⊢
      cases h
      refine ⟨_, rfl, ?_⟩
      cases hrepo : s.repo ctx.connectionLogin name with
      | some repo =>
        obtain ⟨howner, hname⟩ := repo_found hrepo
        exact ⟨fun n hn => .inl hn, fun hnamed => ⟨hname.symm ▸ hnamed, howner⟩⟩
      | none =>
        simp only
        split
        · exact ⟨fun n hn => .inl hn, id⟩
        · exact ⟨fun n hn => .inl hn, id⟩
    · rw [if_neg houtcome] at h ⊢
      cases h
      exact ⟨_, rfl, goesOn_failing _ _ _ _ _⟩
  | heading no name =>
    cases h
    refine ⟨_, rfl, ?_⟩
    split
    · exact ⟨fun n hn => .inl hn, id⟩
    · exact goesOn_failing _ _ _ _ _
  | creating no name base =>
    simp only [provisionStep] at h ⊢
    by_cases hcreated : reply.outcome.reached = true ∧ s.repo ctx.connectionLogin name = none
    · rw [if_pos hcreated] at h ⊢
      cases h
      refine ⟨_, rfl, ?_⟩
      split
      · exact ⟨fun n hn => .inl hn, fun hnamed => ⟨hnamed, rfl⟩⟩
      · exact goesOn_failing _ _ _ _ _
    · rw [if_neg hcreated] at h ⊢
      cases h
      exact ⟨_, rfl, goesOn_failing _ _ _ _ _⟩
  | granting no repo base =>
    simp only [provisionStep] at h ⊢
    by_cases hreached : reply.outcome.reached = true
    · rw [if_pos hreached] at h ⊢
      cases h
      refine ⟨_, rfl, ?_⟩
      split
      · exact ⟨fun n hn => .inl hn, id⟩
      · exact goesOn_failing _ _ _ _ _
    · rw [if_neg hreached] at h ⊢
      cases h
      exact ⟨_, rfl, goesOn_failing _ _ _ _ _⟩
  | saving no repo base =>
    simp only [provisionStep] at h ⊢
    split at h
    · cases h
      exact ⟨_, rfl, goesOn_failing _ _ _ _ _⟩
    · cases h
  | failing reason =>
    simp only [provisionStep] at h
    split at h <;> cases h

/-! ## What an enrolment adds -/

theorem createEnrollment_row {rows r : Rows} {id : EnrollmentId} {courseId : CourseId} {studentId : UserId}
    (h : rows.createEnrollment id courseId studentId = some r) :
    r = { rows with enrollments := rows.enrollments.insert id ⟨courseId, studentId, none, none⟩ } := by
  unfold Rows.createEnrollment at h
  split at h
  · cases h
  · cases h
    rfl

theorem enroll_row {rows r : Rows} {user : JwtPayload} {courseId : CourseId} {id : EnrollmentId}
    (h : rows.enroll user courseId id = some r) : ∃ c u, rows.createEnrollment id c u = some r := by
  obtain ⟨course, -, h⟩ := Option.bind_eq_some_iff.1 h
  split at h
  · exact ⟨_, _, h⟩
  · cases h

theorem enrollStudent_row {rows r : Rows} {user : JwtPayload} {courseId : CourseId} {studentId : UserId}
    {id : EnrollmentId} (h : rows.enrollStudent user courseId studentId id = some r) :
    ∃ c u, rows.createEnrollment id c u = some r := by
  obtain ⟨orgId, -, h⟩ := Option.bind_eq_some_iff.1 h
  obtain ⟨course, -, h⟩ := Option.bind_eq_some_iff.1 h
  split at h
  · exact ⟨_, _, h⟩
  · cases h

theorem redeemInvite_row {rows r : Rows} {courseId : CourseId} {studentId : UserId} {id : EnrollmentId}
    (h : rows.redeemInvite courseId studentId id = some r) : ∃ c u, rows.createEnrollment id c u = some r := by
  obtain ⟨course, -, h⟩ := Option.bind_eq_some_iff.1 h
  exact ⟨_, _, h⟩

/-- A new enrolment: under an identifier that is new, without a number and without a workspace. -/
def Enrols (s s' : State) : Prop :=
  ∃ id courseId studentId, id ∉ s.issued ∧
    s' = { s with
      rows := { s.rows with enrollments := s.rows.enrollments.insert id ⟨courseId, studentId, none, none⟩ }
      issued := id :: s.issued }

theorem enrolled_enrols {s s' : State} {id : EnrollmentId} {rows : Option Rows} (h : s.enrolled id rows = some s')
    (hrows : ∀ r, rows = some r → ∃ c u, s.rows.createEnrollment id c u = some r) : Enrols s s' := by
  unfold State.enrolled at h
  split at h
  · cases h
  · rename_i hnew
    obtain ⟨r, hr, rfl⟩ := Option.map_eq_some_iff.1 h
    obtain ⟨c, u, hc⟩ := hrows r hr
    rw [createEnrollment_row hc]
    exact ⟨id, c, u, hnew, rfl⟩

/-! ## Attempts that go well -/

namespace Example

def reply (outcome : Outcome) : Reply := ⟨outcome, some "week1", "9", "main", "GitHub did not answer"⟩

def goesWell (i n : Nat) : List Event := List.replicate n (.resume i (reply .answered))

end Example

end Livetich.Workspace
