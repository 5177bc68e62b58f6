/-
Where a reviewer finds a submission's code (`resolveCommitRef`). The starting code is looked up on
the parent of the workspace's course alone, where provisioning falls back to the course itself, so
the two agree exactly on the shape that the lookup was written for.
-/
import Mathlib.Data.List.MinMax
import Livetich.Workspace.Model

namespace Livetich.Workspace

open Livetich.Lib
open Livetich.Courses (Course)

abbrev SubmissionId := String
abbrev AssignmentId := String

/-- The columns of a submission that its commit is found by. -/
structure Submission where
  assignmentId : AssignmentId
  studentId : UserId
  attemptNumber : Nat
  commitSha : Option String
  workspaceId : Option EnrollmentId
  deriving DecidableEq

structure CommitRef where
  installationId : String
  owner : String
  repo : String
  fullName : String
  sha : String
  previousSha : Option String
  attemptNumber : Nat
  orgLogin : String
  templateRepo : Option String
  templateBranch : String
  deriving DecidableEq

/-- The commit of the latest earlier attempt that has one. -/
def previousSha (submissions : Table SubmissionId Submission) (submission : Submission) : Option String :=
  let earlier := (submissions.entries.map (·.2)).filter fun s =>
    s.assignmentId == submission.assignmentId && s.studentId == submission.studentId &&
      s.attemptNumber < submission.attemptNumber && s.commitSha.isSome
  (earlier.argmax (·.attemptNumber)).bind (·.commitSha)

def resolveCommitRef (rows : Rows) (submissions : Table SubmissionId Submission) (submissionId : SubmissionId) :
    Option CommitRef := do
  let submission ← submissions.get submissionId
  let sha ← nonEmpty submission.commitSha
  let workspaceId ← submission.workspaceId
  let enrollment ← rows.enrollments.get workspaceId
  let workspace ← enrollment.workspace
  let course ← rows.course enrollment.courseId
  let fullName ← nonEmpty workspace.githubRepositoryFullName
  let connection ← (rows.connectionOf course).filter (·.status = .active)
  let (owner, repo) ← splitFullName fullName
  let config := course.parentCourseId.bind rows.gitConfig
  let templateRepo := nonEmpty (config.bind (·.templateRepositoryName))
  return {
    installationId := connection.githubInstallationId
    owner := owner
    repo := repo
    fullName := fullName
    sha := sha
    previousSha := previousSha submissions submission
    attemptNumber := submission.attemptNumber
    orgLogin := connection.githubOrganizationLogin
    templateRepo := templateRepo
    templateBranch :=
      if templateRepo.isSome then (nonEmpty (config.map (·.defaultBranch))).getD "main" else "main" }

/-- The starting code that a reviewer compares with. -/
def CommitRef.startingCode (ref : CommitRef) : Option StartingCode :=
  ref.templateRepo.map fun template => ⟨ref.orgLogin, template, ref.templateBranch⟩

/-! ## When the two agree -/

/-- The commit of a workspace's submission can be read: the connection is in force and the recorded
name has an owner and a repository. -/
def Readable (rows : Rows) (l : LoadedEnrollment) : Prop :=
  (∃ connection, rows.connectionOf l.course = some connection ∧ connection.status = .active) ∧
    ∃ workspace fullName, l.enrollment.workspace = some workspace ∧
      nonEmpty workspace.githubRepositoryFullName = some fullName ∧ (splitFullName fullName).isSome

/-- The template is the program's, on a branch that is set; or no template is in effect. -/
def fromProgram (l : LoadedEnrollment) : Bool :=
  match l.parentCourse.bind (·.2.gitConfig) with
  | some config => nonEmpty config.templateRepositoryName = none || config.defaultBranch ≠ ""
  | none => nonEmpty (l.courseCoding.gitConfig.bind (·.templateRepositoryName)) = none

/-- What the lookup finds on the parent of the course. -/
def LoadedEnrollment.lookedUp (l : LoadedEnrollment) (orgLogin : String) : Option StartingCode :=
  let config := l.parentCourse.bind (·.2.gitConfig)
  (nonEmpty (config.bind (·.templateRepositoryName))).map fun template =>
    ⟨orgLogin, template, (nonEmpty (config.map (·.defaultBranch))).getD "main"⟩

theorem parent_gitConfig (rows : Rows) (course : Course) :
    course.parentCourseId.bind rows.gitConfig =
      ((course.parentCourseId.bind rows.course).map fun p => (p, rows.coding p.id)).bind (·.2.gitConfig) := by
  cases course.parentCourseId with
  | none => rfl
  | some id =>
    show (rows.course id).bind _ = ((rows.course id).map _).bind _
    cases hcourse : rows.course id with
    | none => rfl
    | some p =>
      show (rows.coding id).gitConfig = (rows.coding p.id).gitConfig
      rw [course_id hcourse]

theorem resolveCommitRef_eq {rows : Rows} {submissions : Table SubmissionId Submission} {user : UserId}
    {enrollmentId : EnrollmentId} {submissionId : SubmissionId} {l : LoadedEnrollment} {submission : Submission}
    (hl : loadEnrollment rows user enrollmentId = .ok l) (hs : submissions.get submissionId = some submission)
    (hcommit : (nonEmpty submission.commitSha).isSome) (hw : submission.workspaceId = some enrollmentId)
    {x : Option StartingCode} :
    (∃ ref, resolveCommitRef rows submissions submissionId = some ref ∧ ref.startingCode = x) ↔
      Readable rows l ∧ ∀ connection, rows.connectionOf l.course = some connection →
        l.lookedUp connection.githubOrganizationLogin = x := by
  obtain ⟨enrollment, course, henrollment, hcourse, -, rfl⟩ := loadEnrollment_ok hl
  obtain ⟨sha, hsha⟩ := Option.isSome_iff_exists.1 hcommit
  unfold resolveCommitRef Readable LoadedEnrollment.lookedUp CommitRef.startingCode
  simp only [hs, hsha, hw, henrollment, hcourse, Option.bind_eq_bind, Option.bind_some, parent_gitConfig]
  constructor
  · rintro ⟨ref, href, rfl⟩
    obtain ⟨workspace, hworkspace, href⟩ := Option.bind_eq_some_iff.1 href
    obtain ⟨fullName, hname, href⟩ := Option.bind_eq_some_iff.1 href
    obtain ⟨connection, hactive, href⟩ := Option.bind_eq_some_iff.1 href
    obtain ⟨⟨owner, repo⟩, hsplit, href⟩ := Option.bind_eq_some_iff.1 href
    obtain ⟨hconnection, hactive⟩ := Option.filter_eq_some_iff.1 hactive
    cases href
    refine ⟨⟨⟨connection, hconnection, by simpa using hactive⟩, workspace, fullName, hworkspace, hname,
      by simp [hsplit]⟩, ?_⟩
    intro other hother
    rw [hconnection] at hother
    cases hother
    cases htemplate : nonEmpty (((Option.map (fun p => (p, rows.coding p.id))
      (course.parentCourseId.bind rows.course)).bind (·.2.gitConfig)).bind (·.templateRepositoryName)) with
    | none => rfl
    | some template => rfl
  · rintro ⟨⟨⟨connection, hconnection, hactive⟩, workspace, fullName, hworkspace, hname, hsplit⟩, hx⟩
    obtain ⟨⟨owner, repo⟩, hsplit⟩ := Option.isSome_iff_exists.1 hsplit
    have hfilter : (rows.connectionOf course).filter (·.status = .active) = some connection :=
      Option.filter_eq_some_iff.2 ⟨hconnection, by simpa using hactive⟩
    simp only [hworkspace, hname, hfilter, hsplit, Option.bind_some]
    refine ⟨_, rfl, ?_⟩
    rw [← hx connection hconnection]
    cases htemplate : nonEmpty (((Option.map (fun p => (p, rows.coding p.id))
      (course.parentCourseId.bind rows.course)).bind (·.2.gitConfig)).bind (·.templateRepositoryName)) with
    | none => rfl
    | some template => rfl

theorem nonEmpty_getD (s : String) : (nonEmpty (some s)).getD "main" = s ↔ s ≠ "" := by
  unfold nonEmpty
  by_cases hs : s = ""
  · subst hs
    decide
  · rw [Option.filter_some, if_pos (by simpa using hs)]
    simpa using hs

theorem lookedUp_iff (l : LoadedEnrollment) (connection : GitHubOrganizationConnection) :
    l.lookedUp connection.githubOrganizationLogin = (l.context (some connection)).startingCode ↔
      fromProgram l = true := by
  unfold LoadedEnrollment.lookedUp fromProgram WorkspaceContext.startingCode LoadedEnrollment.context
    LoadedEnrollment.gitConfig
  cases l.parentCourse.bind (·.2.gitConfig) with
  | some config =>
    show (nonEmpty config.templateRepositoryName).map _ = (nonEmpty config.templateRepositoryName).map
        (fun template => (⟨connection.githubOrganizationLogin, template, config.defaultBranch⟩ : StartingCode)) ↔
      (decide (nonEmpty config.templateRepositoryName = none) || decide (config.defaultBranch ≠ "")) = true
    cases nonEmpty config.templateRepositoryName with
    | none => simp
    | some template =>
      -- The same template: what is left is the branch, `||` here and `??` there.
      simp only [Option.map_some, Option.some.injEq, StartingCode.mk.injEq, true_and, nonEmpty_getD]
      simp
  | none =>
    show none = (nonEmpty (l.courseCoding.gitConfig.bind (·.templateRepositoryName))).map _ ↔
      decide (nonEmpty (l.courseCoding.gitConfig.bind (·.templateRepositoryName)) = none) = true
    cases nonEmpty (l.courseCoding.gitConfig.bind (·.templateRepositoryName)) <;> simp

/-- A reviewer compares a submission with what its workspace was made from exactly when the commit can
be read and the template is the parent program's own. -/
theorem review_startingCode {rows : Rows} {submissions : Table SubmissionId Submission} {user : UserId}
    {enrollmentId : EnrollmentId} {submissionId : SubmissionId} {l : LoadedEnrollment} {ctx : WorkspaceContext}
    {submission : Submission} (hl : loadEnrollment rows user enrollmentId = .ok l)
    (hctx : loadContext rows user enrollmentId = .ok ctx) (hs : submissions.get submissionId = some submission)
    (hcommit : (nonEmpty submission.commitSha).isSome) (hw : submission.workspaceId = some enrollmentId) :
    (∃ ref, resolveCommitRef rows submissions submissionId = some ref ∧ ref.startingCode = ctx.startingCode) ↔
      Readable rows l ∧ fromProgram l = true := by
  have heq : ctx = l.context (rows.connectionOf l.course) := by
    unfold loadContext at hctx
    rw [hl] at hctx
    cases hctx
    rfl
  rw [resolveCommitRef_eq hl hs hcommit hw]
  refine and_congr_right fun hreadable => ?_
  obtain ⟨⟨connection, hconnection, -⟩, -⟩ := hreadable
  rw [heq, hconnection, ← lookedUp_iff l connection]
  constructor
  · intro h
    exact h connection rfl
  · rintro h other hother
    cases hother
    exact h

namespace Example

/-- One student of the batch, and one enrolled in the program itself. -/
def reviewed : Rows :=
  school ((Table.empty.insert "e1" ⟨"fe-sep", "aisha", some 1, some (workspace "fe-sep26-enr1" (some "week1"))⟩).insert
    "e2" ⟨"fe", "bilal", some 1, some (workspace "fe-fe-enr1" (some "week1"))⟩)

def submissions : Table SubmissionId Submission :=
  (Table.empty.insert "s1" ⟨"todo", "aisha", 1, some "c1", some "e1"⟩).insert
    "s2" ⟨"todo", "bilal", 1, some "c2", some "e2"⟩

def batchStudent : LoadedEnrollment where
  id := "e1"
  enrollment := ⟨"fe-sep", "aisha", some 1, some (workspace "fe-sep26-enr1" (some "week1"))⟩
  githubLogin := some "aisha"
  course := course "fe-sep" (some "fe") "SEP26" "Frontend — September"
  courseCoding := reviewed.coding "fe-sep"
  parentCourse := some (course "fe" none "FE" "Frontend", reviewed.coding "fe")

end Example

open Example in
theorem batch_agrees : ∃ ctx, loadContext reviewed "aisha" "e1" = .ok ctx ∧
    ∃ ref, resolveCommitRef reviewed submissions "s1" = some ref ∧ ref.startingCode = ctx.startingCode := by
  have hl : loadEnrollment reviewed "aisha" "e1" = .ok batchStudent := rfl
  have hctx : loadContext reviewed "aisha" "e1" = .ok (batchStudent.context (some connection)) := rfl
  have hreadable : Readable reviewed batchStudent :=
    ⟨⟨connection, rfl, rfl⟩, _, "acme-school/fe-sep26-enr1", rfl, by decide, by decide⟩
  exact ⟨_, hctx, (review_startingCode hl hctx rfl (by decide) rfl).2 ⟨hreadable, by decide⟩⟩

open Example in
/-- A student of the program itself starts from its template, and is reviewed as if from nothing. -/
theorem direct_differs : ∃ ctx, loadContext reviewed "bilal" "e2" = .ok ctx ∧ ctx.blockedReason = none ∧
    ctx.startingCode = some ⟨"acme-school", "fe-starter", "main"⟩ ∧
    ∃ ref, resolveCommitRef reviewed submissions "s2" = some ref ∧ ref.startingCode = none :=
  ⟨_, rfl, by decide, by decide, _, rfl, by decide⟩

end Livetich.Workspace
