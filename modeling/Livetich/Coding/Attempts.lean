/-
Numbering of a student's attempts: `submit` and `submitCommit` of `coding-submissions.service.ts`, as steps between
their calls of the database, the object storage and GitHub. The count that a number comes from, the checks of the two
limits and the insert are steps apart; what keeps two calls from taking one number is the unique index of the table.

A call that is refused, or whose outside call fails, ends there. What follows the last write of a call (the audit
record and the broadcast) writes none of the tables. A submission's `activityType` is read nowhere here.
-/
import Livetich.Coding.ArchiveIndex
import Livetich.Coding.Model
import Livetich.Lib.TransSys
import Livetich.Workspace.Model

namespace Livetich.Coding.Attempts

open TransSys Livetich.Lib
open Livetich.Workspace (EnrollmentId GitHubOrganizationConnection Result nonEmpty)

/-! ## Data -/

/-- `MAX_ARCHIVE_BYTES`. -/
def maxArchiveBytes : Nat := 25 * 1024 * 1024

/-- `ZIP_MIMES`. -/
def zipMimes : List String :=
  ["application/zip", "application/x-zip-compressed", "application/x-zip", "multipart/x-zip",
    "application/octet-stream"]

structure UploadedBlob (Buffer : Type) where
  buffer : Buffer
  mimetype : String
  size : Nat
  originalname : Option String

inductive Call (Buffer : Type)
  | submit (file : Option (UploadedBlob Buffer))
  | submitCommit (commitSha : String)

structure Request (Buffer : Type) where
  user : UserId
  assignmentId : AssignmentId
  call : Call Buffer

/-- What the insert of an attempt is given beside the student and the assignment. -/
structure Attempt (Buffer : Type) where
  attemptNumber : Nat
  /-- An upload: the hash and the files of its index, and what goes into the storage. -/
  archive : Option (String × List IndexedFile × Buffer)
  /-- A pinned commit: the workspace and the commit. -/
  commit : Option (EnrollmentId × String)

/-- What a call does next. -/
inductive Stage (Buffer : Type)
  | findAssignment
  | assertEnrolled (assignment : CodingAssignment)
  | count (assignment : CodingAssignment)
  | findWorkspace (courseId : CourseId) (commitSha : String) (priorCount : Nat)
  | findConnection (workspaceId : EnrollmentId) (organizationId : OrganizationId) (fullName commitSha : String)
      (priorCount : Nat)
  | getCommit (workspaceId : EnrollmentId) (connection : GitHubOrganizationConnection) (fullName commitSha : String)
      (priorCount : Nat)
  | create (attempt : Attempt Buffer)
  | put (id : SubmissionId) (buffer : Buffer)
  | update (id : SubmissionId)

structure Task (Buffer : Type) where
  request : Request Buffer
  stage : Stage Buffer

/-- What the calls read and other requests write. -/
structure World where
  assignments : Table AssignmentId CodingAssignment
  rows : Workspace.Rows
  /-- The full SHA of a commit of the named repository, for an installation. -/
  getCommit : String → String → String → Option String

structure State (Buffer : Type) where
  world : World
  submissions : Table SubmissionId CodingSubmission
  files : List (SubmissionId × CodingSubmissionFile)
  storage : List (String × Buffer)
  tasks : Pool (Task Buffer)

inductive Event (Buffer : Type)
  | request (i : Nat) (r : Request Buffer)
  /-- The call that task `i` waits for returns; `id` and `now` are what a created row gets. -/
  | resume (i : Nat) (id : SubmissionId) (now : Int)
  /-- That call fails. -/
  | fail (i : Nat)
  /-- Other requests have changed what the calls read. -/
  | change (world : World)

/-! ## Steps -/

/-- `/\.zip$/i`. -/
def endsInZip (name : String) : Bool := (name.toList.reverse.take 4).map Char.toLower == "piz.".toList

/-- The checks of the upload itself, before anything is read. -/
def checkUpload {Buffer : Type} : Call Buffer → Result Unit
  | .submit none => .error (.badRequest "No file received")
  | .submit (some file) => do
    ensure (zipMimes.contains file.mimetype || endsInZip (file.originalname.getD ""))
      (.badRequest "Upload a .zip project archive")
    ensure (file.size ≤ maxArchiveBytes) (.badRequest "Archive is larger than 25 MB")
  | .submitCommit _ => .ok ()

def archiveKey (submissionId : SubmissionId) : String := "coding/submissions/" ++ submissionId ++ ".zip"

def World.enrolled (w : World) (courseId : CourseId) (studentId : UserId) : Bool :=
  w.rows.enrollments.entries.any fun e => e.2.courseId == courseId && e.2.studentId == studentId

/-- The student's workspace in a course, which is part of the row of the enrolment. -/
def World.workspace (w : World) (courseId : CourseId) (studentId : UserId) :
    Option (EnrollmentId × Workspace.EnrollmentWorkspace) :=
  w.rows.enrollments.entries.findSome? fun e =>
    if e.2.courseId == courseId && e.2.studentId == studentId then e.2.workspace.map (e.1, ·) else none

variable {Buffer : Type}

/-- The numbers of a student's attempts, in the order of the rows. -/
def State.attempts (s : State Buffer) (assignmentId : AssignmentId) (studentId : UserId) : List Nat :=
  (s.submissions.entries.filter fun e => e.2.assignmentId == assignmentId && e.2.studentId == studentId).map
    (·.2.attemptNumber)

def Attempt.row (attempt : Attempt Buffer) (r : Request Buffer) (now : Int) : CodingSubmission :=
  { assignmentId := r.assignmentId
    studentId := r.user
    attemptNumber := attempt.attemptNumber
    archiveUrl := none
    archiveHash := attempt.archive.map (·.1)
    workspaceId := attempt.commit.map (·.1)
    commitSha := attempt.commit.map (·.2)
    status := .submitted
    provisionalScore := none
    finalScore := none
    finalDecision := none
    reviewedById := none
    reviewedAt := none
    submittedAt := now }

def Attempt.files (attempt : Attempt Buffer) : List CodingSubmissionFile :=
  (attempt.archive.map fun a => a.2.1.map fun f => ⟨f.path, f.size, f.language⟩).getD []

variable (adm : Buffer → Option (List ZipEntry)) (collation : String → String → Bool) (sha256 : Buffer → String)

/-- What is left of a call once its attempts are counted and within the limits. -/
def Call.afterCount (courseId : CourseId) (priorCount : Nat) : Call Buffer → Result (Stage Buffer)
  | .submit none => .error (.badRequest "No file received")
  | .submit (some file) => do
    let index ← (indexArchive adm collation file.buffer).mapError .internal
    return .create ⟨priorCount + 1, some (sha256 file.buffer, index.files, file.buffer), none⟩
  | .submitCommit commitSha => return .findWorkspace courseId commitSha priorCount

/-- The outside call of a stage returns; what the call goes on with, `none` once it is done. -/
def resume (s : State Buffer) (id : SubmissionId) (now : Int) (r : Request Buffer) :
    Stage Buffer → Result (State Buffer × Option (Stage Buffer))
  | .findAssignment => do
    let assignment ← orThrow (s.world.assignments.get r.assignmentId) (.notFound "Assignment not found")
    ensure (assignment.status ≠ .draft) (.badRequest "This assignment is not open yet")
    ensure (assignment.status ≠ .closed) (.badRequest "This assignment is closed")
    return (s, some (.assertEnrolled assignment))
  | .assertEnrolled assignment => do
    ensure (s.world.enrolled assignment.courseId r.user) (.forbidden "Not enrolled in this program")
    return (s, some (.count assignment))
  | .count assignment => do
    let priorCount := (s.attempts r.assignmentId r.user).length
    ensure (¬ (1 ≤ priorCount ∧ assignment.allowResubmit = false))
      (.forbidden "Resubmission is not allowed for this task")
    ensure (priorCount < assignment.maxAttempts) (.forbidden "No attempts remaining")
    let stage ← r.call.afterCount adm collation sha256 assignment.courseId priorCount
    return (s, some stage)
  | .findWorkspace courseId commitSha priorCount => do
    let found := (s.world.workspace courseId r.user).filter (·.2.status = .active)
    let workspace ← orThrow found (.badRequest "Start your coding workspace before submitting")
    let fullName ← orThrow (nonEmpty workspace.2.githubRepositoryFullName)
      (.badRequest "Your workspace has no repository yet")
    let organizationId ← orThrow (nonEmpty ((s.world.rows.course courseId).bind (·.organizationId)))
      (.badRequest "This workspace is no longer connected to GitHub")
    return (s, some (.findConnection workspace.1 organizationId fullName commitSha priorCount))
  | .findConnection workspaceId organizationId fullName commitSha priorCount => do
    let connection ← orThrow ((s.world.rows.connections organizationId).filter (·.status = .active))
      (.badRequest "This workspace is no longer connected to GitHub")
    return (s, some (.getCommit workspaceId connection fullName commitSha priorCount))
  | .getCommit workspaceId connection fullName commitSha priorCount => do
    let sha ← orThrow (s.world.getCommit connection.githubInstallationId fullName commitSha)
      (.badRequest "That commit is not in your repository — save your progress first")
    return (s, some (.create ⟨priorCount + 1, none, some (workspaceId, sha)⟩))
  | .create attempt => do
    -- The unique index of assignment, student and attempt number, and the primary key.
    ensure (attempt.attemptNumber ∉ s.attempts r.assignmentId r.user) (.internal "P2002")
    ensure (s.submissions.get id = none) (.internal "P2002")
    let s' := { s with
      submissions := s.submissions.insert id (attempt.row r now)
      files := s.files ++ attempt.files.map (id, ·) }
    return (s', attempt.archive.map fun a => .put id a.2.2)
  | .put id buffer => return ({ s with storage := s.storage ++ [(archiveKey id, buffer)] }, some (.update id))
  | .update id => return ({ s with
      submissions := s.submissions.modify id fun row =>
        { row with archiveUrl := some ("/api/coding/files/archive/" ++ id) } }, none)

def step (s : State Buffer) : Event Buffer → Option (State Buffer)
  | .request i r =>
    if (s.tasks.get i).isSome then none
    else
      match checkUpload r.call with
      | .error _ => some s
      | .ok _ => some { s with tasks := s.tasks.put i (some ⟨r, .findAssignment⟩) }
  | .resume i id now => do
    let task ← s.tasks.get i
    match resume adm collation sha256 s id now task.request task.stage with
    | .error _ => some { s with tasks := s.tasks.put i none }
    | .ok (s', rest) => some { s' with tasks := s.tasks.put i (rest.map (⟨task.request, ·⟩)) }
  | .fail i => if (s.tasks.get i).isSome then some { s with tasks := s.tasks.put i none } else none
  | .change world => some { s with world := world }

/-! ## What a call goes on with -/

/-- The assignment as a call has read it. -/
def Stage.assignment : Stage Buffer → Option CodingAssignment
  | .assertEnrolled assignment | .count assignment => some assignment
  | _ => none

/-- The number a call is about to take. -/
def Stage.attempt : Stage Buffer → Option Nat
  | .findWorkspace _ _ priorCount | .findConnection _ _ _ _ priorCount | .getCommit _ _ _ _ priorCount =>
    some (priorCount + 1)
  | .create attempt => some attempt.attemptNumber
  | _ => none

/-- The settings that limit the attempts. -/
def settings (assignment : CodingAssignment) : Nat × Bool := (assignment.maxAttempts, assignment.allowResubmit)

/-- What a call's return leaves: its next stage, and the submissions. -/
inductive Resumed (s : State Buffer) (r : Request Buffer) : Stage Buffer → State Buffer → Option (Stage Buffer) → Prop
  | found {assignment : CodingAssignment} (hread : s.world.assignments.get r.assignmentId = some assignment) :
      Resumed s r .findAssignment s (some (.assertEnrolled assignment))
  | enrolled {assignment : CodingAssignment} : Resumed s r (.assertEnrolled assignment) s (some (.count assignment))
  | counted {assignment : CodingAssignment} {stage : Stage Buffer}
      (hresubmit : ¬ (1 ≤ (s.attempts r.assignmentId r.user).length ∧ assignment.allowResubmit = false))
      (hmax : (s.attempts r.assignmentId r.user).length < assignment.maxAttempts) (hforgets : stage.assignment = none)
      (hnext : stage.attempt = some ((s.attempts r.assignmentId r.user).length + 1)) :
      Resumed s r (.count assignment) s (some stage)
  | carried {stage stage' : Stage Buffer} (hforgets : stage'.assignment = none)
      (hsame : stage'.attempt = stage.attempt) : Resumed s r stage s (some stage')
  | created {attempt : Attempt Buffer} {id : SubmissionId} {now : Int}
      {files : List (SubmissionId × CodingSubmissionFile)} {rest : Option (Stage Buffer)}
      (hunique : attempt.attemptNumber ∉ s.attempts r.assignmentId r.user)
      (hfresh : s.submissions.get id = none) (hrest : ∀ stage ∈ rest, stage.assignment = none ∧ stage.attempt = none) :
      Resumed s r (.create attempt)
        { s with submissions := s.submissions.insert id (attempt.row r now), files := files } rest
  | stored {stage : Stage Buffer} {s' : State Buffer} {rest : Option (Stage Buffer)}
      (hrest : ∀ stage ∈ rest, stage.assignment = none ∧ stage.attempt = none) (hworld : s'.world = s.world)
      (htasks : s'.tasks = s.tasks) (hsame : ∀ a u, s'.attempts a u = s.attempts a u) : Resumed s r stage s' rest

/-- A column of a row that is not among the three of the index is set. -/
theorem attempts_modify (s : State Buffer) (id : SubmissionId) {f : CodingSubmission → CodingSubmission}
    (hf : ∀ row, (f row).assignmentId = row.assignmentId ∧ (f row).studentId = row.studentId ∧
      (f row).attemptNumber = row.attemptNumber) (assignmentId : AssignmentId) (studentId : UserId) :
    { s with submissions := s.submissions.modify id f }.attempts assignmentId studentId =
      s.attempts assignmentId studentId := by
  unfold State.attempts
  rw [Table.entries_modify, List.filter_map, List.map_map]
  have hcolumns : ∀ e : SubmissionId × CodingSubmission,
      (if e.1 = id then (e.1, f e.2) else e).2.assignmentId = e.2.assignmentId ∧
        (if e.1 = id then (e.1, f e.2) else e).2.studentId = e.2.studentId ∧
        (if e.1 = id then (e.1, f e.2) else e).2.attemptNumber = e.2.attemptNumber := by
    intro e
    split
    · exact hf e.2
    · exact ⟨rfl, rfl, rfl⟩
  simp only [Function.comp_def, hcolumns]

theorem attempts_insert {s : State Buffer} {id : SubmissionId} (h : s.submissions.get id = none)
    (row : CodingSubmission) (assignmentId : AssignmentId) (studentId : UserId)
    (files : List (SubmissionId × CodingSubmissionFile)) :
    { s with submissions := s.submissions.insert id row, files := files }.attempts assignmentId studentId =
      s.attempts assignmentId studentId ++
        if row.assignmentId = assignmentId ∧ row.studentId = studentId then [row.attemptNumber] else [] := by
  unfold State.attempts
  rw [Table.entries_insert h, List.filter_append, List.map_append]
  congr 1
  by_cases hrow : row.assignmentId = assignmentId ∧ row.studentId = studentId
  · simp [hrow]
  · rw [if_neg hrow, List.filter_cons_of_neg (by simpa using hrow)]
    rfl

theorem afterCount_ok {courseId : CourseId} {priorCount : Nat} {call : Call Buffer} {stage : Stage Buffer}
    (h : call.afterCount adm collation sha256 courseId priorCount = .ok stage) :
    stage.assignment = none ∧ stage.attempt = some (priorCount + 1) := by
  cases call with
  | submit file =>
    cases file with
    | none => cases h
    | some file =>
      obtain ⟨index, -, h⟩ := bind_ok_iff.1 h
      cases h
      exact ⟨rfl, rfl⟩
  | submitCommit commitSha =>
    cases h
    exact ⟨rfl, rfl⟩

theorem resume_ok {s s' : State Buffer} {id : SubmissionId} {now : Int} {r : Request Buffer} {stage : Stage Buffer}
    {rest : Option (Stage Buffer)} (h : resume adm collation sha256 s id now r stage = .ok (s', rest)) :
    Resumed s r stage s' rest := by
  cases stage with
  | findAssignment =>
    obtain ⟨assignment, hread, h⟩ := bind_ok_iff.1 h
    obtain ⟨-, -, h⟩ := bind_ok_iff.1 h
    obtain ⟨-, -, h⟩ := bind_ok_iff.1 h
    cases h
    exact .found (orThrow_ok_iff.1 hread)
  | assertEnrolled assignment =>
    obtain ⟨-, -, h⟩ := bind_ok_iff.1 h
    cases h
    exact .enrolled
  | count assignment =>
    obtain ⟨_, hresubmit, h⟩ := bind_ok_iff.1 h
    obtain ⟨_, hmax, h⟩ := bind_ok_iff.1 h
    obtain ⟨stage, hafter, h⟩ := bind_ok_iff.1 h
    cases h
    obtain ⟨hforgets, hnext⟩ := afterCount_ok adm collation sha256 hafter
    exact .counted (ensure_ok_iff.1 hresubmit) (ensure_ok_iff.1 hmax) hforgets hnext
  | findWorkspace courseId commitSha priorCount =>
    obtain ⟨workspace, -, h⟩ := bind_ok_iff.1 h
    obtain ⟨fullName, -, h⟩ := bind_ok_iff.1 h
    obtain ⟨organizationId, -, h⟩ := bind_ok_iff.1 h
    cases h
    exact .carried rfl rfl
  | findConnection workspaceId organizationId fullName commitSha priorCount =>
    obtain ⟨connection, -, h⟩ := bind_ok_iff.1 h
    cases h
    exact .carried rfl rfl
  | getCommit workspaceId connection fullName commitSha priorCount =>
    obtain ⟨sha, -, h⟩ := bind_ok_iff.1 h
    cases h
    exact .carried rfl rfl
  | create attempt =>
    obtain ⟨_, hunique, h⟩ := bind_ok_iff.1 h
    obtain ⟨_, hfresh, h⟩ := bind_ok_iff.1 h
    cases h
    refine .created (ensure_ok_iff.1 hunique) (ensure_ok_iff.1 hfresh) fun stage hstage => ?_
    obtain ⟨archive, -, rfl⟩ := Option.mem_map.1 hstage
    exact ⟨rfl, rfl⟩
  | put id buffer =>
    cases h
    exact .stored (fun stage hstage => by cases hstage; exact ⟨rfl, rfl⟩) rfl rfl fun _ _ => rfl
  | update id =>
    cases h
    refine .stored (fun stage hstage => by cases hstage) rfl rfl fun a u => ?_
    refine attempts_modify s id (fun row => ?_) a u
    exact ⟨rfl, rfl, rfl⟩

/-! ## The invariant -/

section Invariant

variable (assignmentId : AssignmentId) (studentId : UserId) (limits : Option (Nat × Bool))

/-- A number that a call may take once `count` attempts are stored. -/
def Allowed (count k : Nat) : Prop :=
  1 ≤ k ∧ k ≤ count + 1 ∧ ∃ maxAttempts allowResubmit, limits = some (maxAttempts, allowResubmit) ∧
    k ≤ maxAttempts ∧ (allowResubmit = false → k = 1)

/-- What a call of the student for the assignment may hold. -/
structure Stage.Sound (count : Nat) (stage : Stage Buffer) : Prop where
  assignment : ∀ a ∈ stage.assignment, some (settings a) = limits
  attempt : ∀ k ∈ stage.attempt, Allowed limits count k

structure Inv (s : State Buffer) : Prop where
  steady : (s.world.assignments.get assignmentId).map settings = limits
  numbered : (s.attempts assignmentId studentId).Perm
    (List.range' 1 (s.attempts assignmentId studentId).length)
  within : ∀ maxAttempts allowResubmit, limits = some (maxAttempts, allowResubmit) →
    (s.attempts assignmentId studentId).length ≤ maxAttempts ∧
      (allowResubmit = false → (s.attempts assignmentId studentId).length ≤ 1)
  sound : ∀ i task, s.tasks.get i = some task → task.request.assignmentId = assignmentId →
    task.request.user = studentId → task.stage.Sound limits (s.attempts assignmentId studentId).length

/-- The settings of the assignment stay as they are. -/
def Steady (s : State Buffer) : Event Buffer → Prop
  | .change world =>
    (world.assignments.get assignmentId).map settings = (s.world.assignments.get assignmentId).map settings
  | _ => True

variable {assignmentId studentId limits}

theorem Allowed.mono {count count' k : Nat} (h : Allowed limits count k) (hle : count ≤ count') :
    Allowed limits count' k := by
  obtain ⟨hpos, hnext, hlimits⟩ := h
  exact ⟨hpos, by omega, hlimits⟩

theorem Stage.Sound.mono {count count' : Nat} {stage : Stage Buffer} (h : stage.Sound limits count)
    (hle : count ≤ count') : stage.Sound limits count' :=
  ⟨h.assignment, fun k hk => (h.attempt k hk).mono hle⟩

theorem Stage.Sound.idle {stage : Stage Buffer} (h : stage.assignment = none ∧ stage.attempt = none) (count : Nat) :
    stage.Sound limits count := by
  constructor
  · rw [h.1]
    simp
  · rw [h.2]
    simp

/-- A task goes on, and nothing else happens. -/
theorem Inv.put {s : State Buffer} (h : Inv assignmentId studentId limits s) (i : Nat) {t : Option (Task Buffer)}
    (hnew : ∀ task ∈ t, task.request.assignmentId = assignmentId → task.request.user = studentId →
      task.stage.Sound limits (s.attempts assignmentId studentId).length) :
    Inv assignmentId studentId limits { s with tasks := s.tasks.put i t } := by
  refine ⟨h.steady, h.numbered, h.within, fun j task hj hassignment huser => ?_⟩
  rcases Pool.get_put_cases hj with ⟨-, rfl⟩ | ⟨-, hj⟩
  · exact hnew task rfl hassignment huser
  · exact h.sound j task hj hassignment huser

/-- A row goes in under the number its call holds: the next one, as any smaller one is taken. -/
theorem Inv.create {s : State Buffer} (h : Inv assignmentId studentId limits s) {id : SubmissionId}
    {row : CodingSubmission} (files : List (SubmissionId × CodingSubmissionFile)) (hfresh : s.submissions.get id = none)
    (hunique : row.attemptNumber ∉ s.attempts row.assignmentId row.studentId)
    (hallowed : row.assignmentId = assignmentId → row.studentId = studentId →
      Allowed limits (s.attempts assignmentId studentId).length row.attemptNumber) :
    Inv assignmentId studentId limits { s with submissions := s.submissions.insert id row, files := files } := by
  have hattempts := attempts_insert hfresh row assignmentId studentId files
  by_cases hrow : row.assignmentId = assignmentId ∧ row.studentId = studentId
  · obtain ⟨hpos, hle, maxAttempts, allowResubmit, hlimits, hmax, hresubmit⟩ := hallowed hrow.1 hrow.2
    rw [if_pos hrow] at hattempts
    rw [hrow.1, hrow.2, h.numbered.mem_iff, List.mem_range'_1] at hunique
    -- The numbers up to the count are all taken.
    have hnext : row.attemptNumber = (s.attempts assignmentId studentId).length + 1 := by omega
    have hlength : ({ s with submissions := s.submissions.insert id row, files := files }.attempts assignmentId
        studentId).length = (s.attempts assignmentId studentId).length + 1 := by
      rw [hattempts, List.length_append, List.length_singleton]
    refine ⟨h.steady, ?_, ?_, ?_⟩
    · rw [hlength, hattempts, List.range'_concat, hnext, Nat.one_mul, Nat.add_comm 1]
      exact h.numbered.append_right _
    · intro maxAttempts' allowResubmit' heq
      rw [hlimits] at heq
      cases heq
      rw [hlength]
      refine ⟨by omega, fun hno => ?_⟩
      have := hresubmit hno
      omega
    · intro i task hi hassignment huser
      rw [hlength]
      exact (h.sound i task hi hassignment huser).mono (by omega)
  · rw [if_neg hrow, List.append_nil] at hattempts
    refine ⟨h.steady, ?_, ?_, ?_⟩
    · rw [hattempts]
      exact h.numbered
    · rw [hattempts]
      exact h.within
    · rw [hattempts]
      exact h.sound

/-- What a call's return keeps, and what the call may hold then. -/
theorem Inv.resumed {s s' : State Buffer} {r : Request Buffer} {stage : Stage Buffer} {rest : Option (Stage Buffer)}
    (h : Inv assignmentId studentId limits s) (hr : Resumed s r stage s' rest)
    (hstage : r.assignmentId = assignmentId → r.user = studentId →
      stage.Sound limits (s.attempts assignmentId studentId).length) :
    Inv assignmentId studentId limits s' ∧ s'.tasks = s.tasks ∧
      ∀ next ∈ rest, r.assignmentId = assignmentId → r.user = studentId →
        next.Sound limits (s'.attempts assignmentId studentId).length := by
  cases hr with
  | found hread =>
    refine ⟨h, rfl, fun next hnext hassignment _ => ?_⟩
    cases hnext
    subst hassignment
    refine ⟨fun a ha => ?_, fun k hk => by cases hk⟩
    cases ha
    have hsteady := h.steady
    rwa [hread] at hsteady
  | enrolled =>
    refine ⟨h, rfl, fun next hnext hassignment huser => ?_⟩
    cases hnext
    exact ⟨(hstage hassignment huser).assignment, fun k hk => by cases hk⟩
  | @counted assignment next hresubmit hmax hforgets hnumber =>
    refine ⟨h, rfl, fun next' hnext hassignment huser => ?_⟩
    cases hnext
    have hlimits := (hstage hassignment huser).assignment assignment rfl
    subst hassignment huser
    refine ⟨fun a ha => by simp [hforgets] at ha, fun k hk => ?_⟩
    rw [hnumber] at hk
    cases hk
    refine ⟨by omega, le_refl _, _, _, hlimits.symm, hmax, fun hno => ?_⟩
    have hnone : (s.attempts r.assignmentId r.user).length = 0 := by
      by_contra hsome
      exact hresubmit ⟨by omega, hno⟩
    rw [hnone]
  | carried hforgets hsame =>
    refine ⟨h, rfl, fun next hnext hassignment huser => ?_⟩
    cases hnext
    refine ⟨fun a ha => by simp [hforgets] at ha, fun k hk => ?_⟩
    rw [hsame] at hk
    exact (hstage hassignment huser).attempt k hk
  | @created attempt id now files rest hunique hfresh hrest =>
    refine ⟨h.create files hfresh hunique fun hassignment huser => ?_, rfl, fun next hnext _ _ => ?_⟩
    · exact (hstage hassignment huser).attempt attempt.attemptNumber rfl
    · exact .idle (hrest next hnext) _
  | stored hrest hworld htasks hsame =>
    refine ⟨⟨?_, ?_, ?_, ?_⟩, htasks, fun next hnext _ _ => .idle (hrest next hnext) _⟩
    · rw [hworld]
      exact h.steady
    · rw [hsame]
      exact h.numbered
    · rw [hsame]
      exact h.within
    · rw [hsame, htasks]
      exact h.sound

theorem inv_step {s s' : State Buffer} {e : Event Buffer} (h : Inv assignmentId studentId limits s)
    (hok : Steady assignmentId s e) (hstep : step adm collation sha256 s e = some s') :
    Inv assignmentId studentId limits s' := by
  cases e with
  | request i r =>
    unfold step at hstep
    simp only at hstep
    split at hstep
    · cases hstep
    · split at hstep
      · cases hstep
        exact h
      · cases hstep
        refine h.put i fun task htask _ _ => ?_
        cases htask
        exact .idle ⟨rfl, rfl⟩ _
  | resume i id now =>
    obtain ⟨task, htask, hstep⟩ := Option.bind_eq_some_iff.1 hstep
    split at hstep
    · cases hstep
      exact h.put i fun task htask => by cases htask
    · rename_i s₁ rest hresume
      cases hstep
      obtain ⟨h₁, htasks, hrest⟩ := h.resumed (resume_ok adm collation sha256 hresume) (h.sound i task htask)
      rw [← htasks]
      refine h₁.put i fun task' htask' hassignment huser => ?_
      obtain ⟨stage, hstage, rfl⟩ := Option.mem_map.1 htask'
      exact hrest stage hstage hassignment huser
  | fail i =>
    unfold step at hstep
    simp only at hstep
    split at hstep
    · cases hstep
      exact h.put i fun task htask => by cases htask
    · cases hstep
  | change world =>
    cases hstep
    exact ⟨hok.trans h.steady, h.numbered, h.within, h.sound⟩

end Invariant

/-! ## Every run -/

/-- Nothing of the student's attempts at the assignment is there yet. -/
structure Fresh (assignmentId : AssignmentId) (studentId : UserId) (s : State Buffer) : Prop where
  attempts : s.attempts assignmentId studentId = []
  tasks : ∀ i task, s.tasks.get i = some task → task.request.assignmentId = assignmentId →
    task.request.user ≠ studentId

theorem Fresh.inv {assignmentId : AssignmentId} {studentId : UserId} {s : State Buffer}
    (h : Fresh assignmentId studentId s) :
    Inv assignmentId studentId ((s.world.assignments.get assignmentId).map settings) s := by
  refine ⟨rfl, ?_, ?_, fun i task hi hassignment huser => ?_⟩
  · rw [h.attempts]
    exact .nil
  · rw [h.attempts]
    simp
  · exact absurd huser (h.tasks i task hi hassignment)

/-- However the calls interleave, and whatever other students and assignments see meanwhile: the attempts are numbered
from 1 without a gap or a repeat, there are no more than the assignment allows, and one where it allows no other. -/
theorem attempts_numbered {assignmentId : AssignmentId} {studentId : UserId} {es : List (Event Buffer)}
    {s t : State Buffer} (hfresh : Fresh assignmentId studentId s)
    (hsteady : Meets (step adm collation sha256) (Steady assignmentId) s es)
    (h : run (step adm collation sha256) s es = some t) :
    ∃ n, (t.attempts assignmentId studentId).Perm (List.range' 1 n) ∧
      ∀ assignment, t.world.assignments.get assignmentId = some assignment →
        n ≤ assignment.maxAttempts ∧ (assignment.allowResubmit = false → n ≤ 1) := by
  have hinv := run_inv (fun s e s' hs hok he => inv_step adm collation sha256 hs hok he) hfresh.inv hsteady h
  refine ⟨_, hinv.numbered, fun assignment hassignment => ?_⟩
  refine hinv.within _ _ ?_
  rw [← hinv.steady, hassignment]
  rfl

namespace Example

def exercise : CodingAssignment :=
  { courseId := "c1", sessionId := none, title := "Routes", description := none, language := none, framework := none
    difficulty := none, workspacePath := none, status := .live, dueAt := none, maxAttempts := 2, allowResubmit := true
    aiAutoReview := false, showAiToStudents := false, requirements := [], rubric := [] }

def rows : Workspace.Rows :=
  { courses := [], coding := fun _ => ⟨none, none⟩, memberships := [], connections := fun _ => none
    githubLogins := fun _ => none, enrollments := Table.empty.insert "e1" ⟨"c1", "u1", some 1, none⟩ }

def world : World :=
  { assignments := Table.empty.insert "a1" exercise, rows := rows, getCommit := fun _ _ _ => none }

def start : State (List ZipEntry) := ⟨world, Table.empty, [], [], .empty⟩

def upload : Request (List ZipEntry) :=
  ⟨"u1", "a1", .submit (some ⟨[⟨false, "a.ts", 9, .ok "let a = 1"⟩], "application/zip", 120, none⟩)⟩

/-- A call up to its count. -/
def counted (i : Nat) : List (Event (List ZipEntry)) :=
  [.request i upload, .resume i "" 0, .resume i "" 0, .resume i "" 0]

/-- Two calls count before either inserts, and a third one comes later. -/
def twoAtOnce : List (Event (List ZipEntry)) :=
  counted 0 ++ counted 1 ++ [.resume 0 "s1" 1, .resume 1 "s2" 2, .resume 0 "" 3, .resume 0 "" 4] ++
    counted 2 ++ [.resume 2 "s3" 5, .resume 2 "" 6, .resume 2 "" 7]

def hash (_ : List ZipEntry) : String := "5feceb66"

end Example

open Attempts.Example Coding.Example in
/-- The second of the two calls is turned away by the index, and the later one gets the next number. -/
theorem two_at_once :
    (run (step unzipped bySpelling hash) start twoAtOnce).map (·.attempts "a1" "u1") = some [1, 2] ∧
      ∃ t n, run (step unzipped bySpelling hash) start twoAtOnce = some t ∧
        (t.attempts "a1" "u1").Perm (List.range' 1 n) ∧
        ∀ assignment, t.world.assignments.get "a1" = some assignment →
          n ≤ assignment.maxAttempts ∧ (assignment.allowResubmit = false → n ≤ 1) := by
  have hrun : (run (step unzipped bySpelling hash) start twoAtOnce).map (·.attempts "a1" "u1") = some [1, 2] := by
    decide
  obtain ⟨t, ht, -⟩ := Option.map_eq_some_iff.1 hrun
  have hfresh : Fresh "a1" "u1" start := ⟨rfl, fun i task hi => by cases hi⟩
  have hsteady : Meets (step unzipped bySpelling hash) (Steady "a1") start twoAtOnce := by
    refine Meets.of_steps ht fun es₁ e es₂ s₁ s₂ hes _ _ => ?_
    have he : e ∈ twoAtOnce := by simp [hes]
    simp only [twoAtOnce, counted, List.cons_append, List.nil_append, List.mem_cons, List.not_mem_nil, or_false] at he
    rcases he with rfl | rfl | rfl | rfl | rfl | rfl | rfl | rfl | rfl | rfl | rfl | rfl | rfl | rfl | rfl | rfl | rfl |
      rfl | rfl <;> trivial
  obtain ⟨n, hn⟩ := attempts_numbered unzipped bySpelling hash hfresh hsteady ht
  exact ⟨hrun, t, n, ht, hn⟩

end Livetich.Coding.Attempts
