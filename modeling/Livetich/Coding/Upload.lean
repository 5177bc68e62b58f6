/-
What an upload that fails has used up: `CodingSubmissionsService.submit` as one call, with every point at which the
database or the object storage may fail. Its parts are the stages that two calls interleave.
-/
import Livetich.Assignments.Uploads
import Livetich.Coding.Attempts

namespace Livetich.Coding.Attempts

open Livetich.Lib Livetich.Lib.Calls
open Livetich.Workspace (HttpError Result)

/-! ## The call -/

/-- Which of the requests of a call fail. -/
structure Faults where
  findAssignment : Bool
  assertEnrolled : Bool
  count : Bool
  create : Bool
  put : Bool
  update : Bool
  /-- One of the reads of `broadcastSubmissionUpdate`. -/
  broadcast : Bool

variable {Buffer : Type}

abbrev UploadCalls (Buffer : Type) := Calls (State Buffer) HttpError

variable (adm : Buffer → Option (List ZipEntry)) (collation : String → String → Bool) (sha256 : Buffer → String)

/-- What the call rejects with where a request fails. -/
def requestFailed : HttpError := .internal "request failed"

/-- Where an answer is refused, nothing is written. -/
def settle (s : State Buffer) :
    Result (State Buffer × Option (Stage Buffer)) → State Buffer × Except HttpError (Option (Stage Buffer))
  | .ok (s', rest) => (s', .ok rest)
  | .error e => (s, .error e)

/-- The request of a stage fails, or its answer is worked on. -/
def await (fails : Bool) (id : SubmissionId) (now : Int) (r : Request Buffer) :
    Option (Stage Buffer) → UploadCalls Buffer (Option (Stage Buffer))
  | none => pure none
  | some stage => fun s =>
    if fails then (s, .error requestFailed)
    else settle s (resume adm collation sha256 s id now r stage)

/-- What is asked before the attempt is recorded. -/
def prepare (faults : Faults) (r : Request Buffer) : UploadCalls Buffer (Option (Stage Buffer)) := do
  reads fun _ => checkUpload r.call
  let stage ← await adm collation sha256 faults.findAssignment "" 0 r (some .findAssignment)
  let stage ← await adm collation sha256 faults.assertEnrolled "" 0 r stage
  await adm collation sha256 faults.count "" 0 r stage

/-- What follows the insert: the archive, the row's address of it, and the live board. -/
def store (faults : Faults) (r : Request Buffer) (stage : Option (Stage Buffer)) : UploadCalls Buffer Unit := do
  let stage ← await adm collation sha256 faults.put "" 0 r stage
  let _ ← await adm collation sha256 faults.update "" 0 r stage
  awaits faults.broadcast requestFailed

/-- `id` and `now` are what the created row gets. -/
def submit (faults : Faults) (user : UserId) (assignmentId : AssignmentId) (file : Option (UploadedBlob Buffer))
    (id : SubmissionId) (now : Int) : UploadCalls Buffer Unit := do
  let stage ← prepare adm collation sha256 faults ⟨user, assignmentId, .submit file⟩
  let stage ← await adm collation sha256 faults.create id now ⟨user, assignmentId, .submit file⟩ stage
  store adm collation sha256 faults ⟨user, assignmentId, .submit file⟩ stage

/-! ## When an attempt is burned -/

/-- The checks let the upload in, no request up to the insert fails, and the insert meets no other row. -/
structure Admitted (s : State Buffer) (faults : Faults) (user : UserId) (assignmentId : AssignmentId)
    (file : UploadedBlob Buffer) (id : SubmissionId) : Prop where
  type : zipMimes.contains file.mimetype = true ∨ endsInZip (file.originalname.getD "") = true
  size : file.size ≤ maxArchiveBytes
  reads : faults.findAssignment = false ∧ faults.assertEnrolled = false ∧ faults.count = false ∧ faults.create = false
  assignment : ∃ a, s.world.assignments.get assignmentId = some a ∧ a.status ≠ .draft ∧ a.status ≠ .closed ∧
    s.world.enrolled a.courseId user = true ∧
    ¬(1 ≤ (s.attempts assignmentId user).length ∧ a.allowResubmit = false) ∧
    (s.attempts assignmentId user).length < a.maxAttempts
  index : (indexArchive adm collation file.buffer).isOk = true
  unique : (s.attempts assignmentId user).length + 1 ∉ s.attempts assignmentId user
  fresh : s.submissions.get id = none

/-- A request after the insert fails. -/
def Faults.late (faults : Faults) : Prop := faults.put = true ∨ faults.update = true ∨ faults.broadcast = true

def Burns (s : State Buffer) (faults : Faults) (user : UserId) (assignmentId : AssignmentId)
    (file : Option (UploadedBlob Buffer)) (id : SubmissionId) : Prop :=
  ∃ f ∈ file, Admitted adm collation s faults user assignmentId f id ∧ faults.late

/-! ## One request -/

section Requests

variable {adm collation sha256} {fails : Bool} {id : SubmissionId} {now : Int} {r : Request Buffer}

theorem await_some {stage : Stage Buffer} {s : State Buffer} :
    await adm collation sha256 fails id now r (some stage) s =
      if fails then (s, .error requestFailed)
      else settle s (resume adm collation sha256 s id now r stage) := rfl

theorem await_of_fails {stage : Stage Buffer} {s : State Buffer} (h : fails = true) :
    await adm collation sha256 fails id now r (some stage) s = (s, .error requestFailed) := by
  rw [await_some, if_pos h]

theorem await_ok_iff {stage : Stage Buffer} {s t : State Buffer} {rest : Option (Stage Buffer)} :
    await adm collation sha256 fails id now r (some stage) s = (t, .ok rest) ↔
      fails = false ∧ resume adm collation sha256 s id now r stage = .ok (t, rest) := by
  rw [await_some]
  cases fails with
  | true => simp
  | false =>
    rcases resume adm collation sha256 s id now r stage with e | ⟨s', rest'⟩
    · simp [settle]
    · simp [settle]

/-- A request that fails, or whose answer is refused, has written nothing. -/
theorem await_error {stage : Option (Stage Buffer)} {s t : State Buffer} {e : HttpError}
    (h : await adm collation sha256 fails id now r stage s = (t, .error e)) : t = s := by
  cases stage with
  | none => cases h
  | some stage =>
    rw [await_some] at h
    split at h
    · cases h
      rfl
    · rcases hresume : resume adm collation sha256 s id now r stage with d | ⟨s', rest⟩
      · rw [hresume] at h
        cases h
        rfl
      · rw [hresume] at h
        cases h

theorem checkUpload_ok_iff {file : Option (UploadedBlob Buffer)} {u : Unit} :
    checkUpload (.submit file) = .ok u ↔ ∃ f ∈ file,
      (zipMimes.contains f.mimetype = true ∨ endsInZip (f.originalname.getD "") = true) ∧
        f.size ≤ maxArchiveBytes := by
  cases file with
  | none => simp [checkUpload]
  | some f =>
    unfold checkUpload
    rw [Lib.bind_ok_iff]
    simp only [ensure_ok_iff, Bool.or_eq_true, Option.mem_def, Option.some.injEq, exists_eq_left']
    constructor
    · rintro ⟨_, htype, hsize⟩
      exact ⟨htype, hsize⟩
    · rintro ⟨htype, hsize⟩
      exact ⟨(), htype, hsize⟩

theorem found_ok_iff {s t : State Buffer} {rest : Option (Stage Buffer)} :
    resume adm collation sha256 s id now r .findAssignment = .ok (t, rest) ↔
      ∃ a, s.world.assignments.get r.assignmentId = some a ∧ a.status ≠ .draft ∧ a.status ≠ .closed ∧
        rest = some (.assertEnrolled a) ∧ t = s := by
  simp only [resume, Lib.bind_ok_iff, orThrow_ok_iff, ensure_ok_iff]
  constructor
  · rintro ⟨a, ha, _, hdraft, _, hclosed, h⟩
    cases h
    exact ⟨a, ha, hdraft, hclosed, rfl, rfl⟩
  · rintro ⟨a, ha, hdraft, hclosed, rfl, rfl⟩
    exact ⟨a, ha, (), hdraft, (), hclosed, rfl⟩

theorem enrolled_ok_iff {a : CodingAssignment} {s t : State Buffer} {rest : Option (Stage Buffer)} :
    resume adm collation sha256 s id now r (.assertEnrolled a) = .ok (t, rest) ↔
      s.world.enrolled a.courseId r.user = true ∧ rest = some (.count a) ∧ t = s := by
  simp only [resume, Lib.bind_ok_iff, ensure_ok_iff]
  constructor
  · rintro ⟨_, henrolled, h⟩
    cases h
    exact ⟨henrolled, rfl, rfl⟩
  · rintro ⟨henrolled, rfl, rfl⟩
    exact ⟨(), henrolled, rfl⟩

theorem counted_ok_iff {a : CodingAssignment} {s t : State Buffer} {rest : Option (Stage Buffer)} :
    resume adm collation sha256 s id now r (.count a) = .ok (t, rest) ↔
      ¬(1 ≤ (s.attempts r.assignmentId r.user).length ∧ a.allowResubmit = false) ∧
        (s.attempts r.assignmentId r.user).length < a.maxAttempts ∧
        ∃ stage, r.call.afterCount adm collation sha256 a.courseId (s.attempts r.assignmentId r.user).length =
          .ok stage ∧ rest = some stage ∧ t = s := by
  simp only [resume, Lib.bind_ok_iff, ensure_ok_iff]
  constructor
  · rintro ⟨_, hresubmit, _, hmax, stage, hafter, h⟩
    cases h
    exact ⟨hresubmit, hmax, stage, hafter, rfl, rfl⟩
  · rintro ⟨hresubmit, hmax, stage, hafter, rfl, rfl⟩
    exact ⟨(), hresubmit, (), hmax, stage, hafter, rfl⟩

theorem created_ok_iff {attempt : Attempt Buffer} {s t : State Buffer} {rest : Option (Stage Buffer)} :
    resume adm collation sha256 s id now r (.create attempt) = .ok (t, rest) ↔
      attempt.attemptNumber ∉ s.attempts r.assignmentId r.user ∧ s.submissions.get id = none ∧
        rest = (attempt.archive.map fun a => .put id a.2.2) ∧
        t = { s with
          submissions := s.submissions.insert id (attempt.row r now)
          files := s.files ++ attempt.files.map (id, ·) } := by
  simp only [resume, Lib.bind_ok_iff, ensure_ok_iff]
  constructor
  · rintro ⟨_, hunique, _, hfresh, h⟩
    cases h
    exact ⟨hunique, hfresh, rfl, rfl⟩
  · rintro ⟨hunique, hfresh, rfl, rfl⟩
    exact ⟨(), hunique, (), hfresh, rfl⟩

/-- What an upload is about to record. -/
theorem afterCount_ok_iff {f : UploadedBlob Buffer} {courseId : CourseId} {priorCount : Nat} {stage : Stage Buffer} :
    (Call.submit (some f)).afterCount adm collation sha256 courseId priorCount = .ok stage ↔
      ∃ index, indexArchive adm collation f.buffer = .ok index ∧
        stage = .create ⟨priorCount + 1, some (sha256 f.buffer, index.files, f.buffer), none⟩ := by
  simp only [Call.afterCount, Lib.bind_ok_iff, mapError_ok_iff]
  constructor
  · rintro ⟨index, hindex, h⟩
    cases h
    exact ⟨index, hindex, rfl⟩
  · rintro ⟨index, hindex, rfl⟩
    exact ⟨index, hindex, rfl⟩

end Requests

/-! ## What an upload comes to -/

section Submit

variable {adm collation sha256} {faults : Faults} {user : UserId} {assignmentId : AssignmentId}
  {file : Option (UploadedBlob Buffer)} {id : SubmissionId} {now : Int} {s t : State Buffer}

theorem prepare_ok_iff {rest : Option (Stage Buffer)} :
    prepare adm collation sha256 faults ⟨user, assignmentId, .submit file⟩ s = (t, .ok rest) ↔
      (∃ f ∈ file, (zipMimes.contains f.mimetype = true ∨ endsInZip (f.originalname.getD "") = true) ∧
        f.size ≤ maxArchiveBytes ∧
        (faults.findAssignment = false ∧ faults.assertEnrolled = false ∧ faults.count = false) ∧
        (∃ a, s.world.assignments.get assignmentId = some a ∧ a.status ≠ .draft ∧ a.status ≠ .closed ∧
          s.world.enrolled a.courseId user = true ∧
          ¬(1 ≤ (s.attempts assignmentId user).length ∧ a.allowResubmit = false) ∧
          (s.attempts assignmentId user).length < a.maxAttempts) ∧
        ∃ index, indexArchive adm collation f.buffer = .ok index ∧
          rest = some (.create ⟨(s.attempts assignmentId user).length + 1,
            some (sha256 f.buffer, index.files, f.buffer), none⟩)) ∧ t = s := by
  unfold prepare
  constructor
  · intro h
    obtain ⟨s₁, _, hread, h⟩ := Calls.bind_ok_iff.1 h
    obtain ⟨s₂, stage₂, hfind, h⟩ := Calls.bind_ok_iff.1 h
    obtain ⟨s₃, stage₃, hassert, hcount⟩ := Calls.bind_ok_iff.1 h
    obtain ⟨hupload, rfl⟩ := reads_ok_iff.1 hread
    obtain ⟨f, hfile, htype, hsize⟩ := checkUpload_ok_iff.1 hupload
    obtain ⟨hfindOk, hfound⟩ := await_ok_iff.1 hfind
    obtain ⟨a, ha, hdraft, hclosed, rfl, rfl⟩ := found_ok_iff.1 hfound
    obtain ⟨hassertOk, henrolled⟩ := await_ok_iff.1 hassert
    obtain ⟨hin, rfl, rfl⟩ := enrolled_ok_iff.1 henrolled
    obtain ⟨hcountOk, hcounted⟩ := await_ok_iff.1 hcount
    obtain ⟨hresubmit, hmax, stage, hafter, rfl, rfl⟩ := counted_ok_iff.1 hcounted
    rw [Option.mem_def] at hfile
    subst hfile
    obtain ⟨index, hindex, rfl⟩ := afterCount_ok_iff.1 hafter
    exact ⟨⟨f, rfl, htype, hsize, ⟨hfindOk, hassertOk, hcountOk⟩, ⟨a, ha, hdraft, hclosed, hin, hresubmit, hmax⟩,
      index, hindex, rfl⟩, rfl⟩
  · rintro ⟨⟨f, hfile, htype, hsize, ⟨hfindOk, hassertOk, hcountOk⟩, ⟨a, ha, hdraft, hclosed, hin, hresubmit, hmax⟩,
      index, hindex, rfl⟩, rfl⟩
    rw [Option.mem_def] at hfile
    subst hfile
    refine Calls.bind_ok_iff.2 ⟨_, (), reads_ok_iff.2 ⟨checkUpload_ok_iff.2 ⟨f, rfl, htype, hsize⟩, rfl⟩, ?_⟩
    have hfound : resume adm collation sha256 t "" 0 ⟨user, assignmentId, .submit (some f)⟩ .findAssignment =
        .ok (t, some (.assertEnrolled a)) := found_ok_iff.2 ⟨a, ha, hdraft, hclosed, rfl, rfl⟩
    refine Calls.bind_ok_iff.2 ⟨_, _, await_ok_iff.2 ⟨hfindOk, hfound⟩, ?_⟩
    refine Calls.bind_ok_iff.2 ⟨_, _, await_ok_iff.2 ⟨hassertOk, enrolled_ok_iff.2 ⟨hin, rfl, rfl⟩⟩, ?_⟩
    refine await_ok_iff.2 ⟨hcountOk, counted_ok_iff.2 ⟨hresubmit, hmax, _, ?_, rfl, rfl⟩⟩
    exact afterCount_ok_iff.2 ⟨index, hindex, rfl⟩

/-- Up to the insert nothing is written. -/
theorem prepare_error {e : HttpError}
    (h : prepare adm collation sha256 faults ⟨user, assignmentId, .submit file⟩ s = (t, .error e)) : t = s := by
  unfold prepare at h
  rcases Calls.bind_error_iff.1 h with hread | ⟨s₁, _, hread, hrest⟩
  · exact (quiet_reads _).eq hread
  obtain ⟨-, rfl⟩ := reads_ok_iff.1 hread
  rcases Calls.bind_error_iff.1 hrest with hfind | ⟨s₂, stage₂, hfind, hrest'⟩
  · exact await_error hfind
  obtain ⟨a, -, -, -, rfl, rfl⟩ := found_ok_iff.1 (await_ok_iff.1 hfind).2
  rcases Calls.bind_error_iff.1 hrest' with hassert | ⟨s₃, stage₃, hassert, hcount⟩
  · exact await_error hassert
  obtain ⟨-, rfl, rfl⟩ := enrolled_ok_iff.1 (await_ok_iff.1 hassert).2
  exact await_error hcount

variable (sha256 now) in
/-- An upload that is not let in, or that fails before the insert, records nothing. -/
theorem submit_of_not_admitted (h : ∀ f ∈ file, ¬Admitted adm collation s faults user assignmentId f id) :
    ∃ e, submit adm collation sha256 faults user assignmentId file id now s = (s, .error e) := by
  unfold submit
  rcases hprepare : prepare adm collation sha256 faults ⟨user, assignmentId, .submit file⟩ s with ⟨t, e | stage⟩
  · obtain rfl := prepare_error hprepare
    exact ⟨e, bind_of_error hprepare⟩
  · obtain ⟨⟨f, hfile, htype, hsize, ⟨hfindOk, hassertOk, hcountOk⟩, ha, index, hindex, rfl⟩, rfl⟩ :=
      prepare_ok_iff.1 hprepare
    rw [bind_of_ok hprepare]
    rcases hcreate : await adm collation sha256 faults.create id now ⟨user, assignmentId, .submit file⟩
        (some (.create ⟨(t.attempts assignmentId user).length + 1, some (sha256 f.buffer, index.files, f.buffer),
          none⟩)) t with ⟨t', e | rest⟩
    · obtain rfl := await_error hcreate
      exact ⟨e, bind_of_error hcreate⟩
    · obtain ⟨hcreateOk, hcreated⟩ := await_ok_iff.1 hcreate
      obtain ⟨hunique, hfresh, -, -⟩ := created_ok_iff.1 hcreated
      exact absurd ⟨htype, hsize, ⟨hfindOk, hassertOk, hcountOk, hcreateOk⟩, ha, isOk_iff.2 ⟨index, hindex⟩, hunique,
        hfresh⟩ (h f hfile)

variable (sha256 now) in
/-- An upload that is let in records its attempt and goes on to its archive. -/
theorem submit_admitted {f : UploadedBlob Buffer} (hfile : file = some f)
    (h : Admitted adm collation s faults user assignmentId f id) :
    ∃ s', (s'.submissions.get id).isSome = true ∧
      submit adm collation sha256 faults user assignmentId file id now s =
        store adm collation sha256 faults ⟨user, assignmentId, .submit file⟩ (some (.put id f.buffer)) s' := by
  obtain ⟨hfindOk, hassertOk, hcountOk, hcreateOk⟩ := h.reads
  obtain ⟨index, hindex⟩ := isOk_iff.1 h.index
  have hprepare : prepare adm collation sha256 faults ⟨user, assignmentId, .submit file⟩ s = (s, .ok _) :=
    prepare_ok_iff.2 ⟨⟨f, hfile, h.type, h.size, ⟨hfindOk, hassertOk, hcountOk⟩, h.assignment, index, hindex, rfl⟩,
      rfl⟩
  unfold submit
  rw [bind_of_ok hprepare, bind_of_ok (await_ok_iff.2 ⟨hcreateOk, created_ok_iff.2 ⟨h.unique, h.fresh, rfl, rfl⟩⟩)]
  refine ⟨_, ?_, rfl⟩
  rw [Table.get_insert h.fresh, if_pos rfl]
  rfl

/-- After the insert a failing request rejects the call, and the row stays. -/
theorem store_of_late {r : Request Buffer} {buffer : Buffer} (hlate : faults.late)
    (hrow : (s.submissions.get id).isSome = true) :
    ∃ t e, store adm collation sha256 faults r (some (.put id buffer)) s = (t, .error e) ∧
      (t.submissions.get id).isSome = true := by
  unfold store
  by_cases hput : faults.put = true
  · exact ⟨_, _, bind_of_error (await_of_fails hput), hrow⟩
  rw [bind_of_ok (await_ok_iff.2 ⟨by simpa using hput, rfl⟩)]
  by_cases hupdate : faults.update = true
  · exact ⟨_, _, bind_of_error (await_of_fails hupdate), hrow⟩
  rw [bind_of_ok (await_ok_iff.2 ⟨by simpa using hupdate, rfl⟩)]
  have hbroadcast : faults.broadcast = true := (hlate.resolve_left hput).resolve_left hupdate
  refine ⟨_, _, check_error_iff.2 ⟨by simpa using hbroadcast, rfl, rfl⟩, ?_⟩
  dsimp only
  rw [Table.get_modify_self, Option.isSome_map]
  exact hrow

theorem store_of_not_late {r : Request Buffer} {buffer : Buffer} (hlate : ¬faults.late) :
    ∃ t, store adm collation sha256 faults r (some (.put id buffer)) s = (t, .ok ()) := by
  unfold Faults.late at hlate
  simp only [not_or, Bool.not_eq_true] at hlate
  obtain ⟨hput, hupdate, hbroadcast⟩ := hlate
  unfold store
  rw [bind_of_ok (await_ok_iff.2 ⟨hput, rfl⟩), bind_of_ok (await_ok_iff.2 ⟨hupdate, rfl⟩)]
  exact ⟨_, (check_ok_iff (u := ())).2 ⟨hbroadcast, rfl⟩⟩

/-- An upload that rejects has recorded nothing, unless a request after the insert has failed. -/
theorem submit_unburned_iff :
    (∀ t e, submit adm collation sha256 faults user assignmentId file id now s = (t, .error e) →
      t.submissions = s.submissions) ↔ ¬Burns adm collation s faults user assignmentId file id := by
  by_cases hadmitted : ∃ f ∈ file, Admitted adm collation s faults user assignmentId f id
  · obtain ⟨f, hfile, h⟩ := hadmitted
    obtain ⟨s', hrow, hsubmit⟩ := submit_admitted sha256 now hfile h
    rw [hsubmit]
    by_cases hlate : faults.late
    · obtain ⟨t, e, hreject, hkept⟩ := store_of_late hlate hrow
      refine iff_of_false (fun hall => ?_) fun hburns => hburns ⟨f, hfile, h, hlate⟩
      rw [hall t e hreject, h.fresh] at hkept
      cases hkept
    · obtain ⟨t, hreturns⟩ := store_of_not_late hlate
      refine iff_of_true (fun t' e hreject => ?_) ?_
      · rw [hreturns] at hreject
        cases hreject
      · rintro ⟨-, -, -, hlate'⟩
        exact hlate hlate'
  · obtain ⟨e, hsubmit⟩ := submit_of_not_admitted sha256 now fun f hfile h =>
      hadmitted ⟨f, hfile, h⟩
    refine iff_of_true (fun t e' hreject => ?_) ?_
    · rw [hsubmit] at hreject
      cases hreject
      rfl
    · rintro ⟨f, hfile, h, -⟩
      exact hadmitted ⟨f, hfile, h⟩

end Submit

/-- When an upload that rejects leaves the earlier work intact, and when one of an archive leaves no attempt. -/
theorem rejected_uploads_leave (assignments : Assignments.AssignmentId → Option Assignments.Assignment)
    (handinFaults : Assignments.Uploads.Faults Buffer) (handin : Option (Assignments.Uploads.UploadedBlob Buffer))
    (handinAt : Nat) (desk : Assignments.Uploads.Desk Buffer) (essay : Assignments.AssignmentId) (faults : Faults)
    (file : Option (UploadedBlob Buffer)) (id : SubmissionId) (now : Int) (s : State Buffer)
    (assignmentId : AssignmentId) (user : UserId) :
    ((∀ t e, Assignments.Uploads.uploadSubmission assignments handinFaults user essay handin handinAt desk =
        (t, .error e) → Assignments.Uploads.Intact desk t user essay) ↔
      ¬Assignments.Uploads.Overwrites assignments handinFaults desk user essay handin) ∧
    ((∀ t e, submit adm collation sha256 faults user assignmentId file id now s = (t, .error e) →
        t.submissions = s.submissions) ↔ ¬Burns adm collation s faults user assignmentId file id) :=
  ⟨Assignments.Uploads.upload_intact_iff, submit_unburned_iff⟩

namespace Example

open Assignments.Uploads (Desk)

/-- Amina's essay, handed in as a text and graded with 9. -/
def graded : Assignments.Submission :=
  { Assignments.blank "essay" "amina" with content := some "My essay", grade := some 9, feedback := some "Well done" }

def desk : Desk (List ZipEntry) :=
  ⟨⟨Table.empty.insert 0 graded, 1, [], Assignments.Example.access, .empty⟩, fun _ => none⟩

/-- The store is down. -/
def down : Assignments.Uploads.Faults (List ZipEntry) := ⟨false, false, false, false, some none, false⟩

def putDown : Faults := ⟨false, false, false, false, true, false, false⟩

def archive : UploadedBlob (List ZipEntry) := ⟨[⟨false, "a.ts", 9, .ok "let a = 1"⟩], "application/zip", 120, none⟩

end Example

open Attempts.Example Coding.Example in
/-- Where the store is down, Amina's grade is gone, and a student's first attempt is recorded without its archive. -/
theorem store_down :
    (∃ t e, Assignments.Uploads.uploadSubmission Assignments.Example.essay down "amina" "essay"
        (some ⟨[], "application/pdf", 5⟩) 7 desk = (t, .error e) ∧
      ¬Assignments.Uploads.Intact desk t "amina" "essay") ∧
    ∃ t e, submit unzipped bySpelling hash putDown "u1" "a1" (some archive) "s1" 1 start = (t, .error e) ∧
      start.attempts "a1" "u1" = [] ∧ t.attempts "a1" "u1" = [1] := by
  refine ⟨⟨_, .internal, rfl, fun hintact => ?_⟩, ⟨_, requestFailed, rfl, rfl, ?_⟩⟩
  · obtain ⟨row, hrow, hsame, -⟩ := hintact 0 graded rfl rfl
    cases hrow
    cases hsame
  · decide

end Livetich.Coding.Attempts
