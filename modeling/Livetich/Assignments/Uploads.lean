/-
What a failed upload leaves of the student's earlier work: `AssignmentsService.uploadSubmission` with every point at
which the database or the object store may fail, and `streamSubmissionFile`, which serves the file again.
-/
import Livetich.Assignments.Grading
import Livetich.Lib.Calls

namespace Livetich.Assignments.Uploads

open Livetich.Lib Livetich.Lib.Calls

inductive HttpError
  | badRequest (message : String)
  | notFound (message : String)
  | forbidden (message : String)
  /-- An error of the database or of the object store. -/
  | internal
  deriving DecidableEq

structure UploadedBlob (Buffer : Type) where
  buffer : Buffer
  mimetype : String
  size : Nat

/-- The tables, and the objects under `submissions/<id>`. -/
structure Desk (Buffer : Type) extends State where
  blobs : SubmissionId → Option Buffer

/-- Which of the requests of a call fail. -/
structure Faults (Buffer : Type) where
  assignment : Bool
  enrolment : Bool
  member : Bool
  upsert : Bool
  /-- What a `put` that fails leaves under its key; a file may be left half written. -/
  put : Option (Option Buffer)
  update : Bool

variable {Buffer : Type}

/-! ## The calls -/

abbrev DeskCalls (Buffer : Type) := Calls (Desk Buffer) HttpError

variable (assignments : AssignmentId → Option Assignment)

/-- Enrolled, and for group work a group member. -/
def assertCanSubmit (faults : Faults Buffer) (user : UserId) (assignmentId : AssignmentId) :
    DeskCalls Buffer Unit := do
  awaits faults.assignment .internal
  let a ← reads fun _ => orThrow (assignments assignmentId) (.notFound "Assignment not found")
  awaits faults.enrolment .internal
  reads fun s => ensure ((a.courseId, user) ∈ s.access.enrolled) (.forbidden "Not enrolled in this program")
  match a.groupId with
  | none => pure ()
  | some groupId => do
    awaits faults.member .internal
    reads fun s =>
      ensure ((groupId, user) ∈ s.access.members) (.forbidden "This assignment is not assigned to you")

/-- `storage.put`. -/
def put (faults : Faults Buffer) (id : SubmissionId) (buffer : Buffer) : DeskCalls Buffer Unit := fun s =>
  match faults.put with
  | none => ({ s with blobs := Function.update s.blobs id (some buffer) }, .ok ())
  | some left => ({ s with blobs := Function.update s.blobs id left }, .error .internal)

/-- What is asked before anything is written. -/
def prepare (faults : Faults Buffer) (user : UserId) (assignmentId : AssignmentId)
    (file : Option (UploadedBlob Buffer)) : DeskCalls Buffer (UploadedBlob Buffer) := do
  let file ← reads fun _ => orThrow file (.badRequest "No file received")
  check (allowed file.mimetype = true) (.badRequest ("Unsupported file type: " ++ file.mimetype))
  check (file.size ≤ maxUploadBytes) (.badRequest "File is larger than 30 MB")
  assertCanSubmit assignments faults user assignmentId
  return file

/-- What follows once the row has a stable id. -/
def storeFile (faults : Faults Buffer) (id : SubmissionId) (buffer : Buffer) : DeskCalls Buffer Unit := do
  put faults id buffer
  awaits faults.update .internal
  writes fun s => { s with toState := { s.toState with submissions := s.submissions.modify id fun row =>
    { row with fileUrl := some s!"/api/files/submission/{id}" } } }

def uploadSubmission (faults : Faults Buffer) (user : UserId) (assignmentId : AssignmentId)
    (file : Option (UploadedBlob Buffer)) (now : Nat) : DeskCalls Buffer Unit := do
  let file ← prepare assignments faults user assignmentId file
  awaits faults.upsert .internal
  let id ← reads fun s => .ok ((s.find assignmentId user).getD s.nextId)
  writes fun s => { s with toState := s.upsert assignmentId user (.blob file.mimetype) now }
  storeFile faults id file.buffer

/-- `streamSubmissionFile` for the student. -/
def streamSubmissionFile (s : Desk Buffer) (id : SubmissionId) : Option (Buffer × String) := do
  let row ← s.submissions.get id
  let mime ← row.fileMimeType.filter (· ≠ "")
  let buffer ← s.blobs id
  return (buffer, mime)

/-! ## What is left -/

/-- What was handed in, and what it was given for it. -/
def handedIn (row : Submission) : Option String × Option String × Option String × Option Int × Option String :=
  (row.content, row.fileUrl, row.fileMimeType, row.grade, row.feedback)

/-- The student's earlier submission is as it was, and still served. -/
def Intact (s s' : Desk Buffer) (user : UserId) (assignmentId : AssignmentId) : Prop :=
  ∀ id row, s.find assignmentId user = some id → s.submissions.get id = some row →
    ∃ row', s'.submissions.get id = some row' ∧ handedIn row' = handedIn row ∧
      streamSubmissionFile s' id = streamSubmissionFile s id

/-- The checks let the upload in, and no request before its first write fails. -/
structure Admitted (s : Desk Buffer) (faults : Faults Buffer) (user : UserId) (assignmentId : AssignmentId)
    (file : UploadedBlob Buffer) : Prop where
  type : allowed file.mimetype = true
  size : file.size ≤ maxUploadBytes
  reads : faults.assignment = false ∧ faults.enrolment = false ∧ faults.upsert = false
  assignment : ∃ a, assignments assignmentId = some a ∧ (a.courseId, user) ∈ s.access.enrolled ∧
    ∀ groupId ∈ a.groupId, faults.member = false ∧ (groupId, user) ∈ s.access.members

/-- What an upload whose requests fail has stored under its key: what the failing `put` left, or the new file. -/
def Faults.blob (faults : Faults Buffer) (file : UploadedBlob Buffer) : Option Buffer :=
  faults.put.getD (some file.buffer)

/-- The earlier submission is an upload of this type that is waiting for its file. -/
def Waiting (row : Submission) (mime : String) : Prop := handedIn row = (none, some "", some mime, none, none)

/-- An upload is let in, a request after its first write fails, and there is earlier work that is not what the first
write and the store leave. -/
def Overwrites (faults : Faults Buffer) (s : Desk Buffer) (user : UserId) (assignmentId : AssignmentId)
    (file : Option (UploadedBlob Buffer)) : Prop :=
  ∃ f ∈ file, Admitted assignments s faults user assignmentId f ∧ (faults.put.isSome = true ∨ faults.update = true) ∧
    ∃ id row, s.find assignmentId user = some id ∧ s.submissions.get id = some row ∧
      ¬(Waiting row f.mimetype ∧ s.blobs id = faults.blob f)

/-! ## Checks -/

section Checks

variable {assignments} {faults : Faults Buffer} {user : UserId} {assignmentId : AssignmentId}
  {file : Option (UploadedBlob Buffer)}

theorem assertCanSubmit_quiet : Quiet (assertCanSubmit assignments faults user assignmentId) := by
  unfold assertCanSubmit
  refine (quiet_check _ _).bind fun _ => (quiet_reads _).bind fun a => (quiet_check _ _).bind fun _ =>
    (quiet_reads _).bind fun _ => ?_
  cases a.groupId with
  | none => exact quiet_pure ()
  | some groupId => exact (quiet_check _ _).bind fun _ => quiet_reads _

theorem prepare_quiet : Quiet (prepare assignments faults user assignmentId file) := by
  unfold prepare
  exact (quiet_reads _).bind fun f => (quiet_check _ _).bind fun _ => (quiet_check _ _).bind fun _ =>
    assertCanSubmit_quiet.bind fun _ => quiet_pure f

theorem assertCanSubmit_ok_iff {s t : Desk Buffer} {u : Unit} :
    assertCanSubmit assignments faults user assignmentId s = (t, .ok u) ↔
      (faults.assignment = false ∧ faults.enrolment = false ∧
        ∃ a, assignments assignmentId = some a ∧ (a.courseId, user) ∈ s.access.enrolled ∧
          ∀ groupId ∈ a.groupId, faults.member = false ∧ (groupId, user) ∈ s.access.members) ∧ t = s := by
  unfold assertCanSubmit awaits
  simp only [Calls.bind_ok_iff, check_ok_iff, reads_ok_iff, orThrow_ok_iff, ensure_ok_iff]
  constructor
  · rintro ⟨_, _, ⟨hassignment, rfl⟩, _, a, ⟨ha, rfl⟩, _, _, ⟨henrolment, rfl⟩, _, _, ⟨henrolled, rfl⟩, h⟩
    cases hgroup : a.groupId with
    | none =>
      rw [hgroup] at h
      cases h
      refine ⟨⟨hassignment, henrolment, a, ha, henrolled, fun groupId hmem => ?_⟩, rfl⟩
      rw [hgroup] at hmem
      cases hmem
    | some groupId =>
      rw [hgroup] at h
      obtain ⟨s', _, hcheck, hread⟩ := Calls.bind_ok_iff.1 h
      obtain ⟨hmember, rfl⟩ := check_ok_iff.1 hcheck
      obtain ⟨hmembers, rfl⟩ := reads_ok_iff.1 hread
      refine ⟨⟨hassignment, henrolment, a, ha, henrolled, fun groupId' hmem => ?_⟩, rfl⟩
      rw [hgroup] at hmem
      cases hmem
      exact ⟨hmember, ensure_ok_iff.1 hmembers⟩
  · rintro ⟨⟨hassignment, henrolment, a, ha, henrolled, hmembers⟩, rfl⟩
    refine ⟨_, (), ⟨hassignment, rfl⟩, _, a, ⟨ha, rfl⟩, _, (), ⟨henrolment, rfl⟩, _, (), ⟨henrolled, rfl⟩, ?_⟩
    cases hgroup : a.groupId with
    | none => rfl
    | some groupId =>
      obtain ⟨hmember, hmem⟩ := hmembers groupId hgroup
      exact Calls.bind_ok_iff.2 ⟨_, (), check_ok_iff.2 ⟨hmember, rfl⟩, reads_ok_iff.2 ⟨ensure_ok_iff.2 hmem, rfl⟩⟩

theorem prepare_ok_iff {s t : Desk Buffer} {f : UploadedBlob Buffer} :
    prepare assignments faults user assignmentId file s = (t, .ok f) ↔
      (file = some f ∧ allowed f.mimetype = true ∧ f.size ≤ maxUploadBytes ∧
        faults.assignment = false ∧ faults.enrolment = false ∧
        ∃ a, assignments assignmentId = some a ∧ (a.courseId, user) ∈ s.access.enrolled ∧
          ∀ groupId ∈ a.groupId, faults.member = false ∧ (groupId, user) ∈ s.access.members) ∧ t = s := by
  unfold prepare
  constructor
  · intro h
    obtain ⟨s₁, f', hread, h⟩ := Calls.bind_ok_iff.1 h
    obtain ⟨s₂, u₂, hallowed, h⟩ := Calls.bind_ok_iff.1 h
    obtain ⟨s₃, u₃, hfits, h⟩ := Calls.bind_ok_iff.1 h
    obtain ⟨s₄, u₄, hassert, h⟩ := Calls.bind_ok_iff.1 h
    cases h
    obtain ⟨hfile, rfl⟩ := reads_ok_iff.1 hread
    obtain ⟨htype, rfl⟩ := check_ok_iff.1 hallowed
    obtain ⟨hsize, rfl⟩ := check_ok_iff.1 hfits
    obtain ⟨hcan, rfl⟩ := assertCanSubmit_ok_iff.1 hassert
    exact ⟨⟨orThrow_ok_iff.1 hfile, htype, hsize, hcan⟩, rfl⟩
  · rintro ⟨⟨hfile, htype, hsize, hcan⟩, rfl⟩
    refine Calls.bind_ok_iff.2 ⟨_, f, reads_ok_iff.2 ⟨orThrow_ok_iff.2 hfile, rfl⟩, ?_⟩
    refine Calls.bind_ok_iff.2 ⟨_, (), check_ok_iff.2 ⟨htype, rfl⟩, ?_⟩
    refine Calls.bind_ok_iff.2 ⟨_, (), check_ok_iff.2 ⟨hsize, rfl⟩, ?_⟩
    exact Calls.bind_ok_iff.2 ⟨_, (), assertCanSubmit_ok_iff.2 ⟨hcan, rfl⟩, rfl⟩

end Checks

/-! ## What an upload comes to -/

section Uploads

variable {assignments} {faults : Faults Buffer} {user : UserId} {assignmentId : AssignmentId}
  {file : Option (UploadedBlob Buffer)} {now : Nat} {s : Desk Buffer}

/-- The row and the object as an upload leaves them that fails after its first write. -/
def Desk.left (s : Desk Buffer) (faults : Faults Buffer) (user : UserId) (assignmentId : AssignmentId)
    (file : UploadedBlob Buffer) (now : Nat) : Desk Buffer where
  toState := s.upsert assignmentId user (.blob file.mimetype) now
  blobs := Function.update s.blobs ((s.find assignmentId user).getD s.nextId) (faults.blob file)

variable (now) in
/-- An upload that is not let in, or that fails before it writes, writes nothing. -/
theorem upload_of_not_admitted (h : ∀ f ∈ file, ¬Admitted assignments s faults user assignmentId f) :
    ∃ e, uploadSubmission assignments faults user assignmentId file now s = (s, .error e) := by
  unfold uploadSubmission
  rcases hprepare : prepare assignments faults user assignmentId file s with ⟨t, r⟩
  obtain rfl := prepare_quiet.eq hprepare
  cases r with
  | error e => exact ⟨e, bind_of_error hprepare⟩
  | ok f =>
    obtain ⟨⟨hfile, htype, hsize, hassignment, henrolment, ha⟩, -⟩ := prepare_ok_iff.1 hprepare
    rw [bind_of_ok hprepare]
    refine ⟨.internal, bind_of_error (check_error_iff.2 ⟨fun hupsert => ?_, rfl, rfl⟩)⟩
    exact h f hfile ⟨htype, hsize, ⟨hassignment, henrolment, hupsert⟩, ha⟩

/-- An upload that is let in writes its row and goes on to its file. -/
theorem upload_admitted {f : UploadedBlob Buffer} (hfile : file = some f)
    (h : Admitted assignments s faults user assignmentId f) :
    uploadSubmission assignments faults user assignmentId file now s =
      storeFile faults ((s.find assignmentId user).getD s.nextId) f.buffer
        { s with toState := s.upsert assignmentId user (.blob f.mimetype) now } := by
  obtain ⟨hassignment, henrolment, hupsert⟩ := h.reads
  unfold uploadSubmission
  rw [bind_of_ok (prepare_ok_iff.2 ⟨⟨hfile, h.type, h.size, hassignment, henrolment, h.assignment⟩, rfl⟩)]
  exact bind_of_ok ((check_ok_iff (u := ())).2 ⟨hupsert, rfl⟩)

/-- The file is stored, or what a failing `put` has left is there instead. -/
theorem put_left (f : UploadedBlob Buffer) :
    put faults ((s.find assignmentId user).getD s.nextId) f.buffer
        { s with toState := s.upsert assignmentId user (.blob f.mimetype) now } =
      (s.left faults user assignmentId f now, if faults.put.isSome = true then .error .internal else .ok ()) := by
  unfold put Desk.left Faults.blob
  cases faults.put with
  | none => rfl
  | some left => rfl

variable (now) in
theorem upload_of_fault {f : UploadedBlob Buffer} (hfile : file = some f)
    (h : Admitted assignments s faults user assignmentId f) (hfault : faults.put.isSome = true ∨ faults.update = true) :
    uploadSubmission assignments faults user assignmentId file now s =
      (s.left faults user assignmentId f now, .error .internal) := by
  rw [upload_admitted hfile h]
  unfold storeFile
  by_cases hput : faults.put.isSome = true
  · exact bind_of_error ((put_left f).trans (by rw [if_pos hput]))
  · have hupdate : ¬faults.update = false := by
      rw [Bool.not_eq_false]
      exact hfault.resolve_left hput
    rw [bind_of_ok ((put_left f).trans (by rw [if_neg hput]))]
    exact bind_of_error (check_error_iff.2 ⟨hupdate, rfl, rfl⟩)

variable (now) in
/-- Where no request fails, an upload that is let in goes through. -/
theorem upload_of_admitted {f : UploadedBlob Buffer} (hfile : file = some f)
    (h : Admitted assignments s faults user assignmentId f)
    (hfault : ¬(faults.put.isSome = true ∨ faults.update = true)) :
    ∃ t, uploadSubmission assignments faults user assignmentId file now s = (t, .ok ()) := by
  rw [not_or] at hfault
  rw [upload_admitted hfile h]
  unfold storeFile
  rw [bind_of_ok ((put_left f).trans (by rw [if_neg hfault.1]))]
  exact ⟨_, bind_of_ok ((check_ok_iff (u := ())).2 ⟨by simpa using hfault.2, rfl⟩)⟩

theorem allowed_ne {mime : String} (h : allowed mime = true) : mime ≠ "" := by
  rintro rfl
  exact absurd h (by decide)

/-- What is served of a row with a type. -/
theorem stream_of_row {s : Desk Buffer} {id : SubmissionId} {row : Submission} {mime : String}
    (hrow : s.submissions.get id = some row) (hmime : row.fileMimeType = some mime) (hne : mime ≠ "") :
    streamSubmissionFile s id = (s.blobs id).map (·, mime) := by
  have hfilter : (some mime).filter (· ≠ "") = some mime := by simp [hne]
  unfold streamSubmissionFile
  rw [hrow, Option.bind_eq_bind, Option.bind_some, hmime, hfilter, Option.bind_eq_bind, Option.bind_some]
  cases s.blobs id with
  | none => rfl
  | some buffer => rfl

/-- Earlier work survives such an upload just where there is nothing of it to lose. -/
theorem intact_left_iff {f : UploadedBlob Buffer} (htype : allowed f.mimetype = true) :
    Intact s (s.left faults user assignmentId f now) user assignmentId ↔
      ∀ id row, s.find assignmentId user = some id → s.submissions.get id = some row →
        Waiting row f.mimetype ∧ s.blobs id = faults.blob f := by
  unfold Intact
  refine forall_congr' fun id => forall_congr' fun row => forall_congr' fun hfind => forall_congr' fun hrow => ?_
  have hnew : (s.left faults user assignmentId f now).submissions.get id =
      some ((Handin.blob f.mimetype).write now row) := by
    show (s.upsert assignmentId user (.blob f.mimetype) now).submissions.get id = _
    unfold State.upsert
    rw [hfind]
    dsimp only
    rw [Table.get_modify_self, hrow]
    rfl
  have hblob : (s.left faults user assignmentId f now).blobs id = faults.blob f := by
    unfold Desk.left
    rw [hfind]
    exact Function.update_self ..
  have hserved := stream_of_row hnew (rfl : _ = some f.mimetype) (allowed_ne htype)
  rw [hblob] at hserved
  constructor
  · rintro ⟨row', hrow', hhanded, hstream⟩
    rw [hnew, Option.some.injEq] at hrow'
    subst hrow'
    have hwaiting : Waiting row f.mimetype := hhanded.symm
    have hmime : row.fileMimeType = some f.mimetype := congrArg (·.2.2.1) hwaiting
    rw [hserved, stream_of_row hrow hmime (allowed_ne htype)] at hstream
    -- The row serves a file of this type, so what it serves is the same just where the bytes are.
    have hinj : Function.Injective fun b : Buffer => (b, f.mimetype) := fun _ _ heq => congrArg Prod.fst heq
    exact ⟨hwaiting, (Option.map_injective hinj hstream).symm⟩
  · rintro ⟨hwaiting, hsame⟩
    have hmime : row.fileMimeType = some f.mimetype := congrArg (·.2.2.1) hwaiting
    refine ⟨_, hnew, hwaiting.symm, ?_⟩
    rw [hserved, stream_of_row hrow hmime (allowed_ne htype), hsame]

/-- An upload that rejects leaves the earlier work intact, unless a request after its first write has failed and there
was something to lose. -/
theorem upload_intact_iff : (∀ t e, uploadSubmission assignments faults user assignmentId file now s = (t, .error e) →
      Intact s t user assignmentId) ↔ ¬Overwrites assignments faults s user assignmentId file := by
  by_cases hadmitted : ∃ f ∈ file, Admitted assignments s faults user assignmentId f
  · obtain ⟨f, hfile, h⟩ := hadmitted
    by_cases hfault : faults.put.isSome = true ∨ faults.update = true
    · have hresult := upload_of_fault now hfile h hfault
      have hiff : Intact s (s.left faults user assignmentId f now) user assignmentId ↔ _ := intact_left_iff h.type
      constructor
      · rintro hall ⟨f', hfile', -, -, id, row, hfind, hrow, hlost⟩
        rw [Option.mem_def.1 hfile, Option.mem_def, Option.some.injEq] at hfile'
        subst hfile'
        exact hlost (hiff.1 (hall _ _ hresult) id row hfind hrow)
      · intro hkept t e hreject
        rw [hresult] at hreject
        cases hreject
        refine hiff.2 fun id row hfind hrow => ?_
        by_contra hlost
        exact hkept ⟨f, hfile, h, hfault, id, row, hfind, hrow, hlost⟩
    · obtain ⟨t, hresult⟩ := upload_of_admitted now hfile h hfault
      refine iff_of_true (fun t' e hreject => ?_) ?_
      · rw [hresult] at hreject
        cases hreject
      · rintro ⟨-, -, -, hfault', -⟩
        exact hfault hfault'
  · obtain ⟨e, hresult⟩ := upload_of_not_admitted now fun f hfile h => hadmitted ⟨f, hfile, h⟩
    refine iff_of_true (fun t e' hreject => ?_) ?_
    · rw [hresult] at hreject
      cases hreject
      exact fun id row _ hrow => ⟨row, hrow, rfl, rfl⟩
    · rintro ⟨f, hfile, h, -⟩
      exact hadmitted ⟨f, hfile, h⟩

end Uploads

end Livetich.Assignments.Uploads
