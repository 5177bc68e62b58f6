/-
Submissions and their grades: `AssignmentsService.submit`, `uploadSubmission` and `grade` as steps between database
calls, over the submissions, the points ledger and the tables that say who may do what. A transaction is one step, and
a call that fails at a step ends there. The assignments themselves stay as they are.
-/
import Livetich.Js.Number
import Livetich.Lib.Table
import Livetich.Lib.TransSys
import Livetich.Points.Ledger

namespace Livetich.Assignments

open TransSys Livetich.Lib Livetich.Lib.Ledger Livetich.Points

abbrev AssignmentId := String
abbrev SubmissionId := Nat
abbrev GroupId := String

/-! ## Rows and requests -/

structure Assignment where
  courseId : CourseId
  groupId : Option GroupId
  maxPoints : Option Int
  deriving DecidableEq

structure Submission where
  assignmentId : AssignmentId
  studentId : UserId
  content : Option String
  language : Option String
  fileUrl : Option String
  fileMimeType : Option String
  submittedAt : Nat
  grade : Option Int
  feedback : Option String
  gradedById : Option UserId
  gradedAt : Option Nat
  deriving DecidableEq

structure SubmitAssignmentDto where
  content : Option String
  language : Option String
  fileUrl : Option String
  deriving DecidableEq

structure File where
  mimetype : String
  size : Nat
  deriving DecidableEq

structure GradeSubmissionDto where
  grade : Int
  feedback : Option String
  min : 0 ≤ grade
  max : grade ≤ 1000
  deriving DecidableEq

/-- What a student hands in. -/
inductive Handin
  | text (dto : SubmitAssignmentDto)
  | blob (mime : String)
  deriving DecidableEq

/-- The data of the upsert. An upload does not write the language; handing in clears the grade. -/
def Handin.write (now : Nat) (row : Submission) : Handin → Submission
  | .text dto =>
    { row with
      content := dto.content, language := dto.language, fileUrl := dto.fileUrl, fileMimeType := none
      submittedAt := now, grade := none, feedback := none, gradedById := none, gradedAt := none }
  | .blob mime =>
    { row with
      content := none, fileUrl := some "", fileMimeType := some mime
      submittedAt := now, grade := none, feedback := none, gradedById := none, gradedAt := none }

def blank (assignmentId : AssignmentId) (studentId : UserId) : Submission :=
  ⟨assignmentId, studentId, none, none, none, none, 0, none, none, none, none⟩

/-- `GradeSubmissionDto` as the transaction of `grade` writes it. -/
def GradeSubmissionDto.write (dto : GradeSubmissionDto) (user : UserId) (now : Nat) (row : Submission) : Submission :=
  { row with
    grade := some dto.grade, feedback := dto.feedback.or row.feedback
    gradedById := some user, gradedAt := some now }

/-! ## The checks before the first await -/

def given (text : Option String) : Bool := text.any fun t => !(Js.trim t.toList).isEmpty

def allowedUploadPrefixes : List String := ["audio/", "image/"]

def allowedUploadExact : List String := ["application/pdf"]

def maxUploadBytes : Nat := 30 * 1024 * 1024

def allowed (mime : String) : Bool :=
  (allowedUploadPrefixes.any fun p => p.toList.isPrefixOf mime.toList) || allowedUploadExact.contains mime

/-! ## Calls between their awaits -/

inductive Task
  /-- `assertCanSubmit` reads the assignment. -/
  | assignment (user : UserId) (assignmentId : AssignmentId) (handin : Handin)
  /-- `assertCanSubmit` reads the enrolment. -/
  | enrolment (user : UserId) (assignmentId : AssignmentId) (a : Assignment) (handin : Handin)
  /-- `assertCanSubmit` reads the group membership. -/
  | member (user : UserId) (assignmentId : AssignmentId) (groupId : GroupId) (handin : Handin)
  | upsert (user : UserId) (assignmentId : AssignmentId) (handin : Handin) (now : Nat)
  /-- `submit` reads the assignment again, for the panel of its live session. -/
  | announce (assignmentId : AssignmentId)
  /-- `uploadSubmission` stores the blob. -/
  | store (id : SubmissionId)
  | setUrl (id : SubmissionId)
  /-- `grade` reads the submission with its assignment. -/
  | submission (user : UserId) (id : SubmissionId) (dto : GradeSubmissionDto)
  /-- `getManageable` reads the assignment. -/
  | manageable (user : UserId) (id : SubmissionId) (dto : GradeSubmissionDto) (row : Submission) (a : Assignment)
  /-- `assertCanManageCourse`. -/
  | manages (user : UserId) (id : SubmissionId) (dto : GradeSubmissionDto) (row : Submission) (a : Assignment)
  | aggregate (user : UserId) (id : SubmissionId) (dto : GradeSubmissionDto) (row : Submission) (a : Assignment)
  | transaction (user : UserId) (id : SubmissionId) (dto : GradeSubmissionDto) (row : Submission) (a : Assignment)
    (alreadyAwarded : Int) (now : Nat)
  deriving DecidableEq

/-- Who may do what. -/
structure Access where
  enrolled : List (CourseId × UserId)
  members : List (GroupId × UserId)
  managers : List (CourseId × UserId)
  deriving DecidableEq

structure State where
  submissions : Table SubmissionId Submission
  /-- The id of the next row; ids are never handed out twice. -/
  nextId : SubmissionId
  ledger : List Award
  access : Access
  calls : Pool Task

/-- No submission yet; the ledger holds what was awarded for other things. -/
def init (ledger : List Award) (access : Access) : State where
  submissions := Table.empty
  nextId := 0
  ledger := ledger.filter fun row => row.reason != .assignmentGraded
  access := access
  calls := Pool.empty

def State.goto (s : State) (i : Nat) (t : Option Task) : State := { s with calls := s.calls.put i t }

/-- The row under the unique key on assignment and student. -/
def State.find (s : State) (assignmentId : AssignmentId) (studentId : UserId) : Option SubmissionId :=
  s.submissions.findKey fun row => row.assignmentId == assignmentId && row.studentId == studentId

def State.upsert (s : State) (assignmentId : AssignmentId) (studentId : UserId) (handin : Handin) (now : Nat) : State :=
  match s.find assignmentId studentId with
  | some id => { s with submissions := s.submissions.modify id fun row => handin.write now row }
  | none => { s with
      submissions := s.submissions.insert s.nextId (handin.write now (blank assignmentId studentId))
      nextId := s.nextId + 1 }

/-- The transaction of `grade`: the grade is written, and the difference to what was awarded is posted. -/
def State.grade (s : State) (user : UserId) (id : SubmissionId) (dto : GradeSubmissionDto) (row : Submission)
    (a : Assignment) (alreadyAwarded : Int) (now : Nat) : State :=
  let netDelta := dto.grade - alreadyAwarded
  { s with
    submissions := s.submissions.modify id (dto.write user now)
    ledger := if netDelta = 0 then s.ledger
      else s.ledger ++ [⟨row.studentId, a.courseId, netDelta, .assignmentGraded, some id⟩] }

section Steps

variable (assignments : AssignmentId → Option Assignment)

def resume (s : State) (i now : Nat) : Task → State
  | .assignment user assignmentId handin =>
    s.goto i ((assignments assignmentId).map fun a => .enrolment user assignmentId a handin)
  | .enrolment user assignmentId a handin =>
    if s.access.enrolled.contains (a.courseId, user) then
      s.goto i (some (match a.groupId with
        | some groupId => .member user assignmentId groupId handin
        | none => .upsert user assignmentId handin now))
    else s.goto i none
  | .member user assignmentId groupId handin =>
    if s.access.members.contains (groupId, user) then s.goto i (some (.upsert user assignmentId handin now))
    else s.goto i none
  | .upsert user assignmentId handin submittedAt =>
    (s.upsert assignmentId user handin submittedAt).goto i (some (match handin with
      | .text _ => .announce assignmentId
      | .blob _ => .store ((s.find assignmentId user).getD s.nextId)))
  | .announce _ => s.goto i none
  | .store id => s.goto i (some (.setUrl id))
  | .setUrl id =>
    { s with submissions := s.submissions.modify id fun row =>
        { row with fileUrl := some s!"/api/files/submission/{id}" } }.goto i none
  | .submission user id dto =>
    s.goto i (do
      let row ← s.submissions.get id
      let a ← assignments row.assignmentId
      some (.manageable user id dto row a))
  | .manageable user id dto row a =>
    s.goto i ((assignments row.assignmentId).map fun _ => .manages user id dto row a)
  | .manages user id dto row a =>
    if s.access.managers.contains (a.courseId, user) ∧ ¬ a.maxPoints.any (· < dto.grade) then
      s.goto i (some (.aggregate user id dto row a))
    else s.goto i none
  | .aggregate user id dto row a =>
    s.goto i (some (.transaction user id dto row a
      (sumOf row.studentId a.courseId .assignmentGraded id s.ledger) now))
  | .transaction user id dto row a alreadyAwarded gradedAt =>
    (s.grade user id dto row a alreadyAwarded gradedAt).goto i none

/-- What comes from outside: calls, and the answers of the database. -/
inductive Event
  | submit (i : Nat) (user : UserId) (assignmentId : AssignmentId) (dto : SubmitAssignmentDto)
  | uploadSubmission (i : Nat) (user : UserId) (assignmentId : AssignmentId) (file : Option File)
  | grade (i : Nat) (user : UserId) (id : SubmissionId) (dto : GradeSubmissionDto)
  /-- The pending database call of task `i` succeeds, at time `now`. -/
  | resume (i now : Nat)
  /-- The pending database call of task `i` fails: nothing is written and the call ends. -/
  | fail (i : Nat)
  /-- Points for anything else. -/
  | award (row : Award)
  | change (access : Access)

def State.begin (s : State) (i : Nat) (t : Option Task) : Option State :=
  if (s.calls.get i).isSome then none else some (s.goto i t)

def step (s : State) : Event → Option State
  | .submit i user assignmentId dto =>
    s.begin i (if given dto.content || given dto.fileUrl then some (.assignment user assignmentId (.text dto))
      else none)
  | .uploadSubmission i user assignmentId file =>
    s.begin i ((file.filter fun f => allowed f.mimetype && decide (f.size ≤ maxUploadBytes)).map fun f =>
      .assignment user assignmentId (.blob f.mimetype))
  | .grade i user id dto => s.begin i (some (.submission user id dto))
  | .resume i now => (s.calls.get i).map fun t => resume assignments s i now t
  | .fail i => (s.calls.get i).map fun _ => s.goto i none
  | .award row => if row.reason = .assignmentGraded then none else some { s with ledger := s.ledger ++ [row] }
  | .change access => some { s with access }

end Steps

/-! ## What a step does to the rows -/

section Proofs

variable {assignments : AssignmentId → Option Assignment}

/-- When the transaction of a grading begins, the deltas posted for the submission still sum to what the call read. -/
def onTime (s : State) : Event → Bool
  | .resume i _ => match s.calls.get i with
    | some (.transaction _ id _ row a alreadyAwarded _) =>
      sumOf row.studentId a.courseId .assignmentGraded id s.ledger == alreadyAwarded
    | _ => true
  | _ => true

inductive Effect (s : State) : Event → State → Prop
  | quiet {e : Event} (calls : Pool Task) (access : Access) (hon : onTime s e = true) :
    Effect s e { s with calls, access }
  | handin {e : Event} (assignmentId : AssignmentId) (user : UserId) (handin : Handin) (now : Nat) (calls : Pool Task)
    (hon : onTime s e = true) : Effect s e { s.upsert assignmentId user handin now with calls }
  | url {e : Event} (id : SubmissionId) (url : Option String) (calls : Pool Task) (hon : onTime s e = true) :
    Effect s e { s with submissions := s.submissions.modify id fun row => { row with fileUrl := url }, calls }
  | graded {i now : Nat} {user : UserId} {id : SubmissionId} {dto : GradeSubmissionDto} {row : Submission}
    {a : Assignment} {alreadyAwarded : Int} {gradedAt : Nat} (calls : Pool Task)
    (htask : s.calls.get i = some (.transaction user id dto row a alreadyAwarded gradedAt)) :
    Effect s (.resume i now) { s.grade user id dto row a alreadyAwarded gradedAt with calls }
  | award (row : Award) (hreason : row.reason ≠ .assignmentGraded) :
    Effect s (.award row) { s with ledger := s.ledger ++ [row] }

theorem begin_some {s s' : State} {i : Nat} {t : Option Task} (h : s.begin i t = some s') :
    s.calls.get i = none ∧ s' = s.goto i t := by
  unfold State.begin at h
  split at h
  · cases h
  · rename_i hfree
    rw [Option.not_isSome_iff_eq_none] at hfree
    exact ⟨hfree, (Option.some.inj h).symm⟩

theorem goto_effect {s : State} {e : Event} (hon : onTime s e = true) (i : Nat) (t : Option Task) :
    Effect s e (s.goto i t) :=
  .quiet (s.calls.put i t) s.access hon

theorem step_effect {s s' : State} {e : Event} (h : step assignments s e = some s') : Effect s e s' := by
  cases e with
  | submit i user assignmentId dto => rw [(begin_some h).2]; exact goto_effect rfl i _
  | uploadSubmission i user assignmentId file => rw [(begin_some h).2]; exact goto_effect rfl i _
  | grade i user id dto => rw [(begin_some h).2]; exact goto_effect rfl i _
  | fail i =>
    obtain ⟨t, -, rfl⟩ := Option.map_eq_some_iff.1 h
    exact goto_effect rfl i _
  | award row =>
    rw [step] at h
    split at h
    · cases h
    · rename_i hreason
      cases h
      exact .award row hreason
  | change access => cases h; exact .quiet s.calls access rfl
  | resume i now =>
    obtain ⟨t, ht, rfl⟩ := Option.map_eq_some_iff.1 h
    -- a task that is no transaction leaves the grades to others
    have hon : (∀ user id dto row a already at', t ≠ .transaction user id dto row a already at') →
        onTime s (.resume i now) = true := by
      intro hne
      cases t with
      | transaction user id dto row a already at' => exact absurd rfl (hne user id dto row a already at')
      | _ => simp only [onTime, ht]
    cases t with
    | assignment user assignmentId handin => exact goto_effect (hon (by intros; simp)) i _
    | enrolment user assignmentId a handin =>
      rw [resume]
      split
      · exact goto_effect (hon (by intros; simp)) i _
      · exact goto_effect (hon (by intros; simp)) i _
    | member user assignmentId groupId handin =>
      rw [resume]
      split
      · exact goto_effect (hon (by intros; simp)) i _
      · exact goto_effect (hon (by intros; simp)) i _
    | upsert user assignmentId handin submittedAt =>
      exact .handin assignmentId user handin submittedAt _ (hon (by intros; simp))
    | announce assignmentId => exact goto_effect (hon (by intros; simp)) i _
    | store id => exact goto_effect (hon (by intros; simp)) i _
    | setUrl id => exact .url id _ _ (hon (by intros; simp))
    | submission user id dto => exact goto_effect (hon (by intros; simp)) i _
    | manageable user id dto row a => exact goto_effect (hon (by intros; simp)) i _
    | manages user id dto row a =>
      rw [resume]
      split
      · exact goto_effect (hon (by intros; simp)) i _
      · exact goto_effect (hon (by intros; simp)) i _
    | aggregate user id dto row a => exact goto_effect (hon (by intros; simp)) i _
    | transaction user id dto row a already gradedAt => exact .graded _ ht

/-! ## Handing in -/

theorem upsert_calls (s : State) (assignmentId : AssignmentId) (user : UserId) (handin : Handin) (now : Nat) :
    (s.upsert assignmentId user handin now).calls = s.calls := by
  unfold State.upsert
  split <;> rfl

theorem upsert_ledger (s : State) (assignmentId : AssignmentId) (user : UserId) (handin : Handin) (now : Nat) :
    (s.upsert assignmentId user handin now).ledger = s.ledger := by
  unfold State.upsert
  split <;> rfl

/-! ## Whose submission it is -/

variable (assignments) in
/-- The submission is there, of this student and for an assignment of this course. -/
def Belongs (s : State) (id : SubmissionId) (studentId : UserId) (courseId : CourseId) : Prop :=
  ∃ row a, s.submissions.get id = some row ∧ assignments row.assignmentId = some a ∧
    row.studentId = studentId ∧ a.courseId = courseId

/-- No submission goes away or changes hands. -/
def Keeps (s s' : State) : Prop :=
  ∀ id row, s.submissions.get id = some row → ∃ row', s'.submissions.get id = some row' ∧
    row'.assignmentId = row.assignmentId ∧ row'.studentId = row.studentId

theorem Belongs.mono {s s' : State} {id : SubmissionId} {u : UserId} {c : CourseId}
    (h : Belongs assignments s id u c) (hkeeps : Keeps s s') : Belongs assignments s' id u c := by
  obtain ⟨row, a, hrow, ha, hu, hc⟩ := h
  obtain ⟨row', hrow', hassignment, hstudent⟩ := hkeeps id row hrow
  exact ⟨row', a, hrow', by rw [hassignment, ha], by rw [hstudent, hu], hc⟩

theorem Belongs.same {s : State} {id : SubmissionId} {u u' : UserId} {c c' : CourseId}
    (h : Belongs assignments s id u c) (h' : Belongs assignments s id u' c') : u = u' ∧ c = c' := by
  obtain ⟨row, a, hrow, ha, rfl, rfl⟩ := h
  obtain ⟨row', a', hrow', ha', rfl, rfl⟩ := h'
  rw [hrow, Option.some.injEq] at hrow'
  subst hrow'
  rw [ha, Option.some.injEq] at ha'
  exact ⟨rfl, congrArg _ ha'⟩

theorem keeps_modify {s s' : State} {id : SubmissionId} {f : Submission → Submission}
    (hf : ∀ row, (f row).assignmentId = row.assignmentId ∧ (f row).studentId = row.studentId)
    (h : s'.submissions = s.submissions.modify id f) : Keeps s s' := by
  intro j row hrow
  by_cases hj : j = id
  · subst hj
    exact ⟨f row, by rw [h, Table.get_modify_self, hrow]; rfl, hf row⟩
  · exact ⟨row, by rw [h, Table.get_modify_of_ne _ _ hj, hrow], rfl, rfl⟩

theorem handin_same (handin : Handin) (now : Nat) (row : Submission) :
    (handin.write now row).assignmentId = row.assignmentId ∧ (handin.write now row).studentId = row.studentId := by
  cases handin with
  | text dto => exact ⟨rfl, rfl⟩
  | blob mime => exact ⟨rfl, rfl⟩

theorem effect_keeps {s s' : State} {e : Event} (h : Effect s e s') : Keeps s s' := by
  cases h with
  | quiet calls access hon => exact fun id row hrow => ⟨row, hrow, rfl, rfl⟩
  | award row hreason => exact fun id row hrow => ⟨row, hrow, rfl, rfl⟩
  | url id url calls hon =>
    exact keeps_modify (f := fun row => { row with fileUrl := url }) (fun _ => ⟨rfl, rfl⟩) rfl
  | @graded i now user id dto row a already gradedAt calls htask =>
    exact keeps_modify (f := dto.write user gradedAt) (fun _ => ⟨rfl, rfl⟩) rfl
  | handin assignmentId user handin now calls hon =>
    unfold State.upsert
    split
    · exact keeps_modify (handin_same handin now) rfl
    · exact fun id row hrow => ⟨row, Table.get_insert_of_some hrow _ _, rfl, rfl⟩

/-! ## Filed under the right student -/

/-- The submission a grading is about, with the student and the course it will post to. -/
def Task.about : Task → Option (SubmissionId × UserId × CourseId)
  | .manageable _ id _ row a | .manages _ id _ row a | .aggregate _ id _ row a
  | .transaction _ id _ row a _ _ => some (id, row.studentId, a.courseId)
  | _ => none

variable (assignments) in
structure Filed (s : State) : Prop where
  rows : ∀ r ∈ s.ledger, ∀ id, r.isFor .assignmentGraded id = true →
    Belongs assignments s id r.studentId r.courseId
  tasks : ∀ i t id u c, s.calls.get i = some t → t.about = some (id, u, c) → Belongs assignments s id u c

variable (assignments) in
theorem resume_calls (s : State) (i now : Nat) (t : Task) :
    ∃ t', (resume assignments s i now t).calls = s.calls.put i t' ∧
      ∀ u id student course, t' = some u → u.about = some (id, student, course) →
        t.about = some (id, student, course) ∨ Belongs assignments s id student course := by
  cases t with
  | submission user id dto =>
    refine ⟨_, rfl, fun u id' student course hu hu' => ?_⟩
    obtain ⟨row, hrow, hu⟩ := Option.bind_eq_some_iff.1 hu
    obtain ⟨a, ha, hu⟩ := Option.bind_eq_some_iff.1 hu
    cases hu
    cases hu'
    exact .inr ⟨row, a, hrow, ha, rfl, rfl⟩
  | assignment user assignmentId handin =>
    refine ⟨_, rfl, fun u id student course hu hu' => ?_⟩
    obtain ⟨a, -, rfl⟩ := Option.map_eq_some_iff.1 hu
    cases hu'
  | manageable user id dto row a =>
    refine ⟨_, rfl, fun u id student course hu hu' => ?_⟩
    obtain ⟨a', -, rfl⟩ := Option.map_eq_some_iff.1 hu
    exact .inl hu'
  | enrolment user assignmentId a handin =>
    rw [resume]
    split
    · refine ⟨_, rfl, fun u id student course hu hu' => ?_⟩
      cases hgroup : a.groupId with
      | none => rw [hgroup] at hu; cases hu; cases hu'
      | some groupId => rw [hgroup] at hu; cases hu; cases hu'
    · exact ⟨none, rfl, fun u id student course hu _ => by cases hu⟩
  | member user assignmentId groupId handin =>
    rw [resume]
    split
    · exact ⟨_, rfl, fun u id student course hu hu' => by cases hu; cases hu'⟩
    · exact ⟨none, rfl, fun u id student course hu _ => by cases hu⟩
  | upsert user assignmentId handin submittedAt =>
    have hcalls := upsert_calls s assignmentId user handin submittedAt
    refine ⟨some _, congrArg (Pool.put · i _) hcalls, fun u id student course hu hu' => ?_⟩
    cases hu
    cases handin with
    | text dto => cases hu'
    | blob mime => cases hu'
  | announce assignmentId => exact ⟨none, rfl, fun u id student course hu _ => by cases hu⟩
  | store id => exact ⟨_, rfl, fun u id student course hu hu' => by cases hu; cases hu'⟩
  | setUrl id => exact ⟨none, rfl, fun u id student course hu _ => by cases hu⟩
  | manages user id dto row a =>
    rw [resume]
    split
    · exact ⟨_, rfl, fun u id student course hu hu' => by cases hu; exact .inl hu'⟩
    · exact ⟨none, rfl, fun u id student course hu _ => by cases hu⟩
  | aggregate user id dto row a =>
    exact ⟨_, rfl, fun u id student course hu hu' => by cases hu; exact .inl hu'⟩
  | transaction user id dto row a already gradedAt =>
    exact ⟨none, rfl, fun u id student course hu _ => by cases hu⟩

/-- A grading goes on about the submission it has read. -/
theorem step_tasks {s s' : State} {e : Event} (hfiled : Filed assignments s) (h : step assignments s e = some s')
    {j : Nat} {t : Task} {id : SubmissionId} {u : UserId} {c : CourseId} (ht : s'.calls.get j = some t)
    (habout : t.about = some (id, u, c)) : Belongs assignments s id u c := by
  have hput : ∀ i t', s'.calls = s.calls.put i t' →
      (∀ v, t' = some v → v.about = some (id, u, c) → Belongs assignments s id u c) →
      Belongs assignments s id u c := by
    intro i t' hcalls hnew
    rw [hcalls] at ht
    rcases Pool.get_put_cases ht with ⟨-, ht⟩ | ⟨-, ht⟩
    · exact hnew t ht habout
    · exact hfiled.tasks j t id u c ht habout
  cases e with
  | submit i user assignmentId dto =>
    obtain ⟨-, rfl⟩ := begin_some h
    refine hput i _ rfl fun v hv hv' => ?_
    split at hv
    · cases hv; cases hv'
    · cases hv
  | uploadSubmission i user assignmentId file =>
    obtain ⟨-, rfl⟩ := begin_some h
    refine hput i _ rfl fun v hv hv' => ?_
    obtain ⟨f, -, rfl⟩ := Option.map_eq_some_iff.1 hv
    cases hv'
  | grade i user id' dto =>
    obtain ⟨-, rfl⟩ := begin_some h
    exact hput i _ rfl fun v hv hv' => by cases hv; cases hv'
  | fail i =>
    obtain ⟨t', -, rfl⟩ := Option.map_eq_some_iff.1 h
    exact hput i none rfl fun v hv _ => by cases hv
  | award row =>
    rw [step] at h
    split at h
    · cases h
    · cases h
      exact hfiled.tasks j t id u c ht habout
  | change access =>
    cases h
    exact hfiled.tasks j t id u c ht habout
  | resume i now =>
    obtain ⟨t₀, ht₀, rfl⟩ := Option.map_eq_some_iff.1 h
    obtain ⟨t', hcalls, hnew⟩ := resume_calls assignments s i now t₀
    refine hput i t' hcalls fun v hv hv' => ?_
    rcases hnew v id u c hv hv' with habout₀ | hbelongs
    · exact hfiled.tasks i t₀ id u c ht₀ habout₀
    · exact hbelongs

theorem filed_step {s s' : State} {e : Event} (hfiled : Filed assignments s) (h : step assignments s e = some s') :
    Filed assignments s' := by
  have hkeeps := effect_keeps (step_effect h)
  refine ⟨?_, fun i t id u c ht habout => (step_tasks hfiled h ht habout).mono hkeeps⟩
  have hold : ∀ r ∈ s.ledger, ∀ id, r.isFor .assignmentGraded id = true →
      Belongs assignments s' id r.studentId r.courseId :=
    fun r hr id hfor => (hfiled.rows r hr id hfor).mono hkeeps
  cases step_effect h with
  | quiet calls access hon => exact hold
  | url id url calls hon => exact hold
  | handin assignmentId user handin now calls hon =>
    intro r hr
    exact hold r (upsert_ledger s assignmentId user handin now ▸ hr)
  | award row hreason =>
    intro r hr id hfor
    rcases List.mem_append.1 hr with hr | hr
    · exact hold r hr id hfor
    · rw [List.mem_singleton] at hr
      subst hr
      have hreason' := (Bool.and_eq_true_iff.1 hfor).1
      exact absurd (beq_iff_eq.1 hreason') hreason
  | @graded i now user id dto row a already gradedAt calls htask =>
    intro r hr id' hfor
    have hbelongs := (hfiled.tasks i _ id row.studentId a.courseId htask rfl).mono hkeeps
    replace hr : r ∈ (s.grade user id dto row a already gradedAt).ledger := hr
    unfold State.grade at hr
    simp only at hr
    split at hr
    · exact hold r hr id' hfor
    · rcases List.mem_append.1 hr with hr | hr
      · exact hold r hr id' hfor
      · rw [List.mem_singleton] at hr
        subst hr
        have hid := (Bool.and_eq_true_iff.1 hfor).2
        cases beq_iff_eq.1 hid
        exact hbelongs

theorem filed_init (ledger : List Award) (access : Access) : Filed assignments (init ledger access) := by
  refine ⟨fun r hr id hfor => ?_, fun i t id u c ht => by cases ht⟩
  have hreason := (List.mem_filter.1 hr).2
  have hreason' := (Bool.and_eq_true_iff.1 hfor).1
  rw [beq_iff_eq.1 hreason'] at hreason
  cases hreason

/-! ## Worth its grade -/

/-- A submission with a grade is worth it: that is what was posted for it. -/
def WorthGrade (s : State) : Prop :=
  ∀ id row g, s.submissions.get id = some row → row.grade = some g → worth .assignmentGraded id s.ledger = g

theorem worthGrade_init (ledger : List Award) (access : Access) : WorthGrade (init ledger access) := by
  intro id row g hrow
  cases hrow

/-- What the student hands in has no grade. -/
theorem upsert_get {s : State} {assignmentId : AssignmentId} {user : UserId} {handin : Handin} {now : Nat}
    {id : SubmissionId} {row : Submission}
    (h : (s.upsert assignmentId user handin now).submissions.get id = some row) :
    s.submissions.get id = some row ∨ row.grade = none := by
  have hcleared : ∀ r : Submission, (handin.write now r).grade = none := by
    intro r
    cases handin with
    | text dto => rfl
    | blob mime => rfl
  unfold State.upsert at h
  split at h
  · rename_i id' hfind
    by_cases hid : id = id'
    · subst hid
      rw [Table.get_modify_self] at h
      obtain ⟨r, -, rfl⟩ := Option.map_eq_some_iff.1 h
      exact .inr (hcleared r)
    · rw [Table.get_modify_of_ne _ _ hid] at h
      exact .inl h
  · cases hnext : s.submissions.get s.nextId with
    | some r =>
      -- the id is in use: nothing is inserted
      unfold Table.insert at h
      rw [dif_pos (Table.mem_keys.2 ⟨r, hnext⟩)] at h
      exact .inl h
    | none =>
      rw [Table.get_insert hnext] at h
      split at h
      · cases h
        exact .inr (hcleared _)
      · exact .inl h

/-- A row that is posted for one submission counts for no other. -/
theorem isFor_of_ne {id id' : SubmissionId} {u : UserId} {c : CourseId} {delta : Int} (h : id' ≠ id) :
    Award.isFor .assignmentGraded id' ⟨u, c, delta, .assignmentGraded, some id⟩ = false := by
  unfold Award.isFor
  simp [Ne.symm h]

section Grade

variable (s : State) (user : UserId) (id : SubmissionId) (dto : GradeSubmissionDto) (row : Submission) (a : Assignment)
  (already : Int) (now : Nat)

/-- The grading is worth its grade when the sum is still what it read. -/
theorem worth_grade : worth .assignmentGraded id (s.grade user id dto row a already now).ledger = dto.grade ↔
    worth .assignmentGraded id s.ledger = already := by
  unfold State.grade
  simp only
  split
  · rename_i hzero
    rw [sub_eq_zero.1 hzero]
  · refine balance_settle ?_ rfl
    unfold Award.isFor
    rw [beq_self_eq_true, beq_self_eq_true]
    rfl

theorem worth_grade_of_ne {id' : SubmissionId} (h : id' ≠ id) :
    worth .assignmentGraded id' (s.grade user id dto row a already now).ledger =
      worth .assignmentGraded id' s.ledger := by
  unfold State.grade
  simp only
  split
  · rfl
  · exact balance_skip (isFor_of_ne h) s.ledger

end Grade

/-- A step keeps every submission worth its grade just when a grading that commits is on time. -/
theorem effect_worthGrade {s s' : State} {e : Event} (hfiled : Filed assignments s) (hworth : WorthGrade s)
    (h : Effect s e s') : WorthGrade s' ↔ onTime s e = true := by
  cases h with
  | quiet calls access hon => exact ⟨fun _ => hon, fun _ => hworth⟩
  | award row hreason =>
    refine ⟨fun _ => rfl, fun _ id r g hr hg => ?_⟩
    refine Eq.trans (balance_skip ?_ s.ledger) (hworth id r g hr hg)
    unfold Award.isFor
    rw [beq_eq_false_iff_ne.2 hreason, Bool.false_and]
  | handin assignmentId user handin now calls hon =>
    refine ⟨fun _ => hon, fun _ id r g hr hg => ?_⟩
    show worth .assignmentGraded id (s.upsert assignmentId user handin now).ledger = g
    rw [upsert_ledger]
    rcases upsert_get hr with hr | hnone
    · exact hworth id r g hr hg
    · rw [hnone] at hg
      cases hg
  | url id url calls hon =>
    refine ⟨fun _ => hon, fun _ id' r g hr hg => ?_⟩
    replace hr : (s.submissions.modify id fun row => { row with fileUrl := url }).get id' = some r := hr
    by_cases hid : id' = id
    · subst hid
      rw [Table.get_modify_self] at hr
      obtain ⟨r₀, hr₀, rfl⟩ := Option.map_eq_some_iff.1 hr
      exact hworth id' r₀ g hr₀ hg
    · rw [Table.get_modify_of_ne _ _ hid] at hr
      exact hworth id' r g hr hg
  | @graded i now user id dto row a already gradedAt calls htask =>
    have hbelongs := hfiled.tasks i _ id row.studentId a.courseId htask rfl
    have hsum : sumOf row.studentId a.courseId .assignmentGraded id s.ledger =
        worth .assignmentGraded id s.ledger :=
      sumOf_eq_worth fun r hr hfor => (hfiled.rows r hr id hfor).same hbelongs
    have hon : onTime s (.resume i now) = true ↔ worth .assignmentGraded id s.ledger = already := by
      simp only [onTime, htask, hsum, beq_iff_eq]
    rw [hon, ← worth_grade s user id dto row a already gradedAt]
    constructor
    · intro hworth'
      obtain ⟨r, -, hr, -, -, -⟩ := hbelongs
      refine hworth' id (dto.write user gradedAt r) dto.grade ?_ rfl
      show (s.submissions.modify id (dto.write user gradedAt)).get id = _
      rw [Table.get_modify_self, hr]
      rfl
    · intro hthis id' r g hr hg
      replace hr : (s.submissions.modify id (dto.write user gradedAt)).get id' = some r := hr
      show worth .assignmentGraded id' (s.grade user id dto row a already gradedAt).ledger = g
      by_cases hid : id' = id
      · subst hid
        rw [Table.get_modify_self] at hr
        obtain ⟨r₀, -, rfl⟩ := Option.map_eq_some_iff.1 hr
        cases hg
        exact hthis
      · rw [Table.get_modify_of_ne _ _ hid] at hr
        rw [worth_grade_of_ne s user id dto row a already gradedAt hid]
        exact hworth id' r g hr hg

/-- In every run, each submission is worth its grade in every state if and only if every grading that commits is on
time: the deltas posted for the submission still sum to what the call read before its transaction. -/
theorem graded_worth {ledger : List Award} {access : Access} {es : List Event} {s : State}
    (h : run (step assignments) (init ledger access) es = some s) :
    Meets (step assignments) (fun t e => onTime t e = true) (init ledger access) es ↔
      ∀ es₁ es₂ t, es = es₁ ++ es₂ → run (step assignments) (init ledger access) es₁ = some t →
        WorthGrade t := by
  refine meets_iff (fun _ _ _ => filed_step) (fun u e u' hfiled hworth hstep => ?_) (filed_init ledger access)
    (worthGrade_init ledger access) h
  exact effect_worthGrade hfiled hworth (step_effect hstep)

/-! ### Two gradings at once -/

namespace Example

def essay : AssignmentId → Option Assignment :=
  fun id => if id = "essay" then some ⟨"c", none, some 10⟩ else none

def access : Access := ⟨[("c", "amina")], [], [("c", "yusuf")]⟩

/-- Amina hands in her essay. -/
def handsIn : List Event :=
  [.submit 0 "amina" "essay" ⟨some "text", none, none⟩, .resume 0 1, .resume 0 2, .resume 0 3, .resume 0 4]

/-- Yusuf grades it with 5, and again with 7. -/
def regraded : List Event :=
  handsIn ++ [.grade 1 "yusuf" 0 ⟨5, none, by decide, by decide⟩] ++ List.replicate 5 (.resume 1 5) ++
    [.grade 2 "yusuf" 0 ⟨7, none, by decide, by decide⟩] ++ List.replicate 5 (.resume 2 6)

/-- He presses the button twice: both calls read the ledger before either posts. -/
def twice : List Event :=
  handsIn ++ [.grade 1 "yusuf" 0 ⟨5, none, by decide, by decide⟩] ++
    [.grade 2 "yusuf" 0 ⟨5, none, by decide, by decide⟩] ++
    List.replicate 4 (.resume 1 5) ++ List.replicate 4 (.resume 2 5) ++ [.resume 1 6, .resume 2 6]

/-- The grade of the submission and what was posted for it, once no call is in progress. -/
def outcome (s : State) : Bool × Option (Option Int) × Int :=
  (s.calls.entries.isEmpty, (s.submissions.get 0).map (·.grade), worth .assignmentGraded 0 s.ledger)

end Example

open Example in
theorem regraded_worth : ∃ s, run (step essay) (init [] Example.access) regraded = some s ∧
    WorthGrade s ∧ outcome s = (true, some (some 7), 7) := by
  have hrun : (run (step essay) (init [] Example.access) regraded).map outcome = some (true, some (some 7), 7) := by
    decide
  obtain ⟨s, hs, hout⟩ := Option.map_eq_some_iff.1 hrun
  exact ⟨s, hs, (graded_worth hs).1 (by decide) regraded [] s (by rw [List.append_nil]) hs, hout⟩

open Example in
theorem graded_twice :
    (run (step essay) (init [] Example.access) twice).map outcome = some (true, some (some 5), 10) := by
  decide

end Proofs

end Livetich.Assignments
